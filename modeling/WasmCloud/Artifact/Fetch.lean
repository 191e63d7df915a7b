import WasmCloud.Gateway.Internal
import WasmCloud.Lib.Bytes
import WasmCloud.Lib.Checks

/-!
# Fetching Artifacts

An artifact is fetched from another node, from a URL or from an OCI registry. What the
other side answers is not trusted: the bytes are hashed, and bytes with another hash than
the expected one are refused.

Where the expected hash comes from differs. A node is told by an event, and compares it as
it is. An ingress takes it from a request, in lowercase, or from a registry: a reference
names a digest, or a tag that leads to one through at most four documents.

The network and the libraries that parse URLs and addresses are not part of this
repository. `FetchEnv` has what they answer, and everything below is for all of them.
-/

namespace WasmCloud

/-- The errors of the platform that occur here, with their text. -/
inductive PlatformError where
  | storage (message : String)
  | encryption (message : String)
  | messaging (message : String)
  | configValidation (message : String)
  | network (message : String)
  | security (message : String)
  | external (message : String)
  | internal (message : String)
  | appNotFound (appId : String)
  deriving DecidableEq, Repr

/-- Whether the status is a success, its text, the announced length, and the body. -/
structure HttpResponse where
  success : Bool
  status : String
  contentLength : Option Nat
  chunks : List (Except String (List UInt8))

/-- A body, up to the first error. -/
def readChunks : List (Except String (List UInt8)) → Except String (List UInt8)
  | [] => .ok []
  | chunk :: chunks => do
    let bytes ← chunk
    let rest ← readChunks chunks
    return bytes ++ rest

/-- The loop of `read_response_bytes_with_limit`. -/
def readChunksWithLimit (maxBytes : Nat) (context : String) :
    List UInt8 → List (Except String (List UInt8)) → Except PlatformError (List UInt8)
  | bytes, [] => .ok bytes
  | _, .error e :: _ => .error (.external e)
  | bytes, .ok chunk :: chunks =>
    if bytes.length + chunk.length > maxBytes then
      .error (.security (context ++ " exceeds maximum size: " ++
        toString (bytes.length + chunk.length) ++ " bytes > " ++ toString maxBytes ++ " bytes"))
    else readChunksWithLimit maxBytes context (bytes ++ chunk) chunks

def readResponseBytesWithLimit (response : HttpResponse) (maxBytes : Nat) (context : String) :
    Except PlatformError (List UInt8) :=
  match response.contentLength with
  | none => readChunksWithLimit maxBytes context [] response.chunks
  | some length =>
    if length > maxBytes then
      .error (.security (context ++ " exceeds maximum size: " ++ toString length ++ " bytes > " ++
        toString maxBytes ++ " bytes"))
    else readChunksWithLimit maxBytes context [] response.chunks

section Downloads

variable {ε : Type} (digest : List UInt8 → List UInt8)

def checkHash (mismatch : String → String → ε) (expected : String) (bytes : List UInt8) :
    Except ε (List UInt8) := do
  ensure (Bytes.hexEncode (digest bytes) = expected)
    (mismatch expected (Bytes.hexEncode (digest bytes)))
  return bytes

/-- The bytes of an answer, if it comes, is a success, is complete and has the hash. -/
def verifiedBody (unreachable refused unreadable : String → ε) (mismatch : String → String → ε)
    (expected : String) (answer : Except String HttpResponse) : Except ε (List UInt8) :=
  match answer with
  | .error e => .error (unreachable e)
  | .ok response =>
    if !response.success then .error (refused response.status)
    else
      match readChunks response.chunks with
      | .error e => .error (unreadable e)
      | .ok bytes => checkHash digest mismatch expected bytes

/-- `fetch_artifact` of a node. -/
def fetchArtifact (expected : String) (answer : Except String HttpResponse) :
    Except String (List UInt8) :=
  verifiedBody digest (fun e => "download failed: " ++ e)
    (fun status => "download failed with HTTP " ++ status)
    (fun e => "failed to read artifact response body: " ++ e)
    (fun expected actual => "artifact hash mismatch: expected " ++ expected ++ ", got " ++ actual)
    expected answer

/-- The download of `replicate_artifact_locally`. -/
def fetchReplica (expected : String) (answer : Except String HttpResponse) :
    Except PlatformError (List UInt8) :=
  verifiedBody digest .external
    (fun status => .external ("artifact replication fetch failed with HTTP " ++ status)) .external
    (fun expected actual => .security
      ("artifact replication hash mismatch: expected " ++ expected ++ ", got " ++ actual))
    expected answer

end Downloads

structure OciPlatform where
  architecture : String
  os : String
  deriving DecidableEq, Repr

structure OciDescriptor where
  digest : String
  platform : Option OciPlatform
  deriving DecidableEq, Repr

structure OciManifestDocument where
  config : Option OciDescriptor
  layers : List OciDescriptor
  manifests : List OciDescriptor
  deriving DecidableEq, Repr

structure OciReference where
  registry : String
  repository : String
  reference : String
  isDigest : Bool
  deriving DecidableEq, Repr

/-- The credentials, the libraries, the ingress's platform, the registry's documents by attempt
    and URL, and the answer to the download by its URL. -/
structure FetchEnv where
  credential : String → Except PlatformError String
  urlScheme : String → Except String String
  parseIp : String → Option IpAddr
  toLowercase : String → String
  os : String
  architecture : String
  document : Nat → String → Except PlatformError OciManifestDocument
  answer : String → Except String HttpResponse

/-- The tag or digest is behind the last `@`, or else behind a colon in the last part of the
    path. -/
def splitOciReference (repoAndRef : String) : Except PlatformError (String × String × Bool) :=
  match Text.rsplitOnce repoAndRef '@' with
  | some (repository, value) => .ok (repository, value, true)
  | none =>
    match Text.rsplitOnce repoAndRef ':' with
    | none =>
      .error (.configValidation "OCI artifact reference must include a tag or digest")
    | some (repository, value) =>
      if value.toList.contains '/' || repository = "" then
        .error (.configValidation "OCI artifact reference must include a tag or digest")
      else .ok (repository, value, false)

def parseOciReference (reference : String) : Except PlatformError OciReference :=
  match Text.stripPrefix reference "oci://" with
  | none => .error (.configValidation "OCI artifact reference must start with oci://")
  | some withoutScheme =>
    match Text.splitOnce withoutScheme '/' with
    | none =>
      .error (.configValidation
        "OCI artifact reference must include a registry and repository path")
    | some (registry, repoAndRef) => do
      let (repository, value, isDigest) ← splitOciReference repoAndRef
      if Text.trim registry = "" || Text.trim repository = "" || Text.trim value = "" then
        .error (.configValidation
          "OCI artifact reference contains an empty registry, repository, or tag/digest")
      else .ok ⟨registry, repository, value, isDigest⟩

def ociReferenceIsDigestPinned (reference : String) : Except PlatformError Bool := do
  let parsed ← parseOciReference reference
  return parsed.isDigest

/-- A character of `char::is_ascii_hexdigit`. -/
def isAsciiHexdigit (c : Char) : Bool := (Bytes.hexValue c).isSome

namespace FetchEnv

variable (env : FetchEnv)

def stripSha256Prefix (digest : String) : Except PlatformError String :=
  match Text.stripPrefix digest "sha256:" with
  | none => .error (.configValidation "OCI digest must use sha256")
  | some hash =>
    if hash.toList.length ≠ 64 || !hash.toList.all isAsciiHexdigit then
      .error (.configValidation "OCI digest contains an invalid sha256 value")
    else .ok (env.toLowercase hash)

def preferredOciPlatforms : List (String × String) :=
  [(env.os, env.architecture), ("wasi", "wasm"), ("wasi", "wasm32"), ("wasip2", "wasm"),
    ("wasip2", "wasm32")]

def selectOciManifestDescriptor (manifests : List OciDescriptor) : Option OciDescriptor :=
  let preferred := env.preferredOciPlatforms.findSome? (fun wanted =>
    manifests.find? (fun descriptor => descriptor.platform.any (fun platform =>
      Text.eqIgnoreAsciiCase platform.os wanted.1 &&
        Text.eqIgnoreAsciiCase platform.architecture wanted.2)))
  match preferred with
  | some descriptor => some descriptor
  | none =>
    if manifests.all (fun descriptor => descriptor.platform.isNone) then manifests.head?
    else none

def registryBaseUrl (registry : String) : String :=
  let host := Text.trimEndMatches (Text.trimStartMatches
    (Text.trim ((Text.split registry ':').headD registry)) "[") "]"
  let isLoopback := Text.eqIgnoreAsciiCase host "localhost" ||
    (env.parseIp host).any IpAddr.isLoopback
  (if isLoopback then "http" else "https") ++ "://" ++ registry

/-- The loop of `resolve_oci_blob_digest`, with the attempts that are left. -/
def resolveFrom (reference : OciReference) : Nat → Nat → String → Except PlatformError String
  | _, 0, _ =>
    .error (.configValidation "OCI manifest resolution exceeded recursion limit")
  | attempt, left + 1, current => do
    let manifest ← env.document attempt
      (env.registryBaseUrl reference.registry ++ "/v2/" ++ reference.repository ++
        "/manifests/" ++ current)
    match manifest.layers.head? with
    | some descriptor => env.stripSha256Prefix descriptor.digest
    | none =>
      match env.selectOciManifestDescriptor manifest.manifests with
      | some descriptor => resolveFrom reference (attempt + 1) left descriptor.digest
      | none =>
        if !manifest.manifests.isEmpty then
          .error (.configValidation
            "OCI manifest list did not contain a descriptor matching this node platform")
        else
          match manifest.config with
          | some descriptor => env.stripSha256Prefix descriptor.digest
          | none =>
            .error (.configValidation "OCI manifest did not contain a fetchable blob descriptor")

def resolveOciBlobDigest (reference : OciReference) : Except PlatformError String :=
  env.resolveFrom reference 0 4 reference.reference

def maxRemoteArtifactBytes : Nat := 67108864

def fetchHttpArtifactBytes (digest : List UInt8 → List UInt8) (url expected : String) :
    Except PlatformError (List UInt8) :=
  match env.urlScheme url with
  | .error e => .error (.configValidation ("invalid artifact URL: " ++ e))
  | .ok scheme =>
    if scheme ≠ "http" && scheme ≠ "https" then
      .error (.configValidation ("unsupported artifact URL scheme: " ++ scheme))
    else
      match env.answer url with
      | .error e => .error (.external e)
      | .ok response =>
        if !response.success then
          .error (.external ("artifact download failed with HTTP " ++ response.status))
        else do
          let bytes ← readResponseBytesWithLimit response maxRemoteArtifactBytes
            "remote artifact download"
          checkHash digest (fun expected actual => .security
            ("artifact sha256 mismatch: expected " ++ expected ++ ", got " ++ actual))
            expected bytes

/-- The digest of a reference: its own, or the one its tag leads to. -/
def blobHash (reference : OciReference) : Except PlatformError String :=
  if Text.startsWith reference.reference "sha256:" then env.stripSha256Prefix reference.reference
  else env.resolveOciBlobDigest reference

def fetchOciArtifactBytes (digest : List UInt8 → List UInt8) (reference : String) :
    Except PlatformError (String × List UInt8) := do
  let parsed ← parseOciReference reference
  let blobHash ← env.blobHash parsed
  let blobUrl := env.registryBaseUrl parsed.registry ++ "/v2/" ++ parsed.repository ++
    "/blobs/sha256:" ++ blobHash
  let bytes ← env.fetchHttpArtifactBytes digest blobUrl blobHash
  return (blobHash, bytes)

end FetchEnv

/-- `ArtifactSignature`: what a request says about the artifact's signature. -/
structure ArtifactSignature where
  algorithm : String
  publicKey : String
  signature : String
  payload : Option String
  issuer : Option String
  identity : Option String
  repository : Option String
  ns : Option String
  deriving DecidableEq, Repr

/-- `RemoteArtifactSource`: where an artifact is to be fetched. -/
structure RemoteArtifactSource where
  reference : Option String
  url : String
  sha256 : String
  credentialRef : Option String
  signature : Option ArtifactSignature
  deriving DecidableEq, Repr

/-- `ingest_remote_artifact` up to the store: the hash and the bytes. -/
def ingestBytes (digest : List UInt8 → List UInt8) (env : FetchEnv)
    (artifact : RemoteArtifactSource) : Except PlatformError (String × List UInt8) :=
  match artifact.credentialRef.map env.credential with
  | some (.error e) => .error e
  | some (.ok _) | none =>
    match artifact.reference with
    | some reference => env.fetchOciArtifactBytes digest reference
    | none =>
      if Text.trim artifact.url = "" then
        .error (.configValidation "remote artifact source must include either url or reference")
      else if Text.trim artifact.sha256 = "" then
        .error (.configValidation "remote artifact URL sources require sha256")
      else do
        let expectedHash := env.toLowercase artifact.sha256
        let bytes ← env.fetchHttpArtifactBytes digest artifact.url expectedHash
        return (expectedHash, bytes)

section Accepted

variable {ε : Type} {digest : List UInt8 → List UInt8} {bytes : List UInt8} {expected : String}
  {env : FetchEnv}

theorem checkHash_ok {mismatch : String → String → ε} {bytes' : List UInt8}
    (h : checkHash digest mismatch expected bytes = .ok bytes') :
    Bytes.hexEncode (digest bytes') = expected := by
  rcases bind_unit_ok_iff.mp h with ⟨hhash, hbytes⟩
  rw [← pure_ok_iff.mp hbytes]
  exact ensure_ok_iff.mp hhash

theorem verifiedBody_ok {unreachable refused unreadable : String → ε}
    {mismatch : String → String → ε} {answer : Except String HttpResponse}
    (h : verifiedBody digest unreachable refused unreadable mismatch expected answer = .ok bytes) :
    Bytes.hexEncode (digest bytes) = expected := by
  unfold verifiedBody at h
  grind [checkHash_ok]

theorem length_readChunksWithLimit {maxBytes : Nat} {context : String}
    {chunks : List (Except String (List UInt8))} {read : List UInt8}
    (hread : read.length ≤ maxBytes)
    (h : readChunksWithLimit maxBytes context read chunks = .ok bytes) :
    bytes.length ≤ maxBytes := by
  induction chunks generalizing read with
  | nil =>
    cases h
    exact hread
  | cons chunk chunks ih =>
    cases chunk with
    | error e => cases h
    | ok chunk =>
      grind [readChunksWithLimit]

theorem FetchEnv.fetchHttpArtifactBytes_ok {url : String}
    (h : env.fetchHttpArtifactBytes digest url expected = .ok bytes) :
    Bytes.hexEncode (digest bytes) = expected ∧ bytes.length ≤ maxRemoteArtifactBytes := by
  unfold FetchEnv.fetchHttpArtifactBytes at h
  split at h
  · cases h
  · split at h
    · cases h
    · split at h
      · cases h
      · split at h
        · cases h
        · rcases bind_ok_iff.mp h with ⟨read, hread, hcheck⟩
          have hsame : read = bytes := pure_ok_iff.mp (bind_unit_ok_iff.mp hcheck).2
          refine ⟨checkHash_ok hcheck, ?_⟩
          rw [← hsame]
          unfold readResponseBytesWithLimit at hread
          split at hread
          · exact length_readChunksWithLimit (Nat.zero_le _) hread
          · split at hread
            · cases hread
            · exact length_readChunksWithLimit (Nat.zero_le _) hread

/-- The bytes have the hash of the reference, or without one that of the given digest. -/
theorem ingestBytes_ok {artifact : RemoteArtifactSource} {hash : String}
    (h : ingestBytes digest env artifact = .ok (hash, bytes)) :
    (Bytes.hexEncode (digest bytes) = hash ∧ bytes.length ≤ FetchEnv.maxRemoteArtifactBytes) ∧
      ((artifact.reference = none ∧ hash = env.toLowercase artifact.sha256) ∨
        ∃ reference parsed, artifact.reference = some reference ∧
          parseOciReference reference = .ok parsed ∧ env.blobHash parsed = .ok hash) := by
  unfold ingestBytes at h
  split at h
  · cases h
  all_goals
    split at h
    next reference hreference =>
      rcases bind_ok_iff.mp h with ⟨parsed, hparsed, h⟩
      rcases bind_ok_iff.mp h with ⟨blobHash, hblob, h⟩
      rcases bind_ok_iff.mp h with ⟨blob, hfetched, hpair⟩
      cases pure_ok_iff.mp hpair
      exact ⟨FetchEnv.fetchHttpArtifactBytes_ok hfetched,
        .inr ⟨reference, parsed, hreference, hparsed, hblob⟩⟩
    next hreference =>
      split at h
      · cases h
      · grind [bind_ok_iff, pure_ok_iff, FetchEnv.fetchHttpArtifactBytes_ok]

end Accepted

/-- SHA-256, of the bytes that stand for an artifact in samples: none, and the byte 0. -/
def shortSha256 (bytes : List UInt8) : List UInt8 :=
  if bytes = [] then
    [227, 176, 196, 66, 152, 252, 28, 20, 154, 251, 244, 200, 153, 111, 185, 36, 39, 174, 65, 228,
      100, 155, 147, 76, 164, 149, 153, 27, 120, 82, 184, 85]
  else
    [110, 52, 11, 156, 255, 179, 122, 152, 156, 165, 68, 230, 187, 120, 10, 44, 120, 144, 29, 63,
      179, 55, 56, 118, 133, 17, 163, 6, 23, 175, 160, 29]

/-- The hash of the byte 0, in text. -/
def zeroHash : String := "6e340b9cffb37a989ca544e6bb780a2c78901d3fb33738768511a30617afa01d"

/-- A server that answers with the byte 0, and no registry. -/
def zeroServer : FetchEnv where
  credential _ := .error (.security "no credential")
  urlScheme _ := .ok "https"
  parseIp _ := none
  toLowercase := id
  os := "linux"
  architecture := "amd64"
  document _ _ := .error (.external "no registry")
  answer _ := .ok ⟨true, "200 OK", none, [.ok [0]]⟩

end WasmCloud
