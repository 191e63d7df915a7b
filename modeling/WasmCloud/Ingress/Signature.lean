import WasmCloud.Artifact.Fetch
import WasmCloud.Lib.JsonText

/-!
# Artifact Signatures

A deploy intent may come with a signature of its artifact. The policy of the ingress says
which issuers, identities, repositories and namespaces are allowed. It does not say whose
keys are trusted: the key a signature is verified with is part of the signature.

What an accepted signature shows is therefore that the holder of the key it carries has
signed something about the artifact. With `ed25519` that is all the claims the policy
looks at, together with the digest. With `cosign-ed25519` it is a payload that has the
digest, and a claim that is missing in the payload is taken from the request.

The signature scheme is a parameter. That signatures cannot be forged is a relation
between a key, what its holder has signed and what verifies: a party that does not hold a
key has no signature by it but those its holder has made.
-/

namespace WasmCloud

structure SignaturePolicy where
  requireSignature : Bool
  allowedIssuers : List String
  allowedIdentities : List String
  allowedRepositories : List String
  allowedNamespaces : List String
  deriving DecidableEq, Repr

structure ArtifactVerificationRecord where
  sha256 : String
  verified : Bool
  algorithm : Option String
  issuer : Option String
  identity : Option String
  repository : Option String
  ns : Option String
  publicKeySha256 : Option String
  verifiedAtUnixSecs : Nat
  deriving DecidableEq, Repr

/-- Encodings, SHA-256, Ed25519, the parser of JSON, the verifier of bundles, and the time. -/
structure SignatureLibrary where
  decodeBase64 : String → Except String (List UInt8)
  digest : List UInt8 → List UInt8
  keyFromBytes : List UInt8 → Except String Unit
  signatureFromSlice : List UInt8 → Except String Unit
  verify : List UInt8 → List UInt8 → List UInt8 → Except String Unit
  parseJson : String → Except String Json
  toLowercase : String → String
  trustedRoot : Except String Unit
  bundleFromJson : String → Except String Unit
  hashFromHex : String → Except String Unit
  verifyBundle : (digest bundle identity issuer : String) → Except String Unit
  nowUnixSecs : Nat

/-- An error of a library, as the ingress reports it. -/
def securityError {α : Type} (context : String) (result : Except String α) :
    Except PlatformError α :=
  result.mapError (fun e => .security (context ++ e))

def required {α : Type} (message : String) (value : Option α) : Except PlatformError α :=
  value.elim (throw (.security message)) pure

/-- `enforce_allowed_claim`: an empty list allows everything. -/
def enforceAllowedClaim (claimName : String) (value : Option String) (allowed : List String) :
    Except PlatformError Unit :=
  if allowed.isEmpty then .ok ()
  else
    match value with
    | none =>
      .error (.security ("artifact signature is missing required " ++ claimName ++ " claim"))
    | some value =>
      if allowed.contains value then .ok ()
      else
        .error (.security ("artifact signature " ++ claimName ++ " claim '" ++ value ++
          "' is not allowed by deploy-ingress policy"))

/-- The four checks of the policy, in the order the ingress makes them. -/
def SignaturePolicy.enforce (policy : SignaturePolicy)
    (issuer identity repository ns : Option String) : Except PlatformError Unit := do
  enforceAllowedClaim "issuer" issuer policy.allowedIssuers
  enforceAllowedClaim "identity" identity policy.allowedIdentities
  enforceAllowedClaim "repository" repository policy.allowedRepositories
  enforceAllowedClaim "namespace" ns policy.allowedNamespaces

/-- The message of an `ed25519` signature. The members come in the order of their keys. -/
def nativeClaims (sha256 : String) (issuer identity repository ns : Option String) : List UInt8 :=
  Text.utf8 (String.ofList (JsonText.objectText
    [("identity", identity), ("issuer", issuer), ("namespace", ns), ("repository", repository),
      ("sha256", some sha256)]))

section Verify

variable (lib : SignatureLibrary) (policy : SignaturePolicy) (artifactSha256 : String)

variable (signatureMeta : ArtifactSignature)

def verifyNativeSignature (publicKey signature : List UInt8) :
    Except PlatformError ArtifactVerificationRecord := do
  policy.enforce signatureMeta.issuer signatureMeta.identity signatureMeta.repository
    signatureMeta.ns
  securityError "artifact signature verification failed: " (lib.verify publicKey
    (nativeClaims artifactSha256 signatureMeta.issuer signatureMeta.identity
      signatureMeta.repository signatureMeta.ns) signature)
  return ⟨artifactSha256, true, some "ed25519", signatureMeta.issuer, signatureMeta.identity,
    signatureMeta.repository, signatureMeta.ns,
    some (Bytes.hexEncode (lib.digest publicKey)), lib.nowUnixSecs⟩

def payloadText (payload : Json) (path : List String) : Option String :=
  (path.foldl (fun value key => value.bind (fun value => value.get key)) (some payload)).bind
    Json.asStr

def payloadDigest (payload : Json) : Option String :=
  payloadText payload ["critical", "image", "docker-manifest-digest"]

def verifyCosignPayloadSignature (publicKey signature : List UInt8) :
    Except PlatformError ArtifactVerificationRecord := do
  let payload ← required "cosign-ed25519 signatures require an inline payload"
    signatureMeta.payload
  securityError "artifact signature verification failed: "
    (lib.verify publicKey (Text.utf8 payload) signature)
  let json ← securityError "cosign payload is not valid json: " (lib.parseJson payload)
  let digest ← required "cosign payload is missing critical.image.docker-manifest-digest"
    (payloadDigest json)
  ensure (digest = "sha256:" ++ artifactSha256)
    (.security ("cosign payload digest mismatch: expected sha256:" ++ artifactSha256 ++ ", got " ++
      digest))
  let repository := (payloadText json ["optional", "repository"]).or
    (payloadText json ["critical", "identity", "docker-reference"])
  let issuer := (payloadText json ["optional", "issuer"]).or signatureMeta.issuer
  let identity := (payloadText json ["optional", "identity"]).or signatureMeta.identity
  let ns := (payloadText json ["optional", "namespace"]).or signatureMeta.ns
  policy.enforce issuer identity repository ns
  return ⟨artifactSha256, true, some "cosign-ed25519", issuer, identity, repository, ns,
    some (Bytes.hexEncode (lib.digest publicKey)), lib.nowUnixSecs⟩

def verifySigstoreBundleSignature (publicKey : List UInt8) :
    Except PlatformError ArtifactVerificationRecord := do
  ensure (policy.allowedRepositories.isEmpty ∧ policy.allowedNamespaces.isEmpty)
    (.security "sigstore-bundle verification currently supports issuer/identity policy only")
  let payload ← required "sigstore-bundle signatures require an inline bundle payload"
    signatureMeta.payload
  let issuer ← required "sigstore-bundle signatures require an issuer claim" signatureMeta.issuer
  let identity ← required "sigstore-bundle signatures require an identity claim"
    signatureMeta.identity
  enforceAllowedClaim "issuer" (some issuer) policy.allowedIssuers
  enforceAllowedClaim "identity" (some identity) policy.allowedIdentities
  securityError "failed to load Sigstore trusted root: " lib.trustedRoot
  securityError "invalid Sigstore bundle: " (lib.bundleFromJson payload)
  securityError "invalid artifact digest for Sigstore verification: "
    (lib.hashFromHex artifactSha256)
  securityError "Sigstore bundle verification failed: "
    (lib.verifyBundle artifactSha256 payload identity issuer)
  return ⟨artifactSha256, true, some "sigstore-bundle", some issuer, some identity, none, none,
    some (Bytes.hexEncode (lib.digest publicKey)), lib.nowUnixSecs⟩

/-- The verification an algorithm asks for. -/
def verifyByAlgorithm (publicKey signature : List UInt8) :
    Except PlatformError ArtifactVerificationRecord :=
  let algorithm := lib.toLowercase signatureMeta.algorithm
  if algorithm = "ed25519" then
    verifyNativeSignature lib policy artifactSha256 signatureMeta publicKey signature
  else if algorithm = "cosign-ed25519" then
    verifyCosignPayloadSignature lib policy artifactSha256 signatureMeta publicKey signature
  else if algorithm = "sigstore-bundle" then
    verifySigstoreBundleSignature lib policy artifactSha256 signatureMeta publicKey
  else .error (.security ("unsupported artifact signature algorithm: " ++ algorithm))

/-- `verify_artifact_signature` of a signature that is there. -/
def verifySupplied :
    Except PlatformError ArtifactVerificationRecord := do
  let publicKey ← securityError "invalid artifact signature public key encoding: "
    (lib.decodeBase64 signatureMeta.publicKey)
  let signature ← securityError "invalid artifact signature encoding: "
    (lib.decodeBase64 signatureMeta.signature)
  ensure (publicKey.length = 32) (.security "artifact signature public key must be 32 bytes")
  securityError "invalid Ed25519 public key: " (lib.keyFromBytes publicKey)
  securityError "invalid Ed25519 signature: " (lib.signatureFromSlice signature)
  verifyByAlgorithm lib policy artifactSha256 signatureMeta publicKey signature

def verifyArtifactSignature (artifact : RemoteArtifactSource) :
    Except PlatformError ArtifactVerificationRecord :=
  match artifact.signature with
  | some signatureMeta => verifySupplied lib policy artifactSha256 signatureMeta
  | none =>
    if policy.requireSignature then
      .error (.security "artifact signature is required by deploy-ingress policy")
    else .ok ⟨artifactSha256, false, none, none, none, none, none, none, lib.nowUnixSecs⟩

end Verify

theorem nativeClaims_inj {sha256 sha256' : String}
    {issuer issuer' identity identity' repository repository' ns ns' : Option String}
    (h : nativeClaims sha256 issuer identity repository ns =
      nativeClaims sha256' issuer' identity' repository' ns') :
    sha256 = sha256' ∧ issuer = issuer' ∧ identity = identity' ∧ repository = repository' ∧
      ns = ns' := by
  have htext := String.ofList_inj.mp (Text.utf8_injective h)
  have hmembers := JsonText.objectText_injective htext
  simp only [List.cons.injEq, Prod.mk.injEq, true_and, Option.some.injEq, and_true] at hmembers
  rcases hmembers with ⟨hidentity, hissuer, hns, hrepository, hsha256⟩
  exact ⟨hsha256, hissuer, hidentity, hrepository, hns⟩

/-- A message about the artifact: claims with its digest, or a payload that has it. -/
def Concerns (lib : SignatureLibrary) (message : List UInt8) (sha256 : String) : Prop :=
  (∃ issuer identity repository ns, message = nativeClaims sha256 issuer identity repository ns) ∨
    ∃ payload json, message = Text.utf8 payload ∧ lib.parseJson payload = .ok json ∧
      payloadDigest json = some ("sha256:" ++ sha256)

section Accepted

variable {lib : SignatureLibrary} {policy : SignaturePolicy} {sha256 : String}
  {signatureMeta} {publicKey signature : List UInt8}
  {record : ArtifactVerificationRecord} {α : Type}

theorem securityError_ok_iff {context : String} {result : Except String α} {a : α} :
    securityError context result = .ok a ↔ result = .ok a :=
  mapError_ok_iff

theorem required_ok_iff {message : String} {value : Option α} {a : α} :
    required message value = .ok a ↔ value = some a :=
  elim_throw_ok_iff

/-- An accepted `ed25519` signature is of the digest and of the claims in the record. -/
theorem verifyNativeSignature_ok
    (h : verifyNativeSignature lib policy sha256 signatureMeta publicKey signature = .ok record) :
    lib.verify publicKey (nativeClaims sha256 record.issuer record.identity record.repository
      record.ns) signature = .ok () := by
  simp only [verifyNativeSignature, bind_unit_ok_iff, securityError_ok_iff, pure_ok_iff] at h
  rcases h with ⟨-, hverify, hrecord⟩
  rw [← hrecord]
  exact hverify

/-- An accepted `cosign-ed25519` signature is of a payload that has the digest. -/
theorem verifyCosignPayloadSignature_ok
    (h : verifyCosignPayloadSignature lib policy sha256 signatureMeta publicKey signature =
      .ok record) :
    ∃ payload json, lib.verify publicKey (Text.utf8 payload) signature = .ok () ∧
      lib.parseJson payload = .ok json ∧ payloadDigest json = some ("sha256:" ++ sha256) := by
  simp only [verifyCosignPayloadSignature, bind_ok_iff, required_ok_iff, securityError_ok_iff,
    ensure_ok_iff] at h
  rcases h with ⟨payload, -, ⟨⟩, hverify, json, hjson, digest, hdigest, -, hsame, -⟩
  exact ⟨payload, json, hverify, hjson, by rw [hdigest, hsame]⟩

theorem verifySupplied_ok (h : verifySupplied lib policy sha256 signatureMeta = .ok record) :
    ∃ publicKey signature, lib.decodeBase64 signatureMeta.publicKey = .ok publicKey ∧
      verifyByAlgorithm lib policy sha256 signatureMeta publicKey signature = .ok record := by
  simp only [verifySupplied, bind_ok_iff, securityError_ok_iff] at h
  rcases h with ⟨publicKey, hkey, signature, -, -, -, -, -, -, -, halgorithm⟩
  exact ⟨publicKey, signature, hkey, halgorithm⟩

theorem verified_concerns (halgorithm : lib.toLowercase signatureMeta.algorithm = "ed25519" ∨
      lib.toLowercase signatureMeta.algorithm = "cosign-ed25519")
    (h : verifyByAlgorithm lib policy sha256 signatureMeta publicKey signature = .ok record) :
    ∃ message, lib.verify publicKey message signature = .ok () ∧ Concerns lib message sha256 := by
  rcases halgorithm with halgorithm | halgorithm
  · simp only [verifyByAlgorithm, halgorithm, if_true] at h
    exact ⟨_, verifyNativeSignature_ok h, .inl ⟨_, _, _, _, rfl⟩⟩
  · have hother : ¬ ("cosign-ed25519" = "ed25519") := by decide
    simp only [verifyByAlgorithm, halgorithm, if_true, if_neg hother] at h
    rcases verifyCosignPayloadSignature_ok h with ⟨payload, json, hverify, hjson, hdigest⟩
    exact ⟨_, hverify, .inr ⟨payload, json, rfl, hjson, hdigest⟩⟩

/-- The party holds the key, or its holder has signed a message about the artifact. -/
theorem accepted_key_signed {holds : List UInt8 → Prop} {signed : List UInt8 → List UInt8 → Prop}
    (hunforgeable : ∀ key message sig, lib.verify key message sig = .ok () →
      holds key ∨ signed key message)
    (halgorithm : lib.toLowercase signatureMeta.algorithm = "ed25519" ∨
      lib.toLowercase signatureMeta.algorithm = "cosign-ed25519")
    (h : verifySupplied lib policy sha256 signatureMeta = .ok record) :
    ∃ key, lib.decodeBase64 signatureMeta.publicKey = .ok key ∧
      (holds key ∨ ∃ message, signed key message ∧ Concerns lib message sha256) := by
  rcases verifySupplied_ok h with ⟨key, signature, hkey, hverified⟩
  rcases verified_concerns halgorithm hverified with ⟨message, hverify, hconcerns⟩
  refine ⟨key, hkey, (hunforgeable key message signature hverify).imp id fun hsigned => ?_⟩
  exact ⟨message, hsigned, hconcerns⟩

/-- What it takes to have a signature accepted. None of it is about whose the key is. -/
theorem native_accepted (hkey : lib.decodeBase64 signatureMeta.publicKey = .ok publicKey)
    (hsignature : lib.decodeBase64 signatureMeta.signature = .ok signature)
    (hlength : publicKey.length = 32) (hvalid : lib.keyFromBytes publicKey = .ok ())
    (hslice : lib.signatureFromSlice signature = .ok ())
    (halgorithm : lib.toLowercase signatureMeta.algorithm = "ed25519")
    (hallowed : policy.enforce signatureMeta.issuer signatureMeta.identity
      signatureMeta.repository signatureMeta.ns = .ok ())
    (hverify : lib.verify publicKey (nativeClaims sha256 signatureMeta.issuer
      signatureMeta.identity signatureMeta.repository signatureMeta.ns) signature = .ok ()) :
    verifySupplied lib policy sha256 signatureMeta =
      .ok ⟨sha256, true, some "ed25519", signatureMeta.issuer, signatureMeta.identity,
        signatureMeta.repository, signatureMeta.ns,
        some (Bytes.hexEncode (lib.digest publicKey)), lib.nowUnixSecs⟩ := by
  simp only [verifySupplied, bind_ok_iff, securityError_ok_iff, ensure_ok_iff]
  refine ⟨publicKey, hkey, signature, hsignature, (), hlength, (), hvalid, (), hslice, ?_⟩
  simp only [verifyByAlgorithm, halgorithm, if_true, verifyNativeSignature, bind_unit_ok_iff,
    securityError_ok_iff, pure_ok_iff]
  exact ⟨hallowed, hverify, trivial⟩

end Accepted

/-- A party that does not hold the key a signature carries, and has nothing by its holder
    about the artifact, does not get the artifact verified. -/
theorem unsigned_artifact_rejected (lib : SignatureLibrary) (policy : SignaturePolicy)
    (sha256 : String) (artifact : RemoteArtifactSource) (signatureMeta : ArtifactSignature)
    (holds : List UInt8 → Prop) (signed : List UInt8 → List UInt8 → Prop)
    (hunforgeable : ∀ key message sig, lib.verify key message sig = .ok () →
      holds key ∨ signed key message) (hsignature : artifact.signature = some signatureMeta)
    (halgorithm : lib.toLowercase signatureMeta.algorithm = "ed25519" ∨
      lib.toLowercase signatureMeta.algorithm = "cosign-ed25519")
    (hkey : ∀ key, lib.decodeBase64 signatureMeta.publicKey = .ok key →
      ¬ holds key ∧ ∀ message, signed key message → ¬ Concerns lib message sha256) :
    ¬ ∃ record, verifyArtifactSignature lib policy sha256 artifact = .ok record := by
  rintro ⟨record, h⟩
  simp only [verifyArtifactSignature, hsignature] at h
  rcases accepted_key_signed hunforgeable halgorithm h with ⟨key, hdecode, hholds | hmessage⟩
  · exact (hkey key hdecode).1 hholds
  · rcases hmessage with ⟨message, hsigned, hconcerns⟩
    exact (hkey key hdecode).2 message hsigned hconcerns

/-- The encoding of 32 bytes of 7. -/
def keyText : String := "BwcHBwcHBwcHBwcHBwcHBwcHBwcHBwcHBwcHBwcHBwc="

/-- The encoding of 64 bytes of 0. -/
def signatureText : String := String.ofList (List.replicate 86 'A') ++ "=="

/-- One key, in the text `keyText`, has signed what is given. -/
def oneKeyLibrary (key : List UInt8) (signed : List UInt8 → Bool) : SignatureLibrary where
  decodeBase64 text :=
    if text = keyText then .ok key
    else if text = signatureText then .ok (List.replicate 64 0)
    else .error "Invalid symbol"
  digest := shortSha256
  keyFromBytes _ := .ok ()
  signatureFromSlice bytes := if bytes.length = 64 then .ok () else .error "signature error"
  verify publicKey message _ :=
    if publicKey = key ∧ signed message = true then .ok () else .error "signature error"
  parseJson _ := .error "expected value"
  toLowercase := id
  trustedRoot := .ok ()
  bundleFromJson _ := .error "expected value"
  hashFromHex _ := .ok ()
  verifyBundle _ _ _ _ := .error "no certificate"
  nowUnixSecs := 0

theorem oneKeyLibrary_verify {key publicKey message sig : List UInt8} {signed : List UInt8 → Bool}
    (h : (oneKeyLibrary key signed).verify publicKey message sig = .ok ()) :
    publicKey = key ∧ signed message = true := by
  by_contra hnot
  simp only [oneKeyLibrary, if_neg hnot, reduceCtorEq] at h

def pipelinePolicy : SignaturePolicy :=
  ⟨true, ["https://ci.example"], ["build"], [], []⟩

def pipelineSignature : ArtifactSignature :=
  ⟨"ed25519", keyText, signatureText, none, some "https://ci.example", some "build", none, none⟩

def pipelineArtifact : RemoteArtifactSource :=
  ⟨none, "https://ci.example/app.wasm", zeroHash, none, some pipelineSignature⟩

/-- The pipeline's claims about the empty artifact. -/
def emptyClaims : List UInt8 :=
  nativeClaims (Bytes.hexEncode (shortSha256 [])) (some "https://ci.example") (some "build") none
    none

/-- Whoever has a signature of the empty artifact cannot use it for another. -/
theorem signature_not_reused :
    ¬ ∃ record, verifyArtifactSignature
      (oneKeyLibrary (List.replicate 32 7) (fun message => message = emptyClaims))
      pipelinePolicy zeroHash pipelineArtifact = .ok record := by
  refine unsigned_artifact_rejected _ pipelinePolicy zeroHash pipelineArtifact pipelineSignature
    (fun _ => False) (fun _ message => message = emptyClaims)
    (fun key message sig h => .inr (of_decide_eq_true (oneKeyLibrary_verify h).2)) rfl
    (.inl rfl) (fun key _ => ⟨id, fun message hsigned hconcerns => ?_⟩)
  rcases hconcerns with ⟨issuer, identity, repository, ns, hclaims⟩ | ⟨payload, json, -, hjson, -⟩
  · exact absurd (nativeClaims_inj (hsigned.symm.trans hclaims)).1 (by decide)
  · cases hjson

/-- Whichever keys are meant to be trusted, a party that holds none of them but has a key
    of its own gets any artifact verified as the pipeline's. -/
theorem own_key_is_accepted :
    ∃ policy signatureMeta, policy.allowedIssuers ≠ [] ∧ policy.allowedIdentities ≠ [] ∧
      ∀ (trusted : List UInt8 → Prop) (own : List UInt8), own.length = 32 → ¬ trusted own →
        ∃ lib : SignatureLibrary,
          (∀ key message sig, lib.verify key message sig = .ok () → key = own) ∧
          ∀ sha256 url, ∃ record, verifyArtifactSignature lib policy sha256
              ⟨none, url, sha256, none, some signatureMeta⟩ = .ok record ∧
            record.verified = true ∧
            (∃ issuer ∈ policy.allowedIssuers, record.issuer = some issuer) ∧
            ∃ identity ∈ policy.allowedIdentities, record.identity = some identity := by
  refine ⟨pipelinePolicy, pipelineSignature, List.cons_ne_nil _ _, List.cons_ne_nil _ _, ?_⟩
  intro trusted own hlength _
  refine ⟨oneKeyLibrary own (fun _ => true), fun key message sig h => (oneKeyLibrary_verify h).1,
    fun sha256 url => ?_⟩
  have hkey : (oneKeyLibrary own (fun _ => true)).decodeBase64 keyText = .ok own := by
    simp only [oneKeyLibrary, if_true]
  have hsignature : (oneKeyLibrary own (fun _ => true)).decodeBase64 signatureText =
      .ok (List.replicate 64 0) := by
    have hother : signatureText ≠ keyText := by decide
    simp only [oneKeyLibrary, hother, if_true, if_false]
  refine ⟨_, native_accepted hkey hsignature hlength rfl rfl rfl rfl (if_pos ⟨rfl, rfl⟩), rfl,
    ?_, ?_⟩
  · exact ⟨"https://ci.example", List.mem_singleton.mpr rfl, rfl⟩
  · exact ⟨"build", List.mem_singleton.mpr rfl, rfl⟩

end WasmCloud
