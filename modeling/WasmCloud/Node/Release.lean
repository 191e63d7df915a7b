import WasmCloud.Artifact.Fetch
import WasmCloud.Artifact.Manifest
import WasmCloud.Lib.Attempt

/-!
# Releases of the Node Binary

A node that is told to upgrade checks who signed the release, downloads the binary,
installs it beside the old one and moves the links `current` and `previous`.

A release is signed in one of two ways. The metadata may be signed with the key in the
node's configuration. Or that key has signed a delegation to another key, and the other
key has signed the release. A node without a key in its configuration checks neither.
-/

namespace WasmCloud

open ArtifactTransferManifest (line)

/-- The crates for hexadecimal texts and for Ed25519. -/
structure ReleaseLibrary where
  decodeHex : String → Except String (List UInt8)
  keyFromBytes : List UInt8 → Except String Unit
  verify : (key payload signature : List UInt8) → Except String Unit

structure ReleaseKeyDelegation where
  version : UInt8
  keyId : String
  publicKeyEd25519 : String
  scope : String
  issuer : String
  issuedAtMs : UInt64
  expiresAtMs : UInt64
  deriving DecidableEq, Repr

/-- `canonical_payload` of a delegation. -/
def ReleaseKeyDelegation.canonicalPayload (d : ReleaseKeyDelegation) : List UInt8 :=
  Text.utf8 (line "version" (toString d.version) ++ line "key_id" d.keyId ++
    line "public_key_ed25519" d.publicKeyEd25519 ++
    line "scope" d.scope ++
    line "issuer" d.issuer ++
    line "issued_at_ms" (toString d.issuedAtMs) ++
    line "expires_at_ms" (toString d.expiresAtMs))

structure SignedReleaseKeyDelegation where
  delegation : ReleaseKeyDelegation
  signatureEd25519 : String
  deriving DecidableEq, Repr

structure NodeBinaryReleaseProvenance where
  version : UInt8
  delegationKeyId : String
  binaryUrl : String
  binarySha256 : String
  newProtocolVersion : UInt32
  newBinaryVersion : String
  sourceRepository : Option String
  sourceCommitSha : Option String
  buildWorkflowRef : Option String
  buildRunId : Option String
  issuedAtMs : UInt64
  expiresAtMs : UInt64
  deriving DecidableEq, Repr

/-- `canonical_payload` of a release. -/
def NodeBinaryReleaseProvenance.canonicalPayload (p : NodeBinaryReleaseProvenance) : List UInt8 :=
  Text.utf8 (line "version" (toString p.version) ++ line "delegation_key_id" p.delegationKeyId ++
    line "binary_url" p.binaryUrl ++
    line "binary_sha256" p.binarySha256 ++
    line "new_protocol_version" (toString p.newProtocolVersion) ++
    line "new_binary_version" p.newBinaryVersion ++
    line "source_repository" (p.sourceRepository.getD "") ++
    line "source_commit_sha" (p.sourceCommitSha.getD "") ++
    line "build_workflow_ref" (p.buildWorkflowRef.getD "") ++
    line "build_run_id" (p.buildRunId.getD "") ++
    line "issued_at_ms" (toString p.issuedAtMs) ++
    line "expires_at_ms" (toString p.expiresAtMs))

structure SignedNodeBinaryReleaseProvenance where
  provenance : NodeBinaryReleaseProvenance
  delegation : SignedReleaseKeyDelegation
  signatureEd25519 : String
  deriving DecidableEq, Repr

structure NodeUpgrade where
  targetNode : String
  binaryUrl : String
  binarySha256 : String
  signatureEd25519 : Option String
  releaseProvenance : Option SignedNodeBinaryReleaseProvenance
  newProtocolVersion : UInt32
  newBinaryVersion : String
  deriving DecidableEq, Repr

/-- `node_upgrade_signature_payload`. -/
def NodeUpgrade.signaturePayload (e : NodeUpgrade) : List UInt8 :=
  Text.utf8 (line "target_node" e.targetNode ++ line "binary_url" e.binaryUrl ++
    line "binary_sha256" e.binarySha256 ++
    line "new_protocol_version" (toString e.newProtocolVersion) ++
    line "new_binary_version" e.newBinaryVersion)

def upgradeProvenanceScopeNodeBinary : String := "node-binary-upgrade"

section Verify

variable {ε : Type} (lib : ReleaseLibrary)

/-- Bytes of a fixed number in a hexadecimal text. -/
def parseHexBytes (size : Nat) (notHex : String → ε) (badLength : Nat → ε) (text : String) :
    Except ε (List UInt8) := do
  let bytes ← (lib.decodeHex text).mapError notHex
  ensure (bytes.length = size) (badLength bytes.length)
  return bytes

/-- `parse_verifying_key_hex` of the delegations. -/
def parseProvenanceKeyHex (keyHex : String) : Except String (List UInt8) := do
  let key ← parseHexBytes lib 32 (fun e => "invalid provenance public key hex: " ++ e)
    (fun length => "provenance public key must be 32 bytes, got " ++ toString length ++ " bytes")
    (Text.trim keyHex)
  (lib.keyFromBytes key).mapError (fun e => "invalid Ed25519 provenance public key: " ++ e)
  return key

/-- `parse_signature_hex` of the delegations. -/
def parseProvenanceSignatureHex (signatureHex : String) : Except String (List UInt8) :=
  parseHexBytes lib 64 (fun e => "invalid provenance signature hex: " ++ e)
    (fun length => "provenance signature must be 64 bytes, got " ++ toString length ++ " bytes")
    (Text.trim signatureHex)

def SignedReleaseKeyDelegation.verify (d : SignedReleaseKeyDelegation) (key : List UInt8) :
    Except String Unit := do
  let signature ← parseProvenanceSignatureHex lib d.signatureEd25519
  (lib.verify key d.delegation.canonicalPayload signature).mapError
    (fun e => "release key delegation verification failed: " ++ e)

/-- What `SignedNodeBinaryReleaseProvenance::verify` checks of the delegation. -/
def SignedNodeBinaryReleaseProvenance.checkDelegation (p : SignedNodeBinaryReleaseProvenance)
    (nowMs : UInt64) : Except String Unit := do
  let d := p.delegation.delegation
  ensure (d.version = 1) ("unsupported delegation version " ++ toString d.version)
  ensure (d.scope = upgradeProvenanceScopeNodeBinary)
    ("delegation scope mismatch: expected " ++ upgradeProvenanceScopeNodeBinary ++ ", got " ++
      d.scope)
  ensure (d.issuedAtMs < d.expiresAtMs) "delegation expiry must be after issued_at"
  ensure (nowMs < d.expiresAtMs) ("delegation expired at " ++ toString d.expiresAtMs)
  ensure (p.provenance.delegationKeyId = d.keyId)
    ("provenance delegation key mismatch: expected " ++ d.keyId ++ ", got " ++
      p.provenance.delegationKeyId)

/-- What it checks of the release, whose event is `e`. -/
def NodeBinaryReleaseProvenance.checkRelease (p : NodeBinaryReleaseProvenance) (e : NodeUpgrade)
    (nowMs : UInt64) : Except String Unit := do
  ensure (p.version = 1) ("unsupported release provenance version " ++ toString p.version)
  ensure (p.binaryUrl = e.binaryUrl)
    ("release provenance binary_url mismatch: expected " ++ e.binaryUrl ++ ", got " ++ p.binaryUrl)
  ensure (p.binarySha256 = e.binarySha256)
    ("release provenance binary_sha256 mismatch: expected " ++ e.binarySha256 ++ ", got " ++
      p.binarySha256)
  ensure (p.newProtocolVersion = e.newProtocolVersion)
    ("release provenance protocol version mismatch: expected " ++
      toString e.newProtocolVersion ++ ", got " ++ toString p.newProtocolVersion)
  ensure (p.newBinaryVersion = e.newBinaryVersion)
    ("release provenance binary version mismatch: expected " ++ e.newBinaryVersion ++ ", got " ++
      p.newBinaryVersion)
  ensure (p.issuedAtMs < p.expiresAtMs) "release provenance expiry must be after issued_at"
  ensure (nowMs < p.expiresAtMs) ("release provenance expired at " ++ toString p.expiresAtMs)

def SignedNodeBinaryReleaseProvenance.verify (p : SignedNodeBinaryReleaseProvenance)
    (rootVerifyingKeyHex : String) (e : NodeUpgrade) (nowMs : UInt64) : Except String Unit := do
  let rootVerifyingKey ← parseProvenanceKeyHex lib rootVerifyingKeyHex
  p.delegation.verify lib rootVerifyingKey
  p.checkDelegation nowMs
  let delegatedVerifyingKey ← parseProvenanceKeyHex lib p.delegation.delegation.publicKeyEd25519
  let signature ← parseProvenanceSignatureHex lib p.signatureEd25519
  (lib.verify delegatedVerifyingKey p.provenance.canonicalPayload signature).mapError
    (fun e => "release provenance verification failed: " ++ e)
  p.provenance.checkRelease e nowMs

def parseVerifyingKeyHex (keyHex : String) : Except PlatformError (List UInt8) := do
  let key ← parseHexBytes lib 32
    (fun e => .configValidation ("invalid upgrade signing public key hex: " ++ e))
    (fun length => .configValidation
      ("upgrade signing public key must be 32 bytes, got " ++ toString length ++ " bytes")) keyHex
  (lib.keyFromBytes key).mapError (fun e => .security ("invalid Ed25519 public key: " ++ e))
  return key

def parseSignatureHex (signatureHex : String) : Except PlatformError (List UInt8) :=
  parseHexBytes lib 64 (fun e => .security ("invalid upgrade signature hex: " ++ e))
    (fun length => .security
      ("upgrade signature must be 64 bytes, got " ++ toString length ++ " bytes")) signatureHex

def verifyUpgradeSignature (e : NodeUpgrade) (configuredPublicKeyHex : Option String)
    (nowMs : UInt64) : Except PlatformError Unit :=
  match configuredPublicKeyHex, e.releaseProvenance, e.signatureEd25519 with
  | none, _, _ => .ok ()
  | some publicKeyHex, some provenance, _ =>
    (provenance.verify lib publicKeyHex e nowMs).mapError .security
  | some _, none, none =>
    .error (.security
      "upgrade signature missing while runtime.upgrade_signing_public_key is configured")
  | some publicKeyHex, none, some signatureHex => do
    let verifyingKey ← parseVerifyingKeyHex lib publicKeyHex
    let signature ← parseSignatureHex lib signatureHex
    (lib.verify verifyingKey e.signaturePayload signature).mapError
      (fun e => .security ("upgrade signature verification failed: " ++ e))

end Verify

/-- The links in the directory of the binaries. -/
structure ReleaseLinks where
  current : Option String
  previous : Option String
  deriving DecidableEq, Repr

inductive InstallStep where
  | createDir
  | writeStaged
  | chmod
  | activateBinary
  | previousLink
  | stagedLink
  | removeCurrent
  | activateCurrent
  deriving DecidableEq, Repr

/-- The message of the error if it fails. -/
def InstallStep.message : InstallStep → String
  | .createDir => "create install dir failed"
  | .writeStaged => "write staged binary failed"
  | .chmod => "chmod staged binary failed"
  | .activateBinary => "activate binary failed"
  | .previousLink => "failed to create previous symlink"
  | .stagedLink => "failed to create staged current symlink"
  | .removeCurrent => "failed to remove old current symlink"
  | .activateCurrent => "failed to activate current symlink"

/-- The server's answer, what fails on disk, and what is there already. -/
structure InstallEnv where
  answer : Except String HttpResponse
  fails : InstallStep → Bool
  binaryExists : Bool
  currentExists : Bool

/-- The installation of a binary works on the links. -/
abbrev Install := Attempt ReleaseLinks PlatformError

/-- `final_binary_path`. The hash is one that a download has had, so it is long enough. -/
def finalBinaryPath (installDir binaryName expectedSha256 : String) : String :=
  installDir ++ "/" ++ binaryName ++ "-" ++ String.ofList (expectedSha256.toList.take 12)

namespace InstallEnv

variable (env : InstallEnv)

def attempt (step : InstallStep) : Install Unit :=
  Attempt.ofExcept (ensure (env.fails step = false) (.storage step.message))

/-- `update_release_links` first makes what was current the previous one. -/
def keepPrevious : Install Unit := do
  let links ← get
  match links.current with
  | none => pure ()
  | some previousTarget =>
    Attempt.update (fun links => { links with previous := none })
    env.attempt .previousLink
    Attempt.update (fun links => { links with previous := some previousTarget })

def removeCurrent : Install Unit :=
  if env.currentExists then do
    env.attempt .removeCurrent
    Attempt.update (fun links => { links with current := none })
  else pure ()

def updateReleaseLinks (newBinaryPath : String) : Install Unit := do
  env.keepPrevious
  env.attempt .stagedLink
  env.removeCurrent
  env.attempt .activateCurrent
  Attempt.update (fun links => { links with current := some newBinaryPath })

def downloadAndVerifyBytes (digest : List UInt8 → List UInt8) (expectedSha256 : String) :
    Except PlatformError (List UInt8) :=
  verifiedBody digest (fun e => .network ("download failed: " ++ e))
    (fun status => .network ("download failed with status: " ++ status))
    (fun e => .network ("read body failed: " ++ e))
    (fun expected actual => .security
      ("SHA-256 mismatch: expected " ++ expected ++ ", got " ++ actual ++ ". Aborting."))
    expectedSha256 env.answer

/-- The staged binary at its place, unless there is one already. -/
def placeBinary : Install Unit :=
  if env.binaryExists then pure () else env.attempt .activateBinary

def downloadAndVerify (digest : List UInt8 → List UInt8)
    (expectedSha256 installDir binaryName : String) : Install String := do
  let _ ← Attempt.ofExcept (env.downloadAndVerifyBytes digest expectedSha256)
  env.attempt .createDir
  env.attempt .writeStaged
  env.attempt .chmod
  env.placeBinary
  env.updateReleaseLinks (finalBinaryPath installDir binaryName expectedSha256)
  return finalBinaryPath installDir binaryName expectedSha256

variable {env} {links after : ReleaseLinks}

theorem updateReleaseLinks_ok {newBinaryPath : String}
    (h : (env.updateReleaseLinks newBinaryPath).exec links = (.ok (), after)) :
    after.current = some newBinaryPath := by
  simp only [updateReleaseLinks, Attempt.exec_bind_ok_iff, Attempt.exec_update] at h
  rcases h with ⟨_, _, _, _, _, _, _, _, _, _, _, _, h⟩
  cases h
  rfl

/-- After an installation `current` is the new binary. -/
theorem downloadAndVerify_ok {digest : List UInt8 → List UInt8}
    {expectedSha256 installDir binaryName path : String}
    (h : (env.downloadAndVerify digest expectedSha256 installDir binaryName).exec links =
      (.ok path, after)) :
    after.current = some (finalBinaryPath installDir binaryName expectedSha256) := by
  grind [downloadAndVerify, Attempt.exec_bind_ok_iff, Attempt.exec_pure, updateReleaseLinks_ok]

end InstallEnv

end WasmCloud
