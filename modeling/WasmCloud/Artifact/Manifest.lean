import WasmCloud.Lib.Bytes
import WasmCloud.Lib.Checks
import WasmCloud.Lib.Lines
import WasmCloud.Lib.Text

/-!
# Transfer Manifests

Who may fetch or upload an artifact is told by a manifest that the artifact's node signs.
The signature is over a text with one line a field, so a field with a line feed in it
writes several lines, and another manifest may have the same text.

The signature scheme is a parameter, and what is assumed of it is that a signature is
accepted only for a text the authority has signed. The lines of an issued manifest have no
line feed unless the digest or the audience has one, and the number of line feeds then
leaves none for the presented manifest either: `terminated_inj_around`.
-/

namespace WasmCloud

open List

inductive ArtifactTransferMethod where
  | get
  | put
  deriving DecidableEq, Repr

def ArtifactTransferMethod.asStr : ArtifactTransferMethod → String
  | .get => "GET"
  | .put => "PUT"

/-- A permission to transfer one artifact. -/
structure ArtifactTransferManifest where
  version : UInt8
  artifactSha256 : String
  artifactPath : String
  method : ArtifactTransferMethod
  issuer : String
  audience : Option String
  issuedAtMs : UInt64
  expiresAtMs : UInt64
  transferId : String
  singleUse : Bool
  deriving DecidableEq, Repr

def defaultManifestVersion : UInt8 := 1

def artifactPathOf (sha256 : String) : String := "/artifacts/" ++ sha256

namespace ArtifactTransferManifest

def field (label value : String) : String := label ++ "=" ++ value

def line (label value : String) : String := field label value ++ "\n"

/-- The text of `canonical_payload`. -/
def canonicalText (m : ArtifactTransferManifest) : String :=
  line "version" (toString m.version) ++
    line "artifact_sha256" m.artifactSha256 ++
    line "artifact_path" m.artifactPath ++
    line "method" m.method.asStr ++
    line "issuer" m.issuer ++
    line "audience" (m.audience.getD "") ++
    line "issued_at_ms" (toString m.issuedAtMs) ++
    line "expires_at_ms" (toString m.expiresAtMs) ++
    line "transfer_id" m.transferId ++
    line "single_use" (toString m.singleUse)

def canonicalPayload (m : ArtifactTransferManifest) : List UInt8 := Text.utf8 m.canonicalText

end ArtifactTransferManifest

/-- A manifest with the hexadecimal text of a signature. -/
structure SignedArtifactTransferManifest where
  manifest : ArtifactTransferManifest
  signatureEd25519 : String
  deriving DecidableEq, Repr

/-- Why a manifest is not accepted, with what the error text quotes. -/
inductive ManifestError where
  | signatureNotHex
  | signatureLength
  | signatureFailed
  | unsupportedVersion (version : UInt8)
  | methodMismatch (expected actual : ArtifactTransferMethod)
  | digestMismatch (expected actual : String)
  | pathMismatch (expected actual : String)
  | issuerMismatch (expected actual : String)
  | audienceMismatch (expected : String) (actual : Option String)
  | requesterRequired
  | expiryNotAfterIssue
  | expired (expiresAtMs : UInt64)
  deriving DecidableEq, Repr

/-- A node that issues and checks manifests, with the signature scheme under its key, which
    `derive` computes from its identifier and the key material. -/
structure ArtifactTransferAuthority where
  localNodeId : String
  sign : List UInt8 → List UInt8
  verifies : List UInt8 → List UInt8 → Bool
  signSize : ∀ payload, (sign payload).length = 64

def SignedArtifactTransferManifest.sign (manifest : ArtifactTransferManifest)
    (a : ArtifactTransferAuthority) : SignedArtifactTransferManifest :=
  ⟨manifest, Bytes.hexEncode (a.sign manifest.canonicalPayload)⟩

def SignedArtifactTransferManifest.verify (signed : SignedArtifactTransferManifest)
    (a : ArtifactTransferAuthority) : Except ManifestError Unit :=
  match Bytes.hexDecode (Text.trim signed.signatureEd25519) with
  | none => .error .signatureNotHex
  | some signature => do
    ensure (signature.length = 64) .signatureLength
    ensure (a.verifies signed.manifest.canonicalPayload signature = true) .signatureFailed

/-- The match on the requester and the audience. -/
def checkAudience : Option String → Option String → Except ManifestError Unit
  | some expected, some actual =>
    ensure (expected = actual) (.audienceMismatch expected (some actual))
  | some expected, none => .error (.audienceMismatch expected none)
  | none, some _ => .error .requesterRequired
  | none, none => .ok ()

def saturatingAdd (a b : UInt64) : UInt64 :=
  UInt64.ofNat (min (a.toNat + b.toNat) 18446744073709551615)

def saturatingMul (a b : UInt64) : UInt64 :=
  UInt64.ofNat (min (a.toNat * b.toNat) 18446744073709551615)

structure Uuid where
  bytes : List UInt8
  size : bytes.length = 16
  deriving DecidableEq

/-- `Uuid::to_string`: five groups of hexadecimal digits. -/
def Uuid.text (id : Uuid) : String :=
  Bytes.hexEncode (id.bytes.take 4) ++ "-" ++ Bytes.hexEncode ((id.bytes.drop 4).take 2) ++ "-" ++
    Bytes.hexEncode ((id.bytes.drop 6).take 2) ++ "-" ++
    Bytes.hexEncode ((id.bytes.drop 8).take 2) ++ "-" ++ Bytes.hexEncode (id.bytes.drop 10)

/-- A call of `issue_manifest`, with the time it reads and the UUID it draws. -/
structure IssueCall where
  nowMs : UInt64
  transfer : Uuid
  artifactSha256 : String
  method : ArtifactTransferMethod
  ttlSecs : UInt64
  singleUse : Bool
  audience : Option String
  deriving DecidableEq

/-- `DEFAULT_ARTIFACT_GET_MANIFEST_TTL_SECS` and `DEFAULT_ARTIFACT_PUT_MANIFEST_TTL_SECS`. -/
def defaultManifestTtlSecs : UInt64 := 60

/-- The call of `issue_read_manifest_for_audience`. -/
def issueReadForAudience (nowMs : UInt64) (transfer : Uuid) (sha256 audience : String) :
    IssueCall :=
  ⟨nowMs, transfer, sha256, .get, defaultManifestTtlSecs, false, some audience⟩

def boundAudiences (audiences : List String) : List String :=
  (audiences.map Text.trim).filter (fun audience => audience ≠ "")

def issueWrite (nowMs : UInt64) (transfer : Uuid) (sha256 : String) : IssueCall :=
  ⟨nowMs, transfer, sha256, .put, defaultManifestTtlSecs, true, none⟩

/-- The manifest that `issue_manifest` makes. -/
def IssueCall.manifest (call : IssueCall) (issuer : String) : ArtifactTransferManifest where
  version := defaultManifestVersion
  artifactSha256 := call.artifactSha256
  artifactPath := artifactPathOf call.artifactSha256
  method := call.method
  issuer := issuer
  audience := call.audience
  issuedAtMs := call.nowMs
  expiresAtMs := saturatingAdd call.nowMs (saturatingMul call.ttlSecs 1000)
  transferId := call.transfer.text
  singleUse := call.singleUse

def signedPayloads (issuer : String) (history : List IssueCall) : List (List UInt8) :=
  history.map (fun call => (call.manifest issuer).canonicalPayload)

namespace ArtifactTransferAuthority

def issueManifest (a : ArtifactTransferAuthority) (call : IssueCall) :
    SignedArtifactTransferManifest :=
  SignedArtifactTransferManifest.sign (call.manifest a.localNodeId) a

def verifyManifest (a : ArtifactTransferAuthority) (signed : SignedArtifactTransferManifest)
    (expectedSha256 : String) (expectedMethod : ArtifactTransferMethod)
    (expectedRequester : Option String) (nowMs : UInt64) : Except ManifestError Unit := do
  let m := signed.manifest
  signed.verify a
  ensure (m.version = defaultManifestVersion) (.unsupportedVersion m.version)
  ensure (m.method = expectedMethod) (.methodMismatch expectedMethod m.method)
  ensure (m.artifactSha256 = expectedSha256) (.digestMismatch expectedSha256 m.artifactSha256)
  ensure (m.artifactPath = artifactPathOf expectedSha256)
    (.pathMismatch (artifactPathOf expectedSha256) m.artifactPath)
  ensure (m.issuer = a.localNodeId) (.issuerMismatch a.localNodeId m.issuer)
  checkAudience expectedRequester m.audience
  ensure (m.issuedAtMs < m.expiresAtMs) .expiryNotAfterIssue
  ensure (nowMs < m.expiresAtMs) (.expired m.expiresAtMs)

end ArtifactTransferAuthority

variable {u : Unit} {requester : Option String} {signed : SignedArtifactTransferManifest}
  {a : ArtifactTransferAuthority}

theorem checkAudience_ok_iff {audience : Option String} :
    checkAudience requester audience = .ok u ↔ requester = audience := by
  rcases requester with _ | expected <;> rcases audience with _ | actual
  · exact iff_of_true rfl rfl
  · exact iff_of_false nofun nofun
  · exact iff_of_false nofun nofun
  · rw [checkAudience, ensure_ok_iff, Option.some.injEq]

theorem SignedArtifactTransferManifest.verify_ok_iff : signed.verify a = .ok u ↔
      ∃ signature, Bytes.hexDecode (Text.trim signed.signatureEd25519) = some signature ∧
        signature.length = 64 ∧ a.verifies signed.manifest.canonicalPayload signature = true := by
  grind [verify, bind_unit_ok_iff, ensure_ok_iff]

/-- What `verify_manifest` asks of a manifest. -/
theorem verifyManifest_ok_iff {sha256 : String} {method : ArtifactTransferMethod} {nowMs : UInt64} :
    a.verifyManifest signed sha256 method requester nowMs = .ok u ↔
      signed.verify a = .ok () ∧ signed.manifest.version = defaultManifestVersion ∧
        signed.manifest.method = method ∧ signed.manifest.artifactSha256 = sha256 ∧
        signed.manifest.artifactPath = artifactPathOf sha256 ∧
        signed.manifest.issuer = a.localNodeId ∧ requester = signed.manifest.audience ∧
        signed.manifest.issuedAtMs < signed.manifest.expiresAtMs ∧
        nowMs < signed.manifest.expiresAtMs := by
  simp [ArtifactTransferAuthority.verifyManifest, bind_unit_ok_iff, ensure_ok_iff,
    checkAudience_ok_iff]

namespace ArtifactTransferManifest

variable (m : ArtifactTransferManifest)

def frontFields : List String :=
  [field "version" (toString m.version), field "artifact_sha256" m.artifactSha256,
    field "artifact_path" m.artifactPath, field "method" m.method.asStr]

def backFields : List String :=
  [field "audience" (m.audience.getD ""), field "issued_at_ms" (toString m.issuedAtMs),
    field "expires_at_ms" (toString m.expiresAtMs), field "transfer_id" m.transferId,
    field "single_use" (toString m.singleUse)]

theorem toList_line (label value : String) :
    (line label value).toList = (field label value).toList ++ ['\n'] := String.toList_append

variable {label value : String} {m' : ArtifactTransferManifest}

theorem field_inj {value' : String} : field label value = field label value' ↔ value = value' := by
  rw [field, field, ← String.toList_inj, String.toList_append (s := label ++ "="),
    String.toList_append (s := label ++ "="), append_cancel_left_eq, String.toList_inj]

theorem feed_not_mem_field (hlabel : '\n' ∉ label.toList) (hvalue : '\n' ∉ value.toList) :
    '\n' ∉ (field label value).toList := by
  simp [field, hlabel, hvalue]

theorem canonicalText_lines :
    m.canonicalText.toList = terminated '\n' (m.frontFields.map String.toList ++
      (field "issuer" m.issuer).toList :: m.backFields.map String.toList) := by
  simp [canonicalText, frontFields, backFields, toList_line, terminated]

/-- The fields whose text somebody chooses are on one line. -/
structure OneLine (m : ArtifactTransferManifest) : Prop where
  artifactSha256 : '\n' ∉ m.artifactSha256.toList
  artifactPath : '\n' ∉ m.artifactPath.toList
  audience : '\n' ∉ (m.audience.getD "").toList
  transferId : '\n' ∉ m.transferId.toList

theorem feed_not_mem_toString (n : Nat) : '\n' ∉ (toString n).toList := by
  intro h
  nomatch (Text.isDigit_of_mem_toString h)

variable {m}

theorem OneLine.frontFields (h : m.OneLine) :
    ∀ piece ∈ m.frontFields.map String.toList, '\n' ∉ piece := by
  have hmethod : '\n' ∉ m.method.asStr.toList := by cases m.method <;> decide
  simp only [ArtifactTransferManifest.frontFields, map_cons, map_nil, forall_mem_cons]
  refine ⟨feed_not_mem_field (by decide) (feed_not_mem_toString _),
    feed_not_mem_field (by decide) h.artifactSha256,
    feed_not_mem_field (by decide) h.artifactPath, feed_not_mem_field (by decide) hmethod, ?_⟩
  exact nofun

theorem OneLine.backFields (h : m.OneLine) :
    ∀ piece ∈ m.backFields.map String.toList, '\n' ∉ piece := by
  have hflag : '\n' ∉ (toString m.singleUse).toList := by cases m.singleUse <;> decide
  simp only [ArtifactTransferManifest.backFields, map_cons, map_nil, forall_mem_cons]
  refine ⟨feed_not_mem_field (by decide) h.audience,
    feed_not_mem_field (by decide) (feed_not_mem_toString _),
    feed_not_mem_field (by decide) (feed_not_mem_toString _),
    feed_not_mem_field (by decide) h.transferId, feed_not_mem_field (by decide) hflag, ?_⟩
  exact nofun

theorem fields_of_canonicalPayload (hline : m.OneLine) (hissuer : m.issuer = m'.issuer)
    (h : m.canonicalPayload = m'.canonicalPayload) :
    m.frontFields = m'.frontFields ∧ m.backFields = m'.backFields := by
  have htext := congrArg String.toList (Text.utf8_injective h)
  rw [canonicalText_lines, canonicalText_lines, hissuer] at htext
  have hlen : ∀ m : ArtifactTransferManifest, (m.frontFields.map String.toList).length = 4 ∧
      (m.backFields.map String.toList).length = 5 := fun _ => ⟨rfl, rfl⟩
  have hpieces := terminated_inj_around hline.frontFields hline.backFields
    ((hlen m).1.trans (hlen m').1.symm) ((hlen m).2.trans (hlen m').2.symm) htext
  have hinj : Function.Injective (List.map String.toList) :=
    map_injective_iff.mpr fun _ _ heq => String.toList_inj.mp heq
  exact ⟨hinj hpieces.1, hinj hpieces.2⟩

theorem asStr_inj {x y : ArtifactTransferMethod} (h : x.asStr = y.asStr) : x = y := by
  cases x <;> cases y <;> first | rfl | nomatch h

theorem toString_bool_inj {x y : Bool} (h : toString x = toString y) : x = y := by
  cases x <;> cases y <;> first | rfl | nomatch h

theorem audience_inj {x y : Option String} (hx : x ≠ some "") (hy : y ≠ some "")
    (h : x.getD "" = y.getD "") : x = y := by
  rcases x with _ | x <;> rcases y with _ | y
  · rfl
  · exact absurd (congrArg some h.symm) hy
  · exact absurd (congrArg some h) hx
  · exact congrArg some h

theorem canonicalPayload_inj (hline : m.OneLine) (hissuer : m.issuer = m'.issuer)
    (haudience : m.audience ≠ some "") (haudience' : m'.audience ≠ some "")
    (h : m.canonicalPayload = m'.canonicalPayload) : m = m' := by
  rcases fields_of_canonicalPayload hline hissuer h with ⟨hfront, hback⟩
  simp only [frontFields, backFields, List.cons.injEq, field_inj, and_true] at hfront hback
  rcases hfront with ⟨hversion, hsha, hpath, hmethod⟩
  rcases hback with ⟨haud, hissued, hexpires, htransfer, hsingle⟩
  have hversion := UInt8.toNat_inj.mp (Text.toString_inj hversion)
  have hissued := UInt64.toNat_inj.mp (Text.toString_inj hissued)
  have hexpires := UInt64.toNat_inj.mp (Text.toString_inj hexpires)
  have haud := audience_inj haudience haudience' haud
  cases m
  cases m'
  simp only at *
  rw [hversion, hsha, hpath, asStr_inj hmethod, hissuer, haud, hissued, hexpires, htransfer,
    toString_bool_inj hsingle]

end ArtifactTransferManifest

open ArtifactTransferManifest

/-- The digest and the audience are one line each, and the audience has a name. -/
def IssueCall.OneLine (call : IssueCall) : Prop :=
  '\n' ∉ call.artifactSha256.toList ∧ '\n' ∉ (call.audience.getD "").toList ∧
    call.audience ≠ some ""

instance (call : IssueCall) : Decidable call.OneLine := inferInstanceAs (Decidable (_ ∧ _))

theorem feed_not_mem_hexEncode (bytes : List UInt8) : '\n' ∉ (Bytes.hexEncode bytes).toList := by
  have hdigit : ∀ n < 16, '\n' ≠ Bytes.hexDigit n := by decide
  intro h
  rcases Bytes.hexDigit_of_mem_hexEncode h with ⟨n, hn, heq⟩
  exact hdigit n hn heq

theorem Uuid.feed_not_mem_text (id : Uuid) : '\n' ∉ id.text.toList := by
  simp only [Uuid.text, String.toList_append, mem_append, not_or]
  simp [feed_not_mem_hexEncode]

variable {call : IssueCall}

theorem IssueCall.OneLine.manifest (h : call.OneLine) (issuer : String) :
    (call.manifest issuer).OneLine where
  artifactSha256 := h.1
  artifactPath := by
    have hdir : '\n' ∉ "/artifacts/".toList := by decide
    change '\n' ∉ ("/artifacts/" ++ call.artifactSha256).toList
    rw [String.toList_append, mem_append]
    exact fun hmem => hmem.elim hdir h.1
  audience := h.2.1
  transferId := call.transfer.feed_not_mem_text

theorem decode_issued_signature (a : ArtifactTransferAuthority) (call : IssueCall) :
    Bytes.hexDecode (Text.trim (a.issueManifest call).signatureEd25519) =
      some (a.sign (call.manifest a.localNodeId).canonicalPayload) := by
  have htrim : Text.trim (a.issueManifest call).signatureEd25519 =
      (a.issueManifest call).signatureEd25519 := by
    refine Text.trim_of_no_space fun c hc => ?_
    rcases Bytes.hexDigit_of_mem_hexEncode hc with ⟨n, hn, rfl⟩
    have hdigit : ∀ n < 16, Text.isWhiteSpace (Bytes.hexDigit n) = false := by decide
    exact hdigit n hn
  rw [htrim]
  exact Bytes.hexDecode_hexEncode _

/-- The authority takes its own signature of what it issues. -/
def ArtifactTransferAuthority.VerifiesIssued (a : ArtifactTransferAuthority) (call : IssueCall) :
    Prop :=
  a.verifies (call.manifest a.localNodeId).canonicalPayload
    (a.sign (call.manifest a.localNodeId).canonicalPayload) = true

theorem verify_issued_signature {a : ArtifactTransferAuthority} {m : ArtifactTransferManifest}
    (hpayload : m.canonicalPayload = (call.manifest a.localNodeId).canonicalPayload)
    (hsigned : a.VerifiesIssued call) :
    SignedArtifactTransferManifest.verify ⟨m, (a.issueManifest call).signatureEd25519⟩ a =
      .ok () := by
  refine SignedArtifactTransferManifest.verify_ok_iff.mpr
    ⟨_, decode_issued_signature a call, a.signSize _, ?_⟩
  rw [hpayload]
  exact hsigned

theorem issued_is_accepted (a : ArtifactTransferAuthority) (call : IssueCall) (nowMs : UInt64)
    (hsigned : a.VerifiesIssued call)
    (hissued : call.nowMs < (call.manifest a.localNodeId).expiresAtMs)
    (hnow : nowMs < (call.manifest a.localNodeId).expiresAtMs) :
    a.verifyManifest (a.issueManifest call) call.artifactSha256 call.method call.audience nowMs =
      .ok () :=
  verifyManifest_ok_iff.mpr
    ⟨verify_issued_signature rfl hsigned, rfl, rfl, rfl, rfl, rfl, rfl, hissued, hnow⟩

/-- What an authority accepts, it has issued. -/
theorem accepted_was_issued (a : ArtifactTransferAuthority) (history : List IssueCall)
    (hunforgeable : ∀ payload signature, a.verifies payload signature = true →
      payload ∈ signedPayloads a.localNodeId history)
    (hcalls : ∀ call ∈ history, call.OneLine) (signed : SignedArtifactTransferManifest)
    (sha256 : String) (method : ArtifactTransferMethod) (requester : Option String)
    (nowMs : UInt64) (hrequester : requester ≠ some "")
    (haccepted : a.verifyManifest signed sha256 method requester nowMs = .ok ()) :
    ∃ call ∈ history, (a.issueManifest call).manifest = signed.manifest := by
  rcases verifyManifest_ok_iff.mp haccepted with
    ⟨hverify, -, -, -, -, hissuer, haudience, -, -⟩
  rcases SignedArtifactTransferManifest.verify_ok_iff.mp hverify with ⟨signature, -, -, hsigned⟩
  rcases mem_map.mp (hunforgeable _ _ hsigned) with ⟨call, hcall, hpayload⟩
  have hline := hcalls call hcall
  refine ⟨call, hcall, ?_⟩
  exact canonicalPayload_inj (hline.manifest a.localNodeId) hissuer.symm hline.2.2
    (haudience ▸ hrequester) hpayload

def ArtifactTransferAuthority.ideal (localNodeId : String) (history : List IssueCall) :
    ArtifactTransferAuthority where
  localNodeId := localNodeId
  sign := fun _ => List.replicate 64 0
  verifies := fun payload signature =>
    (signedPayloads localNodeId history).contains payload && signature == List.replicate 64 0
  signSize := fun _ => List.length_replicate

theorem ideal_unforgeable (localNodeId : String) (history : List IssueCall) : ∀ payload signature,
      (ArtifactTransferAuthority.ideal localNodeId history).verifies payload signature = true →
        payload ∈ signedPayloads localNodeId history := by
  intro payload signature h
  rw [ArtifactTransferAuthority.ideal, Bool.and_eq_true] at h
  exact contains_iff_mem.mp h.1

theorem ideal_verifies_sign {localNodeId : String} {history : List IssueCall}
    (hcall : call ∈ history) :
    (ArtifactTransferAuthority.ideal localNodeId history).VerifiesIssued call := by
  refine Bool.and_eq_true_iff.mpr ⟨contains_iff_mem.mpr ?_, beq_self_eq_true _⟩
  exact mem_map_of_mem hcall

/-- A manifest for another node, presented by that node. -/
theorem issued_manifest_accepted :
    let call := issueReadForAudience 1000 ⟨List.replicate 16 0, rfl⟩ "00ff" "node-2"
    let a := ArtifactTransferAuthority.ideal "node-1" [call]
    (∀ call' ∈ [call], call'.OneLine) ∧
      a.verifyManifest (a.issueManifest call) "00ff" .get (some "node-2") 2000 = .ok () ∧
      ∃ call' ∈ [call], (a.issueManifest call').manifest = (a.issueManifest call).manifest := by
  intro call a
  have hcalls : ∀ call' ∈ [call], call'.OneLine := by decide
  have haccepted :
      a.verifyManifest (a.issueManifest call) "00ff" .get (some "node-2") 2000 = .ok () :=
    issued_is_accepted a call 2000 (ideal_verifies_sign (.head _)) (by decide) (by decide)
  exact ⟨hcalls, haccepted, accepted_was_issued a [call] (ideal_unforgeable _ _) hcalls
    (a.issueManifest call) "00ff" .get (some "node-2") 2000 (by decide) haccepted⟩

def audienceLines (first : String) (issuedAtMs expiresAtMs : UInt64) (transferId : String) :
    String :=
  first ++ "\n" ++ line "issued_at_ms" (toString issuedAtMs) ++
    line "expires_at_ms" (toString expiresAtMs) ++ field "transfer_id" transferId

/-- The first line of the audience only. The manifest's own lines go to the transfer id. -/
def ArtifactTransferManifest.recut (m : ArtifactTransferManifest) (first : String)
    (issuedAtMs expiresAtMs : UInt64) (transferId : String) : ArtifactTransferManifest :=
  { m with
    audience := some first
    issuedAtMs := issuedAtMs
    expiresAtMs := expiresAtMs
    transferId := transferId ++ "\n" ++ line "issued_at_ms" (toString m.issuedAtMs) ++
      line "expires_at_ms" (toString m.expiresAtMs) ++ field "transfer_id" m.transferId }

theorem canonicalText_recut (m : ArtifactTransferManifest) (first : String)
    (issuedAtMs expiresAtMs : UInt64) (transferId : String)
    (haudience : m.audience = some (audienceLines first issuedAtMs expiresAtMs transferId)) :
    (m.recut first issuedAtMs expiresAtMs transferId).canonicalText = m.canonicalText := by
  simp only [canonicalText, recut, haudience, Option.getD_some,
    audienceLines, line, field, String.append_assoc]

/-- A manifest for an audience of several lines is one for its first line too. -/
theorem accepts_audience_lines (a : ArtifactTransferAuthority) (call : IssueCall) (first : String)
    (issuedAtMs expiresAtMs nowMs : UInt64) (transferId : String)
    (haudience : call.audience = some (audienceLines first issuedAtMs expiresAtMs transferId))
    (hsigned : a.VerifiesIssued call)
    (hissued : issuedAtMs < expiresAtMs) (hnow : nowMs < expiresAtMs) :
    a.verifyManifest ⟨(call.manifest a.localNodeId).recut first issuedAtMs expiresAtMs transferId,
        (a.issueManifest call).signatureEd25519⟩
      call.artifactSha256 call.method (some first) nowMs = .ok () := by
  have hpayload : ((call.manifest a.localNodeId).recut first issuedAtMs expiresAtMs
      transferId).canonicalPayload = (call.manifest a.localNodeId).canonicalPayload :=
    congrArg Text.utf8 (canonicalText_recut _ _ _ _ _ haudience)
  exact verifyManifest_ok_iff.mpr
    ⟨verify_issued_signature hpayload hsigned, rfl, rfl, rfl, rfl, rfl, rfl, hissued, hnow⟩

/-- A manifest for one minute becomes one that does not expire. -/
theorem accepted_not_issued :
    let audience := audienceLines "node-2" 1 18446744073709551615 "x"
    let call := issueReadForAudience 1000 ⟨List.replicate 16 0, rfl⟩ "00ff" audience
    let a := ArtifactTransferAuthority.ideal "node-1" [call]
    boundAudiences [audience] = [audience] ∧
      (∀ payload signature, a.verifies payload signature = true →
        payload ∈ signedPayloads a.localNodeId [call]) ∧
      ∃ signed, a.verifyManifest signed "00ff" .get (some "node-2") 1000000000000 = .ok () ∧
        ∀ call' ∈ [call], (a.issueManifest call').manifest ≠ signed.manifest := by
  intro audience call a
  have haccepted := accepts_audience_lines a call "node-2" 1 18446744073709551615 1000000000000 "x"
    rfl (ideal_verifies_sign (.head _)) (by decide) (by decide)
  refine ⟨by decide +kernel, ideal_unforgeable "node-1" [call], _, haccepted, ?_⟩
  intro call' hcall' heq
  rw [mem_singleton] at hcall'
  rw [hcall'] at heq
  nomatch (congrArg issuedAtMs heq)

end WasmCloud
