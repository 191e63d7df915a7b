import WasmCloud.Artifact.Contents

/-!
# Pinned Artifacts

A source pins an artifact by the digest it is to have, or by a reference that names a
digest. A source with a reference is fetched by the reference alone, and the digest beside
it is not compared. Whether a reference is pinned is read from its `@`, and whether the
registry resolves it from the text behind the `@`, so `app@latest` is pinned and resolved.

Two ingestions agree if their bytes have one digest: collisions are not excluded.
-/

namespace WasmCloud

/-- The libraries that hash and that change letters to lowercase. -/
structure ArtifactLibrary where
  digest : List UInt8 → List UInt8
  toLowercase : String → String
  length_digest : ∀ bytes, (digest bytes).length = 32
  digest_ne : digest [] ≠ digest [0]
  toLowercase_hex : ∀ bytes, toLowercase (Bytes.hexEncode bytes) = Bytes.hexEncode bytes

/-- `ingest_remote_artifact` up to the announcement. `saved` is what the database answers. -/
def ingestRemoteArtifact (digest : List UInt8 → List UInt8) (env : FetchEnv) (table : RawTable)
    (saved : Except PlatformError Unit) (artifact : RemoteArtifactSource) :
    Except PlatformError (String × List UInt8) := do
  let (expectedHash, bytes) ← ingestBytes digest env artifact
  match table.get? expectedHash with
  | some existing => return (expectedHash, existing.2)
  | none =>
    saved
    return (expectedHash, bytes)

namespace ArtifactLibrary

variable (lib : ArtifactLibrary)

/-- What the source is ingested as, for some registry and some contents of the table. -/
def Ingests (artifact : RemoteArtifactSource) (bytes : List UInt8) : Prop :=
  ∃ (env : FetchEnv) (actions : List RawAction) (saved : Except PlatformError Unit)
    (hash : String), env.toLowercase = lib.toLowercase ∧
      ingestRemoteArtifact lib.digest env
        (runAll (rawStep lib.digest) ⟨OrdTable.empty, []⟩ actions).rawWasm saved artifact =
      .ok (hash, bytes)

/-- The text is the digest of the bytes, in letters of either case. -/
def Names (value : String) (bytes : List UInt8) : Prop :=
  ∃ hash, value = "sha256:" ++ hash ∧ hash.toList.length = 64 ∧
    hash.toList.all isAsciiHexdigit = true ∧
    lib.toLowercase hash = Bytes.hexEncode (lib.digest bytes)

/-- The digest beside a reference is the one it names; a reference without one is not pinned. -/
def PinsAgree (artifact : RemoteArtifactSource) : Prop :=
  ∀ reference parsed, artifact.reference = some reference →
    parseOciReference reference = .ok parsed →
    if Text.startsWith parsed.reference "sha256:" then
      -- A digest that nothing has is never fetched.
      ∀ bytes : List UInt8, bytes.length ≤ FetchEnv.maxRemoteArtifactBytes →
        lib.Names parsed.reference bytes → artifact.sha256 = "" ∨
          Bytes.hexEncode (lib.digest bytes) = lib.toLowercase artifact.sha256
    else artifact.sha256 = "" ∧ parsed.isDigest = false

/-- A registry with one artifact, whatever it is asked for. -/
def serving (bytes : List UInt8) : FetchEnv where
  credential _ := .ok ""
  urlScheme _ := .ok "https"
  parseIp _ := none
  toLowercase := lib.toLowercase
  os := "linux"
  architecture := "amd64"
  document _ _ := .ok ⟨none, [⟨"sha256:" ++ Bytes.hexEncode (lib.digest bytes), none⟩], []⟩
  answer _ := .ok ⟨true, "200 OK", none, [.ok bytes]⟩

variable {lib} {artifact : RemoteArtifactSource} {bytes : List UInt8} {env : FetchEnv}

theorem stripSha256Prefix_iff (henv : env.toLowercase = lib.toLowercase) (value : String) :
    env.stripSha256Prefix value = .ok (Bytes.hexEncode (lib.digest bytes)) ↔
      lib.Names value bytes := by
  unfold FetchEnv.stripSha256Prefix
  constructor
  · intro h
    split at h
    · cases h
    next hash hstrip =>
      split at h
      · cases h
      next hdigits =>
        simp only [ne_eq, Bool.or_eq_true, decide_eq_true_eq, Bool.not_eq_true', not_or, not_not,
          Bool.not_eq_false] at hdigits
        exact ⟨hash, (Text.stripPrefix_eq_some_iff _ _ _).mp hstrip, hdigits.1, hdigits.2,
          henv ▸ Except.ok.inj h⟩
  · rintro ⟨hash, rfl, hlength, hdigits, hlower⟩
    simp [Text.stripPrefix_append, hlength, hdigits, henv, hlower]

theorem names_hexEncode (bytes : List UInt8) :
    lib.Names ("sha256:" ++ Bytes.hexEncode (lib.digest bytes)) bytes := by
  refine ⟨_, rfl, ?_, ?_, lib.toLowercase_hex _⟩
  · rw [Bytes.length_hexEncode, lib.length_digest]
  · rw [List.all_eq_true]
    intro c hc
    rcases Bytes.hexDigit_of_mem_hexEncode hc with ⟨n, hn, rfl⟩
    rw [isAsciiHexdigit, Bytes.hexValue_hexDigit hn]
    rfl

theorem Ingests.fetched (h : lib.Ingests artifact bytes) :
    ∃ (env : FetchEnv) (fetched : List UInt8), env.toLowercase = lib.toLowercase ∧
      lib.digest fetched = lib.digest bytes ∧
      ingestBytes lib.digest env artifact = .ok (Bytes.hexEncode (lib.digest bytes), fetched) := by
  rcases h with ⟨env, actions, saved, hash, henv, h⟩
  rcases bind_ok_iff.mp h with ⟨⟨expectedHash, fetched⟩, hfetched, h⟩
  have hhash : Bytes.hexEncode (lib.digest bytes) = expectedHash := by
    dsimp only at h
    split at h
    next existing hget =>
      cases pure_ok_iff.mp h
      rcases OrdTable.get?_eq_some_iff.mp hget with ⟨hmem, hkey⟩
      exact ((rawInv_run lib.digest actions).table existing hmem).trans hkey
    next =>
      rcases bind_unit_ok_iff.mp h with ⟨-, h⟩
      cases pure_ok_iff.mp h
      exact (ingestBytes_ok hfetched).1.1
  rw [← hhash] at hfetched
  exact ⟨env, fetched, henv, Bytes.hexEncode_injective (ingestBytes_ok hfetched).1.1, hfetched⟩

variable {reference : String} {parsed : OciReference}

theorem Ingests.names (h : lib.Ingests artifact bytes)
    (hreference : artifact.reference = some reference)
    (hparsed : parseOciReference reference = .ok parsed)
    (hnamed : Text.startsWith parsed.reference "sha256:" = true) :
    lib.Names parsed.reference bytes := by
  rcases h.fetched with ⟨env, fetched, henv, -, hfetched⟩
  rcases (ingestBytes_ok hfetched).2 with ⟨hnone, -⟩ | ⟨_, _, hreference', hparsed', hblob⟩
  · nomatch (hreference.symm.trans hnone)
  · cases Option.some.inj (hreference.symm.trans hreference')
    cases Except.ok.inj (hparsed.symm.trans hparsed')
    rw [FetchEnv.blobHash, if_pos hnamed] at hblob
    exact (stripSha256Prefix_iff henv _).mp hblob

/-- A registry decides what a reference without a digest is ingested as. -/
theorem ingest_serving (hreference : artifact.reference = some reference)
    (hparsed : parseOciReference reference = .ok parsed)
    (hlength : bytes.length ≤ FetchEnv.maxRemoteArtifactBytes)
    (hnames : Text.startsWith parsed.reference "sha256:" = true →
      lib.Names parsed.reference bytes) :
    ingestRemoteArtifact lib.digest (lib.serving bytes) OrdTable.empty (.ok ()) artifact =
      .ok (Bytes.hexEncode (lib.digest bytes), bytes) := by
  have hblob : (lib.serving bytes).blobHash parsed = .ok (Bytes.hexEncode (lib.digest bytes)) := by
    rw [FetchEnv.blobHash]
    split
    next h => exact (stripSha256Prefix_iff rfl _).mpr (hnames h)
    next => exact (stripSha256Prefix_iff rfl _).mpr (names_hexEncode bytes)
  have hread : readResponseBytesWithLimit ⟨true, "200 OK", none, [.ok bytes]⟩
      FetchEnv.maxRemoteArtifactBytes "remote artifact download" = .ok bytes := by
    rw [readResponseBytesWithLimit, readChunksWithLimit, List.length_nil, Nat.zero_add,
      if_neg (Nat.not_lt.mpr hlength), List.nil_append, readChunksWithLimit]
  have hfetch : ∀ url, (lib.serving bytes).fetchHttpArtifactBytes lib.digest url
      (Bytes.hexEncode (lib.digest bytes)) = .ok bytes := by
    intro url
    change (readResponseBytesWithLimit _ _ _ >>= _) = _
    rw [hread]
    exact bind_unit_ok_iff.mpr ⟨ensure_ok_iff.mpr rfl, rfl⟩
  have hoci : (lib.serving bytes).fetchOciArtifactBytes lib.digest reference =
      .ok (Bytes.hexEncode (lib.digest bytes), bytes) :=
    bind_ok_iff.mpr ⟨parsed, hparsed, bind_ok_iff.mpr ⟨_, hblob,
      bind_ok_iff.mpr ⟨bytes, hfetch _, rfl⟩⟩⟩
  refine bind_ok_iff.mpr ⟨(_, bytes), ?_, rfl⟩
  unfold ingestBytes
  rw [hreference]
  cases artifact.credentialRef with
  | none | some credentialRef => exact hoci

/-- What is ingested is what is pinned, for every registry, exactly if the pins of the
    source agree. -/
theorem pinned_artifact_iff (lib : ArtifactLibrary) (artifact : RemoteArtifactSource) :
    ((artifact.sha256 ≠ "" → ∀ bytes, lib.Ingests artifact bytes →
        Bytes.hexEncode (lib.digest bytes) = lib.toLowercase artifact.sha256) ∧
      ∀ reference, artifact.reference = some reference →
        ociReferenceIsDigestPinned reference = .ok true →
        ∀ artifact' bytes bytes', artifact'.reference = some reference →
          lib.Ingests artifact bytes → lib.Ingests artifact' bytes' →
          lib.digest bytes = lib.digest bytes') ↔
      lib.PinsAgree artifact := by
  constructor
  · intro ⟨hsha, htwo⟩ reference parsed hreference hparsed
    split
    next hnamed =>
      intro bytes hlength hnames
      refine or_iff_not_imp_left.mpr (fun hgiven => hsha hgiven bytes ?_)
      exact ⟨lib.serving bytes, [], .ok (), _, rfl,
        ingest_serving hreference hparsed hlength (fun _ => hnames)⟩
    next hnamed =>
      -- The registry may lead to the empty artifact and to one of a single byte.
      have hserved : ∀ bytes : List UInt8, bytes.length ≤ 1 → lib.Ingests artifact bytes := by
        intro bytes hlength
        exact ⟨lib.serving bytes, [], .ok (), _, rfl, ingest_serving hreference hparsed
          (hlength.trans (by decide)) (fun h => absurd h hnamed)⟩
      have hempty := hserved [] (Nat.zero_le 1)
      have hbyte := hserved [0] (Nat.le_refl 1)
      constructor
      · by_contra hgiven
        exact lib.digest_ne (Bytes.hexEncode_injective
          ((hsha hgiven _ hempty).trans (hsha hgiven _ hbyte).symm))
      · rw [← Bool.not_eq_true]
        intro hpinned
        refine lib.digest_ne (htwo reference hreference ?_ artifact _ _ hreference hempty hbyte)
        exact bind_ok_iff.mpr ⟨parsed, hparsed, congrArg Except.ok hpinned⟩
  · intro hagree
    constructor
    · intro hgiven bytes h
      rcases h.fetched with ⟨env, fetched, henv, hdigest, hfetched⟩
      rcases ingestBytes_ok hfetched with ⟨⟨-, hlength⟩, ⟨-, hsource⟩ | hsource⟩
      · rw [hsource, henv]
      · rcases hsource with ⟨reference, parsed, hreference, hparsed, -⟩
        have hpins := hagree reference parsed hreference hparsed
        split at hpins
        next hnamed =>
          have hnames := h.names hreference hparsed hnamed
          rw [Names, ← hdigest] at hnames
          rw [← hdigest]
          exact (hpins fetched hlength hnames).resolve_left hgiven
        next => exact absurd hpins.1 hgiven
    · intro reference hreference hpinned artifact' bytes bytes' hreference' h h'
      rcases bind_ok_iff.mp hpinned with ⟨parsed, hparsed, hdigest⟩
      have hnamed : Text.startsWith parsed.reference "sha256:" = true := by
        by_contra hnot
        have hpins := hagree reference parsed hreference hparsed
        rw [if_neg hnot, pure_ok_iff.mp hdigest] at hpins
        nomatch hpins.2
      rcases h.names hreference hparsed hnamed with ⟨hash, hvalue, -, -, hlower⟩
      rcases h'.names hreference' hparsed hnamed with ⟨hash', hvalue', -, -, hlower'⟩
      have hsame : hash = hash' := (String.append_right_inj _).mp (hvalue.symm.trans hvalue')
      subst hsame
      exact Bytes.hexEncode_injective (hlower.symm.trans hlower')

def shortLibrary : ArtifactLibrary where
  digest := shortSha256
  toLowercase := id
  length_digest := fun bytes => by
    unfold shortSha256
    split_ifs <;> rfl
  digest_ne := by decide
  toLowercase_hex := fun bytes => rfl

def latestSource : RemoteArtifactSource :=
  ⟨some "oci://registry.example/app@latest", "", "", none, none⟩

/-- The reference counts as pinned, and two registries lead it to two artifacts. -/
theorem pinned_tag_moves :
    ociReferenceIsDigestPinned "oci://registry.example/app@latest" = .ok true ∧
      (∀ bytes ∈ [[], [0]], ingestRemoteArtifact shortLibrary.digest
        (shortLibrary.serving bytes) OrdTable.empty (.ok ()) latestSource =
          .ok (Bytes.hexEncode (shortLibrary.digest bytes), bytes)) ∧
      shortLibrary.digest [] ≠ shortLibrary.digest [0] := by
  have hparsed : parseOciReference "oci://registry.example/app@latest" =
      .ok ⟨"registry.example", "app", "latest", true⟩ := by decide
  refine ⟨bind_ok_iff.mpr ⟨_, hparsed, rfl⟩, fun bytes hbytes => ?_, shortLibrary.digest_ne⟩
  have hlength : bytes.length ≤ 1 := by
    simp only [List.mem_cons, List.not_mem_nil, or_false] at hbytes
    rcases hbytes with rfl | rfl <;> decide
  exact ingest_serving rfl hparsed (hlength.trans (by decide)) nofun

end ArtifactLibrary

end WasmCloud
