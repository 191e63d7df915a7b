import WasmCloud.Lib.Bytes
import WasmCloud.Lib.Text

/-!
# Billing Records and their Chain

A billing record carries the hash of the one before it and its own, which is taken over
all its other fields. A list of records is accepted when every record names its
predecessor's hash and its own hash is right.

What is hashed is the fields' bytes one after the other. Four texts stand next to each
other with nothing between them, so records whose texts only divide the same characters
differently are hashed alike: `SameDigest`. The hash function is a parameter, and that it
is injective is a hypothesis where it is used.
-/

namespace WasmCloud

open List

structure BillingRecord where
  seq : UInt64
  prevHash : String
  tenantId : String
  appId : String
  instanceId : String
  nodeId : String
  timestampMs : UInt64
  fuelConsumed : UInt64
  fuelQuota : UInt64
  ramBytes : UInt64
  wallClockMs : UInt64
  statusCode : UInt16
  isTrap : Bool
  recordHash : String
  deriving DecidableEq, Repr

namespace BillingRecord

/-- The four texts, as they stand next to each other. -/
def texts (r : BillingRecord) : String := r.tenantId ++ r.appId ++ r.instanceId ++ r.nodeId

/-- The fixed-width fields after the texts. -/
def tailBytes (r : BillingRecord) : List UInt8 :=
  Bytes.leBytes 8 r.timestampMs.toNat ++ (Bytes.leBytes 8 r.fuelConsumed.toNat ++
    (Bytes.leBytes 8 r.fuelQuota.toNat ++ (Bytes.leBytes 8 r.ramBytes.toNat ++
      (Bytes.leBytes 8 r.wallClockMs.toNat ++ (Bytes.leBytes 2 r.statusCode.toNat ++
        [if r.isTrap then 1 else 0])))))

/-- The bytes `compute_hash` feeds to the hash function, in order. -/
def hashedBytes (r : BillingRecord) : List UInt8 :=
  Bytes.leBytes 8 r.seq.toNat ++ (Text.utf8 r.prevHash ++ (Text.utf8 r.tenantId ++
    (Text.utf8 r.appId ++ (Text.utf8 r.instanceId ++ (Text.utf8 r.nodeId ++ r.tailBytes)))))

def computeHash (sha256 : List UInt8 → List UInt8) (r : BillingRecord) : String :=
  Bytes.hexEncode (sha256 r.hashedBytes)

end BillingRecord

/-- Why a list of records is not a chain. -/
inductive ChainError where
  | brokenLink (seq : UInt64) (expected actual : String)
  | tamperedRecord (seq : UInt64) (expected actual : String)
  deriving DecidableEq, Repr

def ChainError.text : ChainError → String
  | .brokenLink seq expected actual =>
    "Broken chain link at seq " ++ toString seq.toNat ++ ": expected hash " ++ expected ++
      ", got " ++ actual
  | .tamperedRecord seq expected actual =>
    "Tampered record at seq " ++ toString seq.toNat ++ ": expected hash " ++ expected ++
      ", got " ++ actual

/-- The loop of `verify_chain`, with the hash the next record has to name. -/
def verifyFrom (sha256 : List UInt8 → List UInt8) : String → List BillingRecord →
    Except ChainError Unit
  | _, [] => .ok ()
  | expectedPrev, record :: rest =>
    if record.prevHash ≠ expectedPrev then
      .error (.brokenLink record.seq expectedPrev record.prevHash)
    else if record.computeHash sha256 ≠ record.recordHash then
      .error (.tamperedRecord record.seq (record.computeHash sha256) record.recordHash)
    else verifyFrom sha256 record.recordHash rest

def verifyChain (sha256 : List UInt8 → List UInt8) (records : List BillingRecord) :
    Except ChainError Nat := do
  verifyFrom sha256 "" records
  return records.length

/-- The records agree in every field but the division of the four texts. -/
structure SameDigest (a b : BillingRecord) : Prop where
  seq : a.seq = b.seq
  prevHash : a.prevHash = b.prevHash
  texts : a.texts = b.texts
  timestampMs : a.timestampMs = b.timestampMs
  fuelConsumed : a.fuelConsumed = b.fuelConsumed
  fuelQuota : a.fuelQuota = b.fuelQuota
  ramBytes : a.ramBytes = b.ramBytes
  wallClockMs : a.wallClockMs = b.wallClockMs
  statusCode : a.statusCode = b.statusCode
  isTrap : a.isTrap = b.isTrap

theorem leBytes64_inj {x y : UInt64}
    (h : Bytes.leBytes 8 x.toNat = Bytes.leBytes 8 y.toNat) : x = y :=
  UInt64.toNat_inj.mp (Bytes.leBytes_inj x.toNat_lt y.toNat_lt h)

theorem leBytes16_inj {x y : UInt16}
    (h : Bytes.leBytes 2 x.toNat = Bytes.leBytes 2 y.toNat) : x = y :=
  UInt16.toNat_inj.mp (Bytes.leBytes_inj x.toNat_lt y.toNat_lt h)

theorem leBytes_append_inj {width m n : Nat} {xs ys : List UInt8}
    (h : Bytes.leBytes width m ++ xs = Bytes.leBytes width n ++ ys) :
    Bytes.leBytes width m = Bytes.leBytes width n ∧ xs = ys :=
  append_inj h (by rw [Bytes.length_leBytes, Bytes.length_leBytes])

theorem length_tailBytes (r : BillingRecord) : r.tailBytes.length = 43 := by
  simp [BillingRecord.tailBytes]

theorem hashedBytes_eq (r : BillingRecord) : r.hashedBytes = Bytes.leBytes 8 r.seq.toNat ++
      (Text.utf8 r.prevHash ++ (Text.utf8 r.texts ++ r.tailBytes)) := by
  simp [BillingRecord.hashedBytes, BillingRecord.texts, Text.utf8_append]

variable {a b : BillingRecord} {expected : String}

/-- Records with the same predecessor are hashed alike if only that division differs. -/
theorem hashedBytes_eq_iff (hprev : a.prevHash = b.prevHash) :
    a.hashedBytes = b.hashedBytes ↔ SameDigest a b := by
  rw [hashedBytes_eq, hashedBytes_eq, hprev]
  constructor
  · intro h
    -- The number in front and the 43 bytes at the end have fixed widths.
    rcases leBytes_append_inj h with ⟨hseq, hrest⟩
    have hmid := append_cancel_left hrest
    have hlen : a.tailBytes.length = b.tailBytes.length := by
      rw [length_tailBytes, length_tailBytes]
    rcases append_inj' hmid hlen with ⟨htexts, htail⟩
    rcases leBytes_append_inj htail with ⟨hts, htail⟩
    rcases leBytes_append_inj htail with ⟨hfuel, htail⟩
    rcases leBytes_append_inj htail with ⟨hquota, htail⟩
    rcases leBytes_append_inj htail with ⟨hram, htail⟩
    rcases leBytes_append_inj htail with ⟨hwall, htail⟩
    rcases leBytes_append_inj htail with ⟨hstatus, htrap⟩
    refine ⟨leBytes64_inj hseq, hprev, Text.utf8_injective htexts, leBytes64_inj hts,
      leBytes64_inj hfuel, leBytes64_inj hquota, leBytes64_inj hram, leBytes64_inj hwall,
      leBytes16_inj hstatus, ?_⟩
    revert htrap
    cases a.isTrap <;> cases b.isTrap <;> decide
  · intro h
    rw [h.seq, h.texts, BillingRecord.tailBytes, BillingRecord.tailBytes, h.timestampMs,
      h.fuelConsumed, h.fuelQuota, h.ramBytes, h.wallClockMs, h.statusCode, h.isTrap]

variable {sha256 : List UInt8 → List UInt8}

theorem computeHash_eq_iff (hinj : Function.Injective sha256) (hprev : a.prevHash = b.prevHash) :
    a.computeHash sha256 = b.computeHash sha256 ↔ SameDigest a b := by
  rw [← hashedBytes_eq_iff hprev]
  exact (Bytes.hexEncode_injective.comp hinj).eq_iff

theorem verifyFrom_cons_ok_iff {record : BillingRecord} {rest : List BillingRecord} :
    verifyFrom sha256 expected (record :: rest) = .ok () ↔
      record.prevHash = expected ∧ record.computeHash sha256 = record.recordHash ∧
        verifyFrom sha256 record.recordHash rest = .ok () := by
  rw [verifyFrom]
  split_ifs <;> simp_all

variable {rs : List BillingRecord}

/-- A list with the same hashes is accepted if it is hashed alike record by record. -/
theorem verifyFrom_iff_sameDigest (hinj : Function.Injective sha256) {rs' : List BillingRecord}
    (hok : verifyFrom sha256 expected rs = .ok ())
    (hhash : rs.map BillingRecord.recordHash = rs'.map BillingRecord.recordHash) :
    verifyFrom sha256 expected rs' = .ok () ↔ ∀ p ∈ rs.zip rs', SameDigest p.1 p.2 := by
  induction rs generalizing expected rs' with
  | nil =>
    have hnil : rs' = [] := map_eq_nil_iff.mp hhash.symm
    rw [hnil]
    exact iff_of_true rfl (fun p hp => nomatch hp)
  | cons a rs ih =>
    cases rs' with
    | nil => nomatch hhash
    | cons b rs' =>
      rw [map_cons, map_cons, List.cons.injEq] at hhash
      rcases verifyFrom_cons_ok_iff.mp hok with ⟨hprev, hcomputed, hrest⟩
      rw [verifyFrom_cons_ok_iff, zip_cons_cons, forall_mem_cons, ← hhash.1, ih hrest hhash.2]
      -- Both records name the hash expected here, so the digests decide.
      constructor
      · rintro ⟨hprev', hcomputed', hdigests⟩
        exact ⟨(computeHash_eq_iff hinj (hprev.trans hprev'.symm)).mp
          (hcomputed.trans hcomputed'.symm), hdigests⟩
      · rintro ⟨hsame, hdigests⟩
        exact ⟨hsame.prevHash.symm.trans hprev,
          ((computeHash_eq_iff hinj hsame.prevHash).mpr hsame).symm.trans hcomputed, hdigests⟩

theorem verifyChain_ok_iff :
    (∃ n, verifyChain sha256 rs = .ok n) ↔ verifyFrom sha256 "" rs = .ok () := by
  rw [verifyChain]
  cases verifyFrom sha256 "" rs with
  | error e =>
    constructor
    · rintro ⟨n, h⟩
      cases h
    · intro h
      cases h
  | ok u => exact ⟨fun _ => rfl, fun _ => ⟨rs.length, rfl⟩⟩

theorem verifyChain_error_iff :
    (∃ e, verifyChain sha256 rs = .error e) ↔ ¬ verifyFrom sha256 "" rs = .ok () := by
  rw [← verifyChain_ok_iff]
  cases verifyChain sha256 rs with
  | error e =>
    refine ⟨?_, fun _ => ⟨e, rfl⟩⟩
    rintro _ ⟨n, h⟩
    cases h
  | ok n =>
    refine ⟨?_, fun h => absurd ⟨n, rfl⟩ h⟩
    rintro ⟨e, h⟩
    cases h

/-- An alteration of an accepted list that keeps the hashes is rejected exactly
    when some record differs in a number, in the flag, in the hash it names, or
    in its four texts taken together. -/
theorem verifyChain_rejects_iff {sha256 : List UInt8 → List UInt8}
    (hinj : Function.Injective sha256) {rs rs' : List BillingRecord}
    (hok : ∃ n, verifyChain sha256 rs = .ok n)
    (hhash : rs.map BillingRecord.recordHash = rs'.map BillingRecord.recordHash) :
    (∃ e, verifyChain sha256 rs' = .error e) ↔ ∃ p ∈ rs.zip rs', ¬ SameDigest p.1 p.2 := by
  rw [verifyChain_error_iff, verifyFrom_iff_sameDigest hinj (verifyChain_ok_iff.mp hok) hhash]
  simp

def sampleRecord : BillingRecord where
  seq := 1
  prevHash := ""
  tenantId := "acme"
  appId := "default/api:v1"
  instanceId := "i-1"
  nodeId := "node-0"
  timestampMs := 1712400000000
  fuelConsumed := 1000
  fuelQuota := 100000000
  ramBytes := 1024
  wallClockMs := 10
  statusCode := 200
  isTrap := false
  recordHash := "0f1c85c3260ca272e25666791a7039233fd0d5687274a0fe2a228218fee51ace"

def cheaperRecord : BillingRecord := { sampleRecord with fuelConsumed := 1 }

/-- One character moved from the application's identifier to the tenant's. -/
def shiftedRecord : BillingRecord :=
  { sampleRecord with tenantId := "acmed", appId := "efault/api:v1" }

def sampleDigest : List UInt8 :=
  [15, 28, 133, 195, 38, 12, 162, 114, 226, 86, 102, 121, 26, 112, 57, 35, 63, 208, 213, 104, 114,
    116, 160, 254, 42, 34, 130, 24, 254, 229, 26, 206]

def cheaperDigest : List UInt8 :=
  [125, 195, 34, 32, 248, 4, 241, 138, 227, 52, 107, 103, 196, 171, 246, 158, 74, 48, 47, 116, 79,
    88, 208, 24, 32, 198, 217, 78, 125, 12, 69, 254]

def sampleSha256 (bytes : List UInt8) : List UInt8 :=
  if bytes = sampleRecord.hashedBytes then sampleDigest
  else if bytes = cheaperRecord.hashedBytes then cheaperDigest
  else List.replicate 33 0 ++ bytes

theorem injective_ite {f : List UInt8 → List UInt8} (hf : Function.Injective f) {x d : List UInt8}
    (hd : ∀ y, f y ≠ d) : Function.Injective (fun y => if y = x then d else f y) := by
  intro a b h
  dsimp only at h
  split_ifs at h with ha hb hb
  · rw [ha, hb]
  · exact absurd h.symm (hd b)
  · exact absurd h (hd a)
  · exact hf h

theorem append_ne_digest {d : List UInt8} (hd : d.length = 32) (x : List UInt8) :
    List.replicate 33 0 ++ x ≠ d := by
  intro h
  have hlen := congrArg List.length h
  rw [hd, length_append, length_replicate] at hlen
  omega

theorem sampleSha256_ne {d : List UInt8} (hd : d.length = 32) (hsample : sampleDigest ≠ d)
    (hcheaper : cheaperDigest ≠ d) (x : List UInt8) : sampleSha256 x ≠ d := by
  unfold sampleSha256
  split_ifs
  · exact hsample
  · exact hcheaper
  · exact append_ne_digest hd x

theorem sampleSha256_injective : Function.Injective sampleSha256 := by
  refine injective_ite (injective_ite (append_right_injective _) (append_ne_digest rfl)) fun x => ?_
  split_ifs
  · decide
  · exact append_ne_digest rfl x

/-- Less fuel is noticed. -/
theorem verifyChain_rejects_cheaperRecord :
    ∃ e, verifyChain sampleSha256 [cheaperRecord] = .error e := by
  have hok : verifyChain sampleSha256 [sampleRecord] = .ok 1 := rfl
  have hhash : [sampleRecord].map BillingRecord.recordHash =
      [cheaperRecord].map BillingRecord.recordHash := rfl
  refine (verifyChain_rejects_iff sampleSha256_injective ⟨1, hok⟩ hhash).mpr
    ⟨(sampleRecord, cheaperRecord), mem_singleton.mpr rfl, fun h => ?_⟩
  nomatch h.fuelConsumed

/-- Another tenant is not. -/
theorem verifyChain_accepts_shifted_text :
    Function.Injective sampleSha256 ∧ verifyChain sampleSha256 [sampleRecord] = .ok 1 ∧
      shiftedRecord.recordHash = sampleRecord.recordHash ∧
      shiftedRecord.tenantId ≠ sampleRecord.tenantId ∧
      verifyChain sampleSha256 [shiftedRecord] = .ok 1 :=
  ⟨sampleSha256_injective, rfl, rfl, by decide, rfl⟩

end WasmCloud
