import Mathlib.Data.List.Sort
import WasmCloud.Billing.Store
import WasmCloud.Lib.Run

/-!
# The Billing Writer

The writer turns inputs into records, buffers them, and writes a full or old buffer to the
database: each record in a transaction of its own, then the cursor in another. It may stop
between any two of them, and takes up the chain from the cursor when it starts again, or
from the records if there is no cursor.

The number and the hash in memory move on whether a record is written or not, and the
cursor can stay behind the records. The writer is *intact* while it started from the end of
the stored chain and none of its writes failed.
-/

namespace WasmCloud

open List

structure BillingInput where
  tenantId : String
  appId : String
  instanceId : String
  nodeId : String
  fuelConsumed : UInt64
  fuelQuota : UInt64
  ramBytes : UInt64
  wallClockMs : UInt64
  statusCode : UInt16
  isTrap : Bool
  deriving DecidableEq, Repr

/-- The memory of `billing_writer_loop`. While `flushing`, `batch` is still to be written. -/
structure Writer where
  seq : UInt64
  prevHash : String
  batch : List BillingRecord
  flushing : Bool
  deriving DecidableEq, Repr

/-- `persisted` are the records written, and `intact` is whether the running writer started from
    the end of the stored chain and had no write fail. -/
structure WriterState where
  store : BillingStore
  writer : Option Writer
  persisted : List BillingRecord
  intact : Bool

/-- A flush starts when the buffer is old, when the channel is closed, or on shutdown. -/
inductive WriterAction where
  | start (cursorReadable seqReadable hashReadable : Bool)
  | receive (input : BillingInput) (timestampMs : UInt64)
  | flush
  | writeNext (succeeds : Bool)
  | saveCursor (succeeds : Bool)
  | stop
  deriving DecidableEq, Repr

def batchSize : Nat := 64

def WriterState.init : WriterState := ⟨.empty, none, [], false⟩

/-- Where `billing_writer_loop` takes up the chain. A failed read finds nothing. -/
def recoverCursor (store : BillingStore) (nodeId : String)
    (cursorReadable seqReadable hashReadable : Bool) : UInt64 × String :=
  match if cursorReadable then store.loadCursor nodeId else none with
  | some cursor => cursor
  | none =>
    (if seqReadable then UInt64.ofNat (store.getBillingSequenceForNode nodeId) else 0,
      if hashReadable then store.getLastBillingHashForNode nodeId else "")

def chainEnd (store : BillingStore) (nodeId : String) : Nat × String :=
  (store.getBillingSequenceForNode nodeId, store.getLastBillingHashForNode nodeId)

section

variable (sha256 : List UInt8 → List UInt8) (nodeId : String)

/-- The record for an input, with its hash. -/
def buildRecord (w : Writer) (input : BillingInput) (timestampMs : UInt64) : BillingRecord :=
  let record : BillingRecord :=
    { seq := w.seq + 1
      prevHash := w.prevHash
      tenantId := input.tenantId
      appId := input.appId
      instanceId := input.instanceId
      nodeId := nodeId
      timestampMs := timestampMs
      fuelConsumed := input.fuelConsumed
      fuelQuota := input.fuelQuota
      ramBytes := input.ramBytes
      wallClockMs := input.wallClockMs
      statusCode := input.statusCode
      isTrap := input.isTrap
      recordHash := "" }
  { record with recordHash := record.computeHash sha256 }

/-- An input arrives. A full buffer is flushed at once. -/
def Writer.receive (w : Writer) (input : BillingInput) (timestampMs : UInt64) : Writer :=
  let record := buildRecord sha256 nodeId w input timestampMs
  let batch := w.batch ++ [record]
  { seq := record.seq
    prevHash := record.recordHash
    batch := batch
    flushing := decide (batchSize ≤ batch.length) }

/-- `billing_writer_loop` and `flush_batch`, transaction by transaction. -/
def writerStep (s : WriterState) : WriterAction → WriterState
  | .start cursorReadable seqReadable hashReadable =>
    match s.writer with
    | some _ => s
    | none =>
      let cursor := recoverCursor s.store nodeId cursorReadable seqReadable hashReadable
      { s with
        writer := some ⟨cursor.1, cursor.2, [], false⟩
        intact := decide ((cursor.1.toNat, cursor.2) = chainEnd s.store nodeId) }
  | .receive input timestampMs =>
    match s.writer with
    | some w =>
      if w.flushing then s
      else { s with writer := some (w.receive sha256 nodeId input timestampMs) }
    | none => s
  | .flush =>
    match s.writer with
    | some w => { s with writer := some { w with flushing := w.flushing || !w.batch.isEmpty } }
    | none => s
  | .writeNext succeeds =>
    match s.writer with
    | some ⟨seq, prevHash, record :: rest, true⟩ =>
      let written := { s with writer := some ⟨seq, prevHash, rest, true⟩ }
      if succeeds then
        { written with
          store := s.store.writeBillingRecord record
          persisted := s.persisted ++ [record] }
      -- The record is dropped, but the number and the hash have moved on.
      else { written with intact := false }
    | _ => s
  | .saveCursor succeeds =>
    match s.writer with
    | some ⟨seq, prevHash, [], true⟩ =>
      let flushed := { s with writer := some ⟨seq, prevHash, [], false⟩ }
      -- What is saved is where the memory stands, whatever was written.
      if succeeds then { flushed with store := s.store.saveCursor nodeId (seq, prevHash) }
      else flushed
    | _ => s
  | .stop => { s with writer := none }

def verifyNodeBillingChain (store : BillingStore) : Except String Nat :=
  let records := store.getBillingRecordsForNode nodeId
  if records.isEmpty then .ok 0
  else
    match verifyChain sha256 (records.insertionSort (fun a b => a.seq.toNat ≤ b.seq.toNat)) with
    | .ok count => .ok count
    | .error e => .error e.text

end

/-- A record that continues a chain from the given number and hash. -/
structure Links (sha256 : List UInt8 → List UInt8) (nodeId : String) (last : Nat × String)
    (r : BillingRecord) : Prop where
  node : r.nodeId = nodeId
  seq : r.seq.toNat = last.1 + 1
  prevHash : r.prevHash = last.2
  recordHash : r.computeHash sha256 = r.recordHash

/-- Records that lead from one end of a chain to another. -/
def Segment (sha256 : List UInt8 → List UInt8) (nodeId : String) :
    Nat × String → List BillingRecord → Nat × String → Prop
  | first, [], last => first = last
  | first, r :: rs, last =>
    Links sha256 nodeId first r ∧ Segment sha256 nodeId (r.seq.toNat, r.recordHash) rs last

/-- Records are written by an intact writer, and the next number fits 64 bits. -/
def IntactStep (s : WriterState) : WriterAction → Prop
  | .writeNext succeeds => succeeds = true → s.intact = true
  | .receive _ _ => ∀ w ∈ s.writer, w.seq.toNat + 1 < 2 ^ 64
  | .start _ _ _ | .flush | .saveCursor _ | .stop => True

instance (s : WriterState) : ∀ a, Decidable (IntactStep s a)
  | .writeNext _ => inferInstanceAs (Decidable (_ → _))
  | .receive _ _ => inferInstanceAs (Decidable (∀ w ∈ s.writer, w.seq.toNat + 1 < 2 ^ 64))
  | .start _ _ _ | .flush | .saveCursor _ | .stop => instDecidableTrue

/-- The stored records are a chain, which the buffer of an intact writer continues. -/
structure WriterInv (sha256 : List UInt8 → List UInt8) (nodeId : String) (s : WriterState) :
    Prop where
  stored : s.store.billing.entries.Perm s.persisted
  chain : Segment sha256 nodeId (0, "") s.persisted (chainEnd s.store nodeId)
  pending : s.intact = true → ∀ w ∈ s.writer,
    Segment sha256 nodeId (chainEnd s.store nodeId) w.batch (w.seq.toNat, w.prevHash)

section

variable {sha256 : List UInt8 → List UInt8} {nodeId : String} {s : WriterState}
  {rs : List BillingRecord} {last first : Nat × String}

theorem segment_append {as bs : List BillingRecord} : Segment sha256 nodeId first (as ++ bs) last ↔
      ∃ mid, Segment sha256 nodeId first as mid ∧ Segment sha256 nodeId mid bs last := by
  induction as generalizing first with
  | nil => exact ⟨fun h => ⟨first, rfl, h⟩, fun ⟨_, heq, h⟩ => heq ▸ h⟩
  | cons r as ih =>
    simp only [cons_append, Segment, ih]
    exact ⟨fun ⟨hr, mid, has, hbs⟩ => ⟨mid, ⟨hr, has⟩, hbs⟩,
      fun ⟨mid, ⟨hr, has⟩, hbs⟩ => ⟨hr, mid, has, hbs⟩⟩

theorem segment_singleton {r : BillingRecord} (h : Links sha256 nodeId first r) :
    Segment sha256 nodeId first [r] (r.seq.toNat, r.recordHash) := ⟨h, rfl⟩

section Bounds

variable (h : Segment sha256 nodeId first rs last)
include h

theorem segment_bounds : first.1 ≤ last.1 ∧
      ∀ r ∈ rs, r.nodeId = nodeId ∧ first.1 < r.seq.toNat ∧ r.seq.toNat ≤ last.1 := by
  induction rs generalizing first with
  | nil =>
    have heq : first = last := h
    rw [heq]
    exact ⟨Nat.le_refl _, fun r hr => nomatch hr⟩
  | cons a rs ih =>
    rcases h with ⟨hlink, hrest⟩
    rcases ih hrest with ⟨hle, hall⟩
    have hseq := hlink.seq
    grind [hlink.node]

theorem segment_increasing : rs.Pairwise (fun a b => a.seq.toNat < b.seq.toNat) := by
  induction rs generalizing first with
  | nil => exact List.Pairwise.nil
  | cons a rs ih =>
    exact List.Pairwise.cons (fun r hr => ((segment_bounds h.2).2 r hr).2.1) (ih h.2)

theorem segment_verifyFrom : verifyFrom sha256 first.2 rs = .ok () := by
  induction rs generalizing first with
  | nil => rfl
  | cons a rs ih =>
    exact verifyFrom_cons_ok_iff.mpr ⟨h.1.prevHash, h.1.recordHash, ih h.2⟩

theorem segment_foldl_laterSeq : rs.foldl (BillingStore.laterSeq nodeId) first.1 = last.1 := by
  induction rs generalizing first with
  | nil => exact congrArg Prod.fst h
  | cons a rs ih =>
    have hseq := h.1.seq
    have hmax : max first.1 a.seq.toNat = a.seq.toNat := Nat.max_eq_right (by omega)
    rw [foldl_cons, BillingStore.laterSeq_eq, if_pos h.1.node, hmax]
    exact ih h.2

theorem segment_foldl_laterRecord {found : Option BillingRecord}
    (hfound : (found.map (·.recordHash)).getD "" = first.2) :
    ((rs.foldl (BillingStore.laterRecord nodeId) (first.1, found)).2.map (·.recordHash)).getD "" =
      last.2 := by
  induction rs generalizing first found with
  | nil => exact hfound.trans (congrArg Prod.snd h)
  | cons a rs ih =>
    have hseq := h.1.seq
    have hlater : a.nodeId = nodeId ∧ first.1 < a.seq.toNat := ⟨h.1.node, by omega⟩
    rw [foldl_cons, BillingStore.laterRecord, if_pos hlater]
    exact ih h.2 rfl

end Bounds

theorem laterSeq_comm (x y : BillingRecord) (z : Nat) :
    BillingStore.laterSeq nodeId (BillingStore.laterSeq nodeId z x) y =
      BillingStore.laterSeq nodeId (BillingStore.laterSeq nodeId z y) x := by
  simp only [BillingStore.laterSeq_eq]
  split_ifs <;> omega

variable {x y : BillingRecord} {store : BillingStore}

theorem laterRecord_comm (hxy : x.seq.toNat = y.seq.toNat → x = y)
    (z : Nat × Option BillingRecord) :
    BillingStore.laterRecord nodeId (BillingStore.laterRecord nodeId z x) y =
      BillingStore.laterRecord nodeId (BillingStore.laterRecord nodeId z y) x := by
  by_cases heq : x = y
  · rw [heq]
  have hne : x.seq.toNat ≠ y.seq.toNat := fun h => heq (hxy h)
  by_cases hx : x.nodeId = nodeId ∧ z.1 < x.seq.toNat
  · by_cases hy : y.nodeId = nodeId ∧ z.1 < y.seq.toNat
    · -- Both are later than what was found, and the later of the two stays.
      grind [BillingStore.laterRecord]
    · have hskip : ¬ (y.nodeId = nodeId ∧ x.seq.toNat < y.seq.toNat) :=
        fun h => hy ⟨h.1, hx.2.trans h.2⟩
      simp [BillingStore.laterRecord, if_pos hx, if_neg hy, if_neg hskip]
  · by_cases hy : y.nodeId = nodeId ∧ z.1 < y.seq.toNat
    · have hskip : ¬ (x.nodeId = nodeId ∧ y.seq.toNat < x.seq.toNat) :=
        fun h => hx ⟨h.1, hy.2.trans h.2⟩
      simp [BillingStore.laterRecord, if_neg hx, if_pos hy, if_neg hskip]
    · simp [BillingStore.laterRecord, if_neg hx, if_neg hy]

theorem stored_eq_of_seq (hstored : store.billing.entries.Perm rs)
    (h : Segment sha256 nodeId first rs last) (hx : x ∈ store.billing.entries)
    (hy : y ∈ store.billing.entries) (hseq : x.seq.toNat = y.seq.toNat) : x = y := by
  have hxnode := ((segment_bounds h).2 x (hstored.mem_iff.mp hx)).1
  have hynode := ((segment_bounds h).2 y (hstored.mem_iff.mp hy)).1
  -- All of one node, so the number is what is left of the key.
  refine OrdTable.eq_of_key_eq hx hy ?_
  rw [billingKey, billingKey, hxnode, hynode, hseq]

/-- Records in whatever order end where the chain they form ends. -/
theorem chainEnd_eq (hstored : store.billing.entries.Perm rs)
    (h : Segment sha256 nodeId (0, "") rs last) : chainEnd store nodeId = last := by
  -- The loops take the records in the order of the keys, which is another one.
  have hseq : store.getBillingSequenceForNode nodeId = last.1 := by
    rw [BillingStore.getBillingSequenceForNode,
      hstored.foldl_eq' (fun x _ y _ z => laterSeq_comm x y z)]
    exact segment_foldl_laterSeq h
  have hhash : store.getLastBillingHashForNode nodeId = last.2 := by
    rw [BillingStore.getLastBillingHashForNode,
      hstored.foldl_eq' (fun x hx y hy z => laterRecord_comm (stored_eq_of_seq hstored h hx hy) z)]
    exact segment_foldl_laterRecord h rfl
  exact Prod.ext hseq hhash

theorem writerInv_init : WriterInv sha256 nodeId WriterState.init where
  stored := List.Perm.nil
  chain := rfl
  pending := nofun

theorem writerInv_memory (hinv : WriterInv sha256 nodeId s) {writer : Option Writer}
    {intact : Bool} (hpending : intact = true → ∀ w ∈ writer,
      Segment sha256 nodeId (chainEnd s.store nodeId) w.batch (w.seq.toNat, w.prevHash)) :
    WriterInv sha256 nodeId { s with writer := writer, intact := intact } :=
  ⟨hinv.stored, hinv.chain, hpending⟩

variable {w : Writer}

theorem links_buildRecord (hseq : w.seq.toNat + 1 < 2 ^ 64) (input : BillingInput)
    (timestampMs : UInt64) :
    Links sha256 nodeId (w.seq.toNat, w.prevHash)
      (buildRecord sha256 nodeId w input timestampMs) where
  node := rfl
  seq := by
    change (w.seq + 1).toNat = w.seq.toNat + 1
    rw [UInt64.toNat_add]
    exact Nat.mod_eq_of_lt hseq
  prevHash := rfl
  recordHash := rfl

theorem segment_receive (hseq : w.seq.toNat + 1 < 2 ^ 64) (input : BillingInput)
    (timestampMs : UInt64) (h : Segment sha256 nodeId first w.batch (w.seq.toNat, w.prevHash)) :
    Segment sha256 nodeId first (w.receive sha256 nodeId input timestampMs).batch
      ((w.receive sha256 nodeId input timestampMs).seq.toNat,
        (w.receive sha256 nodeId input timestampMs).prevHash) :=
  segment_append.mpr ⟨_, h, segment_singleton (links_buildRecord hseq input timestampMs)⟩

theorem writerInv_write {record : BillingRecord} {rest : List BillingRecord}
    (hinv : WriterInv sha256 nodeId s)
    (hpending : Segment sha256 nodeId (chainEnd s.store nodeId) (record :: rest)
      (w.seq.toNat, w.prevHash)) (flushing : Bool) :
    WriterInv sha256 nodeId { s with
        store := s.store.writeBillingRecord record
        writer := some ⟨w.seq, w.prevHash, rest, flushing⟩
        persisted := s.persisted ++ [record] } := by
  rcases hpending with ⟨hlink, hrest⟩
  -- Its number is larger than all stored ones, so its key is new.
  have hnew : ∀ x ∈ s.store.billing, billingKey x ≠ billingKey record := by
    intro x hx hkey
    have hle := ((segment_bounds hinv.chain).2 x (hinv.stored.mem_iff.mp hx)).2.2
    have hseq := hlink.seq
    rw [(billingKey_inj hkey).2] at hle
    omega
  have hstored : (s.store.writeBillingRecord record).billing.entries.Perm
      (s.persisted ++ [record]) :=
    (OrdTable.insert_perm hnew).trans
      ((hinv.stored.cons record).trans (perm_append_singleton record s.persisted).symm)
  have hchain : Segment sha256 nodeId (0, "") (s.persisted ++ [record])
      (record.seq.toNat, record.recordHash) :=
    segment_append.mpr ⟨_, hinv.chain, segment_singleton hlink⟩
  have hend : chainEnd (s.store.writeBillingRecord record) nodeId =
      (record.seq.toNat, record.recordHash) := chainEnd_eq hstored hchain
  refine ⟨hstored, ?_, fun _ v hv => ?_⟩
  · rw [hend]
    exact hchain
  · cases hv
    rw [hend]
    exact hrest

theorem writerInv_step (s : WriterState) (a : WriterAction) (hgood : IntactStep s a)
    (hinv : WriterInv sha256 nodeId s) :
    WriterInv sha256 nodeId (writerStep sha256 nodeId s a) := by
  cases hwriter : s.writer with
  | none =>
    cases a with
    | start cursorReadable seqReadable hashReadable =>
      -- The buffer is empty, and intact means it starts at the chain's end.
      rw [writerStep, hwriter]
      refine writerInv_memory hinv fun hintact w hw => ?_
      cases hw
      exact (of_decide_eq_true hintact).symm
    | stop => exact writerInv_memory hinv fun _ w hw => by cases hw
    | receive input timestampMs | flush | writeNext succeeds | saveCursor succeeds =>
      rw [writerStep, hwriter]
      exact hinv
  | some w =>
    have hpending : s.intact = true → Segment sha256 nodeId (chainEnd s.store nodeId) w.batch
        (w.seq.toNat, w.prevHash) := fun h => hinv.pending h w hwriter
    cases a with
    | start cursorReadable seqReadable hashReadable =>
      rw [writerStep, hwriter]
      exact hinv
    | receive input timestampMs =>
      rw [writerStep, hwriter]
      dsimp only
      by_cases hflushing : w.flushing = true
      · rw [if_pos hflushing]
        exact hinv
      · rw [if_neg hflushing]
        refine writerInv_memory hinv fun hintact v hv => ?_
        cases hv
        exact segment_receive (hgood w hwriter) input timestampMs (hpending hintact)
    | flush =>
      grind [writerStep, writerInv_memory]
    | writeNext succeeds =>
      rcases w with ⟨seq, prevHash, _ | ⟨record, rest⟩, _ | _⟩
      all_goals rw [writerStep, hwriter]
      · exact hinv
      · exact hinv
      · exact hinv
      · -- Only here do the records change.
        cases succeeds with
        | false => exact writerInv_memory hinv nofun
        | true => exact writerInv_write hinv (hpending (hgood rfl)) true
    | saveCursor succeeds =>
      rcases w with ⟨seq, prevHash, _ | ⟨record, rest⟩, _ | _⟩
      all_goals rw [writerStep, hwriter]
      · exact hinv
      · -- The cursor is in a table of its own.
        have hflushed : s.intact = true → ∀ v ∈ some (Writer.mk seq prevHash [] false),
            Segment sha256 nodeId (chainEnd s.store nodeId) v.batch (v.seq.toNat, v.prevHash) := by
          intro hintact v hv
          cases hv
          exact hpending hintact
        cases succeeds with
        | false => exact writerInv_memory hinv hflushed
        | true => exact ⟨hinv.stored, hinv.chain, hflushed⟩
      · exact hinv
      · exact hinv
    | stop => exact writerInv_memory hinv fun _ w hw => by cases hw

theorem getBillingRecordsForNode_eq (hinv : WriterInv sha256 nodeId s) :
    s.store.getBillingRecordsForNode nodeId = s.store.billing.entries := by
  refine filter_eq_self.mpr fun r hr => (Text.startsWith_iff _ _).mpr ?_
  have hnode := ((segment_bounds hinv.chain).2 r (hinv.stored.mem_iff.mp hr)).1
  exact ⟨toString r.seq.toNat, by rw [billingKey, hnode]⟩

/-- In the order of their numbers the stored records are those written. -/
theorem insertionSort_entries_eq (hinv : WriterInv sha256 nodeId s) :
    s.store.billing.entries.insertionSort (fun a b => a.seq.toNat ≤ b.seq.toNat) = s.persisted := by
  have hincreasing := segment_increasing hinv.chain
  have hperm := (perm_insertionSort (fun a b : BillingRecord => a.seq.toNat ≤ b.seq.toNat)
    s.store.billing.entries).trans hinv.stored
  have : Std.Total (fun a b : BillingRecord => a.seq.toNat ≤ b.seq.toNat) :=
    ⟨fun a b => Nat.le_total _ _⟩
  have : IsTrans BillingRecord (fun a b => a.seq.toNat ≤ b.seq.toNat) :=
    ⟨fun a b c => Nat.le_trans⟩
  refine List.Perm.eq_of_pairwise ?_ (pairwise_insertionSort _ _)
    (hincreasing.imp fun h => Nat.le_of_lt h) hperm
  intro a b ha hb hab hba
  have hmem := (mem_insertionSort (fun a b : BillingRecord => a.seq.toNat ≤ b.seq.toNat)).mp ha
  exact stored_eq_of_seq hinv.stored hinv.chain hmem (hinv.stored.mem_iff.mpr hb)
    (Nat.le_antisymm hab hba)

theorem verifyNodeBillingChain_ok (hinv : WriterInv sha256 nodeId s) :
    ∃ count, verifyNodeBillingChain sha256 nodeId s.store = .ok count := by
  rw [verifyNodeBillingChain, getBillingRecordsForNode_eq hinv, insertionSort_entries_eq hinv]
  rcases verifyChain_ok_iff.mpr (segment_verifyFrom hinv.chain) with ⟨count, hcount⟩
  rw [hcount]
  by_cases hempty : s.store.billing.entries.isEmpty = true
  · exact ⟨0, if_pos hempty⟩
  · exact ⟨count, if_neg hempty⟩

/-- Every record written in a run of intact steps is still there, and the node's
    records pass the check. -/
theorem billing_chain_survives {run : List WriterAction} {s : WriterState}
    (hrun : Along (writerStep sha256 nodeId) IntactStep .init run)
    (hs : s = runAll (writerStep sha256 nodeId) .init run) :
    (∀ r ∈ s.persisted, r ∈ s.store.billing) ∧
      ∃ count, verifyNodeBillingChain sha256 nodeId s.store = .ok count := by
  have hinv : WriterInv sha256 nodeId s := by
    rw [hs]
    exact invariant_along writerInv_step hrun writerInv_init
  exact ⟨fun r hr => hinv.stored.mem_iff.mpr hr, verifyNodeBillingChain_ok hinv⟩

end

def BillingRecord.input (r : BillingRecord) : BillingInput :=
  ⟨r.tenantId, r.appId, r.instanceId, r.nodeId, r.fuelConsumed, r.fuelQuota, r.ramBytes,
    r.wallClockMs, r.statusCode, r.isTrap⟩

def secondRecord : BillingRecord :=
  { sampleRecord with
    seq := 2
    prevHash := "0f1c85c3260ca272e25666791a7039233fd0d5687274a0fe2a228218fee51ace"
    timestampMs := 1712400001000
    fuelConsumed := 2000
    recordHash := "42a0081a6687ec15398c6c9c9236e91d5289e53615c73ae1fdb7614e3688a148" }

def otherRecord : BillingRecord where
  seq := 2
  prevHash := "0f1c85c3260ca272e25666791a7039233fd0d5687274a0fe2a228218fee51ace"
  tenantId := "globex"
  appId := "default/shop:v1"
  instanceId := "i-2"
  nodeId := "node-0"
  timestampMs := 1712400060000
  fuelConsumed := 3000
  fuelQuota := 100000000
  ramBytes := 2048
  wallClockMs := 20
  statusCode := 200
  isTrap := false
  recordHash := "6c890c957dda2a17ce2c2d1bb57d0343453cacff2a68ec9fd832b8ce718cd9e3"

def secondDigest : List UInt8 :=
  [66, 160, 8, 26, 102, 135, 236, 21, 57, 140, 108, 156, 146, 54, 233, 29, 82, 137, 229, 54, 21,
    199, 58, 225, 253, 183, 97, 78, 54, 136, 161, 72]

def otherDigest : List UInt8 :=
  [108, 137, 12, 149, 125, 218, 42, 23, 206, 44, 45, 27, 181, 125, 3, 67, 69, 60, 172, 255, 42, 104,
    236, 159, 216, 50, 184, 206, 113, 140, 217, 227]

def chainSha256 (bytes : List UInt8) : List UInt8 :=
  if bytes = secondRecord.hashedBytes then secondDigest
  else if bytes = otherRecord.hashedBytes then otherDigest
  else sampleSha256 bytes

/-- The input of a record arrives and is written at once. -/
def billed (r : BillingRecord) (written : Bool) : List WriterAction :=
  [.receive r.input r.timestampMs, .flush, .writeNext written]

/-- The writer stops before it saves the cursor, starts again, and the input arrives once more. -/
def retriedRun : List WriterAction :=
  [.start true true true] ++ billed sampleRecord true ++ [.saveCursor true] ++
    billed secondRecord false ++ [.stop, .start true true true] ++ billed secondRecord true

theorem billing_chain_survives_retriedRun :
    secondRecord ∈ (runAll (writerStep chainSha256 "node-0") .init retriedRun).store.billing ∧
      ∃ count, verifyNodeBillingChain chainSha256 "node-0"
        (runAll (writerStep chainSha256 "node-0") .init retriedRun).store = .ok count := by
  have hintact : Along (writerStep chainSha256 "node-0") IntactStep .init retriedRun := by
    decide +kernel
  have hpersisted : secondRecord ∈
      (runAll (writerStep chainSha256 "node-0") .init retriedRun).persisted := by
    decide +kernel
  rcases billing_chain_survives hintact rfl with ⟨hkept, hverified⟩
  exact ⟨hkept secondRecord hpersisted, hverified⟩

/-- The writer stops before it saves the cursor, and the next record takes the second one's key. -/
def overwritingRun : List WriterAction :=
  [.start true true true] ++ billed sampleRecord true ++ [.saveCursor true] ++
    billed secondRecord true ++ [.stop, .start true true true] ++ billed otherRecord true

def skippingRun : List WriterAction :=
  [.start true true true] ++ billed sampleRecord false ++ [.saveCursor true] ++
    billed secondRecord true

/-- A record is overwritten by a different one, and a chain is broken. -/
theorem billing_chain_breaks :
    let run := runAll (writerStep chainSha256 "node-0") .init
    (run overwritingRun).persisted = [sampleRecord, secondRecord, otherRecord] ∧
      (run overwritingRun).store.getAllBillingRecords = [sampleRecord, otherRecord] ∧
      verifyNodeBillingChain chainSha256 "node-0" (run skippingRun).store =
        .error ("Broken chain link at seq 2: expected hash , got " ++
          "0f1c85c3260ca272e25666791a7039233fd0d5687274a0fe2a228218fee51ace") := by
  decide +kernel

end WasmCloud
