import WasmCloud.Billing.Store
import WasmCloud.Lib.Run

/-!
# Billing Export

The export loop reads a batch of records above a watermark, exports it, and then stores
the number of the batch's last record as the new watermark. A batch is cut in the order of
the keys, which is not the order of the numbers, so a record can be exported again or
never. `CleanStep` says when a step does neither.

The proof looks at the loop through its *mark*: the watermark it has stored or is about to
store. Along clean steps the stored records at or below the mark are exactly those in the
exported batches and the batch in hand.
-/

namespace WasmCloud

open List

inductive ExportPhase where
  | idle
  | read (batch : List BillingRecord)
  | exported (batch : List BillingRecord)
  deriving DecidableEq, Repr

/-- The state of the export loop. `batches` and `written` are the history. -/
structure ExportState where
  store : BillingStore
  phase : ExportPhase
  batches : List (List BillingRecord)
  written : List BillingRecord

inductive ExportAction where
  | write (record : BillingRecord)
  | readBatch
  | exportBatch
  | exportFails
  | saveWatermark
  | saveFails
  deriving DecidableEq, Repr

/-- The number of a batch's last record. -/
def lastSeq (batch : List BillingRecord) : Nat := (batch.getLast?.map (·.seq.toNat)).getD 0

def ExportState.start (store : BillingStore) : ExportState := ⟨store, .idle, [], []⟩

/-- `start_export_loop`, transaction by transaction. A failed export leaves the watermark. -/
def exportStep (limit : Nat) (s : ExportState) : ExportAction → ExportState
  | .write record =>
    { s with store := s.store.writeBillingRecord record, written := record :: s.written }
  | .readBatch =>
    match s.phase with
    | .idle =>
      let records := s.store.readUnexportedBillingRecords limit
      -- An empty batch ends the tick before anything is exported.
      if records.isEmpty then s else { s with phase := .read records }
    | _ => s
  | .exportBatch =>
    match s.phase with
    | .read batch => { s with phase := .exported batch, batches := s.batches ++ [batch] }
    | _ => s
  | .exportFails =>
    match s.phase with
    | .read _ => { s with phase := .idle }
    | _ => s
  | .saveWatermark =>
    match s.phase with
    | .exported batch =>
      { s with store := s.store.setBillingExportWatermark (lastSeq batch), phase := .idle }
    | _ => s
  | .saveFails =>
    match s.phase with
    -- The batch is out, but the next tick starts from the old watermark.
    | .exported _ => { s with phase := .idle }
    | _ => s

namespace ExportState

/-- The watermark the loop has stored or, if all goes well, is about to store. -/
def mark (s : ExportState) : Nat :=
  match s.phase with
  | .idle => s.store.getBillingExportWatermark
  | .read batch => lastSeq batch
  | .exported batch => lastSeq batch

/-- The batch that was read and not exported yet. -/
def inHand (s : ExportState) : List BillingRecord :=
  match s.phase with
  | .read batch => batch
  | _ => []

/-- The records in the exported batches and in the batch in hand. -/
def taken (s : ExportState) : List BillingRecord := s.batches.flatten ++ s.inHand

end ExportState

/-- The first `limit` records end in the largest number among them, and all others have larger
    ones. -/
def CleanCut (limit : Nat) (records : List BillingRecord) : Prop :=
  (∀ r ∈ records.take limit, r.seq.toNat ≤ lastSeq (records.take limit)) ∧
    ∀ r ∈ records.drop limit, lastSeq (records.take limit) < r.seq.toNat

/-- A write of a stored record or of one above the mark, and a tick that cuts cleanly and saves. -/
def CleanStep (limit : Nat) (s : ExportState) : ExportAction → Prop
  | .write record =>
    s.store.billing.get? (billingKey record) = some record ∨
      (s.store.billing.get? (billingKey record) = none ∧ s.mark < record.seq.toNat)
  | .readBatch => s.phase = .idle → CleanCut limit s.store.unexported
  | .saveFails => False
  | .exportBatch | .exportFails | .saveWatermark => True

instance (limit : Nat) (records : List BillingRecord) : Decidable (CleanCut limit records) :=
  inferInstanceAs (Decidable (_ ∧ _))

instance (limit : Nat) (s : ExportState) : ∀ a, Decidable (CleanStep limit s a)
  | .write _ => inferInstanceAs (Decidable (_ ∨ _))
  | .readBatch => inferInstanceAs (Decidable (_ → _))
  | .saveFails => instDecidableFalse
  | .exportBatch | .exportFails | .saveWatermark => instDecidableTrue

namespace ExportState

/-- The number up to which the batches have been exported. -/
def reached (s : ExportState) : Nat :=
  match s.phase with
  | .exported batch => lastSeq batch
  | _ => s.store.getBillingExportWatermark

end ExportState

/-- The stored records up to the mark are taken once each, and those up to the number reached are
    exported. -/
structure ExportInv (s : ExportState) : Prop where
  kept : ∀ r ∈ s.written, r ∈ s.store.billing
  nodup : s.taken.Nodup
  taken_iff : ∀ r, r ∈ s.taken ↔ r ∈ s.store.billing ∧ r.seq.toNat ≤ s.mark
  exported_iff : ∀ r, r ∈ s.batches.flatten ↔ r ∈ s.store.billing ∧ r.seq.toNat ≤ s.reached
  watermark_le : s.store.getBillingExportWatermark ≤ s.reached
  reached_le : s.reached ≤ s.mark

variable {s : ExportState} {batch : List BillingRecord} {limit : Nat}

theorem lastSeq_mem (h : batch ≠ []) : ∃ r ∈ batch, r.seq.toNat = lastSeq batch := by
  refine ⟨batch.getLast h, getLast_mem h, ?_⟩
  rw [lastSeq, List.getLast?_eq_some_getLast h, Option.map_some, Option.getD_some]

theorem lastSeq_lt (batch : List BillingRecord) : lastSeq batch < 2 ^ 64 := by
  by_cases h : batch = []
  · rw [h]
    decide
  · rcases lastSeq_mem h with ⟨r, -, hr⟩
    rw [← hr]
    exact r.seq.toNat_lt

theorem mem_batch_iff {s : BillingStore} (hcut : CleanCut limit s.unexported) (r : BillingRecord) :
    r ∈ s.readUnexportedBillingRecords limit ↔
      r ∈ s.billing ∧ s.getBillingExportWatermark < r.seq.toNat ∧
        r.seq.toNat ≤ lastSeq (s.readUnexportedBillingRecords limit) := by
  rw [BillingStore.readUnexportedBillingRecords]
  constructor
  · intro h
    rcases BillingStore.mem_unexported.mp (mem_of_mem_take h) with ⟨hmem, habove⟩
    exact ⟨hmem, habove, hcut.1 r h⟩
  · rintro ⟨hmem, habove, hle⟩
    have hun : r ∈ s.unexported := BillingStore.mem_unexported.mpr ⟨hmem, habove⟩
    -- A record behind the cut has a larger number than the batch's last.
    rw [← take_append_drop limit s.unexported, mem_append] at hun
    rcases hun with htake | hdrop
    · exact htake
    · exact absurd (hcut.2 r hdrop) (Nat.not_lt.mpr hle)

theorem readUnexported_nodup (s : BillingStore) (limit : Nat) :
    (s.readUnexportedBillingRecords limit).Nodup :=
  (s.billing.nodup.filter _).sublist (take_sublist _ _)

theorem exportInv_start {store : BillingStore} (h : store.billing = OrdTable.empty) :
    ExportInv (ExportState.start store) where
  kept := fun r hr => absurd hr not_mem_nil
  nodup := nodup_nil
  taken_iff := by
    intro r
    change r ∈ [] ↔ r ∈ store.billing ∧ _
    rw [h]
    exact ⟨nofun, fun hr => absurd hr.1 (OrdTable.not_mem_empty r)⟩
  exported_iff := by
    intro r
    change r ∈ [] ↔ r ∈ store.billing ∧ _
    rw [h]
    exact ⟨nofun, fun hr => absurd hr.1 (OrdTable.not_mem_empty r)⟩
  watermark_le := Nat.le_refl _
  reached_le := Nat.le_refl _

theorem exportInv_write {record : BillingRecord} (hclean : CleanStep limit s (.write record))
    (hinv : ExportInv s) : ExportInv (exportStep limit s (.write record)) := by
  have hmem (x : BillingRecord) :
      x ∈ (s.store.writeBillingRecord record).billing ↔ x = record ∨ x ∈ s.store.billing := by
    rw [BillingStore.writeBillingRecord, OrdTable.mem_insert]
    refine or_congr_right' fun hne => and_iff_left_of_imp fun hx hkey => ?_
    rcases hclean with hsome | ⟨hnone, -⟩
    · rcases OrdTable.get?_eq_some_iff.mp hsome with ⟨hrecord, -⟩
      exact hne (OrdTable.eq_of_key_eq hx hrecord hkey)
    · exact OrdTable.get?_eq_none_iff.mp hnone x hx hkey
  -- The records up to a number below the mark are the same as before.
  have hbelow {bound : Nat} (hbound : bound ≤ s.mark) (x : BillingRecord) :
      x ∈ (s.store.writeBillingRecord record).billing ∧ x.seq.toNat ≤ bound ↔
        x ∈ s.store.billing ∧ x.seq.toNat ≤ bound := by
    rw [hmem]
    refine and_congr_left fun hx => or_iff_right_of_imp fun heq => ?_
    rcases hclean with hsome | ⟨-, habove⟩
    · rw [heq]
      exact (OrdTable.get?_eq_some_iff.mp hsome).1
    · rw [heq] at hx
      omega
  refine ⟨?_, hinv.nodup, ?_, ?_, hinv.watermark_le, hinv.reached_le⟩
  · intro r hr
    rcases mem_cons.mp hr with hr | hr
    · exact (hmem r).mpr (.inl hr)
    · exact (hmem r).mpr (.inr (hinv.kept r hr))
  · intro r
    exact (hinv.taken_iff r).trans (hbelow le_rfl r).symm
  · intro r
    exact (hinv.exported_iff r).trans (hbelow hinv.reached_le r).symm

theorem exportInv_readBatch (hidle : s.phase = .idle) (hcut : CleanCut limit s.store.unexported)
    (hne : s.store.readUnexportedBillingRecords limit ≠ []) (hinv : ExportInv s) :
    ExportInv { s with phase := .read (s.store.readUnexportedBillingRecords limit) } := by
  have hreached : s.reached = s.store.getBillingExportWatermark := by
    rw [ExportState.reached, hidle]
  have hexported := hinv.exported_iff
  rw [hreached] at hexported
  have hbatch := mem_batch_iff hcut
  have hle : s.store.getBillingExportWatermark ≤
      lastSeq (s.store.readUnexportedBillingRecords limit) := by
    rcases lastSeq_mem hne with ⟨r, hr, hseq⟩
    have habove := ((hbatch r).mp hr).2.1
    omega
  refine ⟨hinv.kept, ?_, ?_, hexported, Nat.le_refl _, hle⟩
  · refine nodup_append.mpr ⟨(nodup_append.mp hinv.nodup).1, readUnexported_nodup s.store limit, ?_⟩
    -- What was exported is at or below the watermark, the batch above it.
    intro a ha b hb hab
    have hbelow := ((hexported a).mp ha).2
    have habove := ((hbatch b).mp hb).2.1
    rw [hab] at hbelow
    omega
  · intro r
    change r ∈ s.batches.flatten ++ s.store.readUnexportedBillingRecords limit ↔
      r ∈ s.store.billing ∧ r.seq.toNat ≤ lastSeq (s.store.readUnexportedBillingRecords limit)
    rw [mem_append, hexported, hbatch, ← and_or_left]
    refine and_congr_right fun _ => ?_
    omega

theorem exportInv_exportBatch (hread : s.phase = .read batch) (hinv : ExportInv s) :
    ExportInv { s with phase := .exported batch, batches := s.batches ++ [batch] } := by
  have hflat : (s.batches ++ [batch]).flatten = s.taken := by
    rw [ExportState.taken, ExportState.inHand, hread, flatten_append, flatten_singleton]
  have hmark : s.mark = lastSeq batch := by rw [ExportState.mark, hread]
  have htaken := hinv.taken_iff
  have hle := hinv.watermark_le.trans hinv.reached_le
  rw [← hflat, hmark] at htaken
  rw [hmark] at hle
  refine ⟨hinv.kept, ?_, ?_, htaken, hle, Nat.le_refl _⟩
  · change ((s.batches ++ [batch]).flatten ++ []).Nodup
    rw [append_nil, hflat]
    exact hinv.nodup
  · intro r
    change r ∈ (s.batches ++ [batch]).flatten ++ [] ↔ _
    rw [append_nil]
    exact htaken r

theorem exportInv_exportFails (hread : s.phase = .read batch) (hinv : ExportInv s) :
    ExportInv { s with phase := .idle } := by
  have hexported := hinv.exported_iff
  rw [ExportState.reached, hread] at hexported
  refine ⟨hinv.kept, ?_, ?_, hexported, Nat.le_refl _, Nat.le_refl _⟩
  · change (s.batches.flatten ++ []).Nodup
    rw [append_nil]
    exact (nodup_append.mp hinv.nodup).1
  · intro r
    change r ∈ s.batches.flatten ++ [] ↔ _
    rw [append_nil]
    exact hexported r

theorem exportInv_saveWatermark (hexp : s.phase = .exported batch) (hinv : ExportInv s) : ExportInv
      { s with store := s.store.setBillingExportWatermark (lastSeq batch), phase := .idle } := by
  have hset := s.store.getBillingExportWatermark_set (lastSeq_lt batch)
  have htaken := hinv.taken_iff
  have hexported := hinv.exported_iff
  have hnodup := hinv.nodup
  rw [ExportState.taken, ExportState.inHand, hexp] at hnodup
  simp only [ExportState.taken, ExportState.inHand, ExportState.mark, hexp] at htaken
  simp only [ExportState.reached, hexp] at hexported
  refine ⟨hinv.kept, hnodup, fun r => ?_, fun r => ?_, Nat.le_refl _, Nat.le_refl _⟩
  all_goals
    change _ ↔ r ∈ s.store.billing ∧ r.seq.toNat ≤
      (s.store.setBillingExportWatermark (lastSeq batch)).getBillingExportWatermark
    rw [hset]
  · exact htaken r
  · exact hexported r

theorem exportInv_step (s : ExportState) (a : ExportAction) (hclean : CleanStep limit s a)
    (hinv : ExportInv s) : ExportInv (exportStep limit s a) := by
  cases a with
  | write record => exact exportInv_write hclean hinv
  | readBatch =>
    rw [exportStep]
    cases hphase : s.phase with
    | idle =>
      by_cases hempty : s.store.readUnexportedBillingRecords limit = []
      · simp only [hempty, List.isEmpty_nil, if_true]
        exact hinv
      · simp only [List.isEmpty_iff, hempty, if_false]
        exact exportInv_readBatch hphase (hclean hphase) hempty hinv
    | read batch | exported batch => exact hinv
  | exportBatch =>
    grind [exportStep, exportInv_exportBatch]
  | exportFails =>
    grind [exportStep, exportInv_exportFails]
  | saveWatermark =>
    grind [exportStep, exportInv_saveWatermark]
  | saveFails => exact absurd hclean id

def tick : List ExportAction := [.readBatch, .exportBatch, .saveWatermark]

/-- Along clean steps no record is below the watermark without having been
    exported, none is exported twice, and when a tick returns nothing every record
    written has been exported once. -/
theorem export_exactly_once {limit : Nat} (hlimit : 1 ≤ limit) {store : BillingStore}
    (hempty : store.billing = OrdTable.empty) {run : List ExportAction} {s : ExportState}
    (hrun : Along (exportStep limit) (CleanStep limit) (.start store) run)
    (hs : s = runAll (exportStep limit) (.start store) run) :
    (∀ r ∈ s.written, r.seq.toNat ≤ s.store.getBillingExportWatermark → r ∈ s.batches.flatten) ∧
      (∀ r, s.batches.flatten.count r ≤ 1) ∧
      (s.store.readUnexportedBillingRecords limit = [] →
        ∀ r ∈ s.written, s.batches.flatten.count r = 1) := by
  have hinv : ExportInv s := by
    rw [hs]
    exact invariant_along exportInv_step hrun (exportInv_start hempty)
  have hlost : ∀ r ∈ s.written, r.seq.toNat ≤ s.store.getBillingExportWatermark →
      r ∈ s.batches.flatten := by
    intro r hr hle
    exact (hinv.exported_iff r).mpr ⟨hinv.kept r hr, hle.trans hinv.watermark_le⟩
  have honce : s.batches.flatten.Nodup := (nodup_append.mp hinv.nodup).1
  refine ⟨hlost, fun r => nodup_iff_count_le_one.mp honce r, ?_⟩
  intro hnothing r hr
  refine count_eq_one_of_mem honce (hlost r hr ?_)
  -- A tick with room for a record would have returned this one.
  have hnone : s.store.unexported = [] := by
    rcases take_eq_nil_iff.mp hnothing with hzero | hnil
    · omega
    · exact hnil
  by_contra habove
  have hmem : r ∈ s.store.unexported :=
    BillingStore.mem_unexported.mpr ⟨hinv.kept r hr, Nat.not_le.mp habove⟩
  rw [hnone] at hmem
  nomatch hmem

theorem runAll_tick (hidle : s.phase = .idle)
    (hne : s.store.readUnexportedBillingRecords limit ≠ []) :
    (runAll (exportStep limit) s tick).phase = .idle ∧
      (runAll (exportStep limit) s tick).store = s.store.setBillingExportWatermark
        (lastSeq (s.store.readUnexportedBillingRecords limit)) := by
  have hread : exportStep limit s .readBatch =
      { s with phase := .read (s.store.readUnexportedBillingRecords limit) } := by
    rw [exportStep, hidle]
    simp [hne]
  rw [tick, runAll_cons, hread]
  exact ⟨rfl, rfl⟩

theorem unexported_tick_lt {s : BillingStore} (hne : s.readUnexportedBillingRecords limit ≠ []) :
    (s.setBillingExportWatermark
      (lastSeq (s.readUnexportedBillingRecords limit))).unexported.length <
        s.unexported.length := by
  rcases lastSeq_mem hne with ⟨last, hlast, hseq⟩
  have hmem : last ∈ s.unexported := mem_of_mem_take hlast
  have habove := (BillingStore.mem_unexported.mp hmem).2
  have hset := s.getBillingExportWatermark_set (lastSeq_lt (s.readUnexportedBillingRecords limit))
  -- They are those of before with larger numbers, and the last one is not among them.
  have hfilter : (s.setBillingExportWatermark
      (lastSeq (s.readUnexportedBillingRecords limit))).unexported =
        s.unexported.filter (fun r => last.seq.toNat < r.seq.toNat) := by
    rw [BillingStore.unexported, hset, ← hseq, BillingStore.unexported, filter_filter]
    refine filter_congr fun r _ => ?_
    rw [Bool.eq_iff_iff, Bool.and_eq_true]
    simp only [decide_eq_true_eq]
    omega
  rw [hfilter]
  refine length_filter_lt_length_iff_exists.mpr ⟨last, hmem, ?_⟩
  simp

/-- A tick that reads a record moves the watermark past one that it read. -/
theorem watermark_tick (hidle : s.phase = .idle)
    (hne : s.store.readUnexportedBillingRecords limit ≠ []) :
    ∃ r ∈ s.store.readUnexportedBillingRecords limit,
      s.store.getBillingExportWatermark < r.seq.toNat ∧
        r.seq.toNat ≤ (runAll (exportStep limit) s tick).store.getBillingExportWatermark := by
  rcases lastSeq_mem hne with ⟨last, hlast, hseq⟩
  refine ⟨last, hlast, (BillingStore.mem_unexported.mp (mem_of_mem_take hlast)).2, ?_⟩
  rw [(runAll_tick hidle hne).2, BillingStore.getBillingExportWatermark_set _ (lastSeq_lt _), hseq]

theorem ticks_read_everything (limit : Nat) (s : ExportState) (hidle : s.phase = .idle) :
    ∃ n, (runAll (exportStep limit) s
      (List.replicate n tick).flatten).store.readUnexportedBillingRecords limit = [] := by
  induction h : s.store.unexported.length using Nat.strong_induction_on generalizing s with
  | _ k ih =>
    by_cases hne : s.store.readUnexportedBillingRecords limit = []
    · exact ⟨0, hne⟩
    · rcases runAll_tick hidle hne with ⟨hphase, hstore⟩
      have hlt := unexported_tick_lt hne
      rw [← hstore, h] at hlt
      rcases ih _ hlt _ hphase rfl with ⟨n, hn⟩
      refine ⟨n + 1, ?_⟩
      rw [replicate_succ, flatten_cons, runAll_append]
      exact hn

/-- After finitely many ticks nothing is left to read, and every tick that reads a record moves
    the watermark past one of those it read. -/
theorem ticks_return_nothing (limit : Nat) (s : ExportState) (hidle : s.phase = .idle) :
    (∃ n, (runAll (exportStep limit) s
      (List.replicate n tick).flatten).store.readUnexportedBillingRecords limit = []) ∧
      (s.store.readUnexportedBillingRecords limit ≠ [] →
        ∃ r ∈ s.store.readUnexportedBillingRecords limit,
          s.store.getBillingExportWatermark < r.seq.toNat ∧
            r.seq.toNat ≤ (runAll (exportStep limit) s tick).store.getBillingExportWatermark) :=
  ⟨ticks_read_everything limit s hidle, watermark_tick hidle⟩

/-- A record of one node with the given number. -/
def numbered (seq : UInt64) : BillingRecord := { sampleRecord with seq := seq }

def steadyRun : List ExportAction :=
  [.write (numbered 1), .readBatch, .write (numbered 2), .exportBatch, .saveWatermark] ++ tick

theorem ticks_return_nothing_two :
    let s := runAll (exportStep 1) (.start .empty) [.write (numbered 1), .write (numbered 2)]
    (∃ n, (runAll (exportStep 1) s
      (List.replicate n tick).flatten).store.readUnexportedBillingRecords 1 = []) ∧
      ∃ r ∈ s.store.readUnexportedBillingRecords 1, s.store.getBillingExportWatermark <
        r.seq.toNat ∧ r.seq.toNat ≤
          (runAll (exportStep 1) s tick).store.getBillingExportWatermark := by
  intro s
  have hdrained := ticks_return_nothing 1 s rfl
  exact ⟨hdrained.1, hdrained.2 (by decide)⟩

theorem export_exactly_once_steadyRun :
    (runAll (exportStep 1) (.start .empty) steadyRun).batches.flatten.count (numbered 1) = 1 ∧
      (runAll (exportStep 1) (.start .empty) steadyRun).batches.flatten.count (numbered 2) = 1 := by
  have hclean : Along (exportStep 1) (CleanStep 1) (.start .empty) steadyRun := by decide
  have hnothing : (runAll (exportStep 1) (.start .empty)
      steadyRun).store.readUnexportedBillingRecords 1 = [] := by decide
  have honce := (export_exactly_once (Nat.le_refl 1) rfl hclean rfl).2.2 hnothing
  exact ⟨honce (numbered 1) (by decide), honce (numbered 2) (by decide)⟩

/-- The tenth record comes before the ninth in the order of the keys. With the
    loop's own limit both are in one batch and the tenth is exported again; with
    room for one the ninth is never exported. -/
theorem export_not_exactly_once :
    let written := [.write (numbered 9), .write (numbered 10)] ++ tick
    let single := runAll (exportStep 1) (.start .empty) written
    (runAll (exportStep 10000) (.start .empty) (written ++ tick)).batches =
        [[numbered 10, numbered 9], [numbered 10]] ∧
      single.batches = [[numbered 10]] ∧ single.store.getBillingExportWatermark = 10 ∧
      single.store.readUnexportedBillingRecords 1 = [] := by
  decide

end WasmCloud
