import Mathlib.Data.List.Perm.Subperm
import WasmCloud.Billing.Writer

/-!
# Records Left Out of a Chain

`verify_chain` is given a list of records and nothing else, so it cannot know where the
chain ends: a list without the last records passes. Everything else that can be done by
leaving records out or moving them is noticed. A record names the hash of the one before
it, and what is hashed begins with the number of the record, so among the records of one
chain a hash belongs to one of them only.
-/

namespace WasmCloud

open List

/-- The writer is not started again, does not stop, and writes what it is to write. -/
def WriterAction.uninterrupted : WriterAction → Bool
  | .receive _ _ | .flush | .saveCursor _ => true
  | .writeNext succeeds => succeeds
  | .start _ _ _ | .stop => false

def WriterAction.receives : WriterAction → Bool
  | .receive _ _ => true
  | _ => false

/-- The records of one uninterrupted run that begins with an empty store. -/
def producedRecords (sha256 : List UInt8 → List UInt8) (nodeId : String)
    (cursorReadable seqReadable hashReadable : Bool) (run : List WriterAction) :
    List BillingRecord :=
  (runAll (writerStep sha256 nodeId) .init
    (.start cursorReadable seqReadable hashReadable :: run)).persisted

variable {sha256 : List UInt8 → List UInt8} {nodeId : String} {first last : Nat × String}
  {rs : List BillingRecord}

theorem segment_recordHash (h : Segment sha256 nodeId first rs last) :
    ∀ r ∈ rs, r.computeHash sha256 = r.recordHash := by
  induction rs generalizing first with
  | nil => simp
  | cons a rs ih =>
    intro r hr
    rcases mem_cons.mp hr with rfl | hr
    · exact h.1.recordHash
    · exact ih h.2 r hr

theorem segment_names_record {a : BillingRecord} (h : Segment sha256 nodeId first (a :: rs) last) :
    ∀ r ∈ rs, ∃ before ∈ a :: rs, r.prevHash = before.recordHash := by
  induction rs generalizing first a with
  | nil => simp
  | cons b rs ih =>
    intro r hr
    rcases mem_cons.mp hr with rfl | hr
    · exact ⟨a, (.head _), h.2.1.prevHash⟩
    · obtain ⟨before, hbefore, hnames⟩ := ih h.2 r hr
      exact ⟨before, mem_cons_of_mem a hbefore, hnames⟩

theorem seq_eq_of_computeHash (hinj : Function.Injective sha256) {a b : BillingRecord}
    (h : a.computeHash sha256 = b.computeHash sha256) : a.seq = b.seq := by
  have hbytes : a.hashedBytes = b.hashedBytes := hinj (Bytes.hexEncode_injective h)
  exact leBytes64_inj (leBytes_append_inj hbytes).1

theorem segment_fresh (hinj : Function.Injective sha256) {a : BillingRecord}
    (h : Segment sha256 nodeId first (a :: rs) last) : ∀ r ∈ rs, r.recordHash ≠ a.recordHash := by
  intro r hr heq
  have hall := segment_recordHash h
  have hcomputed : r.computeHash sha256 = a.computeHash sha256 := by
    rw [hall r (mem_cons_of_mem a hr), hall a (.head _), heq]
  have hlt := ((segment_bounds h.2).2 r hr).2.1
  rw [seq_eq_of_computeHash hinj hcomputed] at hlt
  exact Nat.lt_irrefl _ hlt

/-- The list goes on as the chain does, since no other record names the expected hash. -/
theorem verifyFrom_subperm_iff (hinj : Function.Injective sha256)
    (h : Segment sha256 nodeId first rs last) (hfresh : ∀ r ∈ rs, r.recordHash ≠ first.2)
    {xs : List BillingRecord} (hsub : xs.Subperm rs) :
    verifyFrom sha256 first.2 xs = .ok () ↔ xs <+: rs := by
  induction rs generalizing first xs with
  | nil =>
    rw [subperm_nil.mp hsub]
    exact iff_of_true rfl (prefix_refl [])
  | cons a rs ih =>
    cases xs with
    | nil => exact iff_of_true rfl nil_prefix
    | cons x xs =>
      have hrest := @ih _ h.2 (segment_fresh hinj h) xs
      rw [verifyFrom_cons_ok_iff, cons_prefix_cons]
      constructor
      · rintro ⟨hprev, -, hok⟩
        have hx : x = a := by
          rcases mem_cons.mp (hsub.subset (.head _)) with hx | hx
          · exact hx
          · -- A later record names a record of the chain, and not what comes before it.
            obtain ⟨before, hbefore, hnames⟩ := segment_names_record h x hx
            exact absurd (hnames.symm.trans hprev) (hfresh before hbefore)
        subst hx
        exact ⟨rfl, (hrest ((subperm_cons x).mp hsub)).mp hok⟩
      · rintro ⟨rfl, hbegins⟩
        exact ⟨h.1.prevHash, h.1.recordHash, (hrest ((subperm_cons x).mp hsub)).mpr hbegins⟩

theorem writerStep_uninterrupted {s : WriterState} {w : Writer} {a : WriterAction}
    (hw : s.writer = some w) (ha : a.uninterrupted = true) :
    (writerStep sha256 nodeId s a).intact = s.intact ∧
      ∃ w', (writerStep sha256 nodeId s a).writer = some w' ∧
        (w'.seq = w.seq ∨ a.receives = true ∧ w'.seq = w.seq + 1) := by
  obtain ⟨seq, prevHash, batch, flushing⟩ := w
  cases a with
  | start c q d | stop => nomatch ha
  | receive input timestampMs =>
    cases flushing <;> simp [writerStep, hw, Writer.receive, buildRecord, WriterAction.receives]
  | flush => simp [writerStep, hw]
  | writeNext succeeds =>
    obtain rfl : succeeds = true := ha
    cases batch <;> cases flushing <;> simp [writerStep, hw]
  | saveCursor succeeds =>
    cases batch <;> cases flushing <;> cases succeeds <;> simp [writerStep, hw]

theorem along_uninterrupted {run : List WriterAction} (hrun : ∀ a ∈ run, a.uninterrupted = true)
    {s : WriterState} {w : Writer} (hw : s.writer = some w) (hintact : s.intact = true)
    (hseq : w.seq.toNat + run.countP WriterAction.receives < 2 ^ 64) :
    Along (writerStep sha256 nodeId) IntactStep s run := by
  induction run generalizing s w with
  | nil => trivial
  | cons a run ih =>
    have ha := hrun a mem_cons_self
    rw [countP_cons] at hseq
    obtain ⟨hkept, w', hw', hnext⟩ := @writerStep_uninterrupted sha256 nodeId s w a hw ha
    refine ⟨?_, ih (fun b hb => hrun b (mem_cons_of_mem a hb)) hw' (hkept.trans hintact) ?_⟩
    · cases a with
      | receive input timestampMs =>
        intro v hv
        rw [hw, Option.mem_some_iff] at hv
        rw [← hv]
        simp only [WriterAction.receives, if_true] at hseq
        omega
      | writeNext succeeds => exact fun _ => hintact
      | start c q d | flush | saveCursor succeeds | stop => trivial
    · rcases hnext with hsame | ⟨hreceives, hone⟩
      · rw [hsame]
        omega
      · have hadd : (w.seq + 1).toNat = w.seq.toNat + 1 := by
          rw [UInt64.toNat_add, UInt64.toNat_one]
          exact Nat.mod_eq_of_lt (by rw [if_pos hreceives] at hseq; omega)
        rw [hone, hadd]
        rw [if_pos hreceives] at hseq
        omega

theorem segment_producedRecords {cursorReadable seqReadable hashReadable : Bool}
    {run : List WriterAction} (hrun : ∀ a ∈ run, a.uninterrupted = true)
    (hfits : run.countP WriterAction.receives < 2 ^ 64) :
    ∃ last, Segment sha256 nodeId (0, "")
      (producedRecords sha256 nodeId cursorReadable seqReadable hashReadable run) last := by
  -- Whatever can be read, there is nothing in an empty store.
  have hstart : writerStep sha256 nodeId .init (.start cursorReadable seqReadable hashReadable) =
      ⟨.empty, some ⟨0, "", [], false⟩, [], true⟩ := by
    cases cursorReadable <;> cases seqReadable <;> cases hashReadable <;> rfl
  have halong : Along (writerStep sha256 nodeId) IntactStep .init
      (.start cursorReadable seqReadable hashReadable :: run) := by
    refine ⟨trivial, ?_⟩
    rw [hstart]
    exact along_uninterrupted hrun rfl rfl (by simpa using hfits)
  exact ⟨_, (invariant_along writerInv_step halong writerInv_init).chain⟩

/-- A list made of records of one uninterrupted run, each used at most once and in any
    order, passes exactly if the records of the run begin with it. Numbers have 64 bits, so
    there must not be more inputs than that. -/
theorem verifyChain_prefix_iff {sha256 : List UInt8 → List UInt8}
    (hinj : Function.Injective sha256) (hnonempty : ∀ bytes, sha256 bytes ≠ []) (nodeId : String)
    (cursorReadable seqReadable hashReadable : Bool) {run : List WriterAction}
    (hrun : ∀ a ∈ run, a.uninterrupted = true)
    (hfits : run.countP WriterAction.receives < 2 ^ 64) {xs : List BillingRecord} (hsub : xs.Subperm
      (producedRecords sha256 nodeId cursorReadable seqReadable hashReadable run)) :
    (∃ n, verifyChain sha256 xs = .ok n) ↔
      xs <+: producedRecords sha256 nodeId cursorReadable seqReadable hashReadable run := by
  obtain ⟨last, hsegment⟩ := @segment_producedRecords sha256 nodeId cursorReadable seqReadable
    hashReadable run hrun hfits
  rw [verifyChain_ok_iff]
  refine verifyFrom_subperm_iff hinj hsegment (fun r hr hempty => ?_) hsub
  have hhash : r.computeHash sha256 = Bytes.hexEncode [] :=
    (segment_recordHash hsegment r hr).trans hempty
  exact hnonempty _ (Bytes.hexEncode_injective hhash)

def billedTwice : List WriterAction :=
  billed sampleRecord true ++ [.saveCursor true] ++ billed secondRecord true

theorem chainSha256_injective : Function.Injective chainSha256 := by
  refine injective_ite (injective_ite sampleSha256_injective
    (sampleSha256_ne rfl (by decide) (by decide))) fun x => ?_
  split_ifs
  · decide
  · exact sampleSha256_ne rfl (by decide) (by decide) x

/-- Without its first record the chain does not pass. -/
theorem first_record_missed : ¬ ∃ n, verifyChain chainSha256
      (producedRecords chainSha256 "node-0" true true true billedTwice).tail = .ok n := by
  have hnonempty : ∀ bytes, chainSha256 bytes ≠ [] := by
    intro bytes
    unfold chainSha256 sampleSha256
    split_ifs <;> first | decide | simp
  rw [verifyChain_prefix_iff chainSha256_injective hnonempty "node-0" true true true (by decide)
    (by decide) (tail_sublist _).subperm]
  decide +kernel

end WasmCloud
