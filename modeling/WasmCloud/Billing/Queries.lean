import WasmCloud.Billing.Writer

/-!
# The Records of a Node

Three readers find the records of a node in three ways: by the beginning of the key, by the
part of the key before its last colon, and by the record's own field. The first one also
takes the records of nodes whose name goes on with a colon, and the last one never takes a
record with the number zero.
-/

namespace WasmCloud

open List

namespace BillingStore

def ownRecords (s : BillingStore) (nodeId : String) : List BillingRecord :=
  s.billing.entries.filter (fun r => decide (r.nodeId = nodeId))

/-- The store without the records of other nodes. -/
def restrict (s : BillingStore) (nodeId : String) : BillingStore :=
  { s with billing := s.billing.filter (fun r => decide (r.nodeId = nodeId)) }

/-- The queries for a node are about its own records, and so is the check of its chain. -/
structure QueriesAgree (sha256 : List UInt8 → List UInt8) (s : BillingStore) (nodeId : String) :
    Prop where
  records : s.getBillingRecordsForNode nodeId = s.ownRecords nodeId
  sequence : (∀ r ∈ s.ownRecords nodeId, r.seq.toNat ≤ s.getBillingSequenceForNode nodeId) ∧
    ((s.ownRecords nodeId = [] ∧ s.getBillingSequenceForNode nodeId = 0) ∨
      ∃ r ∈ s.ownRecords nodeId, r.seq.toNat = s.getBillingSequenceForNode nodeId)
  hash : ∀ r ∈ s.ownRecords nodeId, r.seq.toNat = s.getBillingSequenceForNode nodeId →
    s.getLastBillingHashForNode nodeId = r.recordHash
  chain : verifyNodeBillingChain sha256 nodeId s =
    verifyNodeBillingChain sha256 nodeId (s.restrict nodeId)

variable {s : BillingStore} {nodeId : String} {r : BillingRecord}

theorem mem_ownRecords : r ∈ s.ownRecords nodeId ↔ r ∈ s.billing ∧ r.nodeId = nodeId := by
  rw [ownRecords, mem_filter, decide_eq_true_eq]
  exact Iff.rfl

/-- The colon of the searched text is the last one of the key or one of the node's own. -/
theorem startsWith_billingKey (r : BillingRecord) (nodeId : String) :
    Text.startsWith (billingKey r) (nodeId ++ ":") = true ↔
      r.nodeId = nodeId ∨ Text.startsWith r.nodeId (nodeId ++ ":") = true := by
  constructor
  · intro h
    rcases (Text.startsWith_iff _ _).mp h with ⟨rest, hkey⟩
    have hlist := congrArg String.toList hkey
    simp only [billingKey, String.toList_append, append_assoc] at hlist
    rcases append_eq_append_iff.mp hlist with ⟨more, hnode, htail⟩ | ⟨more, hnode, htail⟩
    · cases more with
      | nil =>
        rw [append_nil] at hnode
        exact .inl (String.toList_inj.mp hnode).symm
      | cons c more =>
        have hdigits : (toString r.seq.toNat).toList = more ++ (":".toList ++ rest.toList) :=
          (List.cons.inj htail).2
        have hcolon : ':' ∈ (toString r.seq.toNat).toList := by
          rw [hdigits]
          exact mem_append_right _ mem_cons_self
        exact absurd hcolon (Text.toString_no_colon _)
    · cases more with
      | nil =>
        rw [append_nil] at hnode
        exact .inl (String.toList_inj.mp hnode)
      | cons c more =>
        have hc : ':' = c := (List.cons.inj htail).1
        refine .inr ((Text.startsWith_iff _ _).mpr ⟨String.ofList more, ?_⟩)
        rw [← String.toList_inj, hnode, ← hc]
        simp
  · grind [billingKey, Text.startsWith_iff, Text.startsWith_append]

theorem not_startsWith_longer (nodeId : String) :
    Text.startsWith nodeId (nodeId ++ ":") = false := by
  rw [← Bool.not_eq_true, Text.startsWith_iff]
  intro ⟨rest, heq⟩
  have hlength := congrArg (fun t : String => t.toList.length) heq
  simp at hlength

theorem getBillingRecordsForNode_eq_iff : s.getBillingRecordsForNode nodeId = s.ownRecords nodeId ↔
      ∀ r ∈ s.billing, Text.startsWith r.nodeId (nodeId ++ ":") = false := by
  constructor
  · intro h r hr
    rw [← Bool.not_eq_true]
    intro hlonger
    have hmem : r ∈ s.getBillingRecordsForNode nodeId :=
      mem_filter.mpr ⟨hr, (startsWith_billingKey r nodeId).mpr (.inr hlonger)⟩
    rw [h] at hmem
    rw [(mem_ownRecords.mp hmem).2, not_startsWith_longer] at hlonger
    cases hlonger
  · intro h
    refine filter_congr fun r hr => ?_
    rw [Bool.eq_iff_iff, startsWith_billingKey, decide_eq_true_eq, h r hr, Bool.false_eq_true,
      or_false]

/-- Both loops keep the same number. -/
theorem fst_foldl_laterRecord (nodeId : String) (rs : List BillingRecord)
    (acc : Nat × Option BillingRecord) :
    (rs.foldl (laterRecord nodeId) acc).1 = rs.foldl (laterSeq nodeId) acc.1 := by
  induction rs generalizing acc with
  | nil => rfl
  | cons a rs ih =>
    have hstep : (laterRecord nodeId acc a).1 = laterSeq nodeId acc.1 a := by
      rw [laterRecord, laterSeq_eq]
      split_ifs <;> grind
    rw [foldl_cons, foldl_cons, ih, hstep]

/-- The loop ends with a record of the node with a positive number, or where it began. -/
theorem foldl_laterRecord_spec (nodeId : String) (rs : List BillingRecord)
    (acc : Nat × Option BillingRecord) :
    (∀ r ∈ rs, r.nodeId = nodeId → r.seq.toNat ≤ (rs.foldl (laterRecord nodeId) acc).1) ∧
      acc.1 ≤ (rs.foldl (laterRecord nodeId) acc).1 ∧
      (rs.foldl (laterRecord nodeId) acc = acc ∨ ∃ r ∈ rs, r.nodeId = nodeId ∧ acc.1 < r.seq.toNat ∧
          rs.foldl (laterRecord nodeId) acc = (r.seq.toNat, some r)) := by
  induction rs generalizing acc with
  | nil => simp
  | cons a rs ih =>
    rcases ih (laterRecord nodeId acc a) with ⟨hall, hle, hend⟩
    rw [foldl_cons]
    generalize rs.foldl (laterRecord nodeId) (laterRecord nodeId acc a) = result at hall hle hend ⊢
    grind [laterRecord]

theorem eq_of_seq {a b : BillingRecord} (ha : a ∈ s.ownRecords nodeId)
    (hb : b ∈ s.ownRecords nodeId) (hseq : a.seq.toNat = b.seq.toNat) : a = b := by
  rw [mem_ownRecords] at ha hb
  refine OrdTable.eq_of_key_eq ha.1 hb.1 ?_
  rw [billingKey, billingKey, ha.2, hb.2, hseq]

theorem last_cases (s : BillingStore) (nodeId : String) :
    (∀ r ∈ s.ownRecords nodeId, r.seq.toNat ≤ s.getBillingSequenceForNode nodeId) ∧
      ((s.getBillingSequenceForNode nodeId = 0 ∧ s.getLastBillingHashForNode nodeId = "") ∨
        ∃ r ∈ s.ownRecords nodeId, 0 < r.seq.toNat ∧
          s.getBillingSequenceForNode nodeId = r.seq.toNat ∧
          s.getLastBillingHashForNode nodeId = r.recordHash) := by
  have hspec := foldl_laterRecord_spec nodeId s.billing.entries (0, none)
  have hseq := fst_foldl_laterRecord nodeId s.billing.entries (0, none)
  grind [getBillingSequenceForNode, getLastBillingHashForNode, mem_ownRecords]

theorem ownRecords_restrict (s : BillingStore) (nodeId : String) :
    (s.restrict nodeId).getBillingRecordsForNode nodeId = s.ownRecords nodeId := by
  have hown : (s.restrict nodeId).ownRecords nodeId = s.ownRecords nodeId := by
    change List.filter _ (List.filter _ _) = List.filter _ _
    rw [filter_filter]
    simp
  rw [← hown, getBillingRecordsForNode_eq_iff]
  intro r hr
  rw [of_decide_eq_true (OrdTable.mem_filter.mp hr).2]
  exact not_startsWith_longer nodeId

/-- The queries agree on the records of a node exactly if no node has a name that extends
    it by a colon, and no record with the number zero is the node's last one and has a
    hash. -/
theorem queries_agree_iff (sha256 : List UInt8 → List UInt8) (s : BillingStore) (nodeId : String) :
    QueriesAgree sha256 s nodeId ↔
      (∀ r ∈ s.billing, Text.startsWith r.nodeId (nodeId ++ ":") = false) ∧
        ∀ r ∈ s.ownRecords nodeId, r.seq.toNat = 0 → r.recordHash = "" ∨
          ∃ later ∈ s.ownRecords nodeId, 0 < later.seq.toNat := by
  rcases last_cases s nodeId with ⟨hall, hlast⟩
  constructor
  · intro h
    refine ⟨getBillingRecordsForNode_eq_iff.mp h.records, fun r hr hzero => ?_⟩
    rcases hlast with ⟨hseq, hhash⟩ | ⟨later, hlater, hpos, -⟩
    · exact .inl ((h.hash r hr (hzero.trans hseq.symm)).symm.trans hhash)
    · exact .inr ⟨later, hlater, hpos⟩
  · intro ⟨hnames, hzero⟩
    have hrecords := getBillingRecordsForNode_eq_iff.mpr hnames
    refine ⟨hrecords, ⟨hall, ?_⟩, fun r hr hr' => ?_, ?_⟩
    · rcases hlast with ⟨hseq, -⟩ | ⟨r, hr, -, hseq, -⟩
      · rcases eq_nil_or_concat (s.ownRecords nodeId) with hnil | ⟨rs, r, hrs⟩
        · exact .inl ⟨hnil, hseq⟩
        · have hr : r ∈ s.ownRecords nodeId := by simp [hrs]
          have hle := hall r hr
          exact .inr ⟨r, hr, by omega⟩
      · exact .inr ⟨r, hr, hseq.symm⟩
    · rcases hlast with ⟨hseq, hhash⟩ | ⟨last, hlast, -, hseq, hhash⟩
      · rcases hzero r hr (hr'.trans hseq) with hempty | ⟨later, hlater, hpos⟩
        · rw [hhash, hempty]
        · have hle := hall later hlater
          omega
      · rw [hhash, eq_of_seq hlast hr (hseq.symm.trans hr'.symm)]
    · rw [verifyNodeBillingChain, verifyNodeBillingChain, hrecords, ownRecords_restrict]

def twoNodes : BillingStore :=
  (empty.writeBillingRecord { sampleRecord with nodeId := "a", seq := 0, recordHash := "h" }
    ).writeBillingRecord { sampleRecord with nodeId := "a:b", seq := 1 }

/-- The records of `a` are said to be both, and its last hash is said to be empty. -/
theorem records_of_another_node : (twoNodes.ownRecords "a").map (·.nodeId) = ["a"] ∧
      (twoNodes.getBillingRecordsForNode "a").map (·.nodeId) = ["a", "a:b"] ∧
      (twoNodes.ownRecords "a").map (·.recordHash) = ["h"] ∧
      twoNodes.getBillingSequenceForNode "a" = 0 ∧
      twoNodes.getLastBillingHashForNode "a" = "" := by
  decide +kernel

end BillingStore

end WasmCloud
