import WasmCloud.Billing.Record
import WasmCloud.Storage.Store

/-!
# The Billing Tables

The tables of a node's embedded database that hold billing data, and the
operations on them. A record is stored under its node and its sequence number in
decimal, so the database iterates the records in the order of that text: `10`
comes before `9`.

Two pieces of progress are stored next to the records. The export watermark is a
number in decimal, and a missing or unreadable one counts as zero. The writer's
cursor is the last sequence number and hash it handed out; it is kept here as
the pair it decodes to.
-/

namespace WasmCloud

def billingKey (r : BillingRecord) : String := r.nodeId ++ ":" ++ toString r.seq.toNat

def parseBillingKey (key : String) : Option (String × Nat) := do
  let (nodeId, seqStr) ← Text.rsplitOnce key ':'
  let seq ← Text.parseU64 seqStr
  return (nodeId, seq)

structure BillingStore where
  billing : OrdTable billingKey
  cursors : KeyedTable (UInt64 × String)
  schemaMeta : KeyedTable String

namespace BillingStore

def empty : BillingStore := ⟨OrdTable.empty, OrdTable.empty, OrdTable.empty⟩

variable (s : BillingStore)

def writeBillingRecord (record : BillingRecord) : BillingStore :=
  { s with billing := s.billing.insert record }

def getAllBillingRecords : List BillingRecord := s.billing.entries

/-- One round of the loop of `get_billing_sequence_for_node`. -/
def laterSeq (nodeId : String) (maxSeq : Nat) (record : BillingRecord) : Nat :=
  match parseBillingKey (billingKey record) with
  | some (recordNodeId, seq) => if recordNodeId = nodeId then max maxSeq seq else maxSeq
  | none => maxSeq

/-- `get_billing_sequence_for_node`: the numbers are read from the keys. -/
def getBillingSequenceForNode (nodeId : String) : Nat :=
  s.billing.entries.foldl (laterSeq nodeId) 0

/-- One round of the loop of `get_last_billing_hash_for_node`. -/
def laterRecord (nodeId : String) (acc : Nat × Option BillingRecord) (record : BillingRecord) :
    Nat × Option BillingRecord :=
  if record.nodeId = nodeId ∧ acc.1 < record.seq.toNat then (record.seq.toNat, some record) else acc

/-- `get_last_billing_hash_for_node`: the numbers are read from the records. -/
def getLastBillingHashForNode (nodeId : String) : String :=
  ((s.billing.entries.foldl (laterRecord nodeId) (0, none)).2.map (·.recordHash)).getD ""

def getBillingRecordsForNode (nodeId : String) : List BillingRecord :=
  s.billing.entries.filter (fun record => Text.startsWith (billingKey record) (nodeId ++ ":"))

def watermarkKey : String := "billing_export_watermark"

def getBillingExportWatermark : Nat :=
  match s.schemaMeta.get? watermarkKey with
  | some entry => (Text.parseU64 entry.2).getD 0
  | none => 0

def setBillingExportWatermark (seq : Nat) : BillingStore :=
  { s with schemaMeta := s.schemaMeta.insert (watermarkKey, toString seq) }

/-- The records above the watermark, in the order of their keys. -/
def unexported : List BillingRecord :=
  s.getAllBillingRecords.filter (fun r => s.getBillingExportWatermark < r.seq.toNat)

def readUnexportedBillingRecords (limit : Nat) : List BillingRecord :=
  s.unexported.take limit

def billingCursorKey (nodeId : String) : String := "billing_cursor:" ++ nodeId

/-- `load_meta` at a cursor's key. -/
def loadCursor (nodeId : String) : Option (UInt64 × String) :=
  (s.cursors.get? (billingCursorKey nodeId)).map Prod.snd

/-- `save_meta` at a cursor's key. -/
def saveCursor (nodeId : String) (cursor : UInt64 × String) : BillingStore :=
  { s with cursors := s.cursors.insert (billingCursorKey nodeId, cursor) }

end BillingStore

theorem parseBillingKey_billingKey (r : BillingRecord) :
    parseBillingKey (billingKey r) = some (r.nodeId, r.seq.toNat) := by
  have hsplit : Text.rsplitOnce (billingKey r) ':' = some (r.nodeId, toString r.seq.toNat) :=
    Text.rsplitOnce_append r.nodeId (toString r.seq.toNat) ':' (Text.toString_no_colon _)
  rw [parseBillingKey, hsplit]
  simp only [Option.bind_eq_bind, Option.bind_some, Text.parseU64_toString _ r.seq.toNat_lt]
  rfl

theorem billingKey_inj {a b : BillingRecord} (h : billingKey a = billingKey b) :
    a.nodeId = b.nodeId ∧ a.seq = b.seq := by
  have hparsed := congrArg parseBillingKey h
  rw [parseBillingKey_billingKey, parseBillingKey_billingKey, Option.some.injEq,
    Prod.mk.injEq] at hparsed
  exact ⟨hparsed.1, UInt64.toNat_inj.mp hparsed.2⟩

namespace BillingStore

theorem getBillingExportWatermark_set (s : BillingStore) {seq : Nat} (hseq : seq < 2 ^ 64) :
    (s.setBillingExportWatermark seq).getBillingExportWatermark = seq := by
  rw [getBillingExportWatermark, setBillingExportWatermark]
  simp only [OrdTable.get?_insert, if_true, Text.parseU64_toString seq hseq, Option.getD_some]

theorem laterSeq_eq (nodeId : String) (maxSeq : Nat) (record : BillingRecord) :
    laterSeq nodeId maxSeq record =
      if record.nodeId = nodeId then max maxSeq record.seq.toNat else maxSeq := by
  rw [laterSeq, parseBillingKey_billingKey]

theorem mem_unexported {s : BillingStore} {r : BillingRecord} :
    r ∈ s.unexported ↔ r ∈ s.billing ∧ s.getBillingExportWatermark < r.seq.toNat := by
  rw [unexported, List.mem_filter, decide_eq_true_eq]
  exact Iff.rfl

end BillingStore

end WasmCloud
