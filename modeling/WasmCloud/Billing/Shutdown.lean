import WasmCloud.Billing.Writer

/-!
# Shutting the Billing Writer Down

Inputs go through a channel to the writer's loop, which waits for the next input or for the
signal to shut down, whichever it is offered. At the signal it flushes its buffer and ends.
It does not look into the channel again, so what was accepted and not yet received is lost:
`shutdown_complete_iff`.

A flush is one step here. Calls of `record` may come in between, but they only reach the
channel, which a flush does not read. Writes succeed.
-/

namespace WasmCloud

open List

def channelCapacity : Nat := 50000

/-- The channel, the loop and its store. `accepted` and `written` are the history. -/
structure Collector where
  channel : List BillingInput
  senders : Bool
  signalled : Bool
  dropped : Nat
  running : Bool
  writer : Writer
  store : BillingStore
  accepted : List BillingInput
  written : List BillingRecord

/-- What happens: the calls, and what the loop does when it is offered something. -/
inductive CollectorAction where
  | record (input : BillingInput)
  | shutdown
  | dropSenders
  | receive (timestampMs : UInt64)
  | deadline
  | closed
  | stop
  deriving DecidableEq, Repr

section

variable (sha256 : List UInt8 → List UInt8) (nodeId : String)

def Collector.start (store : BillingStore) (cursorReadable seqReadable hashReadable : Bool) :
    Collector :=
  let cursor := recoverCursor store nodeId cursorReadable seqReadable hashReadable
  ⟨[], true, false, 0, true, ⟨cursor.1, cursor.2, [], false⟩, store, [], []⟩

def Collector.flushBatch (s : Collector) : Collector :=
  if s.writer.batch.isEmpty then s
  else
    { s with
      store := (s.writer.batch.foldl BillingStore.writeBillingRecord s.store).saveCursor nodeId
        (s.writer.seq, s.writer.prevHash)
      written := s.written ++ s.writer.batch
      writer := { s.writer with batch := [], flushing := false } }

/-- `record` and `shutdown` of the collector, and one round of `billing_writer_loop`. -/
def collectorStep (s : Collector) : CollectorAction → Collector
  | .record input =>
    -- A channel that is full or has no receiver does not take the input.
    if s.running && s.senders && s.channel.length < channelCapacity then
      { s with channel := s.channel ++ [input], accepted := s.accepted ++ [input] }
    else { s with dropped := s.dropped + 1 }
  | .shutdown => { s with signalled := true }
  | .dropSenders => { s with senders := false, signalled := true }
  | .receive timestampMs =>
    match s.running, s.channel with
    | true, input :: rest =>
      let received := { s with
        channel := rest
        writer := s.writer.receive sha256 nodeId input timestampMs }
      if batchSize ≤ received.writer.batch.length then received.flushBatch nodeId else received
    | _, _ => s
  | .deadline => if s.running then s.flushBatch nodeId else s
  | .closed =>
    if s.running && !s.senders && s.channel.isEmpty then
      { s.flushBatch nodeId with running := false }
    else s
  | .stop =>
    if s.running && s.signalled then { s.flushBatch nodeId with running := false } else s

/-- The numbers of `n` records, of which `first` is the first. They are `u64`. -/
def numbersFrom (first : UInt64) (n : Nat) : List UInt64 :=
  (List.range n).map fun i => first + UInt64.ofNat i

/-- An input as it is billed: under the node of the loop. -/
def BillingInput.billedAt (input : BillingInput) : BillingInput := { input with nodeId := nodeId }

/-- Every accepted input has exactly one stored record, in the order of acceptance. -/
structure Collector.Complete (s : Collector) : Prop where
  inputs : s.written.map BillingRecord.input = s.accepted.map (·.billedAt nodeId)
  order : s.written.Pairwise (fun a b => a.seq.toNat < b.seq.toNat)
  stored : ∀ r ∈ s.written, r ∈ s.store.billing

/-- Where the inputs are, and which numbers their records have, as long as they fit. -/
structure CollectorInv (first : UInt64) (s : Collector) : Prop where
  places : (s.written ++ s.writer.batch).map BillingRecord.input ++
    s.channel.map (·.billedAt nodeId) = s.accepted.map (·.billedAt nodeId)
  numbers : (s.written ++ s.writer.batch).map BillingRecord.seq =
    numbersFrom first (s.written ++ s.writer.batch).length
  seq : s.writer.seq + 1 = first + UInt64.ofNat (s.written ++ s.writer.batch).length
  stored : first.toNat + s.accepted.length ≤ 2 ^ 64 → ∀ r ∈ s.written, r ∈ s.store.billing

end

theorem numbersFrom_succ (first : UInt64) (n : Nat) :
    numbersFrom first (n + 1) = numbersFrom first n ++ [first + UInt64.ofNat n] := by
  simp [numbersFrom, range_succ]

theorem toNat_add_ofNat (first : UInt64) (n : Nat) :
    (first + UInt64.ofNat n).toNat = (first.toNat + n) % 2 ^ 64 := by
  rw [UInt64.toNat_add, UInt64.toNat_ofNat']
  exact Nat.add_mod_mod _ _ _

theorem numbersFrom_increasing_iff (first : UInt64) (n : Nat) :
    (numbersFrom first n).Pairwise (fun a b => a.toNat < b.toNat) ↔ first.toNat + n ≤ 2 ^ 64 := by
  have hbound := first.toNat_lt
  simp only [numbersFrom, pairwise_map, toNat_add_ofNat]
  constructor
  · intro h
    by_contra hlarge
    -- The first number and the one after the largest, which is zero.
    have hlt := pairwise_iff_getElem.mp h 0 (2 ^ 64 - first.toNat)
      (by simp; omega) (by simp; omega) (by omega)
    simp only [getElem_range] at hlt
    omega
  · intro hfits
    refine pairwise_lt_range.imp_of_mem fun ha hb hlt => ?_
    rw [mem_range] at ha hb
    rw [Nat.mod_eq_of_lt (by omega), Nat.mod_eq_of_lt (by omega)]
    omega

variable {sha256 : List UInt8 → List UInt8} {nodeId : String} {first : UInt64} {s : Collector}

theorem mem_foldl_write {written batch : List BillingRecord} {store : BillingStore}
    (hstored : ∀ r ∈ written, r ∈ store.billing)
    (hnumbers : (written ++ batch).Pairwise (fun a b => a.seq.toNat < b.seq.toNat)) :
    ∀ r ∈ written ++ batch, r ∈ (batch.foldl BillingStore.writeBillingRecord store).billing := by
  induction batch generalizing written store with
  | nil => simpa using hstored
  | cons record batch ih =>
    have happend : written ++ record :: batch = (written ++ [record]) ++ batch := by simp
    rw [happend] at hnumbers ⊢
    refine ih (fun r hr => ?_) hnumbers
    refine OrdTable.mem_insert.mpr ?_
    rcases mem_append.mp hr with hr | hr
    · refine .inr ⟨hstored r hr, fun hkey => ?_⟩
      have hlt := (pairwise_append.mp (pairwise_append.mp hnumbers).1).2.2 r hr record
        mem_cons_self
      rw [(billingKey_inj hkey).2] at hlt
      exact Nat.lt_irrefl _ hlt
    · exact .inl (mem_singleton.mp hr)

section Keeps

variable (h : CollectorInv nodeId first s)
include h

theorem CollectorInv.length_eq :
    (s.written ++ s.writer.batch).length + s.channel.length = s.accepted.length := by
  simpa [Nat.add_assoc] using congrArg List.length h.places

theorem CollectorInv.increasing_iff :
    (s.written ++ s.writer.batch).Pairwise (fun a b => a.seq.toNat < b.seq.toNat) ↔
      first.toNat + (s.written ++ s.writer.batch).length ≤ 2 ^ 64 := by
  rw [← numbersFrom_increasing_iff, ← h.numbers, pairwise_map]

theorem CollectorInv.flushBatch : CollectorInv nodeId first (s.flushBatch nodeId) := by
  unfold Collector.flushBatch
  split_ifs
  · exact h
  · refine ⟨?_, ?_, ?_, fun hfits => ?_⟩
    · simpa using h.places
    · simpa using h.numbers
    · simpa using h.seq
    · have hlength := h.length_eq
      simp only at hfits
      exact mem_foldl_write (h.stored hfits) (h.increasing_iff.mpr (by omega))

theorem CollectorInv.receive {input : BillingInput}
    {rest : List BillingInput} (hchannel : s.channel = input :: rest) (timestampMs : UInt64) :
    CollectorInv nodeId first { s with
      channel := rest
      writer := s.writer.receive sha256 nodeId input timestampMs } := by
  have hplaces := h.places
  have hnumbers := h.numbers
  have hseq := h.seq
  rw [hchannel] at hplaces
  unfold Writer.receive
  refine ⟨?_, ?_, ?_, h.stored⟩
  · simpa [buildRecord, BillingRecord.input, BillingInput.billedAt] using hplaces
  · simp only [← append_assoc, map_append, length_append, map_cons,
      map_nil, length_cons, length_nil, Nat.zero_add] at hnumbers hseq ⊢
    rw [numbersFrom_succ, hnumbers, ← hseq]
    rfl
  · simp only [← append_assoc, length_append, length_cons, length_nil, Nat.zero_add] at hseq ⊢
    rw [UInt64.ofNat_add, ← UInt64.add_assoc, ← hseq]
    rfl

theorem CollectorInv.step (a : CollectorAction) :
    CollectorInv nodeId first (collectorStep sha256 nodeId s a) := by
  cases a with
  | record input =>
    simp only [collectorStep]
    split_ifs
    · refine ⟨?_, h.numbers, h.seq, fun hfits => h.stored ?_⟩
      · have hplaces := h.places
        simp [← hplaces]
      · simp only [length_append, length_singleton] at hfits
        omega
    · exact ⟨h.places, h.numbers, h.seq, h.stored⟩
  | shutdown | dropSenders => exact ⟨h.places, h.numbers, h.seq, h.stored⟩
  | receive timestampMs =>
    simp only [collectorStep]
    split
    · rename_i input rest hrunning hchannel
      split_ifs
      · exact (h.receive hchannel timestampMs).flushBatch
      · exact h.receive hchannel timestampMs
    · exact h
  | deadline =>
    simp only [collectorStep]
    split_ifs
    · exact h.flushBatch
    · exact h
  | closed | stop =>
    simp only [collectorStep]
    split_ifs
    · exact ⟨h.flushBatch.places, h.flushBatch.numbers, h.flushBatch.seq, h.flushBatch.stored⟩
    · exact h

end Keeps

theorem collectorInv_run (sha256 : List UInt8 → List UInt8) (nodeId : String)
    (store : BillingStore) (c q d : Bool) (run : List CollectorAction) :
    CollectorInv nodeId ((recoverCursor store nodeId c q d).1 + 1)
      (runAll (collectorStep sha256 nodeId) (.start nodeId store c q d) run) :=
  invariant_run (fun _ a h => h.step a) run
    ⟨rfl, rfl, by simp [Collector.start], fun _ _ hr => nomatch hr⟩

theorem flushBatch_written (s : Collector) :
    (s.flushBatch nodeId).written = s.written ++ s.writer.batch ∧
      (s.flushBatch nodeId).accepted = s.accepted := by
  unfold Collector.flushBatch
  split <;> simp_all

theorem collectorStep_exit {a : CollectorAction} (hrunning : s.running = true)
    (hexit : (collectorStep sha256 nodeId s a).running = false) :
    collectorStep sha256 nodeId s a = { s.flushBatch nodeId with running := false } := by
  have hflush (t : Collector) : (t.flushBatch nodeId).running = t.running := by
    unfold Collector.flushBatch
    split_ifs <;> rfl
  have hstays : s.running ≠ false := by simp [hrunning]
  cases a with
  | record input =>
    simp only [collectorStep] at hexit
    split_ifs at hexit <;> exact absurd hexit hstays
  | shutdown | dropSenders => exact absurd hexit hstays
  | receive timestampMs =>
    grind [collectorStep]
  | deadline =>
    simp only [collectorStep, hrunning, if_true, hflush] at hexit
    nomatch hexit
  | closed | stop =>
    grind [collectorStep]

theorem collectorStep_ended (a : CollectorAction) (hended : s.running = false) :
    (collectorStep sha256 nodeId s a).running = false ∧
      (collectorStep sha256 nodeId s a).accepted = s.accepted ∧
      (collectorStep sha256 nodeId s a).written = s.written ∧
      (collectorStep sha256 nodeId s a).store = s.store := by
  cases a <;> simp [collectorStep, hended]

theorem runAll_ended (run : List CollectorAction) (hended : s.running = false) :
    (runAll (collectorStep sha256 nodeId) s run).Complete nodeId ↔ s.Complete nodeId := by
  induction run generalizing s with
  | nil => rfl
  | cons a run ih =>
    obtain ⟨hstill, haccepted, hwritten, hstore⟩ := collectorStep_ended a hended
    rw [runAll_cons, ih hstill]
    constructor <;> intro h <;> refine ⟨?_, ?_, ?_⟩
    · rw [← haccepted, ← hwritten, h.inputs]
    · exact hwritten ▸ h.order
    · rw [← hstore, ← hwritten]
      exact h.stored
    · rw [haccepted, hwritten, h.inputs]
    · exact hwritten ▸ h.order
    · rw [hstore, hwritten]
      exact h.stored

/-- Of a loop that ended in `t`, every accepted input has its one record, in order, exactly if
    nothing waited in the channel and the `u64` numbers did not start again at zero. -/
theorem shutdown_complete_iff (sha256 : List UInt8 → List UInt8) (nodeId : String)
    (store : BillingStore) (c q d : Bool) (before after : List CollectorAction)
    (a : CollectorAction) (t : Collector)
    (ht : t = runAll (collectorStep sha256 nodeId) (.start nodeId store c q d) before)
    (hrunning : t.running = true) (hexit : (collectorStep sha256 nodeId t a).running = false) :
    (runAll (collectorStep sha256 nodeId) (.start nodeId store c q d)
        (before ++ a :: after)).Complete nodeId ↔
      t.channel = [] ∧
        ((recoverCursor store nodeId c q d).1 + 1).toNat + t.accepted.length ≤ 2 ^ 64 := by
  have hinv := collectorInv_run sha256 nodeId store c q d before
  rw [runAll_append, ← ht, runAll_cons, runAll_ended after hexit, collectorStep_exit hrunning hexit]
  rw [← ht] at hinv
  have hlength := hinv.length_eq
  obtain ⟨hwritten, haccepted⟩ := @flushBatch_written nodeId t
  constructor
  · intro h
    -- As many records as inputs, so none of the inputs is left.
    have hcount := congrArg List.length h.inputs
    have horder := h.order
    simp only [length_map, hwritten, haccepted] at hcount horder
    have hempty : t.channel.length = 0 := by omega
    have hfits := hinv.increasing_iff.mp horder
    exact ⟨length_eq_zero_iff.mp hempty, by omega⟩
  · intro ⟨hempty, hfits⟩
    have hplaces := hinv.places
    rw [hempty, map_nil, append_nil] at hplaces
    refine ⟨?_, ?_, ?_⟩
    · simpa only [hwritten, haccepted] using hplaces
    · simp only [hwritten]
      exact hinv.increasing_iff.mpr (by omega)
    · exact hinv.flushBatch.stored (by rw [haccepted]; exact hfits)

/-- An input that waits in the channel when the loop takes the signal has no record. -/
theorem shutdown_loses_input :
    let t := runAll (collectorStep sampleSha256 "node-0") (.start "node-0" .empty true true true)
      [.record sampleRecord.input, .shutdown, .stop]
    t.running = false ∧ t.accepted = [sampleRecord.input] ∧ t.written = [] ∧
      ¬t.Complete "node-0" := by
  refine ⟨rfl, rfl, rfl, fun h => ?_⟩
  nomatch h.inputs

theorem shutdown_keeps_input :
    (runAll (collectorStep sampleSha256 "node-0") (.start "node-0" .empty true true true)
      ([.record sampleRecord.input, .receive 5, .shutdown] ++ [.stop])).Complete "node-0" :=
  (shutdown_complete_iff sampleSha256 "node-0" .empty true true true
    [.record sampleRecord.input, .receive 5, .shutdown] [] .stop _ rfl rfl rfl).mpr
    ⟨rfl, by decide⟩

end WasmCloud
