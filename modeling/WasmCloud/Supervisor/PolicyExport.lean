import WasmCloud.Lib.Run
import WasmCloud.Lib.Tally

/-!
# Exported Policy Counters

Every instance counts what its policy has denied. The supervisor publishes the counts as totals:
it remembers with each instance what it has published of it, and adds the difference on every
health tick, and a last time when the instance has exited.

A snapshot is taken one counter at a time, and anything may happen between two of them. Only the
thread that exports an instance has access to what is remembered of it, so publishing a snapshot
is one step. A total is then the sum of what is remembered, and what is remembered of an instance
that was finalised is a value its counter had during that.

Counts and totals have 64 bits. While they do not wrap, what is read is never below what is
remembered, and the differences, which are cut at zero, are exact.

## Main definitions

* `step`: A spawn, a denial, or the next step of a tick or of a finalisation.
* `Fits`: No counter of a kind, nor their sum, is about to wrap.
* `Ok`: The total is the sum of what is remembered.
* `WasValue`: A value that a counter had while its instance was being finalised.

## Theorems

* `ok_traced_run`: Both invariants hold along every run that fits.
* `denials_exported_once`: Every denial that was counted is published once.
-/

namespace WasmCloud

open Function List

namespace PolicyExport

/-- The kinds of denial that are counted. -/
inductive Denial where
  | connection
  | egress
  | fd
  | fsWrite
  | bind
  | dns
  | memoryGrowth
  | tableGrowth
  deriving DecidableEq, Repr

inductive Gauge where
  | activeOutboundConnections
  | openFds
  | currentMemoryBytes
  | currentTableElements
  deriving DecidableEq, Repr

inductive Counter where
  | denied (kind : Denial)
  | gauge (kind : Gauge)
  deriving DecidableEq, Repr

/-- The counters in the order of `PolicyCounterSnapshot::from_counters`. -/
def allCounters : List Counter :=
  [.denied .connection, .denied .egress, .denied .fd, .denied .fsWrite, .denied .bind,
    .denied .dns, .denied .memoryGrowth, .denied .tableGrowth, .gauge .activeOutboundConnections,
    .gauge .openFds, .gauge .currentMemoryBytes, .gauge .currentTableElements]

/-- `PolicyCounterSnapshot`, and the counters themselves. -/
abbrev Snapshot := Counter → Nat

/-- `PolicyCounterSnapshot::default`. -/
def Snapshot.zero : Snapshot := fun _ => 0

/-- A snapshot on its way: what is still to be read, and what has been. -/
structure Reading where
  pending : List Counter
  seen : Snapshot

def Reading.start : Reading := ⟨allCounters, Snapshot.zero⟩

/-- In a pool, taken out of it, being finalised, finalised, or dropped with the pool. -/
inductive Place where
  | pooled (app : String)
  | taken (app : String)
  | finalising
  | finalised
  | dropped
  deriving DecidableEq, Repr

/-- A `ManagedInstance`, as far as its policy counters go. -/
structure Instance where
  policyCounters : Option Snapshot
  lastPolicyExport : Snapshot
  reading : Option Reading
  place : Place

def Instance.counts (x : Instance) : Snapshot := x.policyCounters.getD Snapshot.zero

/-- An index that no instance has. -/
def Instance.vacant : Instance := ⟨none, Snapshot.zero, none, .dropped⟩

/-- `PolicyMetrics`. -/
structure Metrics where
  denied : Denial → Nat
  gauges : Gauge → Int

/-- The `inc_by` calls for one instance. -/
def Metrics.publish (metrics : Metrics) (last snapshot : Snapshot) : Metrics :=
  { metrics with
    denied := fun kind =>
      (metrics.denied kind + (snapshot (.denied kind) - last (.denied kind))) % 2 ^ 64 }

/-- The `set` calls. -/
def Metrics.setGauges (metrics : Metrics) (gauges : Gauge → Int) : Metrics :=
  { metrics with gauges := gauges }

/-- A gauge of a snapshot. Bytes are converted from 64 unsigned bits. -/
def gaugeOf (snapshot : Snapshot) : Gauge → Int
  | .currentMemoryBytes => (BitVec.ofNat 64 (snapshot (.gauge .currentMemoryBytes))).toInt
  | kind => snapshot (.gauge kind)

/-- How far exporting an instance has come. -/
inductive Progress where
  | skipped
  | reading
  | exported (snapshot : Snapshot)

/-- One step of the loop of `export_policy_metrics` for one instance. -/
def Instance.exportStep (x : Instance) (metrics : Metrics) : Instance × Metrics × Progress :=
  match x.policyCounters, x.reading with
  | none, _ => (x, metrics, .skipped)
  | some _, none => ({ x with reading := some Reading.start }, metrics, .reading)
  | some counters, some ⟨counter :: pending, seen⟩ =>
    ({ x with reading := some ⟨pending, update seen counter (counters counter)⟩ },
      metrics, .reading)
  | some _, some ⟨[], seen⟩ =>
    ({ x with lastPolicyExport := seen, reading := none },
      metrics.publish x.lastPolicyExport seen, .exported seen)

/-- The pools to come, the rest of the current pool, and the sums of the gauges. -/
structure Tick where
  pools : List (List Nat)
  current : Option (List Nat)
  poolSums : Gauge → Int
  sums : Gauge → Int

/-- Instances are known by how many were placed before them. -/
structure State where
  placed : Nat
  instances : Nat → Instance
  metrics : Metrics
  tick : Option Tick

/-- Nothing has been placed, and the metrics are installed. -/
def State.initial : State :=
  ⟨0, fun _ => Instance.vacant, ⟨fun _ => 0, fun _ => 0⟩, none⟩

def State.set (s : State) (i : Nat) (x : Instance) : State :=
  { s with instances := update s.instances i x }

inductive Action where
  | spawn (app : String) (policyCounters : Option Snapshot)
  | deny (i : Nat) (kind : Denial)
  | moveGauge (i : Nat) (kind : Gauge) (value : Nat)
  | beginTick (pools : List (List Nat))
  | tick
  | take (i : Nat)
  | reinsert (i : Nat)
  | forgetApp (app : String)
  | finalise (i : Nat)

/-- A counter of an instance is written, if it has counters. -/
def Instance.write (x : Instance) (counter : Counter) (value : Nat → Nat) : Instance :=
  { x with
    policyCounters := x.policyCounters.map (fun counters =>
      update counters counter (value (counters counter))) }

/-- `export_policy_metrics_from_pools`. Gauges are set for each pool, and for all at the end. -/
def tickStep (s : State) (t : Tick) : State :=
  match t.current, t.pools with
  | some (i :: rest), _ =>
    let exported := (s.instances i).exportStep s.metrics
    let s := { s.set i exported.1 with metrics := exported.2.1 }
    match exported.2.2 with
    | .reading => s
    | .skipped => { s with tick := some { t with current := some rest } }
    | .exported snapshot => { s with
        tick := some { t with
          current := some rest
          poolSums := fun kind => t.poolSums kind + gaugeOf snapshot kind } }
  | some [], _ => { s with
      metrics := s.metrics.setGauges t.poolSums
      tick := some { t with
        current := none
        sums := fun kind => t.sums kind + t.poolSums kind } }
  | none, pool :: pools => { s with
      tick := some { t with pools := pools, current := some pool, poolSums := fun _ => 0 } }
  | none, [] => { s with metrics := s.metrics.setGauges t.sums, tick := none }

/-- One step of `finalize_instance_exit` up to the end of the flush. -/
def finaliseStep (s : State) (i : Nat) : State :=
  match (s.instances i).place with
  | .taken _ => s.set i
      { s.instances i with reading := some Reading.start, place := .finalising }
  | .finalising =>
    let exported := (s.instances i).exportStep s.metrics
    match exported.2.2 with
    | .reading => { s.set i exported.1 with metrics := exported.2.1 }
    | .skipped => { s.set i { exported.1 with place := .finalised } with
        metrics := exported.2.1.setGauges (fun _ => 0) }
    | .exported snapshot => { s.set i { exported.1 with place := .finalised } with
        metrics := exported.2.1.setGauges (gaugeOf snapshot) }
  | _ => s

/-- One step. A tick holds the pools, so nothing else gets at them meanwhile. -/
def step (s : State) : Action → State
  | .spawn app policyCounters =>
    if s.tick.isSome then s
    else { s.set s.placed ⟨policyCounters, Snapshot.zero, none, .pooled app⟩ with
      placed := s.placed + 1 }
  | .deny i kind => s.set i ((s.instances i).write (.denied kind) (fun n => (n + 1) % 2 ^ 64))
  | .moveGauge i kind value => s.set i ((s.instances i).write (.gauge kind) (fun _ => value))
  | .beginTick pools =>
    if s.tick.isSome || !pools.all (fun pool => pool.all (fun i =>
        match (s.instances i).place with
        | .pooled _ => true
        | _ => false)) then s
    else { s with tick := some ⟨pools, none, fun _ => 0, fun _ => 0⟩ }
  | .tick => (s.tick.map (tickStep s)).getD s
  | .take i =>
    match s.tick, (s.instances i).place with
    | none, .pooled app => s.set i { s.instances i with place := .taken app }
    | _, _ => s
  | .reinsert i =>
    match s.tick, (s.instances i).place with
    | none, .taken app => s.set i { s.instances i with place := .pooled app }
    | _, _ => s
  | .forgetApp app =>
    if s.tick.isSome then s
    else { s with
      instances := fun i =>
        if (s.instances i).place = .pooled app then { s.instances i with place := .dropped }
        else s.instances i }
  | .finalise i => finaliseStep s i

theorem mem_allCounters (counter : Counter) : counter ∈ allCounters := by
  cases counter with
  | denied kind | gauge kind =>
    cases kind with
    | _ => decide

/-- Remembered is at most what is counted, and what was read is between the two. -/
structure InstanceOk (kind : Denial) (x : Instance) : Prop where
  remembered : x.lastPolicyExport (.denied kind) ≤ x.counts (.denied kind)
  seen : ∀ r ∈ x.reading, .denied kind ∉ r.pending →
    x.lastPolicyExport (.denied kind) ≤ r.seen (.denied kind) ∧
      r.seen (.denied kind) ≤ x.counts (.denied kind)

/-- What a step of the export does. -/
inductive ExportEffect (x : Instance) (metrics : Metrics) :
    Instance × Metrics × Progress → Prop where
  | skips (hc : x.policyCounters = none) : ExportEffect x metrics (x, metrics, .skipped)
  | starts (hr : x.reading = none) :
      ExportEffect x metrics ({ x with reading := some Reading.start }, metrics, .reading)
  | reads (counters : Snapshot) (counter : Counter) (pending : List Counter) (seen : Snapshot)
      (hc : x.policyCounters = some counters) (hr : x.reading = some ⟨counter :: pending, seen⟩) :
      ExportEffect x metrics
        ({ x with reading := some ⟨pending, update seen counter (counters counter)⟩ }, metrics,
          .reading)
  | publishes (seen : Snapshot) (hr : x.reading = some ⟨[], seen⟩) :
      ExportEffect x metrics ({ x with lastPolicyExport := seen, reading := none },
        metrics.publish x.lastPolicyExport seen, .exported seen)

theorem exportStep_effect (x : Instance) (metrics : Metrics) :
    ExportEffect x metrics (x.exportStep metrics) := by
  unfold Instance.exportStep
  split
  · exact .skips ‹_›
  · exact .starts ‹_›
  · exact .reads _ _ _ _ ‹_› ‹_›
  · exact .publishes _ ‹_›

variable {as : List Action} {kind : Denial} {was : Nat → Prop} {s : State} {x : Instance}

theorem InstanceOk.exportStep (h : InstanceOk kind x) (metrics : Metrics) :
    InstanceOk kind (x.exportStep metrics).1 := by
  have heffect := exportStep_effect x metrics
  generalize x.exportStep metrics = result at heffect ⊢
  cases heffect with
  | skips hc => exact h
  | starts hr => exact ⟨h.remembered, by grind [mem_allCounters, Reading.start]⟩
  | reads counters counter pending seen hc hr =>
    refine ⟨h.remembered, ?_⟩
    rintro r ⟨⟩ hpending
    have hcounts : counters = x.counts := by rw [Instance.counts, hc, Option.getD_some]
    dsimp only
    by_cases hread : .denied kind = counter
    · -- The value that has just been read.
      rw [← hread, update_self, hcounts]
      exact ⟨h.remembered, le_refl _⟩
    · rw [update_of_ne hread]
      exact h.seen _ hr (not_mem_cons_of_ne_of_not_mem hread hpending)
  | publishes seen hr => exact ⟨(h.seen _ hr not_mem_nil).2, nofun⟩

/-- What is added to the total is what is remembered more, while the total does not wrap. -/
theorem exportStep_balanced (h : InstanceOk kind x) {metrics : Metrics}
    (hroom : metrics.denied kind + x.counts (.denied kind) <
      2 ^ 64 + x.lastPolicyExport (.denied kind)) :
    (x.exportStep metrics).2.1.denied kind + x.lastPolicyExport (.denied kind) =
      metrics.denied kind + (x.exportStep metrics).1.lastPolicyExport (.denied kind) := by
  have heffect := exportStep_effect x metrics
  generalize x.exportStep metrics = result at heffect ⊢
  cases heffect with
  | skips _ | starts _ | reads _ _ _ _ _ _ => rfl
  | publishes seen hr =>
    obtain ⟨hlast, hseen⟩ := h.seen _ hr not_mem_nil
    dsimp only [Metrics.publish] at hlast hseen ⊢
    rw [Nat.mod_eq_of_lt (by omega)]
    omega

theorem exportStep_of_none (h : x.policyCounters = none) (metrics : Metrics) :
    x.exportStep metrics = (x, metrics, .skipped) := by
  simp [Instance.exportStep, h]

theorem exportStep_place (x : Instance) (metrics : Metrics) :
    (x.exportStep metrics).1.place = x.place := by
  have heffect := exportStep_effect x metrics
  generalize x.exportStep metrics = result at heffect ⊢
  cases heffect <;> rfl

theorem InstanceOk.moved (h : InstanceOk kind x) (place : Place) :
    InstanceOk kind { x with place := place } :=
  ⟨h.remembered, h.seen⟩

theorem InstanceOk.started (h : InstanceOk kind x) :
    InstanceOk kind { x with reading := some Reading.start, place := .finalising } := by
  refine ⟨h.remembered, ?_⟩
  intro r hr hpending
  rw [← Option.some.inj hr] at hpending
  exact absurd (mem_allCounters (.denied kind)) hpending

variable {value : Nat → Nat} {t : Tick}

theorem InstanceOk.write (h : InstanceOk kind x) (counter : Counter)
    (hvalue : x.policyCounters.isSome → counter = .denied kind →
      x.counts counter ≤ value (x.counts counter)) : InstanceOk kind (x.write counter value) := by
  have hle : x.counts (.denied kind) ≤ (x.write counter value).counts (.denied kind) := by
    cases hc : x.policyCounters with
    | none => simp [Instance.counts, Instance.write, hc]
    | some counters =>
      simp only [Instance.counts, Instance.write, hc, Option.map_some, Option.getD_some] at hvalue ⊢
      grind [update_apply]
  constructor
  · exact h.remembered.trans hle
  · intro r hr hpending
    obtain ⟨hlast, hseen⟩ := h.seen r hr hpending
    exact ⟨hlast, hseen.trans hle⟩

/-- The instances a tick is still to come to. -/
def Tick.ahead (t : Tick) : List Nat := t.current.getD [] ++ t.pools.flatten

/-- The counters of a kind are together below the last value of 64 bits. -/
def Fits (kind : Denial) (s : State) (_ : Action) : Prop :=
  ∑ i ∈ Finset.range s.placed, (s.instances i).counts (.denied kind) + 1 < 2 ^ 64

/-- The total is the sum of what is remembered, and a tick is at instances in their pools. -/
structure Ok (kind : Denial) (s : State) : Prop where
  total : s.metrics.denied kind =
    ∑ i ∈ Finset.range s.placed, (s.instances i).lastPolicyExport (.denied kind)
  instances : ∀ i, InstanceOk kind (s.instances i)
  vacant : ∀ i, s.placed ≤ i → (s.instances i).policyCounters = none
  held : ∀ t ∈ s.tick, ∀ i ∈ t.ahead, ∃ app, (s.instances i).place = .pooled app

theorem instanceOk_fresh (policyCounters : Option Snapshot) (place : Place) :
    InstanceOk kind ⟨policyCounters, Snapshot.zero, none, place⟩ :=
  ⟨Nat.zero_le _, fun _ hr => nomatch hr⟩

theorem ok_initial : Ok kind State.initial where
  total := rfl
  instances := fun _ => instanceOk_fresh none .dropped
  vacant := fun _ _ => rfl
  held := fun t ht => absurd ht (Option.not_mem_none t)

variable {metrics : Metrics} {i : Nat} {a : Action}

theorem Ok.lt_placed (h : Ok kind s) (hsome : (s.instances i).policyCounters.isSome) :
    i ∈ Finset.range s.placed := by
  rw [Finset.mem_range]
  by_contra hle
  rw [h.vacant i (Nat.le_of_not_lt hle)] at hsome
  cases hsome

/-- A total has room for what is counted of one instance and not remembered. -/
theorem Ok.room (h : Ok kind s) (hfits : Fits kind s a) (i : Nat) :
    s.metrics.denied kind + (s.instances i).counts (.denied kind) <
      2 ^ 64 + (s.instances i).lastPolicyExport (.denied kind) := by
  have hle : ∀ js : Finset Nat, ∑ j ∈ js, (s.instances j).lastPolicyExport (.denied kind) ≤
      ∑ j ∈ js, (s.instances j).counts (.denied kind) :=
    fun js => Finset.sum_le_sum fun j _ => (h.instances j).remembered
  rw [Fits] at hfits
  rw [h.total]
  cases hc : (s.instances i).policyCounters with
  | none =>
    have hall := hle (Finset.range s.placed)
    have hcounts : (s.instances i).counts (.denied kind) = 0 := by
      rw [Instance.counts, hc, Option.getD_none, Snapshot.zero]
    omega
  | some counters =>
    have hi := h.lt_placed (by rw [hc, Option.isSome_some])
    have hothers := hle ((Finset.range s.placed).erase i)
    rw [← Finset.add_sum_erase _ _ hi] at hfits ⊢
    omega

theorem Ok.retick (h : Ok kind s) (hmetrics : metrics.denied = s.metrics.denied)
    {tick : Option Tick}
    (hheld : ∀ t ∈ tick, ∀ i ∈ t.ahead, ∃ app, (s.instances i).place = .pooled app) :
    Ok kind ⟨s.placed, s.instances, metrics, tick⟩ :=
  ⟨(congrFun hmetrics kind).trans h.total, h.instances, h.vacant, hheld⟩

theorem Ok.set (h : Ok kind s) (i : Nat) (hx : InstanceOk kind x)
    (hcounters : (s.instances i).policyCounters = none →
      x.policyCounters = none ∧ x.lastPolicyExport = (s.instances i).lastPolicyExport)
    (hmetrics : metrics.denied kind + (s.instances i).lastPolicyExport (.denied kind) =
      s.metrics.denied kind + x.lastPolicyExport (.denied kind))
    (hplace : ∀ t ∈ s.tick, i ∈ t.ahead → x.place = (s.instances i).place) :
    Ok kind ⟨s.placed, update s.instances i x, metrics, s.tick⟩ where
  total := by
    have htotal := h.total
    dsimp only
    by_cases hi : i ∈ Finset.range s.placed
    · have hsum := Tally.sum_update s.instances x (fun y => y.lastPolicyExport (.denied kind)) hi
      omega
    · -- Nothing is remembered of an instance that was never placed.
      obtain ⟨-, hsame⟩ := hcounters (h.vacant i (Nat.le_of_not_lt (fun hlt =>
        hi (Finset.mem_range.mpr hlt))))
      rw [hsame] at hmetrics
      rw [Nat.add_right_cancel hmetrics, htotal]
      exact Finset.sum_congr rfl fun j hj => by grind
  instances := by grind [h.instances]
  vacant := by grind [h.vacant]
  held := by
    have hheld := h.held
    grind

theorem Ok.exportStep (h : Ok kind s) (hfits : Fits kind s a) (i : Nat) :
    Ok kind ⟨s.placed, update s.instances i ((s.instances i).exportStep s.metrics).1,
      ((s.instances i).exportStep s.metrics).2.1, s.tick⟩ := by
  refine h.set i ((h.instances i).exportStep s.metrics) ?_
    (exportStep_balanced (h.instances i) (h.room hfits i)) (fun _ _ _ => exportStep_place _ _)
  intro hnone
  rw [exportStep_of_none hnone]
  exact ⟨hnone, rfl⟩

theorem Ok.move (h : Ok kind s) (i : Nat) (place : Place)
    (hplace : ∀ t ∈ s.tick, i ∈ t.ahead → place = (s.instances i).place) :
    Ok kind (s.set i { s.instances i with place := place }) :=
  h.set i ((h.instances i).moved place) (fun hnone => ⟨hnone, rfl⟩) rfl hplace

theorem Ok.write (h : Ok kind s) (i : Nat) (counter : Counter)
    (hvalue : (s.instances i).policyCounters.isSome → counter = .denied kind →
      (s.instances i).counts counter ≤ value ((s.instances i).counts counter)) :
    Ok kind (s.set i ((s.instances i).write counter value)) := by
  refine h.set i ((h.instances i).write counter hvalue) ?_ rfl (fun _ _ _ => rfl)
  intro hnone
  exact ⟨by rw [Instance.write, hnone, Option.map_none], rfl⟩

/-- A step of a tick exports an instance, or changes no more than gauges and its place. -/
theorem tickStep_cases (s : State) (t : Tick) (ht : s.tick = some t) :
    ∃ tick : Option Tick, (∀ t' ∈ tick, ∀ i ∈ t'.ahead, i ∈ t.ahead) ∧
      ((∃ i ∈ t.ahead, tickStep s t =
          ⟨s.placed, update s.instances i ((s.instances i).exportStep s.metrics).1,
            ((s.instances i).exportStep s.metrics).2.1, tick⟩) ∨
        ∃ gauges, tickStep s t = ⟨s.placed, s.instances, s.metrics.setGauges gauges, tick⟩) := by
  obtain ⟨pools, current, poolSums, sums⟩ := t
  cases current with
  | some rest =>
    cases rest with
    | cons i rest =>
      -- Whatever the sums are, a tick that goes on has the rest ahead of it.
      have hrest : ∀ (poolSums' : Gauge → Int) (j : Nat),
          j ∈ (Tick.mk pools (some rest) poolSums' sums).ahead →
            j ∈ (Tick.mk pools (some (i :: rest)) poolSums sums).ahead :=
        fun _ j hj => mem_cons_of_mem i hj
      cases hprogress : ((s.instances i).exportStep s.metrics).2.2 with
      | reading =>
        exact ⟨s.tick, by grind, .inl ⟨i, .head _, by simp [tickStep, hprogress, State.set]⟩⟩
      | skipped =>
        exact ⟨some ⟨pools, some rest, poolSums, sums⟩, by grind,
          .inl ⟨i, .head _, by simp [tickStep, hprogress, State.set]⟩⟩
      | exported snapshot =>
        exact ⟨some ⟨pools, some rest, fun kind => poolSums kind + gaugeOf snapshot kind, sums⟩,
          by grind, .inl ⟨i, .head _, by simp [tickStep, hprogress, State.set]⟩⟩
    | nil => exact ⟨some _, by rintro _ ⟨⟩ j hj; exact hj, .inr ⟨_, rfl⟩⟩
  | none =>
    cases pools with
    | cons pool pools =>
      exact ⟨some _, by rintro _ ⟨⟩ j hj; exact hj, .inr ⟨s.metrics.gauges, rfl⟩⟩
    | nil => exact ⟨none, nofun, .inr ⟨_, rfl⟩⟩

theorem Ok.tickStep (h : Ok kind s) (hfits : Fits kind s a) (ht : s.tick = some t) :
    Ok kind (tickStep s t) := by
  have hpooled : ∀ i ∈ t.ahead, ∃ app, (s.instances i).place = .pooled app := h.held t ht
  obtain ⟨tick, hahead, ⟨i, hi, heq⟩ | ⟨gauges, heq⟩⟩ := tickStep_cases s t ht
  · rw [heq]
    refine (h.exportStep hfits i).retick rfl ?_
    intro t' ht' j hj
    exact (h.exportStep hfits i).held t ht j (hahead t' ht' j hj)
  · rw [heq]
    have hsame : (s.metrics.setGauges gauges).denied = s.metrics.denied := rfl
    exact h.retick hsame fun t' ht' j hj => hpooled j (hahead t' ht' j hj)

theorem finaliseStep_cases (s : State) (i : Nat) :
    let x := s.instances i
    let exported := x.exportStep s.metrics
    finaliseStep s i = s ∨
    (∃ app, x.place = .taken app ∧ finaliseStep s i =
      s.set i { x with reading := some Reading.start, place := .finalising }) ∨
    (x.place = .finalising ∧ finaliseStep s i =
      { s.set i exported.1 with metrics := exported.2.1 }) ∨
    (x.place = .finalising ∧ exported.2.2 ≠ .reading ∧ ∃ gauges, finaliseStep s i =
      { s.set i { exported.1 with place := .finalised } with
        metrics := exported.2.1.setGauges gauges }) := by
  intro x exported
  unfold finaliseStep
  split
  · rename_i app hplace
    exact .inr (.inl ⟨app, hplace, rfl⟩)
  · rename_i hplace
    dsimp only
    split
    · exact .inr (.inr (.inl ⟨hplace, rfl⟩))
    all_goals
      rename_i hdone
      exact .inr (.inr (.inr ⟨hplace, hdone ▸ nofun, _, rfl⟩))
  · exact .inl rfl

theorem Ok.not_ahead (h : Ok kind s) {place : Place} (hplace : (s.instances i).place = place)
    (hout : ∀ app, place ≠ .pooled app) : ∀ t ∈ s.tick, i ∉ t.ahead := by
  intro t ht hi
  obtain ⟨app, hpooled⟩ := h.held t ht i hi
  exact hout app (hplace.symm.trans hpooled)

theorem Ok.finaliseStep (h : Ok kind s) (hfits : Fits kind s a) (i : Nat) :
    Ok kind (finaliseStep s i) := by
  rcases finaliseStep_cases s i with heq | ⟨app, hplace, heq⟩ | ⟨hplace, heq⟩ |
    ⟨hplace, -, gauges, heq⟩
  · rw [heq]
    exact h
  · rw [heq]
    have hout := h.not_ahead hplace (fun _ => Place.noConfusion)
    exact h.set i (h.instances i).started (fun hnone => ⟨hnone, rfl⟩) rfl
      (fun t ht hi => absurd hi (hout t ht))
  · rw [heq]
    exact h.exportStep hfits i
  · rw [heq]
    have hout := h.not_ahead hplace (fun _ => Place.noConfusion)
    have hmoved := (h.exportStep hfits i).move i .finalised
      (fun t ht hi => absurd hi (hout t ht))
    simp only [State.set, update_idem, update_self] at hmoved
    have hsame : (((s.instances i).exportStep s.metrics).2.1.setGauges gauges).denied =
      ((s.instances i).exportStep s.metrics).2.1.denied := rfl
    exact hmoved.retick hsame hmoved.held

theorem Ok.spawn (h : Ok kind s) (htick : s.tick = none) (x : Instance) (hx : InstanceOk kind x)
    (hlast : x.lastPolicyExport = Snapshot.zero) :
    Ok kind ⟨s.placed + 1, update s.instances s.placed x, s.metrics, s.tick⟩ where
  total := by
    dsimp only
    rw [Tally.sum_range_update x (fun y => y.lastPolicyExport (.denied kind)), hlast, h.total]
    rfl
  instances := by grind [h.instances]
  vacant := by grind [h.vacant]
  held := by grind

theorem Ok.forgetApp (h : Ok kind s) (htick : s.tick = none) (app : String) : Ok kind { s with
      instances := fun i =>
        if (s.instances i).place = .pooled app then { s.instances i with place := .dropped }
        else s.instances i } where
  total := by
    grind [h.total]
  instances := by
    intro i
    dsimp only
    split_ifs
    · exact (h.instances i).moved .dropped
    · exact h.instances i
  vacant := by
    grind [h.vacant]
  held := by
    intro t ht
    rw [htick] at ht
    nomatch ht

theorem ok_step (h : Ok kind s) (a : Action) (hfits : Fits kind s a) : Ok kind (step s a) := by
  cases a with
  | spawn app policyCounters =>
    cases htick : s.tick with
    | some t =>
      simp only [step, htick, Option.isSome_some, if_true]
      exact h
    | none =>
      have hspawned := h.spawn htick _ (instanceOk_fresh policyCounters (.pooled app)) rfl
      simp only [step, htick, Option.isSome_none, Bool.false_eq_true, if_false, State.set]
      rw [htick] at hspawned
      exact hspawned
  | deny i denial =>
    refine h.write i (.denied denial) ?_
    rintro hsome ⟨⟩
    have hle := @Tally.le_sum _ _ (fun j => (s.instances j).counts (.denied kind)) _
      (h.lt_placed hsome)
    rw [Nat.mod_eq_of_lt ((Nat.succ_le_succ hle).trans_lt hfits)]
    exact Nat.le_succ _
  | moveGauge i gauge value =>
    refine h.write i (.gauge gauge) ?_
    rintro - ⟨⟩
  | beginTick pools =>
    simp only [step]
    split_ifs with hbusy
    · exact h
    · refine h.retick rfl ?_
      intro t ht i hi
      rw [← Option.some.inj ht] at hi
      simp only [Bool.or_eq_true, Bool.not_eq_true', not_or, Bool.not_eq_false,
        all_eq_true] at hbusy
      obtain ⟨pool, hpool, hi⟩ := mem_flatten.mp hi
      have hplace := hbusy.2 pool hpool i hi
      grind
  | tick =>
    cases htick : s.tick with
    | none =>
      simp only [step, htick, Option.map_none, Option.getD_none]
      exact h
    | some t =>
      simp only [step, htick, Option.map_some, Option.getD_some]
      exact h.tickStep hfits htick
  | take i | reinsert i =>
    simp only [step]
    split
    · exact h.move i _ (by grind)
    · exact h
  | forgetApp app =>
    cases htick : s.tick with
    | some t =>
      simp only [step, htick, Option.isSome_some, if_true]
      exact h
    | none =>
      have hforgot := h.forgetApp htick app
      simp only [step, htick, Option.isSome_none, Bool.false_eq_true, if_false]
      rw [htick] at hforgot
      exact hforgot
  | finalise i => exact h.finaliseStep hfits i

/-- What is remembered or read was the value of the counter during finalisation. -/
structure InstanceTraced (kind : Denial) (was : Nat → Prop) (x : Instance) : Prop where
  finalising : x.place = .finalising → ∀ r ∈ x.reading, .denied kind ∉ r.pending →
    was (r.seen (.denied kind))
  finalised : x.place = .finalised → x.policyCounters.isSome →
    was (x.lastPolicyExport (.denied kind))

theorem InstanceTraced.mono {was' : Nat → Prop} (h : InstanceTraced kind was x)
    (hwas : ∀ n, was n → was' n) : InstanceTraced kind was' x :=
  ⟨fun hplace r hr hpending => hwas _ (h.finalising hplace r hr hpending),
    fun hplace hcounters => hwas _ (h.finalised hplace hcounters)⟩

theorem instanceTraced_of_place (hfinalising : x.place ≠ .finalising)
    (hfinalised : x.place ≠ .finalised) : InstanceTraced kind was x :=
  ⟨fun hplace => absurd hplace hfinalising, fun hplace => absurd hplace hfinalised⟩

theorem InstanceTraced.write (h : InstanceTraced kind was x) (counter : Counter)
    (value : Nat → Nat) : InstanceTraced kind was (x.write counter value) := by
  refine ⟨h.finalising, ?_⟩
  intro hplace hcounters
  rw [Instance.write, Option.isSome_map] at hcounters
  exact h.finalised hplace hcounters

theorem instanceTraced_started (x : Instance) :
    InstanceTraced kind was { x with reading := some Reading.start, place := .finalising } := by
  constructor
  · intro _ r hr hpending
    rw [← Option.some.inj hr] at hpending
    exact absurd (mem_allCounters (.denied kind)) hpending
  · intro hplace
    nomatch hplace

theorem InstanceTraced.exportStep (h : InstanceTraced kind was x) (hplace : x.place = .finalising)
    (hnow : ∀ counters ∈ x.policyCounters, was (counters (.denied kind)))
    (metrics : Metrics) : InstanceTraced kind was (x.exportStep metrics).1 := by
  refine ⟨?_, fun hdone => ?_⟩
  · have heffect := exportStep_effect x metrics
    generalize x.exportStep metrics = result at heffect ⊢
    cases heffect with
    | skips hc => exact h.finalising
    | starts hr => grind [mem_allCounters, Reading.start]
    | reads counters counter pending seen hc hr =>
      intro _ r hr' hpending
      have hnow := hnow counters hc
      have hbefore := h.finalising hplace _ hr
      cases hr'
      dsimp only at hpending hbefore ⊢
      grind [update_apply]
    | publishes seen hr => nofun
  · rw [exportStep_place, hplace] at hdone
    nomatch hdone

theorem InstanceTraced.exported (h : InstanceTraced kind was x) (hplace : x.place = .finalising)
    (hdone : (x.exportStep metrics).2.2 ≠ .reading) :
    InstanceTraced kind was { (x.exportStep metrics).1 with place := .finalised } := by
  refine ⟨nofun, ?_⟩
  have heffect := exportStep_effect x metrics
  generalize x.exportStep metrics = result at heffect hdone ⊢
  cases heffect with
  | skips hc => grind
  | starts _ | reads _ _ _ _ _ _ => exact absurd rfl hdone
  | publishes seen hr => exact fun _ _ => h.finalising hplace _ hr not_mem_nil

/-- The counter had this value at a moment of the instance's finalisation. -/
def WasValue (as : List Action) (i : Nat) (kind : Denial) (n : Nat) : Prop :=
  ∃ before, before <+: as ∧ ∃ counters,
    ((runAll step State.initial before).instances i).place = .finalising ∧
    ((runAll step State.initial before).instances i).policyCounters = some counters ∧
    counters (.denied kind) = n

theorem WasValue.append {n : Nat} (h : WasValue as i kind n) (bs : List Action) :
    WasValue (as ++ bs) i kind n := by
  obtain ⟨before, hbefore, hvalue⟩ := h
  exact ⟨before, hbefore.trans (prefix_append as bs), hvalue⟩

def Traced (kind : Denial) (as : List Action) (s : State) : Prop :=
  ∀ i, InstanceTraced kind (WasValue as i kind) (s.instances i)

theorem Traced.set (h : Traced kind as s) (hx : InstanceTraced kind (WasValue as i kind) x) :
    ∀ j, InstanceTraced kind (WasValue as j kind) (update s.instances i x j) :=
  (forall_update_iff s.instances (fun j y => InstanceTraced kind (WasValue as j kind) y)).mpr
    ⟨hx, fun j _ => h j⟩

theorem Traced.tickStep (h : Traced kind as s) (hok : Ok kind s) (ht : s.tick = some t) :
    Traced kind as (tickStep s t) := by
  obtain ⟨tick, -, ⟨i, hi, heq⟩ | ⟨gauges, heq⟩⟩ := tickStep_cases s t ht
  · rw [heq]
    obtain ⟨app, hpooled⟩ := hok.held t ht i hi
    refine h.set (instanceTraced_of_place ?_ ?_)
    · rw [exportStep_place, hpooled]
      exact Place.noConfusion
    · rw [exportStep_place, hpooled]
      exact Place.noConfusion
  · rw [heq]
    exact h

theorem Traced.finaliseStep (h : Traced kind as (runAll step State.initial as)) (i : Nat) :
    Traced kind as (finaliseStep (runAll step State.initial as) i) := by
  rcases finaliseStep_cases (runAll step State.initial as) i with heq | ⟨app, hplace, heq⟩ |
    ⟨hplace, heq⟩ | ⟨hplace, hdone, gauges, heq⟩
  · rw [heq]
    exact h
  · rw [heq]
    exact h.set (instanceTraced_started _)
  · rw [heq]
    -- The counters as they are now are a moment of the finalisation.
    refine h.set ((h i).exportStep hplace ?_ _)
    intro counters hc
    exact ⟨as, prefix_refl as, counters, hplace, hc, rfl⟩
  · rw [heq]
    exact h.set ((h i).exported hplace hdone)

theorem traced_step (hok : Ok kind (runAll step State.initial as))
    (h : Traced kind as (runAll step State.initial as)) (a : Action) :
    Traced kind as (step (runAll step State.initial as) a) := by
  generalize hs : runAll step State.initial as = s at hok h
  cases a with
  | spawn app policyCounters =>
    simp only [step]
    split_ifs
    · exact h
    · exact h.set (instanceTraced_of_place Place.noConfusion Place.noConfusion)
  | deny i kind | moveGauge i kind value => exact h.set ((h i).write _ _)
  | beginTick pools =>
    simp only [step]
    split_ifs
    · exact h
    · exact h
  | tick =>
    cases htick : s.tick with
    | none =>
      simp only [step, htick, Option.map_none, Option.getD_none]
      exact h
    | some t =>
      simp only [step, htick, Option.map_some, Option.getD_some]
      exact h.tickStep hok htick
  | take i | reinsert i =>
    simp only [step]
    split
    · exact h.set (instanceTraced_of_place Place.noConfusion Place.noConfusion)
    · exact h
  | forgetApp app =>
    simp only [step]
    split_ifs
    · exact h
    · intro i
      dsimp only
      split_ifs
      · exact instanceTraced_of_place Place.noConfusion Place.noConfusion
      · exact h i
  | finalise i =>
    rw [← hs] at h ⊢
    exact h.finaliseStep i

/-- The induction is from the end of the run, since what was a value is about the run so far. -/
theorem ok_traced_run (hfits : Along step (Fits kind) State.initial as) :
    Ok kind (runAll step State.initial as) ∧ Traced kind as (runAll step State.initial as) := by
  induction as using List.reverseRecOn with
  | nil =>
    exact ⟨ok_initial, fun i => instanceTraced_of_place Place.noConfusion Place.noConfusion⟩
  | append_singleton as a ih =>
    obtain ⟨hbefore, hlast, -⟩ := (along_append _ _ _ _ _).mp hfits
    obtain ⟨hok, htraced⟩ := ih hbefore
    rw [runAll_append, runAll_cons, runAll_nil]
    refine ⟨ok_step hok a hlast, fun i => ?_⟩
    exact (traced_step hok htraced a i).mono (fun n hwas => hwas.append [a])

/-- At every moment of every run in which no counter of a kind is about to wrap,
    the total is the sum of what is remembered of all instances there have been,
    and what is remembered of a finalised instance is the value of its counter
    at a moment of its finalisation. -/
theorem denials_exported_once (as : List Action) (kind : Denial)
    (hfits : Along step (Fits kind) State.initial as) :
    let s := runAll step State.initial as
    s.metrics.denied kind =
      ∑ i ∈ Finset.range s.placed, (s.instances i).lastPolicyExport (.denied kind) ∧
    ∀ i, (s.instances i).place = .finalised → (s.instances i).policyCounters.isSome →
      WasValue as i kind ((s.instances i).lastPolicyExport (.denied kind)) := by
  obtain ⟨hok, htraced⟩ := ok_traced_run hfits
  exact ⟨hok.total, fun i hplace hcounters => (htraced i).finalised hplace hcounters⟩

/-- A denial before a tick, one before the finalisation and one after it. -/
def deniedThrice : List Action :=
  [.spawn "app" (some Snapshot.zero), .deny 0 .connection, .beginTick [[0]]] ++
    List.replicate 17 .tick ++ [.deny 0 .connection, .take 0] ++ List.replicate 14 (.finalise 0) ++
    [.deny 0 .connection]

/-- Two of the three denials were counted when the instance was finalised. -/
theorem denials_exported_deniedThrice :
    Along step (Fits .connection) State.initial deniedThrice ∧
    (runAll step State.initial deniedThrice).metrics.denied .connection = 2 ∧
    ((runAll step State.initial deniedThrice).instances 0).place = .finalised ∧
    WasValue deniedThrice 0 .connection 2 := by
  have hfits : Along step (Fits .connection) State.initial deniedThrice := by
    unfold Fits
    decide +kernel
  refine ⟨hfits, by decide +kernel, by decide +kernel, ?_⟩
  have hlast : ((runAll step State.initial deniedThrice).instances 0).lastPolicyExport
      (.denied .connection) = 2 := by decide +kernel
  have hwas := (denials_exported_once deniedThrice .connection hfits).2 0 (by decide +kernel)
    (by decide +kernel)
  rw [hlast] at hwas
  exact hwas

end PolicyExport

end WasmCloud
