import WasmCloud.Lib.Run
import WasmCloud.Routing.Steering

/-!
# What a Node Knows of the Health of Others

A load report gives the entry of a node in the table that requests are steered by, a health
report changes the health in that entry, and a node under pressure is put on a list of its
own until it has recovered.

The list is changed by pressure events only. But a load report replaces the entry with one
that is healthy, and a health report about a node without an entry is lost. `LoadAfterHealth`
are the steps that avoid it.
-/

namespace WasmCloud

open List

variable {N L : Type} [DecidableEq N]

/-- The order a map iterates its entries in. Any insertion may change it. -/
structure MapOrder (N L : Type) where
  arrange : List (NodeEntry N L) → List (NodeEntry N L)
  mem_arrange : ∀ es e, e ∈ arrange es ↔ e ∈ es

namespace NodeLoadTable

def update (order : MapOrder N L) (table : NodeLoadTable N L) (entry : NodeEntry N L) :
    NodeLoadTable N L :=
  { table with nodes :=
      order.arrange (entry :: table.nodes.filter (fun e => decide (e.nodeId ≠ entry.nodeId))) }

def updateHealth (table : NodeLoadTable N L) (nodeId : N) (status : NodeHealthStatus) :
    NodeLoadTable N L :=
  { table with nodes := table.nodes.map (fun e =>
      if e.nodeId = nodeId then { e with healthStatus := status } else e) }

def markUnhealthy (table : NodeLoadTable N L) (nodeId : N) : NodeLoadTable N L :=
  if table.unhealthy.contains nodeId then table
  else { table with unhealthy := nodeId :: table.unhealthy }

def markHealthy (table : NodeLoadTable N L) (nodeId : N) : NodeLoadTable N L :=
  { table with unhealthy := table.unhealthy.filter (fun n => decide (n ≠ nodeId)) }

end NodeLoadTable

/-- An entry that counts when all nodes are considered. -/
def NodeEntry.available (now : Option Nat) (table : NodeLoadTable N L) (e : NodeEntry N L) : Bool :=
  !e.isStale now && !table.unhealthy.contains e.nodeId && decide (e.healthStatus ≠ .unhealthy)

def leastLoadedNode [LinearOrder L] (now : Option Nat) (table : NodeLoadTable N L) :
    Option (NodeEntry N L) :=
  minBy (table.nodes.filter (fun e => e.available now table))

def parseHealthStatus (status : String) : NodeHealthStatus :=
  if status = "healthy" then .healthy
  else if status = "degraded" then .degraded
  else if status = "unhealthy" then .unhealthy
  else .degraded

/-- `ClusterNodeRecord`, as far as load and health reports write it. -/
structure HealthRecord where
  lastSeenUnixSecs : Nat
  healthStatus : NodeHealthStatus
  proxyAddress : Option String
  acceptingRequests : Option Bool
  activeInstances : Option Nat
  deployedApps : Option Nat
  deriving DecidableEq, Repr

def HealthRecord.new (now : Nat) : HealthRecord := ⟨now, .healthy, none, none, none, none⟩

/-- What a node knows of the others: the table, and the records in the store. -/
structure ClusterView (N L : Type) where
  table : NodeLoadTable N L
  records : N → Option HealthRecord

/-- With the time, whether the record can be read and written, and for a load report the order of
    the map afterwards. -/
inductive NodeEvent (N L : Type) where
  | nodeLoad (nodeId : N) (fuelBudgetUsedPercent : Option L) (activeInstances : Nat)
      (proxyAddress : String) (now : Nat) (order : MapOrder N L) (stored : Bool)
  | nodeHealthChanged (nodeId : N) (status : String) (activeInstances : Nat)
      (acceptingRequests : Bool) (now : Nat) (stored : Bool)
  | nodeHealthSnapshot (nodeId : N) (status : String) (activeInstances deployedApps : Nat)
      (now : Nat) (stored : Bool)
  | nodeUnderPressure (nodeId : N) (pressureLevel : Nat)
  | nodePressureRecovered (nodeId : N)

namespace ClusterView

def empty : ClusterView N L := ⟨⟨[], []⟩, fun _ => none⟩

/-- `merge_cluster_node_record`: the record there is, or a new one. -/
def mergeClusterNodeRecord (v : ClusterView N L) (nodeId : N) (now : Nat) : HealthRecord :=
  (v.records nodeId).getD (HealthRecord.new now)

/-- `save_cluster_node`, if it succeeds. -/
def saveClusterNode (v : ClusterView N L) (nodeId : N) (record : HealthRecord) (stored : Bool) :
    ClusterView N L :=
  if stored then { v with records := Function.update v.records nodeId (some record) } else v

end ClusterView

variable (v : ClusterView N L)

/-- `handle_node_load`: the record first, and the entry only if that went well. -/
def handleNodeLoad (nodeId : N) (fuel : Option L) (activeInstances : Nat)
    (proxyAddress : String) (now : Nat) (order : MapOrder N L) (stored : Bool) : ClusterView N L :=
  let record := { v.mergeClusterNodeRecord nodeId now with
    lastSeenUnixSecs := now
    proxyAddress := some proxyAddress
    activeInstances := some activeInstances }
  if stored then
    { v.saveClusterNode nodeId record true with
      table := v.table.update order ⟨nodeId, proxyAddress, fuel, now, .healthy⟩ }
  else v

/-- Both handlers of health reports: the entry first, and then the record. -/
def reportHealth (nodeId : N) (status : String)
    (fill : HealthRecord → HealthRecord) (now : Nat) (stored : Bool) : ClusterView N L :=
  let healthStatus := parseHealthStatus status
  let record := { v.mergeClusterNodeRecord nodeId now with
    lastSeenUnixSecs := now
    healthStatus := healthStatus }
  { v.saveClusterNode nodeId (fill record) stored with
    table := v.table.updateHealth nodeId healthStatus }

def handleNodeHealthChanged (nodeId : N) (status : String)
    (activeInstances : Nat) (acceptingRequests : Bool) (now : Nat) (stored : Bool) :
    ClusterView N L :=
  reportHealth v nodeId status (fun record => { record with
    activeInstances := some activeInstances
    acceptingRequests := some acceptingRequests }) now stored

def handleNodeHealthSnapshot (nodeId : N) (status : String)
    (activeInstances deployedApps : Nat) (now : Nat) (stored : Bool) : ClusterView N L :=
  reportHealth v nodeId status (fun record => { record with
    activeInstances := some activeInstances
    deployedApps := some deployedApps }) now stored

/-- The handler of every event about a node. -/
def handleNodeEvent : NodeEvent N L → ClusterView N L
  | .nodeLoad nodeId fuel activeInstances proxyAddress now order stored =>
    handleNodeLoad v nodeId fuel activeInstances proxyAddress now order stored
  | .nodeHealthChanged nodeId status activeInstances acceptingRequests now stored =>
    handleNodeHealthChanged v nodeId status activeInstances acceptingRequests now stored
  | .nodeHealthSnapshot nodeId status activeInstances deployedApps now stored =>
    handleNodeHealthSnapshot v nodeId status activeInstances deployedApps now stored
  -- The level is only logged, here and for other nodes alike.
  | .nodeUnderPressure nodeId _ => { v with table := v.table.markUnhealthy nodeId }
  | .nodePressureRecovered nodeId => { v with table := v.table.markHealthy nodeId }

/-- What a node knows, the last health reports, and which nodes are under pressure. -/
structure Observed (N L : Type) where
  view : ClusterView N L
  lastHealth : N → Option NodeHealthStatus
  underPressure : N → Bool

def Observed.start : Observed N L := ⟨.empty, fun _ => none, fun _ => false⟩

variable (o : Observed N L)

def observeStep (e : NodeEvent N L) : Observed N L :=
  let view := handleNodeEvent o.view e
  match e with
  | .nodeLoad .. => { o with view := view }
  | .nodeHealthChanged nodeId status .. => { o with
      view := view
      lastHealth := Function.update o.lastHealth nodeId (some (parseHealthStatus status)) }
  | .nodeHealthSnapshot nodeId status .. => { o with
      view := view
      lastHealth := Function.update o.lastHealth nodeId (some (parseHealthStatus status)) }
  | .nodeUnderPressure nodeId _ => { o with
      view := view
      underPressure := Function.update o.underPressure nodeId true }
  | .nodePressureRecovered nodeId => { o with
      view := view
      underPressure := Function.update o.underPressure nodeId false }

/-- No node selects `n` with this table, at any time. -/
def Avoided [LinearOrder L] (table : NodeLoadTable N L) (n : N) : Prop :=
  ∀ now localNode e,
    (leastLoadedNode now table = some e → e.nodeId ≠ n) ∧
      (leastLoadedOtherNode now localNode table = some e → e.nodeId ≠ n)

/-- A load report is not about a node that was last reported unhealthy. -/
def LoadAfterHealth : NodeEvent N L → Prop
  | .nodeLoad nodeId _ _ _ _ _ stored => stored = true → o.lastHealth nodeId ≠ some .unhealthy
  | _ => True

variable {table : NodeLoadTable N L} {n : N} {e : NodeEntry N L} {nodeId : N}

theorem mem_update {order : MapOrder N L} {entry : NodeEntry N L} :
    e ∈ (table.update order entry).nodes ↔
      e = entry ∨ e ∈ table.nodes ∧ e.nodeId ≠ entry.nodeId := by
  simp only [NodeLoadTable.update, order.mem_arrange, mem_cons, mem_filter, decide_eq_true_eq]

theorem mem_updateHealth {status : NodeHealthStatus}
    (h : e ∈ (table.updateHealth nodeId status).nodes) :
    e.nodeId = nodeId ∧ e.healthStatus = status ∨ e.nodeId ≠ nodeId ∧ e ∈ table.nodes := by
  rcases mem_map.mp h with ⟨old, hold, rfl⟩
  grind

/-- Every node under pressure is marked. -/
def PressureMarked : Prop :=
  ∀ n, o.underPressure n = true → n ∈ o.view.table.unhealthy

/-- Every entry of a node that was last reported unhealthy says so. -/
def HealthEntered : Prop :=
  ∀ n, o.lastHealth n = some .unhealthy →
    ∀ e ∈ o.view.table.nodes, e.nodeId = n → e.healthStatus = .unhealthy

theorem mem_markUnhealthy :
    n ∈ (table.markUnhealthy nodeId).unhealthy ↔ n = nodeId ∨ n ∈ table.unhealthy := by
  unfold NodeLoadTable.markUnhealthy
  split <;> simp_all

theorem nodes_markUnhealthy (table : NodeLoadTable N L) (nodeId : N) :
    (table.markUnhealthy nodeId).nodes = table.nodes := by
  unfold NodeLoadTable.markUnhealthy
  split <;> rfl

theorem pressured_step (e : NodeEvent N L) (h : PressureMarked o) :
    PressureMarked (observeStep o e) := by
  intro n hn
  cases e with
  | nodeLoad nodeId fuel activeInstances proxyAddress now order stored =>
    cases stored with
    | true | false => exact h n hn
  | nodeHealthChanged nodeId status activeInstances acceptingRequests now stored
  | nodeHealthSnapshot nodeId status activeInstances deployedApps now stored => exact h n hn
  | nodeUnderPressure nodeId level =>
    refine mem_markUnhealthy.mpr ?_
    by_cases heq : n = nodeId
    · exact .inl heq
    · have hold : Function.update o.underPressure nodeId true n = true := hn
      rw [Function.update_of_ne heq] at hold
      exact .inr (h n hold)
  | nodePressureRecovered nodeId =>
    have hnew : Function.update o.underPressure nodeId false n = true := hn
    by_cases heq : n = nodeId
    · rw [heq, Function.update_self] at hnew
      nomatch hnew
    · rw [Function.update_of_ne heq] at hnew
      exact mem_filter.mpr ⟨h n hnew, decide_eq_true heq⟩

theorem entered_updateHealth {o : Observed N L} (h : HealthEntered o) (nodeId : N)
    (status : NodeHealthStatus)
    (hn : Function.update o.lastHealth nodeId (some status) n = some .unhealthy) :
    ∀ e ∈ (o.view.table.updateHealth nodeId status).nodes, e.nodeId = n →
      e.healthStatus = .unhealthy := by
  rintro e hmem rfl
  rcases mem_updateHealth hmem with ⟨heq, hstatus⟩ | ⟨hne, hold⟩
  · rw [heq, Function.update_self, Option.some.injEq] at hn
    rw [hstatus]
    exact hn
  · rw [Function.update_of_ne hne] at hn
    exact h _ hn e hold rfl

theorem reported_step (e : NodeEvent N L) (hgood : LoadAfterHealth o e)
    (h : HealthEntered o) : HealthEntered (observeStep o e) := by
  intro n hn
  cases e with
  | nodeLoad nodeId fuel activeInstances proxyAddress now order stored =>
    cases stored with
    | true =>
      rintro e hmem rfl
      rcases mem_update.mp hmem with rfl | ⟨hold, -⟩
      · exact absurd hn (hgood rfl)
      · exact h _ hn e hold rfl
    | false => exact h n hn
  | nodeHealthChanged nodeId status activeInstances acceptingRequests now stored
  | nodeHealthSnapshot nodeId status activeInstances deployedApps now stored =>
    exact entered_updateHealth h nodeId _ hn
  | nodeUnderPressure nodeId level =>
    intro e hmem
    have hmem : e ∈ (o.view.table.markUnhealthy nodeId).nodes := hmem
    rw [nodes_markUnhealthy] at hmem
    exact h n hn e hmem
  | nodePressureRecovered nodeId => exact h n hn

variable [LinearOrder L]

omit [DecidableEq N] in
theorem mem_of_minBy {es : List (NodeEntry N L)} (h : minBy es = some e) : e ∈ es := by
  rcases minBy_iff.mp h with ⟨before, after, rfl, -⟩
  exact mem_append_right _ mem_cons_self

theorem avoided_of
    (h : n ∈ table.unhealthy ∨ ∀ e ∈ table.nodes, e.nodeId = n → e.healthStatus = .unhealthy) :
    Avoided table n := by
  -- Both selections take an entry that is not marked and not unhealthy.
  have hne : ∀ e ∈ table.nodes, table.unhealthy.contains e.nodeId = false →
      e.healthStatus ≠ .unhealthy → e.nodeId ≠ n := by
    grind
  intro now localNode e
  constructor
  all_goals
    intro hsel
    rcases mem_filter.mp (mem_of_minBy hsel) with ⟨hmem, hok⟩
    simp only [NodeEntry.available, NodeEntry.eligible, Bool.and_eq_true, Bool.not_eq_true',
      decide_eq_true_eq] at hok
    exact hne e hmem hok.1.2 hok.2

/-- **An unhealthy node is not selected**: one under pressure never is, and one that was
    last reported unhealthy is not as long as no load report about a node comes after such
    a report. -/
theorem unhealthy_node_avoided (events : List (NodeEvent N L)) (n : N) :
    let o := runAll observeStep Observed.start events
    (o.underPressure n = true → Avoided o.view.table n) ∧
      (Along observeStep LoadAfterHealth Observed.start events →
        o.lastHealth n = some .unhealthy → Avoided o.view.table n) := by
  intro o
  constructor
  · intro hn
    have hmarked : PressureMarked o :=
      invariant_run pressured_step events nofun
    exact avoided_of (.inl (hmarked n hn))
  · intro hgood hn
    have hentered : HealthEntered o :=
      invariant_along reported_step hgood (fun _ _ e he => nomatch he)
    exact avoided_of (.inr (hentered n hn))

def loadOfOne (now : Nat) : NodeEvent Nat Nat :=
  .nodeLoad 1 (some 20) 3 "10.0.0.1:8080" now ⟨id, fun _ _ => Iff.rfl⟩ true

def unhealthyOne (now : Nat) : NodeEvent Nat Nat :=
  .nodeHealthChanged 1 "unhealthy" 3 false now true

theorem unhealthy_node_avoided_one :
    let o := runAll observeStep Observed.start [loadOfOne 100, unhealthyOne 101]
    o.lastHealth 1 = some .unhealthy ∧ Avoided o.view.table 1 :=
  have hgood : Along observeStep LoadAfterHealth Observed.start [loadOfOne 100, unhealthyOne 101] :=
    ⟨fun _ => (Option.some_ne_none _).symm, trivial, trivial⟩
  ⟨rfl, (unhealthy_node_avoided [loadOfOne 100, unhealthyOne 101] 1).2 hgood rfl⟩

/-- A node that was reported unhealthy reports its load again, and is selected. -/
theorem unhealthy_node_selected :
    let o := runAll observeStep Observed.start [loadOfOne 100, unhealthyOne 101, loadOfOne 105]
    o.lastHealth 1 = some .unhealthy ∧
      (leastLoadedNode (some 106) o.view.table).map NodeEntry.nodeId = some 1 ∧
      (leastLoadedOtherNode (some 106) 0 o.view.table).map NodeEntry.nodeId = some 1 :=
  ⟨rfl, rfl, rfl⟩

end WasmCloud
