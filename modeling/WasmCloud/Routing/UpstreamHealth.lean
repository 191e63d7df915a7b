import Mathlib.Data.List.Induction
import Mathlib.Logic.Function.Basic
import WasmCloud.Gateway.Internal
import WasmCloud.Lib.Run

/-!
# Health Checks of Instances

A background loop probes the instances of every application that has a health check. What it
keeps of a round is whether any instance answered: enough rounds without make the application
unhealthy, enough rounds with one make it healthy again.

The proxy selects an instance by its turn and asks nothing about its health, so an instance
that has failed its probes gets requests when its turn comes. The probes of an instance are
kept beside the registry, the newest first. They start anew when an instance is added.
-/

namespace WasmCloud

structure UpstreamEndpoint where
  addr : SocketAddr
  h2c : Bool
  deriving DecidableEq, Repr

/-- `AppHealthCheckConfig`, without the interval, which nothing reads. -/
structure AppHealthCheckConfig where
  path : String
  expectedStatus : Nat
  failureThreshold : Nat
  successThreshold : Nat
  deriving DecidableEq, Repr

structure AppHealthState where
  consecutiveSuccesses : Nat
  consecutiveFailures : Nat
  healthy : Bool
  deriving DecidableEq, Repr

/-- For every application the counter, the instances, the health check and its state, and how
    many instances were healthy of how many. -/
structure UpstreamHealthRegistry where
  inner : String → Option (Nat × List UpstreamEndpoint)
  healthConfigs : String → Option AppHealthCheckConfig
  healthState : String → Option AppHealthState
  appHealthRegistry : String → Option (Nat × Nat)

namespace AppHealthState

/-- The state of a health check nothing has been recorded for. -/
def new : AppHealthState := ⟨0, 0, true⟩

/-- The body of `record_health_result`. -/
def record (config : AppHealthCheckConfig) (state : AppHealthState) (success : Bool) :
    AppHealthState :=
  if success then
    ⟨state.consecutiveSuccesses + 1, 0,
      state.healthy || decide (config.successThreshold ≤ state.consecutiveSuccesses + 1)⟩
  else
    ⟨0, state.consecutiveFailures + 1,
      state.healthy && !decide (config.failureThreshold ≤ state.consecutiveFailures + 1)⟩

end AppHealthState

namespace UpstreamHealthRegistry

def new : UpstreamHealthRegistry := ⟨fun _ => none, fun _ => none, fun _ => none, fun _ => none⟩

def endpoints (r : UpstreamHealthRegistry) (appId : String) : List UpstreamEndpoint :=
  ((r.inner appId).map Prod.snd).getD []

def isRegistered (r : UpstreamHealthRegistry) (appId : String) (addr : SocketAddr) : Bool :=
  (r.endpoints appId).any (fun existing => decide (existing.addr = addr))

/-- The registry with another entry of an application. -/
def setEntry (r : UpstreamHealthRegistry) (appId : String)
    (entry : Option (Nat × List UpstreamEndpoint)) : UpstreamHealthRegistry :=
  { r with inner := Function.update r.inner appId entry }

def add (r : UpstreamHealthRegistry) (appId : String) (endpoint : UpstreamEndpoint) :
    UpstreamHealthRegistry :=
  let entry := (r.inner appId).getD (0, [])
  let addrs := if r.isRegistered appId endpoint.addr then entry.2 else entry.2 ++ [endpoint]
  r.setEntry appId (some (entry.1, addrs))

def remove (r : UpstreamHealthRegistry) (appId : String) (addr : SocketAddr) :
    UpstreamHealthRegistry :=
  match r.inner appId with
  | none => r
  | some (counter, addrs) =>
    let left := addrs.filter (fun endpoint => decide (endpoint.addr ≠ addr))
    r.setEntry appId (if left = [] then none else some (counter, left))

def registerHealthCheck (r : UpstreamHealthRegistry) (appId : String)
    (config : AppHealthCheckConfig) : UpstreamHealthRegistry :=
  { r with
    healthConfigs := Function.update r.healthConfigs appId (some config)
    healthState := Function.update r.healthState appId (some .new) }

def removeHealthCheck (r : UpstreamHealthRegistry) (appId : String) : UpstreamHealthRegistry :=
  { r with
    healthConfigs := Function.update r.healthConfigs appId none
    healthState := Function.update r.healthState appId none }

def recordHealthResult (r : UpstreamHealthRegistry) (appId : String) (success : Bool) :
    UpstreamHealthRegistry :=
  match r.healthState appId, r.healthConfigs appId with
  | some state, some config => { r with
      healthState := Function.update r.healthState appId (some (state.record config success)) }
  | _, _ => r

def isAppHealthy (r : UpstreamHealthRegistry) (appId : String) : Bool :=
  ((r.healthState appId).map AppHealthState.healthy).getD true

end UpstreamHealthRegistry

/-- The status an address answers for a path, or nothing that counts in time. -/
abbrev ProbeReplies := SocketAddr → String → Option Nat

/-- `probe`. -/
def probeOk (replies : ProbeReplies) (config : AppHealthCheckConfig) (addr : SocketAddr) : Bool :=
  decide (replies addr config.path = some config.expectedStatus)

namespace UpstreamHealthRegistry

/-- One iteration of `check_all_apps`. -/
def checkApp (r : UpstreamHealthRegistry) (replies : ProbeReplies) (appId : String) :
    UpstreamHealthRegistry :=
  match r.healthConfigs appId, r.inner appId with
  | some config, some (_, addrs) =>
    let healthyCount := addrs.countP (fun endpoint => probeOk replies config endpoint.addr)
    let counts := Function.update r.appHealthRegistry appId (some (healthyCount, addrs.length))
    { r with appHealthRegistry := counts }.recordHealthResult appId (decide (0 < healthyCount))
  | _, _ => r

/-- `next`: the instance whose turn it is. The counter is a machine word. -/
def next (r : UpstreamHealthRegistry) (appId : String) :
    UpstreamHealthRegistry × Option UpstreamEndpoint :=
  match r.inner appId with
  | none => (r, none)
  | some (counter, addrs) =>
    if addrs = [] then (r, none)
    else (r.setEntry appId (some ((counter + 1) % 2 ^ 64, addrs)), addrs[counter % addrs.length]?)

end UpstreamHealthRegistry

/-- Whether the node is overloaded, another node's address, and what a cold start does. -/
structure SelectionEnv where
  overloaded : Bool
  remote : Option SocketAddr
  coldStart : UpstreamHealthRegistry → Option UpstreamHealthRegistry

/-- `select_upstream`: an instance if there is one, whatever its health. -/
def UpstreamHealthRegistry.selectUpstream (env : SelectionEnv) (r : UpstreamHealthRegistry)
    (appId : String) : UpstreamHealthRegistry × Option UpstreamEndpoint :=
  match r.next appId with
  | (r', some endpoint) => (r', some endpoint)
  | (r', none) =>
    match (if env.overloaded then env.remote else none) with
    | some addr => (r', some ⟨addr, false⟩)
    | none =>
      match env.coldStart r' with
      | none => (r', none)
      | some r'' => r''.next appId

/-- The registry, with the results of the probes of every instance, the newest first. -/
structure ProbedRegistry where
  registry : UpstreamHealthRegistry
  probes : String → SocketAddr → List Bool

inductive ProbeAction where
  | add (appId : String) (endpoint : UpstreamEndpoint)
  | remove (appId : String) (addr : SocketAddr)
  | registerHealthCheck (appId : String) (config : AppHealthCheckConfig)
  | removeHealthCheck (appId : String)
  | check (appId : String) (replies : ProbeReplies)
  | select (appId : String)

namespace ProbedRegistry

def new : ProbedRegistry := ⟨.new, fun _ _ => []⟩

/-- The probes after a round for an application. -/
def probed (o : ProbedRegistry) (appId : String) (replies : ProbeReplies) (id : String)
    (addr : SocketAddr) : List Bool :=
  match o.registry.healthConfigs appId with
  | some config =>
    if id = appId ∧ o.registry.isRegistered appId addr = true then
      probeOk replies config addr :: o.probes id addr
    else o.probes id addr
  | none => o.probes id addr

/-- The probes after an instance is added. -/
def enrolled (o : ProbedRegistry) (appId : String) (added : SocketAddr) (id : String)
    (addr : SocketAddr) : List Bool :=
  if id = appId ∧ addr = added ∧ o.registry.isRegistered appId added = false then []
  else o.probes id addr

end ProbedRegistry

/-- One step. What a cold start adds is added by a step of its own. -/
def probeStep (o : ProbedRegistry) : ProbeAction → ProbedRegistry
  | .add appId endpoint => ⟨o.registry.add appId endpoint, o.enrolled appId endpoint.addr⟩
  | .remove appId addr => { o with registry := o.registry.remove appId addr }
  | .registerHealthCheck appId config =>
    { o with registry := o.registry.registerHealthCheck appId config }
  | .removeHealthCheck appId => { o with registry := o.registry.removeHealthCheck appId }
  | .check appId replies => ⟨o.registry.checkApp replies appId, o.probed appId replies⟩
  | .select appId => { o with registry := (o.registry.next appId).1 }

/-- The last `n` probes all came out as `result`. -/
def LastProbes (n : Nat) (result : Bool) (probes : List Bool) : Prop :=
  probes.take n = List.replicate n result

instance (n : Nat) (result : Bool) (probes : List Bool) : Decidable (LastProbes n result probes) :=
  inferInstanceAs (Decidable (_ = _))

/-- An instance has failed its last probes, while another one has passed its own. -/
def Misdirected (o : ProbedRegistry) (appId : String) (endpoint : UpstreamEndpoint) : Prop :=
  ∃ config, o.registry.healthConfigs appId = some config ∧
    LastProbes config.failureThreshold false (o.probes appId endpoint.addr) ∧
      ∃ other ∈ o.registry.endpoints appId, other.addr ≠ endpoint.addr ∧
        LastProbes config.successThreshold true (o.probes appId other.addr)

section Selections

variable {o : ProbedRegistry} {appId : String} {counter : Nat} {addrs : List UpstreamEndpoint}
  {r : UpstreamHealthRegistry}

theorem next_eq (h : r.inner appId = some (counter, addrs)) (hne : addrs ≠ []) :
    ∃ endpoint ∈ addrs, addrs[counter % addrs.length]? = some endpoint ∧ r.next appId =
        (r.setEntry appId (some ((counter + 1) % 2 ^ 64, addrs)), some endpoint) := by
  have hturn : counter % addrs.length < addrs.length :=
    Nat.mod_lt _ (List.length_pos_iff.mpr hne)
  refine ⟨addrs[counter % addrs.length], List.getElem_mem hturn, List.getElem?_eq_getElem hturn, ?_⟩
  unfold UpstreamHealthRegistry.next
  simp [h, hne, List.getElem?_eq_getElem hturn]

theorem selectUpstream_eq (h : r.inner appId = some (counter, addrs)) (hne : addrs ≠ [])
    (env : SelectionEnv) :
    ∃ endpoint ∈ addrs, addrs[counter % addrs.length]? = some endpoint ∧
      (r.selectUpstream env appId).2 = some endpoint := by
  rcases next_eq h hne with ⟨endpoint, hmem, hturn, hnext⟩
  refine ⟨endpoint, hmem, hturn, ?_⟩
  unfold UpstreamHealthRegistry.selectUpstream
  rw [hnext]

/-- The state with another counter of an application. -/
def ProbedRegistry.atTurn (o : ProbedRegistry) (appId : String) (addrs : List UpstreamEndpoint)
    (turn : Nat) : ProbedRegistry :=
  { o with registry := o.registry.setEntry appId (some (turn, addrs)) }

theorem inner_atTurn (turn : Nat) :
    (o.atTurn appId addrs turn).registry.inner appId = some (turn, addrs) := by
  simp [ProbedRegistry.atTurn, UpstreamHealthRegistry.setEntry]

theorem atTurn_atTurn (turn turn' : Nat) :
    (o.atTurn appId addrs turn).atTurn appId addrs turn' = o.atTurn appId addrs turn' := by
  simp [ProbedRegistry.atTurn, UpstreamHealthRegistry.setEntry]

section Registered

variable (h : o.registry.inner appId = some (counter, addrs))
include h

theorem atTurn_self : o.atTurn appId addrs counter = o := by
  unfold ProbedRegistry.atTurn UpstreamHealthRegistry.setEntry
  rw [← h, Function.update_eq_self]

theorem run_selections (hne : addrs ≠ []) (k : Nat) :
    ∃ turn, runAll probeStep o (List.replicate k (.select appId)) = o.atTurn appId addrs turn ∧
      turn % 2 ^ 64 = (counter + k) % 2 ^ 64 ∧ (0 < k → turn < 2 ^ 64) := by
  induction k generalizing o counter with
  | zero => exact ⟨counter, (atTurn_self h).symm, rfl, fun hzero => absurd hzero (Nat.lt_irrefl 0)⟩
  | succ k ih =>
    rcases next_eq h hne with ⟨endpoint, -, -, hnext⟩
    have hstep : probeStep o (.select appId) = o.atTurn appId addrs ((counter + 1) % 2 ^ 64) := by
      simp only [probeStep, hnext]
      rfl
    rcases ih (inner_atTurn (o := o) ((counter + 1) % 2 ^ 64)) with ⟨turn, hrun, hmod, hlt⟩
    rw [atTurn_atTurn, ← hstep] at hrun
    cases k with
    | zero =>
      refine ⟨(counter + 1) % 2 ^ 64, hstep, ?_, fun _ => Nat.mod_lt _ (by decide)⟩
      rw [Nat.mod_mod]
    | succ k => exact ⟨turn, hrun, by omega, fun _ => hlt (Nat.succ_pos k)⟩

theorem next_reaches (hlen : addrs.length ≤ 2 ^ 64) {endpoint : UpstreamEndpoint}
    (hmem : endpoint ∈ addrs) (env : SelectionEnv) :
    ∃ k, ((runAll probeStep o (List.replicate k (.select appId))).registry.selectUpstream env
      appId).2 = some endpoint := by
  rcases List.getElem_of_mem hmem with ⟨idx, hidx, hget⟩
  have hne : addrs ≠ [] := List.ne_nil_of_mem hmem
  -- As many selections as bring the counter to the index of the instance.
  refine ⟨idx + 2 ^ 64 - counter % 2 ^ 64, ?_⟩
  rcases run_selections h hne (idx + 2 ^ 64 - counter % 2 ^ 64) with ⟨turn, hrun, hmod, hlt⟩
  have hturn : turn = idx := by omega
  rcases selectUpstream_eq (inner_atTurn (o := o) turn) hne env with
    ⟨selected, -, hselected, hselect⟩
  rw [hrun, hselect]
  rw [hturn, Nat.mod_eq_of_lt hidx, List.getElem?_eq_getElem hidx, hget] at hselected
  exact hselected.symm

theorem misdirected_atTurn (turn : Nat) (endpoint : UpstreamEndpoint) :
    Misdirected (o.atTurn appId addrs turn) appId endpoint ↔ Misdirected o appId endpoint := by
  have hends : (o.atTurn appId addrs turn).registry.endpoints appId =
      o.registry.endpoints appId := by
    unfold UpstreamHealthRegistry.endpoints
    rw [inner_atTurn, h]
    rfl
  unfold Misdirected
  rw [hends]
  rfl

end Registered

/-- **No instance that has failed its probes is selected** while another one passes,
    however many selections are made, exactly if there is no such instance. -/
theorem selects_healthy_iff (h : o.registry.inner appId = some (counter, addrs))
    (hne : addrs ≠ []) (hlen : addrs.length ≤ 2 ^ 64) :
    (∀ (k : Nat) (env : SelectionEnv) (endpoint : UpstreamEndpoint),
        let later := runAll probeStep o (List.replicate k (.select appId))
        (later.registry.selectUpstream env appId).2 = some endpoint →
          ¬ Misdirected later appId endpoint) ↔
      ∀ endpoint ∈ addrs, ¬ Misdirected o appId endpoint := by
  constructor
  · intro hall endpoint hmem hbad
    rcases next_reaches h hlen hmem ⟨false, none, fun _ => none⟩ with ⟨k, hselect⟩
    rcases run_selections h hne k with ⟨turn, hrun, -, -⟩
    refine hall k _ endpoint hselect ?_
    rw [hrun]
    exact (misdirected_atTurn h turn endpoint).mpr hbad
  · intro hall k env endpoint later hselect hbad
    rcases run_selections h hne k with ⟨turn, hrun, -, -⟩
    have hlater : later = o.atTurn appId addrs turn := hrun
    rw [hlater] at hselect hbad
    rcases selectUpstream_eq (inner_atTurn (o := o) turn) hne env with ⟨selected, hmem, -, heq⟩
    rw [heq] at hselect
    rw [← Option.some.inj hselect] at hbad
    exact hall selected hmem ((misdirected_atTurn h turn selected).mp hbad)

end Selections

def twoInstances : List ProbeAction :=
  [.registerHealthCheck "api:v1" ⟨"/health", 200, 3, 2⟩,
    .add "api:v1" ⟨⟨.v4 1, 9001⟩, false⟩, .add "api:v1" ⟨⟨.v4 1, 9002⟩, false⟩]

def goodRounds : List ProbeAction := List.replicate 3 (.check "api:v1" fun _ _ => some 200)

theorem selects_healthy_both :
    let o := runAll probeStep ProbedRegistry.new (twoInstances ++ goodRounds)
    ∀ (k : Nat) (env : SelectionEnv) (endpoint : UpstreamEndpoint),
      let later := runAll probeStep o (List.replicate k (.select "api:v1"))
      (later.registry.selectUpstream env "api:v1").2 = some endpoint →
        ¬ Misdirected later "api:v1" endpoint := by
  intro o
  have hinner : o.registry.inner "api:v1" =
      some (0, [⟨⟨.v4 1, 9001⟩, false⟩, ⟨⟨.v4 1, 9002⟩, false⟩]) := rfl
  refine (selects_healthy_iff hinner (List.cons_ne_nil _ _) (by decide)).mpr ?_
  -- Neither instance has failed a probe.
  rintro endpoint hmem ⟨config, hconfig, hfailed, -⟩
  cases hconfig
  simp only [List.mem_cons, List.not_mem_nil, or_false] at hmem
  rcases hmem with rfl | rfl
  · nomatch hfailed
  · nomatch hfailed

def threeRounds : List ProbeAction :=
  List.replicate 3 (.check "api:v1" fun addr _ => if addr.port = 9002 then some 200 else some 500)

/-- The first instance fails three probes, the second passes, and the first is selected. -/
theorem failing_instance_selected :
    let o := runAll probeStep ProbedRegistry.new (twoInstances ++ threeRounds)
    (o.registry.selectUpstream ⟨false, none, fun _ => none⟩ "api:v1").2 =
        some ⟨⟨.v4 1, 9001⟩, false⟩ ∧
      Misdirected o "api:v1" ⟨⟨.v4 1, 9001⟩, false⟩ :=
  ⟨rfl, ⟨"/health", 200, 3, 2⟩, rfl, rfl, ⟨⟨.v4 1, 9002⟩, false⟩, by decide, by decide, rfl⟩

/-- Some `f` failures in a row have not been followed by `n` successes in a row. -/
def Latched (f n : Nat) (history : List Bool) : Prop :=
  ∃ before after, history = before ++ List.replicate f false ++ after ∧
    ¬ List.replicate n true <:+: after

section Hysteresis

open List

variable {f n : Nat} {history : List Bool} {b c : Bool}

theorem row_concat_self : replicate (n + 1) b <:+ history ++ [b] ↔ replicate n b <:+ history := by
  rw [suffix_concat_iff, replicate_succ']
  simp

theorem row_concat_of_ne (hne : b ≠ c) : replicate n b <:+ history ++ [c] ↔ n = 0 := by
  rw [suffix_concat_iff, replicate_eq_nil_iff]
  refine or_iff_left fun ⟨row, hrow, _⟩ => hne ?_
  exact (eq_of_mem_replicate (hrow ▸ mem_append_right row mem_cons_self)).symm

theorem row_of_after_failure {before after : List Bool}
    (h : replicate n true <:+ before ++ [false] ++ after) : replicate n true <:+ after := by
  induction after using reverseRecOn generalizing n with
  | nil =>
    rw [append_nil, row_concat_of_ne (by decide)] at h
    exact h ▸ nil_suffix
  | append_singleton after c ih =>
    rw [← append_assoc] at h
    cases c with
    | false =>
      rw [row_concat_of_ne (by decide)] at h
      exact h ▸ nil_suffix
    | true =>
      cases n with
      | zero => exact nil_suffix
      | succ n => exact row_concat_self.mpr (ih (row_concat_self.mp h))

theorem latched_concat_true (hf : 0 < f) :
    Latched f n (history ++ [true]) ↔
      Latched f n history ∧ ¬ replicate n true <:+ history ++ [true] := by
  constructor
  · rintro ⟨before, after, heq, hno⟩
    obtain ⟨f, rfl⟩ := Nat.exists_eq_succ_of_ne_zero hf.ne'
    refine ⟨?_, fun hrow => ?_⟩
    · rcases eq_nil_or_concat after with rfl | ⟨after, c, rfl⟩
      · rw [append_nil, replicate_succ', ← append_assoc] at heq
        nomatch (append_inj' heq rfl).2
      · rw [concat_eq_append, ← append_assoc] at heq
        refine ⟨before, after, (append_inj' heq rfl).1, fun hin => hno ?_⟩
        rw [concat_eq_append]
        exact infix_concat_iff.mpr (.inr hin)
    · rw [heq, replicate_succ', ← append_assoc] at hrow
      exact hno (row_of_after_failure hrow).isInfix
  · rintro ⟨⟨before, after, rfl, hno⟩, hrow⟩
    refine ⟨before, after ++ [true], append_assoc .., fun hin => ?_⟩
    grind [infix_concat_iff]

theorem latched_concat_false (hn : 0 < n) :
    Latched f n (history ++ [false]) ↔
      Latched f n history ∨ replicate f false <:+ history ++ [false] := by
  constructor
  · rintro ⟨before, after, heq, hno⟩
    rcases eq_nil_or_concat after with rfl | ⟨after, c, rfl⟩
    · rw [append_nil] at heq
      exact .inr ⟨before, heq.symm⟩
    · rw [concat_eq_append] at heq hno
      rw [← append_assoc] at heq
      exact .inl ⟨before, after, (append_inj' heq rfl).1, fun hin =>
        hno (infix_concat_iff.mpr (.inr hin))⟩
  · rintro (⟨before, after, rfl, hno⟩ | ⟨before, heq⟩)
    · refine ⟨before, after ++ [false], append_assoc .., fun hin => ?_⟩
      rcases infix_concat_iff.mp hin with hend | hin
      · exact hn.ne' ((row_concat_of_ne (by decide)).mp hend)
      · exact hno hin
    · refine ⟨before, [], by rw [append_nil, heq], fun hin => hn.ne' ?_⟩
      simpa using hin

/-- The counters are the lengths of the rows at the end, and the flag is the latch. -/
structure CountsRows (config : AppHealthCheckConfig) (history : List Bool)
    (state : AppHealthState) : Prop where
  successes : ∀ n, replicate n true <:+ history ↔ n ≤ state.consecutiveSuccesses
  failures : ∀ n, replicate n false <:+ history ↔ n ≤ state.consecutiveFailures
  unhealthy : state.healthy = false ↔
    Latched config.failureThreshold config.successThreshold history

variable {config : AppHealthCheckConfig}

theorem row_concat_iff {k : Nat} (h : ∀ n, replicate n b <:+ history ↔ n ≤ k) (n : Nat) :
    replicate n b <:+ history ++ [b] ↔ n ≤ k + 1 := by
  cases n with
  | zero => simp
  | succ n => rw [row_concat_self, h, Nat.add_le_add_iff_right]

theorem CountsRows.record {state : AppHealthState} (hf : 0 < config.failureThreshold)
    (hs : 0 < config.successThreshold) (h : CountsRows config history state) (success : Bool) :
    CountsRows config (history ++ [success]) (state.record config success) := by
  cases success with
  | true =>
    have hrow := row_concat_iff h.successes
    refine ⟨hrow, fun n => (row_concat_of_ne (by decide)).trans Nat.le_zero.symm, ?_⟩
    rw [latched_concat_true hf, hrow, ← h.unhealthy]
    simp [AppHealthState.record]
  | false =>
    have hrow := row_concat_iff h.failures
    refine ⟨fun n => (row_concat_of_ne (by decide)).trans Nat.le_zero.symm, hrow, ?_⟩
    rw [latched_concat_false hs, hrow, ← h.unhealthy]
    simp [AppHealthState.record, -Bool.and_eq_false_imp, Bool.and_eq_false_iff]

theorem countsRows_foldl (hf : 0 < config.failureThreshold) (hs : 0 < config.successThreshold)
    (history : List Bool) :
    CountsRows config history (history.foldl (AppHealthState.record config) .new) := by
  induction history using reverseRecOn with
  | nil =>
    refine ⟨fun n => by simp [AppHealthState.new], fun n => by simp [AppHealthState.new], ?_⟩
    refine iff_of_false (nomatch ·) fun ⟨before, after, heq, _⟩ => hf.ne' ?_
    simp only [nil_eq, append_eq_nil_iff, replicate_eq_nil_iff] at heq
    exact heq.1.2
  | append_singleton history success ih =>
    rw [foldl_append]
    exact ih.record hf hs success

end Hysteresis

def recordAll (r : UpstreamHealthRegistry) (results : List (String × Bool)) :
    UpstreamHealthRegistry :=
  results.foldl (fun r result => r.recordHealthResult result.1 result.2) r

/-- What was recorded for an application. -/
def historyOf (results : List (String × Bool)) (appId : String) : List Bool :=
  (results.filter fun result => decide (result.1 = appId)).map Prod.snd

theorem recordHealthResult_of_ne {id appId : String} (hid : appId ≠ id)
    (r : UpstreamHealthRegistry) (success : Bool) :
    (r.recordHealthResult id success).healthConfigs = r.healthConfigs ∧
      (r.recordHealthResult id success).healthState appId = r.healthState appId := by
  unfold UpstreamHealthRegistry.recordHealthResult
  split
  · exact ⟨rfl, Function.update_of_ne hid ..⟩
  · exact ⟨rfl, rfl⟩

theorem healthState_recordAll {r : UpstreamHealthRegistry} {config : AppHealthCheckConfig}
    {appId : String} {state : AppHealthState} (hconfig : r.healthConfigs appId = some config)
    (hstate : r.healthState appId = some state) (results : List (String × Bool)) :
    (recordAll r results).healthState appId =
      some ((historyOf results appId).foldl (AppHealthState.record config) state) := by
  induction results generalizing r state with
  | nil => exact hstate
  | cons result results ih =>
    by_cases hid : result.1 = appId
    · have hhistory :
          historyOf (result :: results) appId = result.2 :: historyOf results appId := by
        simp [historyOf, hid]
      rw [hhistory]
      refine ih ?_ ?_
      · simp only [UpstreamHealthRegistry.recordHealthResult, hid, hstate, hconfig]
      · simp only [UpstreamHealthRegistry.recordHealthResult, hid, hstate, hconfig,
          Function.update_self]
    · have hhistory : historyOf (result :: results) appId = historyOf results appId := by
        simp [historyOf, hid]
      obtain ⟨hconfigs, hsame⟩ := recordHealthResult_of_ne (Ne.symm hid) r result.2
      rw [hhistory]
      exact ih ((congrFun hconfigs appId).trans hconfig) (hsame.trans hstate)

/-- **The hysteresis is exact.** -/
theorem unhealthy_iff_latched (r : UpstreamHealthRegistry) (appId : String)
    (config : AppHealthCheckConfig) (hf : 1 ≤ config.failureThreshold)
    (hs : 1 ≤ config.successThreshold) (results : List (String × Bool))
    (hfew : results.length < 2 ^ 32) :
    let after := recordAll (r.registerHealthCheck appId config) results
    (∃ state, after.healthState appId = some state ∧
      state.consecutiveSuccesses < 2 ^ 32 ∧ state.consecutiveFailures < 2 ^ 32) ∧
    (after.isAppHealthy appId = false ↔
      Latched config.failureThreshold config.successThreshold (historyOf results appId)) := by
  intro after
  have hcounts := countsRows_foldl hf hs (historyOf results appId)
  have hstate := healthState_recordAll (r := r.registerHealthCheck appId config)
    (Function.update_self ..) (Function.update_self ..) results
  have hlength : (historyOf results appId).length < 2 ^ 32 := by
    rw [historyOf, List.length_map]
    exact (List.length_filter_le ..).trans_lt hfew
  refine ⟨⟨_, hstate, ?_, ?_⟩, ?_⟩
  · exact (((hcounts.successes _).mpr le_rfl).length_le.trans' (by simp)).trans_lt hlength
  · exact (((hcounts.failures _).mpr le_rfl).length_le.trans' (by simp)).trans_lt hlength
  · rw [← hcounts.unhealthy, UpstreamHealthRegistry.isAppHealthy, hstate]
    rfl

theorem unhealthy_after_three :
    let results := List.replicate 3 ("api", false) ++ [("web", true), ("api", true)]
    let config : AppHealthCheckConfig := ⟨"/health", 200, 3, 2⟩
    (recordAll (.registerHealthCheck .new "api" config) results).isAppHealthy "api" = false ∧
      Latched 3 2 (historyOf results "api") := by
  intro results config
  have hiff := (unhealthy_iff_latched .new "api" config (by decide) (by decide) results
    (by decide)).2
  exact ⟨rfl, hiff.mp rfl⟩

end WasmCloud
