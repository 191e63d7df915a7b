import WasmCloud.Lib.OrdTable
import WasmCloud.Lib.Run

/-!
# The Circuit Breaker

One circuit for each application. Enough failures in a row open it, and an open circuit
refuses requests until its time is up. The request that finds the time up makes the circuit
half open and is let through: it is the probe.

A request asks before it is forwarded and reports some time later, and the two calls have
nothing in common but the application. So a half-open circuit lets every request through,
and takes any outcome for that of the probe. `Uncontested` are the steps that keep away
from both, and `one_probe_iff` says that nothing short of it is enough.
-/

namespace WasmCloud

inductive CircuitState where
  | closed
  | opened
  | halfOpen
  deriving DecidableEq, Repr

/-- The circuit of an application. Times are in nanoseconds. -/
structure Circuit where
  state : CircuitState
  consecutiveFailures : Nat
  lastFailureAt : Option Nat
  lastStateChange : Nat
  deriving DecidableEq, Repr

namespace Circuit

/-- The circuit of an application nothing is known of. -/
def fresh (now : Nat) : Circuit := ⟨.closed, 0, none, now⟩

/-- The body of `is_circuit_open`. -/
def check (resetTimeoutSecs now : Nat) (c : Circuit) : Circuit × Bool :=
  match c.state with
  | .closed => (c, false)
  | .opened =>
    -- Elapsed time is cut to whole seconds, and is zero for a clock that lags.
    if resetTimeoutSecs ≤ (now - c.lastStateChange) / 1000000000 then
      ({ c with state := .halfOpen, lastStateChange := now }, false)
    else (c, true)
  -- Nothing remembers that the probe is already on its way.
  | .halfOpen => (c, false)

/-- The body of `record_success`. -/
def succeed (now : Nat) (c : Circuit) : Circuit :=
  if c.state = .halfOpen then
    { c with state := .closed, consecutiveFailures := 0, lastStateChange := now }
  else { c with consecutiveFailures := 0 }

/-- The body of `record_failure`. The count wraps as in a release build. -/
def fail (failureThreshold now : Nat) (c : Circuit) : Circuit :=
  let c := { c with
    consecutiveFailures := (c.consecutiveFailures + 1) % 2 ^ 32
    lastFailureAt := some now }
  match c.state with
  | .closed =>
    if failureThreshold ≤ c.consecutiveFailures then
      { c with state := .opened, lastStateChange := now }
    else c
  -- The probe failed, or some other request did.
  | .halfOpen => { c with state := .opened, lastStateChange := now }
  | .opened => c

end Circuit

/-- The circuits, and what applies to all of them. -/
structure CircuitBreakerManager where
  circuits : OrdTable (fun entry : String × Circuit => entry.1)
  defaultFailureThreshold : Nat
  defaultResetTimeoutSecs : Nat

namespace CircuitBreakerManager

def new : CircuitBreakerManager := ⟨OrdTable.empty, 5, 30⟩

variable (m : CircuitBreakerManager)

/-- The circuit of an application, which is inserted if there is none. -/
def entry (appId : String) (now : Nat) : Circuit :=
  ((m.circuits.get? appId).map Prod.snd).getD (Circuit.fresh now)

/-- Write the circuit of an application back. -/
def set (appId : String) (c : Circuit) : CircuitBreakerManager :=
  { m with circuits := m.circuits.insert (appId, c) }

def isCircuitOpen (appId : String) (now : Nat) : CircuitBreakerManager × Bool :=
  let checked := (m.entry appId now).check m.defaultResetTimeoutSecs now
  (m.set appId checked.1, checked.2)

def recordSuccess (appId : String) (now : Nat) : CircuitBreakerManager :=
  m.set appId ((m.entry appId now).succeed now)

def recordFailure (appId : String) (now : Nat) : CircuitBreakerManager :=
  m.set appId ((m.entry appId now).fail m.defaultFailureThreshold now)

def recordOutcome (appId : String) (success : Bool) (now : Nat) : CircuitBreakerManager :=
  if success then m.recordSuccess appId now else m.recordFailure appId now

/-- The state of an application's circuit. -/
def stateOf (appId : String) : CircuitState :=
  ((m.circuits.get? appId).map (fun entry => entry.2.state)).getD .closed

theorem entry_state (appId : String) (now : Nat) : (m.entry appId now).state = m.stateOf appId := by
  unfold entry stateOf
  cases m.circuits.get? appId with
  | none | some entry => rfl

theorem entry_set (appId other : String) (c : Circuit) (now : Nat) :
    (m.set appId c).entry other now = if other = appId then c else m.entry other now := by
  unfold entry set
  rw [OrdTable.get?_insert]
  split_ifs with h
  · rfl
  · rfl

theorem stateOf_set (appId other : String) (c : Circuit) :
    (m.set appId c).stateOf other = if other = appId then c.state else m.stateOf other := by
  rw [← entry_state _ _ 0, entry_set, apply_ite Circuit.state, entry_state]

end CircuitBreakerManager

open CircuitBreakerManager

/-- A request is known by how many asked before it; `inFlight` have not reported yet. -/
structure Breaker where
  manager : CircuitBreakerManager
  asked : Nat
  inFlight : List (Nat × String)

/-- A request asks, or reports how it went. -/
inductive BreakerAction where
  | check (appId : String) (now : Nat)
  | outcome (request : Nat) (success : Bool) (now : Nat)
  deriving DecidableEq, Repr

namespace Breaker

def new : Breaker := ⟨CircuitBreakerManager.new, 0, []⟩

/-- The application of a request that has yet to report. -/
def appOf (s : Breaker) (request : Nat) : Option String :=
  (s.inFlight.find? (fun r => decide (r.1 = request))).map Prod.snd

/-- The state of an application's circuit. -/
def stateOf (s : Breaker) (appId : String) : CircuitState := s.manager.stateOf appId

/-- The action is a request for the application, and it is let through. -/
def lets (s : Breaker) (appId : String) : BreakerAction → Bool
  | .check other now => decide (other = appId) && !(s.manager.isCircuitOpen other now).2
  | .outcome _ _ _ => false

end Breaker

/-- One call. A request reports at most once, and only if it was let through. -/
def breakerStep (s : Breaker) : BreakerAction → Breaker
  | .check appId now =>
    let checked := s.manager.isCircuitOpen appId now
    ⟨checked.1, s.asked + 1,
      if checked.2 then s.inFlight else (s.asked, appId) :: s.inFlight⟩
  | .outcome request success now =>
    match s.appOf request with
    | none => s
    | some appId =>
      ⟨s.manager.recordOutcome appId success now, s.asked,
        s.inFlight.filter (fun r => decide (r.1 ≠ request))⟩

/-- How many requests for an application are let through. -/
def admissions (appId : String) : Breaker → List BreakerAction → Nat
  | _, [] => 0
  | s, a :: actions => (s.lets appId a).toNat + admissions appId (breakerStep s a) actions

/-- A request at this time finds the circuit open and makes it half open. -/
def HalfOpens (s : Breaker) (appId : String) (now : Nat) : Prop :=
  s.stateOf appId = .opened ∧ (breakerStep s (.check appId now)).stateOf appId = .halfOpen

/-- The request that makes the circuit half open is the only one let through since. -/
def OneProbe (s : Breaker) (appId : String) (now : Nat) (later : List BreakerAction) : Prop :=
  admissions appId s (.check appId now :: later) = 1 ∧
    (runAll breakerStep s (.check appId now :: later)).stateOf appId = .halfOpen

/-- No request for the application asks, and none reports. -/
def Uncontested (appId : String) (s : Breaker) : BreakerAction → Prop
  | .check other _ => other ≠ appId
  | .outcome request _ _ => s.appOf request ≠ some appId

theorem stateOf_check (s : Breaker) (appId other : String) (now : Nat) :
    (breakerStep s (.check appId now)).stateOf other =
      if other = appId then
        ((s.manager.entry appId now).check s.manager.defaultResetTimeoutSecs now).1.state
      else s.stateOf other :=
  stateOf_set _ _ _ _

-- What an outcome does to the circuits is a write to the circuit of its application.
theorem stateOf_recordOutcome (m : CircuitBreakerManager) (appId other : String) (success : Bool)
    (now : Nat) :
    (m.recordOutcome appId success now).stateOf other =
      if other = appId then
        (if success then (m.entry appId now).succeed now
          else (m.entry appId now).fail m.defaultFailureThreshold now).state
      else m.stateOf other := by
  unfold recordOutcome
  cases success with
  | true | false => exact stateOf_set _ _ _ _

variable {appId : String} {s : Breaker} {a : BreakerAction}

theorem stateOf_step (h : Uncontested appId s a) :
    s.lets appId a = false ∧ (breakerStep s a).stateOf appId = s.stateOf appId := by
  cases a with
  | check other now =>
    have hne : other ≠ appId := h
    refine ⟨?_, ?_⟩
    · simp [Breaker.lets, decide_eq_false hne]
    · rw [stateOf_check, if_neg (Ne.symm hne)]
  | outcome request success now =>
    refine ⟨rfl, ?_⟩
    have hother : s.appOf request ≠ some appId := h
    simp only [breakerStep]
    cases happ : s.appOf request with
    | none => rfl
    | some other =>
      have hne : appId ≠ other := fun heq => hother (by rw [happ, heq])
      change (s.manager.recordOutcome other success now).stateOf appId = _
      rw [stateOf_recordOutcome, if_neg hne]
      rfl

/-- Any other step meets a half-open circuit with a request or with an outcome. -/
theorem step_contested (hhalf : s.stateOf appId = .halfOpen) (h : ¬ Uncontested appId s a) :
    s.lets appId a = true ∨ (breakerStep s a).stateOf appId ≠ .halfOpen := by
  cases a with
  | check other now =>
    have heq : other = appId := not_not.mp h
    have hstate : (s.manager.entry other now).state = .halfOpen := by
      rw [entry_state, heq]
      exact hhalf
    left
    simp [Breaker.lets, isCircuitOpen, Circuit.check, hstate, decide_eq_true heq]
  | outcome request success now =>
    have happ : s.appOf request = some appId := not_not.mp h
    have hstate : (s.manager.entry appId now).state = .halfOpen := by
      rw [entry_state]
      exact hhalf
    right
    simp only [breakerStep, happ]
    change (s.manager.recordOutcome appId success now).stateOf appId ≠ .halfOpen
    rw [stateOf_recordOutcome, if_pos rfl]
    grind [Circuit.succeed, Circuit.fail]

-- The induction is on the run. At each step the circuit is half open, so a contested
-- step shows in the state right behind it, which a prefix of the run ends in.
theorem quiet_iff {t : Breaker} (hhalf : t.stateOf appId = .halfOpen) (later : List BreakerAction) :
    (∀ reached, reached <+: later → admissions appId t reached = 0 ∧
          (runAll breakerStep t reached).stateOf appId = .halfOpen) ↔
      Along breakerStep (Uncontested appId) t later := by
  induction later generalizing t with
  | nil =>
    refine ⟨fun _ => trivial, fun _ reached hreached => ?_⟩
    rw [List.prefix_nil.mp hreached]
    exact ⟨rfl, hhalf⟩
  | cons a later ih =>
    constructor
    · intro h
      have hone := h [a] ⟨later, rfl⟩
      have hfirst : Uncontested appId t a := by
        by_contra hcontested
        rcases step_contested hhalf hcontested with hlets | hstate
        · simp only [admissions, hlets, Bool.toNat_true] at hone
          omega
        · exact hstate hone.2
      have hstep := stateOf_step hfirst
      refine ⟨hfirst, (ih (hstep.2.trans hhalf)).mp fun reached hreached => ?_⟩
      have hall := h (a :: reached) (List.cons_prefix_cons.mpr ⟨rfl, hreached⟩)
      simp only [admissions, hstep.1, Bool.toNat_false, Nat.zero_add] at hall
      exact hall
    · rintro ⟨hfirst, hrest⟩ reached hreached
      have hstep := stateOf_step hfirst
      cases reached with
      | nil => exact ⟨rfl, hhalf⟩
      | cons b reached =>
        rcases List.cons_prefix_cons.mp hreached with ⟨rfl, htail⟩
        have hall := (ih (hstep.2.trans hhalf)).mpr hrest reached htail
        simp only [admissions, hstep.1, Bool.toNat_false, Nat.zero_add]
        exact hall

theorem lets_of_halfOpens {now : Nat} (h : HalfOpens s appId now) :
    s.lets appId (.check appId now) = true := by
  rcases h with ⟨hopened, hhalf⟩
  have hstate : (s.manager.entry appId now).state = .opened := by
    rw [entry_state]
    exact hopened
  rw [stateOf_check, if_pos rfl] at hhalf
  unfold Breaker.lets isCircuitOpen
  unfold Circuit.check at hhalf ⊢
  simp only [hstate, decide_true, Bool.true_and, Bool.not_eq_true'] at hhalf ⊢
  -- A circuit that is refused stays open.
  grind

/-- From the request that makes a circuit half open on, it is the only one let through
    and nothing else decides the circuit, exactly as long as no request for the
    application asks or reports. -/
theorem one_probe_iff (s : Breaker) (appId : String) (now : Nat) (later : List BreakerAction)
    (h : HalfOpens s appId now) :
    (∀ reached, reached <+: later → OneProbe s appId now reached) ↔
      Along breakerStep (Uncontested appId) (breakerStep s (.check appId now)) later := by
  rw [← quiet_iff h.2]
  have hlets := lets_of_halfOpens h
  have hcount : ∀ reached, admissions appId s (.check appId now :: reached) =
      1 + admissions appId (breakerStep s (.check appId now)) reached := by
    intro reached
    rw [admissions, hlets, Bool.toNat_true]
  constructor
  · intro hone reached hreached
    rcases hone reached hreached with ⟨hadmissions, hstate⟩
    rw [hcount] at hadmissions
    exact ⟨by omega, hstate⟩
  · intro hquiet reached hreached
    rcases hquiet reached hreached with ⟨hadmissions, hstate⟩
    refine ⟨?_, hstate⟩
    rw [hcount, hadmissions]

def fiveFailures : List BreakerAction :=
  (List.range 6).map (fun _ => .check "app" 0) ++
    (List.range 5).map (fun request => .outcome request false 1000000000)

/-- Half a minute later there is one probe, while another application is in use. -/
theorem one_probe_other :
    let s := runAll breakerStep Breaker.new fiveFailures
    HalfOpens s "app" 31000000000 ∧ OneProbe s "app" 31000000000
      [.check "other" 31000000000, .outcome 7 false 32000000000] := by
  intro s
  have hopens : HalfOpens s "app" 31000000000 := by
    unfold HalfOpens
    decide +kernel
  have hother : Along breakerStep (Uncontested "app") (breakerStep s (.check "app" 31000000000))
      [.check "other" 31000000000, .outcome 7 false 32000000000] := by
    refine ⟨?_, ?_, trivial⟩
    · unfold Uncontested
      decide
    · unfold Uncontested
      decide +kernel
  exact ⟨hopens, (one_probe_iff _ _ _ _ hopens).mpr hother _ (List.prefix_refl _)⟩

/-- A second request is let through before the probe has reported; and the sixth of the
    earlier requests closes the circuit in the place of the probe. -/
theorem two_probes :
    let s := runAll breakerStep Breaker.new fiveFailures
    HalfOpens s "app" 31000000000 ∧
      admissions "app" s [.check "app" 31000000000, .check "app" 31000000000] = 2 ∧
      (runAll breakerStep s [.check "app" 31000000000, .outcome 5 true 31000000000]).stateOf
        "app" = .closed := by
  unfold HalfOpens
  decide +kernel

inductive CircuitOp where
  | isCircuitOpen
  | recordSuccess
  | recordFailure
  deriving DecidableEq, Repr

structure CircuitCall where
  op : CircuitOp
  appId : String
  now : Nat
  deriving DecidableEq, Repr

/-- How many failures there were in a row, or since when the circuit is open. -/
inductive CircuitPhase where
  | closed (failures : Nat)
  | opened (since : Nat)
  | halfOpen
  deriving DecidableEq, Repr

namespace CircuitPhase

/-- A call, with its answer if it has one. -/
def call (failureThreshold resetTimeoutSecs : Nat) :
    CircuitPhase → CircuitOp → Nat → CircuitPhase × Option Bool
  | .closed failures, .isCircuitOpen, _ => (.closed failures, some false)
  | .closed _, .recordSuccess, _ => (.closed 0, none)
  | .closed failures, .recordFailure, now =>
    (if failures + 1 = failureThreshold then .opened now else .closed (failures + 1), none)
  | .opened since, .isCircuitOpen, now =>
    if since + resetTimeoutSecs * 1000000000 ≤ now then (.halfOpen, some false)
    else (.opened since, some true)
  | .opened since, _, _ => (.opened since, none)
  | .halfOpen, .isCircuitOpen, _ => (.halfOpen, some false)
  | .halfOpen, .recordSuccess, _ => (.closed 0, none)
  | .halfOpen, .recordFailure, now => (.opened now, none)

/-- The phase after some calls, and their answers. -/
def run (failureThreshold resetTimeoutSecs : Nat) :
    CircuitPhase → List CircuitCall → CircuitPhase × List (Option Bool)
  | x, [] => (x, [])
  | x, c :: calls =>
    let called := x.call failureThreshold resetTimeoutSecs c.op c.now
    let rest := run failureThreshold resetTimeoutSecs called.1 calls
    (rest.1, called.2 :: rest.2)

/-- A circuit is in a phase, at a time that is not before the one it was opened at. -/
def Holds (failureThreshold now : Nat) (c : Circuit) : CircuitPhase → Prop
  | .closed failures =>
    c.state = .closed ∧ c.consecutiveFailures = failures ∧ failures < failureThreshold
  | .opened since => c.state = .opened ∧ c.lastStateChange = since ∧ since ≤ now
  | .halfOpen => c.state = .halfOpen

end CircuitPhase

/-- What one of the three calls makes of a circuit. -/
def Circuit.call (failureThreshold resetTimeoutSecs : Nat) (c : Circuit) :
    CircuitOp → Nat → Circuit × Option Bool
  | .isCircuitOpen, now =>
    ((c.check resetTimeoutSecs now).1, some (c.check resetTimeoutSecs now).2)
  | .recordSuccess, now => (c.succeed now, none)
  | .recordFailure, now => (c.fail failureThreshold now, none)

namespace CircuitBreakerManager

def call (m : CircuitBreakerManager) (c : CircuitCall) : CircuitBreakerManager × Option Bool :=
  match c.op with
  | .isCircuitOpen => ((m.isCircuitOpen c.appId c.now).1, some (m.isCircuitOpen c.appId c.now).2)
  | .recordSuccess => (m.recordSuccess c.appId c.now, none)
  | .recordFailure => (m.recordFailure c.appId c.now, none)

/-- The manager after some calls, and the answers to those for an application. -/
def run (appId : String) :
    CircuitBreakerManager → List CircuitCall → CircuitBreakerManager × List (Option Bool)
  | m, [] => (m, [])
  | m, c :: calls =>
    let rest := run appId (m.call c).1 calls
    (rest.1, if c.appId = appId then (m.call c).2 :: rest.2 else rest.2)

theorem call_eq (m : CircuitBreakerManager) (c : CircuitCall) : m.call c =
      let called := (m.entry c.appId c.now).call m.defaultFailureThreshold
        m.defaultResetTimeoutSecs c.op c.now
      (m.set c.appId called.1, called.2) := by
  unfold call Circuit.call
  cases c.op with
  | isCircuitOpen | recordSuccess | recordFailure => rfl

end CircuitBreakerManager

namespace CircuitPhase

variable {failureThreshold resetTimeoutSecs now : Nat} {c : Circuit} {x : CircuitPhase}

theorem Holds.mono {now' : Nat} (h : Holds failureThreshold now c x) (hle : now ≤ now') :
    Holds failureThreshold now' c x := by
  cases x with
  | closed failures => exact h
  | opened since => exact ⟨h.1, h.2.1, h.2.2.trans hle⟩
  | halfOpen => exact h

/-- A circuit and its phase answer a call alike and stay together. -/
theorem Holds.call (resetTimeoutSecs : Nat) (hsome : 0 < failureThreshold)
    (hsmall : failureThreshold < 2 ^ 32) (h : Holds failureThreshold now c x) (op : CircuitOp) :
    (c.call failureThreshold resetTimeoutSecs op now).2 =
        (x.call failureThreshold resetTimeoutSecs op now).2 ∧
      Holds failureThreshold now (c.call failureThreshold resetTimeoutSecs op now).1
        (x.call failureThreshold resetTimeoutSecs op now).1 := by
  cases x with
  | closed failures =>
    obtain ⟨hstate, rfl, hless⟩ := h
    cases op with
    | isCircuitOpen =>
      simp only [Circuit.call, Circuit.check, hstate]
      exact ⟨rfl, hstate, rfl, hless⟩
    | recordSuccess =>
      refine ⟨rfl, ?_⟩
      simp only [Circuit.call, Circuit.succeed, hstate, reduceCtorEq, if_false]
      exact ⟨rfl, rfl, hsome⟩
    | recordFailure =>
      have hcount : (c.consecutiveFailures + 1) % 2 ^ 32 = c.consecutiveFailures + 1 :=
        Nat.mod_eq_of_lt (by omega)
      refine ⟨rfl, ?_⟩
      simp only [Circuit.call, Circuit.fail, hstate, hcount, CircuitPhase.call]
      by_cases hlast : c.consecutiveFailures + 1 = failureThreshold
      · rw [if_pos hlast.ge, if_pos hlast]
        exact ⟨rfl, rfl, le_refl now⟩
      · rw [if_neg (by omega), if_neg hlast]
        exact ⟨rfl, rfl, by omega⟩
  | opened since =>
    obtain ⟨hstate, rfl, hbefore⟩ := h
    cases op with
    | isCircuitOpen =>
      have htime : resetTimeoutSecs ≤ (now - c.lastStateChange) / 1000000000 ↔
          c.lastStateChange + resetTimeoutSecs * 1000000000 ≤ now := by
        rw [Nat.le_div_iff_mul_le (by decide)]
        omega
      simp only [Circuit.call, Circuit.check, hstate, CircuitPhase.call]
      by_cases hup : c.lastStateChange + resetTimeoutSecs * 1000000000 ≤ now
      · rw [if_pos (htime.mpr hup), if_pos hup]
        exact ⟨rfl, rfl⟩
      · rw [if_neg (mt htime.mp hup), if_neg hup]
        exact ⟨rfl, hstate, rfl, hbefore⟩
    | recordSuccess | recordFailure =>
      refine ⟨rfl, ?_⟩
      simp only [Circuit.call, Circuit.succeed, Circuit.fail, hstate, reduceCtorEq, if_false]
      exact ⟨rfl, rfl, hbefore⟩
  | halfOpen =>
    have hstate : c.state = .halfOpen := h
    cases op with
    | isCircuitOpen =>
      simp only [Circuit.call, Circuit.check, hstate]
      exact ⟨rfl, hstate⟩
    | recordSuccess =>
      refine ⟨rfl, ?_⟩
      simp only [Circuit.call, Circuit.succeed, hstate, if_true]
      exact ⟨rfl, rfl, hsome⟩
    | recordFailure =>
      refine ⟨rfl, ?_⟩
      simp only [Circuit.call, Circuit.fail, hstate]
      exact ⟨rfl, rfl, le_refl now⟩

end CircuitPhase

def endTime : Nat → List CircuitCall → Nat
  | now, [] => now
  | _, c :: calls => endTime c.now calls

theorem run_holds {F R : Nat} (hsome : 0 < F) (hsmall : F < 2 ^ 32) (appId : String)
    (calls : List CircuitCall) {m : CircuitBreakerManager} {x : CircuitPhase} {start : Nat}
    (hF : m.defaultFailureThreshold = F) (hR : m.defaultResetTimeoutSecs = R)
    (horder : InTime CircuitCall.now start calls)
    (h : ∀ now, CircuitPhase.Holds F start (m.entry appId now) x) :
    (m.run appId calls).2 = (x.run F R (calls.filter (fun c => c.appId = appId))).2 ∧
      ∀ now, CircuitPhase.Holds F (endTime start calls) ((m.run appId calls).1.entry appId now)
        (x.run F R (calls.filter (fun c => c.appId = appId))).1 := by
  induction calls generalizing m x start with
  | nil => exact ⟨rfl, h⟩
  | cons c calls ih =>
    obtain ⟨hbefore, horder⟩ := horder
    subst hF hR
    by_cases happ : c.appId = appId
    · have hcall := CircuitPhase.Holds.call m.defaultResetTimeoutSecs hsome
        hsmall ((h c.now).mono hbefore) c.op
      obtain rfl := happ
      have hnext : ∀ now, CircuitPhase.Holds m.defaultFailureThreshold c.now
          ((m.call c).1.entry c.appId now)
            (x.call m.defaultFailureThreshold m.defaultResetTimeoutSecs c.op c.now).1 := by
        intro now
        rw [call_eq]
        simp only [entry_set, if_true]
        exact hcall.2
      obtain ⟨hanswers, hholds⟩ := ih (by rw [call_eq]; rfl) (by rw [call_eq]; rfl) horder hnext
      rw [List.filter_cons_of_pos (by simp), run, CircuitPhase.run]
      simp only [if_true]
      refine ⟨?_, hholds⟩
      rw [hanswers, call_eq, hcall.1]
    · have hnext : ∀ now, CircuitPhase.Holds m.defaultFailureThreshold c.now
          ((m.call c).1.entry appId now) x := by
        intro now
        rw [call_eq]
        simp only [entry_set, if_neg (Ne.symm happ)]
        exact (h now).mono hbefore
      obtain ⟨hanswers, hholds⟩ := ih (by rw [call_eq]; rfl) (by rw [call_eq]; rfl) horder hnext
      rw [List.filter_cons_of_neg (by simp [happ]), run]
      simp only [if_neg happ]
      exact ⟨hanswers, hholds⟩

/-- Every application has a state machine of its own: its calls are answered as if there
    were no others, its circuit is in the phase they lead to, and closed only with fewer
    failures in a row than open it. -/
theorem circuits_follow_phases (m : CircuitBreakerManager) (hnew : m.circuits = OrdTable.empty)
    (hsome : 0 < m.defaultFailureThreshold) (hsmall : m.defaultFailureThreshold < 2 ^ 32)
    (start : Nat) (calls : List CircuitCall) (horder : InTime CircuitCall.now start calls)
    (appId : String) :
    let own := CircuitPhase.run m.defaultFailureThreshold m.defaultResetTimeoutSecs (.closed 0)
      (calls.filter (fun c => c.appId = appId))
    (m.run appId calls).2 = own.2 ∧
      ∀ now, CircuitPhase.Holds m.defaultFailureThreshold (endTime start calls)
        ((m.run appId calls).1.entry appId now) own.1 := by
  refine run_holds hsome hsmall appId calls rfl rfl horder fun now => ?_
  have hentry : m.entry appId now = Circuit.fresh now := by
    rw [entry, hnew]
    rfl
  rw [hentry]
  exact ⟨rfl, rfl, hsome⟩

def fiveAndProbe : List CircuitCall :=
  List.replicate 5 ⟨.recordFailure, "app", 0⟩ ++
    [⟨.isCircuitOpen, "other", 0⟩, ⟨.isCircuitOpen, "app", 0⟩, ⟨.isCircuitOpen, "app", 60000000000⟩]

theorem circuits_follow_phases_probe : InTime CircuitCall.now 0 fiveAndProbe ∧
      (new.run "app" fiveAndProbe).2 = [none, none, none, none, none, some true, some false] := by
  have horder : InTime CircuitCall.now 0 fiveAndProbe := by
    simp [Along, fiveAndProbe, List.replicate]
  refine ⟨horder, ?_⟩
  rw [(circuits_follow_phases new rfl (by decide) (by decide) 0 fiveAndProbe horder "app").1]
  decide +kernel

end WasmCloud
