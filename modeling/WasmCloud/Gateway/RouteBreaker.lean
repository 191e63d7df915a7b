import WasmCloud.Gateway.Outcomes

/-!
# The Breaker Settings of a Route

A route's configuration can say how many failures in a row open the circuit of its
application, how long it stays open and what counts as a failure. `RouteCircuit` is a
circuit that does what it is told. Next to it runs the breaker of the external proxy, which
is never told.

The two are compared after every trace of requests and of endings of those that were let
through, where `occurs` says which endings there may be. A trace that tells them apart is
built from rounds, in which one request asks and ends; `walk` is what a round does to the
two counters while both circuits are closed.
-/

namespace WasmCloud

open List

/-- Statuses, and connection errors unless only statuses are named. -/
def FailureCriteria.counts : FailureCriteria → UpstreamBehaviour → Bool
  | .serverErrors, .answered status => isServerError status
  | .allErrors, .answered status => decide (400 ≤ status) && decide (status < 600)
  | .statusCodes codes, .answered status => codes.any (fun code => code.toNat == status)
  | .serverErrors, _ => true
  | .allErrors, _ => true
  | .statusCodes _, _ => false

/-- Closed after so many failures in a row, open since a time, or half open. -/
inductive RouteCircuit where
  | closed (failures : Nat)
  | opened (since : Nat)
  | halfOpen
  deriving DecidableEq, Repr

namespace RouteCircuit

def state : RouteCircuit → CircuitState
  | .closed _ => .closed
  | .opened _ => .opened
  | .halfOpen => .halfOpen

/-- A request asks. An open circuit is half open once its time is up. -/
def check (resetTimeoutSecs now : Nat) : RouteCircuit → RouteCircuit
  | .closed failures => .closed failures
  | .opened since =>
    if resetTimeoutSecs ≤ (now - since) / 1000000000 then .halfOpen else .opened since
  | .halfOpen => .halfOpen

/-- A request ends: a closed circuit may open, and a half-open one is decided. -/
def learn (failureThreshold : Nat) (failed : Bool) (now : Nat) : RouteCircuit → RouteCircuit
  | .closed failures =>
    if failed then
      if failures + 1 = failureThreshold then .opened now else .closed (failures + 1)
    else .closed 0
  | .opened since => .opened since
  | .halfOpen => if failed then .opened now else .closed 0

end RouteCircuit

/-- A request of an application asks, or a request ends in some way. -/
inductive ProxyEvent where
  | request (appId : String) (now : Nat)
  | ended (request : Nat) (behaviour : UpstreamBehaviour) (now : Nat)
  deriving DecidableEq, Repr

/-- Record outcomes one after the other. -/
def CircuitBreakerManager.recordAll (m : CircuitBreakerManager)
    (outcomes : List (AppId × RequestOutcome)) (now : Nat) : CircuitBreakerManager :=
  outcomes.foldl (fun m o => m.recordOutcome o.1.text (decide (o.2 = .success)) now) m

/-- The breaker with what the external proxy records in the context of the route. -/
def proxyStep (configs : String → Option GatewayRouteConfig) (s : Breaker) : ProxyEvent → Breaker
  | .request appId now => breakerStep s (.check appId now)
  | .ended request behaviour now =>
    match s.appOf request with
    | none => s
    | some appId =>
      ⟨s.manager.recordAll
          (externalOutcomes (.routed (some ⟨appId⟩) (configs appId)) behaviour) now,
        s.asked, s.inFlight.filter (fun r => decide (r.1 ≠ request))⟩

/-- The proxy's breaker, and the circuit of one application with its route's settings. -/
structure Governance where
  breaker : Breaker
  circuit : RouteCircuit

def Governance.start : Governance := ⟨Breaker.new, .closed 0⟩

section Sides

variable (configs : String → Option GatewayRouteConfig) (appId : String)
  (cfg : CircuitBreakerConfig)

def governanceStep (s : Governance) (e : ProxyEvent) : Governance :=
  ⟨proxyStep configs s.breaker e,
    match e with
    | .request other now =>
      if other = appId then s.circuit.check cfg.resetTimeoutSecs.toNat now else s.circuit
    | .ended request behaviour now =>
      if s.breaker.appOf request = some appId then
        s.circuit.learn cfg.failureThreshold.toNat (cfg.failureCriteria.counts behaviour) now
      else s.circuit⟩

/-- Requests end as `occurs` has it. -/
def EndsAs (occurs : UpstreamBehaviour → Prop) : ProxyEvent → Prop
  | .request _ _ => True
  | .ended _ behaviour _ => occurs behaviour

/-- After every trace the application's circuit is in the state its settings ask for. -/
def Governs (occurs : UpstreamBehaviour → Prop) : Prop :=
  ∀ events : List ProxyEvent, (∀ e ∈ events, EndsAs occurs e) →
    (runAll (governanceStep configs appId cfg) Governance.start events).breaker.stateOf appId =
      (runAll (governanceStep configs appId cfg) Governance.start events).circuit.state

end Sides

/-- Of responses those with a 5xx status are failures, and nothing else is one. -/
def FailureCriteria.Alike (criteria : FailureCriteria) : UpstreamBehaviour → Prop
  | .answered status => criteria.counts (.answered status) = isServerError status
  | behaviour => criteria.counts behaviour = false

/-- The settings are what the proxy does anyway, as far as endings occur. -/
def SettingsApply (cfg : CircuitBreakerConfig) (occurs : UpstreamBehaviour → Prop) : Prop :=
  (∀ behaviour, occurs behaviour → cfg.failureCriteria.Alike behaviour) ∧
    ((∃ behaviour, occurs behaviour ∧ cfg.failureCriteria.counts behaviour = true) →
      cfg.failureThreshold.toNat = 5 ∧ cfg.resetTimeoutSecs.toNat = 30 ∧
        ∀ behaviour, occurs behaviour → ∃ status, behaviour = .answered status)

namespace CircuitBreakerManager

/-- Record an outcome, if there is one. -/
def note (m : CircuitBreakerManager) (appId : String) (now : Nat) :
    Option Bool → CircuitBreakerManager
  | none => m
  | some success => m.recordOutcome appId success now

end CircuitBreakerManager

/-- What the proxy records of an ending: a success or not, or nothing. -/
def UpstreamBehaviour.recorded : UpstreamBehaviour → Option Bool
  | .answered status => some (!isServerError status)
  | _ => none

theorem recordAll_externalOutcomes (m : CircuitBreakerManager) (appId : String)
    (config : Option GatewayRouteConfig) (behaviour : UpstreamBehaviour) (now : Nat) :
    m.recordAll (externalOutcomes (.routed (some ⟨appId⟩) config) behaviour) now =
      m.note appId now behaviour.recorded := by
  cases behaviour with
  | answered status =>
    change m.recordOutcome appId
      (decide ((if isServerError status then RequestOutcome.failure else .success) = .success))
        now = m.recordOutcome appId (!isServerError status) now
    cases isServerError status with
    | true | false => rfl
  | unavailable | connectTimedOut | connectFailed | handshakeFailed | replyTimedOut
  | replyFailed => rfl

theorem recorded_isSome_iff (behaviour : UpstreamBehaviour) :
    behaviour.recorded.isSome = true ↔ ∃ status, behaviour = .answered status := by
  cases behaviour with
  | answered status => exact iff_of_true rfl ⟨status, rfl⟩
  | _ => simp [UpstreamBehaviour.recorded]

theorem alike_iff (criteria : FailureCriteria) (behaviour : UpstreamBehaviour) :
    criteria.Alike behaviour ↔
      criteria.counts behaviour = behaviour.recorded.elim false (fun success => !success) := by
  cases behaviour with
  | answered status =>
    change _ = isServerError status ↔ _ = !(!isServerError status)
    rw [Bool.not_not]
  | _ => exact Iff.rfl

/-- What becomes of the circuit of the application. -/
def Circuit.note (now : Nat) (c : Circuit) : Option Bool → Circuit
  | none => c
  | some true => c.succeed now
  | some false => c.fail 5 now

/-- The manager has its own settings. -/
structure DefaultSettings (m : CircuitBreakerManager) : Prop where
  threshold : m.defaultFailureThreshold = 5
  timeout : m.defaultResetTimeoutSecs = 30

variable {m : CircuitBreakerManager}

theorem DefaultSettings.note (h : DefaultSettings m) (appId : String) (now : Nat)
    (outcome : Option Bool) : DefaultSettings (m.note appId now outcome) := by
  rcases outcome with _ | success
  · exact h
  · cases success with
    | true | false => exact ⟨h.threshold, h.timeout⟩

theorem entry_note (h : DefaultSettings m) (appId other : String) (now later : Nat)
    (outcome : Option Bool) : ∃ earlier, (m.note appId now outcome).entry other later =
      if other = appId then (m.entry appId earlier).note now outcome else m.entry other later := by
  rcases outcome with _ | _ | _
  · refine ⟨later, ?_⟩
    split
    · subst other; rfl
    · rfl
  · refine ⟨now, ?_⟩
    rw [Circuit.note, ← h.threshold]
    exact m.entry_set appId other _ later
  · exact ⟨now, m.entry_set appId other _ later⟩

/-- The same state: closed ones have counted alike, open ones opened at the same time. -/
def Agrees (c : Circuit) : RouteCircuit → Prop
  | .closed failures => c.state = .closed ∧ c.consecutiveFailures = failures ∧ failures < 5
  | .opened since => c.state = .opened ∧ c.lastStateChange = since
  | .halfOpen => c.state = .halfOpen

variable {c : Circuit} {t : RouteCircuit}

theorem Agrees.state (h : Agrees c t) : c.state = t.state := by
  cases t <;> grind [Agrees, RouteCircuit.state]

theorem Agrees.check (h : Agrees c t) (now : Nat) : Agrees (c.check 30 now).1 (t.check 30 now) := by
  cases t <;> grind [Agrees, Circuit.check, RouteCircuit.check]

theorem Agrees.succeed (h : Agrees c t) (threshold now : Nat) :
    Agrees (c.succeed now) (t.learn threshold false now) := by
  cases t <;> grind [Agrees, Circuit.succeed, RouteCircuit.learn]

theorem Agrees.fail (h : Agrees c t) (now : Nat) : Agrees (c.fail 5 now) (t.learn 5 true now) := by
  cases t <;> grind [Agrees, Circuit.fail, RouteCircuit.learn]

section Sides

variable {configs : String → Option GatewayRouteConfig} {appId : String}
  {cfg : CircuitBreakerConfig}

/-- The circuit of the application is the one its settings ask for. -/
structure GovernanceOk (appId : String) (s : Governance) : Prop where
  settings : DefaultSettings s.breaker.manager
  agrees : ∀ now, Agrees (s.breaker.manager.entry appId now) s.circuit

variable {s : Governance}

theorem GovernanceOk.state (h : GovernanceOk appId s) :
    s.breaker.stateOf appId = s.circuit.state := by
  rw [← (h.agrees 0).state, CircuitBreakerManager.entry_state]
  rfl

theorem governanceOk_start : GovernanceOk appId Governance.start where
  settings := ⟨rfl, rfl⟩
  agrees := fun _ => ⟨rfl, rfl, by omega⟩

variable {now request : Nat}

theorem agrees_request (h : GovernanceOk appId s) (other : String)
    (hcheck : s.circuit.check cfg.resetTimeoutSecs.toNat now = s.circuit.check 30 now) :
    GovernanceOk appId (governanceStep configs appId cfg s (.request other now)) := by
  refine ⟨⟨h.settings.threshold, h.settings.timeout⟩, ?_⟩
  intro later
  have hentry := s.breaker.manager.entry_set other appId
    ((s.breaker.manager.entry other now).check s.breaker.manager.defaultResetTimeoutSecs now).1
    later
  change Agrees ((s.breaker.manager.set other _).entry appId later)
    (if other = appId then s.circuit.check cfg.resetTimeoutSecs.toNat now else s.circuit)
  rw [hentry, h.settings.timeout]
  by_cases hother : other = appId
  · rw [if_pos hother.symm, if_pos hother, hcheck, hother]
    exact (h.agrees now).check now
  · rw [if_neg (Ne.symm hother), if_neg hother]
    exact h.agrees later

theorem step_ended_some {other : String} (happ : s.breaker.appOf request = some other)
    (behaviour : UpstreamBehaviour) (now : Nat) :
    governanceStep configs appId cfg s (.ended request behaviour now) =
      ⟨⟨s.breaker.manager.note other now behaviour.recorded, s.breaker.asked,
          s.breaker.inFlight.filter (fun r => decide (r.1 ≠ request))⟩,
        if other = appId then
          s.circuit.learn cfg.failureThreshold.toNat (cfg.failureCriteria.counts behaviour) now
        else s.circuit⟩ := by
  simp [governanceStep, proxyStep, happ, recordAll_externalOutcomes]

theorem agrees_ended (h : GovernanceOk appId s) (request : Nat) {behaviour : UpstreamBehaviour}
    (hlearn : ∀ c, Agrees c s.circuit → Agrees (c.note now behaviour.recorded)
      (s.circuit.learn cfg.failureThreshold.toNat (cfg.failureCriteria.counts behaviour) now)) :
    GovernanceOk appId (governanceStep configs appId cfg s (.ended request behaviour now)) := by
  cases happ : s.breaker.appOf request with
  | none => simpa [governanceStep, proxyStep, happ] using h
  | some other =>
    rw [step_ended_some happ]
    refine ⟨h.settings.note other now _, fun later => ?_⟩
    obtain ⟨earlier, hentry⟩ := entry_note h.settings other appId now later behaviour.recorded
    grind [h.agrees]

variable {occurs : UpstreamBehaviour → Prop}

theorem agrees_step (halike : ∀ behaviour, occurs behaviour → cfg.failureCriteria.Alike behaviour)
    (hthreshold : cfg.failureThreshold.toNat = 5) (htimeout : cfg.resetTimeoutSecs.toNat = 30)
    (hanswered : ∀ behaviour, occurs behaviour → ∃ status, behaviour = .answered status)
    (s : Governance) (e : ProxyEvent) (he : EndsAs occurs e) (h : GovernanceOk appId s) :
    GovernanceOk appId (governanceStep configs appId cfg s e) := by
  cases e with
  | request other now =>
    refine agrees_request h other ?_
    rw [htimeout]
  | ended request behaviour now =>
    refine agrees_ended h request ?_
    intro c hc
    have hcounts := (alike_iff _ _).mp (halike behaviour he)
    obtain ⟨success, hsuccess⟩ :=
      Option.isSome_iff_exists.mp ((recorded_isSome_iff _).mpr (hanswered behaviour he))
    rw [hcounts, hsuccess, hthreshold]
    cases success with
    | true => exact hc.succeed 5 now
    | false => exact hc.fail now

theorem quiet_step (halike : ∀ behaviour, occurs behaviour → cfg.failureCriteria.Alike behaviour)
    (hnone : ∀ behaviour, occurs behaviour → cfg.failureCriteria.counts behaviour = false)
    (s : Governance) (e : ProxyEvent) (he : EndsAs occurs e)
    (h : GovernanceOk appId s ∧ s.circuit = .closed 0) :
    GovernanceOk appId (governanceStep configs appId cfg s e) ∧
      (governanceStep configs appId cfg s e).circuit = .closed 0 := by
  cases e with
  | request other now =>
    refine ⟨agrees_request h.1 other (by rw [h.2]; rfl), ?_⟩
    change (if other = appId then s.circuit.check _ now else s.circuit) = .closed 0
    rw [h.2, RouteCircuit.check, ite_self]
  | ended request behaviour now =>
    have hcounts := hnone behaviour he
    have hlearn : s.circuit.learn cfg.failureThreshold.toNat false now = .closed 0 := by
      rw [h.2]
      rfl
    constructor
    · refine agrees_ended h.1 request fun c hc => ?_
      have hrecorded := (alike_iff _ _).mp (halike behaviour he)
      have hsucceed := hc.succeed cfg.failureThreshold.toNat now
      rw [hcounts] at hrecorded ⊢
      rcases hoption : behaviour.recorded with _ | _ | _
      · rwa [hlearn, ← h.2]
      · rw [hoption] at hrecorded
        cases hrecorded
      · exact hsucceed
    · change (if s.breaker.appOf request = some appId then s.circuit.learn _
        (cfg.failureCriteria.counts behaviour) now else s.circuit) = .closed 0
      rw [hcounts, hlearn, h.2, ite_self]

theorem governs_of_settingsApply (h : SettingsApply cfg occurs) :
    Governs configs appId cfg occurs := by
  intro events hevents
  have halong : Along (governanceStep configs appId cfg) (fun _ e => EndsAs occurs e)
      Governance.start events := along_of_forall (fun e he _ => hevents e he) _
  by_cases hfails : ∃ behaviour, occurs behaviour ∧ cfg.failureCriteria.counts behaviour = true
  · obtain ⟨hthreshold, htimeout, hanswered⟩ := h.2 hfails
    exact (invariant_along (agrees_step h.1 hthreshold htimeout hanswered) halong
      governanceOk_start).state
  · have hnone : ∀ behaviour, occurs behaviour → cfg.failureCriteria.counts behaviour = false := by
      intro behaviour hb
      rw [← Bool.not_eq_true]
      exact fun hcounts => hfails ⟨behaviour, hb, hcounts⟩
    obtain ⟨hok, -⟩ := invariant_along (quiet_step h.1 hnone) halong ⟨governanceOk_start, rfl⟩
    exact hok.state

end Sides

/-- The count of the proxy's circuit after an outcome, none if it opens. -/
def codeCount (count : Nat) : Option Bool → Option Nat
  | none => some count
  | some true => some 0
  | some false => if count + 1 < 5 then some (count + 1) else none

/-- The count of the circuit with settings after an ending, none if it opens. -/
def routeCount (threshold count : Nat) (failed : Bool) : Option Nat :=
  if failed then if count + 1 = threshold then none else some (count + 1) else some 0

/-- The circuit is closed with this count, or has just been opened. -/
def CountsTo (c : Circuit) (now : Nat) : Option Nat → Prop
  | some count => c.state = .closed ∧ c.consecutiveFailures = count
  | none => c.state = .opened ∧ c.lastStateChange = now

theorem countsTo_note {c : Circuit} {count : Nat} (h : CountsTo c 0 (some count)) (hlt : count < 5)
    (outcome : Option Bool) : CountsTo (c.note 0 outcome) 0 (codeCount count outcome) := by
  rcases outcome with _ | _ | _ <;>
    grind [CountsTo, Circuit.note, Circuit.succeed, Circuit.fail, codeCount]

theorem learn_closed (threshold count : Nat) (failed : Bool) (now : Nat) :
    (RouteCircuit.closed count).learn threshold failed now =
      (routeCount threshold count failed).elim (.opened now) .closed := by
  cases failed <;> grind [RouteCircuit.learn, routeCount, Option.elim]

section Rounds

variable (configs : String → Option GatewayRouteConfig) {appId : String}
  (cfg : CircuitBreakerConfig)

/-- A request of the application asks and ends. -/
def round (appId : String) (request : Nat) (behaviour : UpstreamBehaviour) : List ProxyEvent :=
  [.request appId 0, .ended request behaviour 0]

/-- The counts of the two circuits after some rounds, none if a circuit has just opened. -/
structure AfterRound (appId : String) (s : Governance) (asked : Nat)
    (code route : Option Nat) : Prop where
  settings : DefaultSettings s.breaker.manager
  numbered : s.breaker.asked = asked
  idle : s.breaker.inFlight = []
  counted : ∀ now, CountsTo (s.breaker.manager.entry appId now) 0 code
  intended : s.circuit = route.elim (.opened 0) .closed

theorem afterRound_start : AfterRound appId Governance.start 0 (some 0) (some 0) where
  settings := ⟨rfl, rfl⟩
  numbered := rfl
  idle := rfl
  counted := fun _ => ⟨rfl, rfl⟩
  intended := rfl

variable {s : Governance} {asked : Nat}

theorem AfterRound.round {code route : Nat}
    (h : AfterRound appId s asked (some code) (some route)) (hlt : code < 5)
    (behaviour : UpstreamBehaviour) :
    AfterRound appId
      (runAll (governanceStep configs appId cfg) s (round appId asked behaviour)) (asked + 1)
      (codeCount code behaviour.recorded)
      (routeCount cfg.failureThreshold.toNat route (cfg.failureCriteria.counts behaviour)) := by
  -- The request is let through, and the circuit of the application is written.
  have hasks : governanceStep configs appId cfg s (.request appId 0) =
      ⟨⟨s.breaker.manager.set appId (s.breaker.manager.entry appId 0), asked + 1,
        [(asked, appId)]⟩, .closed route⟩ := by
    simp only [governanceStep, proxyStep, breakerStep, CircuitBreakerManager.isCircuitOpen,
      Circuit.check, (h.counted 0).1, h.numbered, h.idle, h.intended, Option.elim_some,
      RouteCircuit.check, ite_self, Bool.false_eq_true, if_false]
  have happ : Breaker.appOf ⟨s.breaker.manager.set appId (s.breaker.manager.entry appId 0),
      asked + 1, [(asked, appId)]⟩ asked = some appId := by
    simp [Breaker.appOf]
  have hsettings : DefaultSettings
      (s.breaker.manager.set appId (s.breaker.manager.entry appId 0)) :=
    ⟨h.settings.threshold, h.settings.timeout⟩
  rw [WasmCloud.round, runAll_cons, runAll_cons, runAll_nil, hasks, step_ended_some happ,
    if_pos rfl]
  refine ⟨hsettings.note appId 0 _, rfl, by simp, fun now => ?_, learn_closed _ _ _ _⟩
  obtain ⟨earlier, hentry⟩ := entry_note hsettings appId appId 0 now behaviour.recorded
  dsimp only
  rw [hentry, if_pos rfl, CircuitBreakerManager.entry_set, if_pos rfl]
  exact countsTo_note (h.counted 0) hlt behaviour.recorded

variable {code route : Option Nat} {count count' : Nat}

theorem AfterRound.code_state (h : AfterRound appId s asked code route) :
    s.breaker.stateOf appId = .opened ↔ code = none := by
  have hcode := h.counted 0
  have hstate : s.breaker.stateOf appId = (s.breaker.manager.entry appId 0).state :=
    (CircuitBreakerManager.entry_state _ _ _).symm
  rw [hstate]
  cases code with
  | none => exact iff_of_true hcode.1 rfl
  | some count =>
    rw [hcode.1]
    simp

theorem AfterRound.route_state (h : AfterRound appId s asked code route) :
    s.circuit.state = .opened ↔ route = none := by
  rw [h.intended]
  cases route with
  | none => exact iff_of_true rfl rfl
  | some count => simp [RouteCircuit.state]

theorem codeCount_lt {outcome : Option Bool} (hlt : count < 5)
    (h : codeCount count outcome = some count') : count' < 5 := by
  rcases outcome with _ | _ | _ <;> grind [codeCount]

/-- The counts after rounds, as long as neither circuit opens. -/
def walk : Nat × Nat → List UpstreamBehaviour → Option (Nat × Nat)
  | counts, [] => some counts
  | counts, behaviour :: rest =>
    match codeCount counts.1 behaviour.recorded,
      routeCount cfg.failureThreshold.toNat counts.2 (cfg.failureCriteria.counts behaviour) with
    | some code, some route => walk (code, route) rest
    | _, _ => none

def rounds (appId : String) : Nat → List UpstreamBehaviour → List ProxyEvent
  | _, [] => []
  | request, behaviour :: rest => round appId request behaviour ++ rounds appId (request + 1) rest

theorem AfterRound.walk {code route code' route' : Nat} (behaviours : List UpstreamBehaviour)
    (h : AfterRound appId s asked (some code) (some route)) (hlt : code < 5)
    (hwalk : walk cfg (code, route) behaviours = some (code', route')) :
    AfterRound appId (runAll (governanceStep configs appId cfg) s (rounds appId asked behaviours))
      (asked + behaviours.length) (some code') (some route') ∧ code' < 5 := by
  induction behaviours generalizing s asked code route with
  | nil =>
    cases hwalk
    exact ⟨h, hlt⟩
  | cons behaviour rest ih =>
    have hround := h.round configs cfg hlt behaviour
    grind [rounds, runAll_append, WasmCloud.walk, codeCount_lt]

theorem endsAs_rounds {occurs : UpstreamBehaviour → Prop} {behaviours : List UpstreamBehaviour}
    (h : ∀ behaviour ∈ behaviours, occurs behaviour) (request : Nat) :
    ∀ e ∈ rounds appId request behaviours, EndsAs occurs e := by
  induction behaviours generalizing request with
  | nil => exact fun e he => absurd he not_mem_nil
  | cons behaviour rest ih =>
    intro e he
    rcases mem_append.mp he with he | he
    · grind [round, EndsAs]
    · exact ih (fun b hb => h b (.tail _ hb)) _ e he

theorem walk_replicate (behaviour : UpstreamBehaviour) (code route : Nat → Nat) (n : Nat)
    (hcode : ∀ i < n, codeCount (code i) behaviour.recorded = some (code (i + 1)))
    (hroute : ∀ i < n, routeCount cfg.failureThreshold.toNat (route i)
      (cfg.failureCriteria.counts behaviour) = some (route (i + 1))) :
    walk cfg (code 0, route 0) (List.replicate n behaviour) = some (code n, route n) := by
  induction n generalizing code route with
  | zero => rfl
  | succ n ih =>
    have hrest := ih (fun i => code (i + 1)) (fun i => route (i + 1))
      (fun i hi => hcode (i + 1) (by omega)) (fun i hi => hroute (i + 1) (by omega))
    rw [replicate_succ, walk, hcode 0 (by omega), hroute 0 (by omega)]
    exact hrest

section Governed

variable {cfg} {configs} {occurs : UpstreamBehaviour → Prop} {behaviour : UpstreamBehaviour}

theorem walk_failures (hcounts : cfg.failureCriteria.counts behaviour = true)
    (hrecorded : behaviour.recorded = some false) {n : Nat} (hcode : n < 5)
    (hroute : n < cfg.failureThreshold.toNat) :
    walk cfg (0, 0) (List.replicate n behaviour) = some (n, n) :=
  walk_replicate cfg behaviour (fun i => i) (fun i => i) n
    (fun i hi => by rw [hrecorded, codeCount, if_pos (by omega)])
    (fun i hi => by rw [routeCount, hcounts, if_pos rfl, if_neg (by omega)])

variable (hgoverns : Governs configs appId cfg occurs)
include hgoverns

/-- After rounds that leave both closed, the next one opens both or neither. -/
theorem next_round_alike {behaviours : List UpstreamBehaviour} {code route : Nat}
    (hwalk : walk cfg (0, 0) behaviours = some (code, route))
    (hoccurs : ∀ behaviour ∈ behaviours, occurs behaviour) (hlast : occurs behaviour) :
    codeCount code behaviour.recorded = none ↔
      routeCount cfg.failureThreshold.toNat route (cfg.failureCriteria.counts behaviour) =
        none := by
  obtain ⟨hclosed, hlt⟩ := (@afterRound_start appId).walk configs cfg behaviours (by omega) hwalk
  have hround := hclosed.round configs cfg hlt behaviour
  have hevents : ∀ e ∈ rounds appId 0 behaviours ++
      round appId (0 + behaviours.length) behaviour, EndsAs occurs e := by
    intro e he
    rcases mem_append.mp he with he | he
    · exact endsAs_rounds hoccurs 0 e he
    · have hsingle : e ∈ rounds appId (0 + behaviours.length) [behaviour] := he
      exact endsAs_rounds (fun b hb => by rw [mem_singleton.mp hb]; exact hlast) _ e hsingle
  have hstate := hgoverns _ hevents
  rw [runAll_append] at hstate
  rw [← hround.code_state, ← hround.route_state, hstate]

theorem alike_of_governs (hthreshold : 1 ≤ cfg.failureThreshold.toNat)
    (hoccurs : occurs behaviour) : cfg.failureCriteria.Alike behaviour := by
  have hall : ∀ n, ∀ b ∈ List.replicate n behaviour, occurs b := by
    intro n b hb
    rw [eq_of_mem_replicate hb]
    exact hoccurs
  -- A failure that the proxy takes for none opens the circuit with settings.
  have hcounted : cfg.failureCriteria.counts behaviour = true →
      codeCount 0 behaviour.recorded = some 0 → False := by
    intro hcounts hcode
    have hwalk := walk_replicate cfg behaviour (fun _ => 0) (fun i => i)
      (cfg.failureThreshold.toNat - 1) (fun _ _ => hcode)
      (fun i hi => by rw [routeCount, hcounts, if_pos rfl, if_neg (by omega)])
    have hnext := next_round_alike hgoverns hwalk (hall _) hoccurs
    rw [hcode, routeCount, hcounts, if_pos rfl, if_pos (by omega)] at hnext
    nomatch (hnext.mpr rfl)
  rw [alike_iff]
  rcases hrecorded : behaviour.recorded with _ | _ | _
  · exact Bool.not_eq_true _ ▸ fun hcounts => hcounted hcounts (by rw [hrecorded]; rfl)
  · -- Five of them open the circuit of the proxy.
    by_contra hcounts
    have hcounts : cfg.failureCriteria.counts behaviour = false := Bool.not_eq_true _ ▸ hcounts
    have hwalk := walk_replicate cfg behaviour (fun i => i) (fun _ => 0) 4
      (fun i hi => by rw [hrecorded, codeCount, if_pos (by omega)])
      (fun _ _ => by rw [routeCount, hcounts]; rfl)
    have hnext := next_round_alike hgoverns hwalk (hall _) hoccurs
    rw [hrecorded, routeCount, hcounts] at hnext
    nomatch (hnext.mp rfl)
  · exact Bool.not_eq_true _ ▸ fun hcounts => hcounted hcounts (by rw [hrecorded]; rfl)

section Failing

variable (hoccurs : occurs behaviour) (hcounts : cfg.failureCriteria.counts behaviour = true)
  (hrecorded : behaviour.recorded = some false)
include hoccurs hcounts hrecorded

theorem threshold_of_governs (hthreshold : 1 ≤ cfg.failureThreshold.toNat) :
    cfg.failureThreshold.toNat = 5 := by
  -- The round that brings the first of the two counts to its threshold.
  have hwalk := walk_failures (n := min cfg.failureThreshold.toNat 5 - 1) hcounts hrecorded
    (by omega) (by omega)
  have hnext := next_round_alike hgoverns hwalk
    (fun b hb => by rw [eq_of_mem_replicate hb]; exact hoccurs) hoccurs
  grind [codeCount, routeCount]

variable (hthreshold : cfg.failureThreshold.toNat = 5)
include hthreshold

theorem answered_of_governs {other : UpstreamBehaviour} (hother : occurs other) :
    ∃ status, other = .answered status := by
  rw [← recorded_isSome_iff]
  by_contra hnone
  rw [Bool.not_eq_true, Option.isSome_eq_false_iff, Option.isNone_iff_eq_none] at hnone
  have hquiet := (alike_iff _ _).mp (alike_of_governs hgoverns (by omega) hother)
  rw [hnone] at hquiet
  -- Four failures, an ending the proxy does not hear of, and one more failure.
  have hwalk : walk cfg (0, 0) [behaviour, behaviour, behaviour, behaviour, other] =
      some (4, 0) := by
    simp [walk, codeCount, routeCount, hcounts, hrecorded, hnone, hquiet, hthreshold]
  have hnext := next_round_alike hgoverns hwalk (by simp [hoccurs, hother]) hoccurs
  rw [hrecorded, codeCount, routeCount, hcounts, hthreshold] at hnext
  nomatch (hnext.mp rfl)

theorem timeout_of_governs : cfg.resetTimeoutSecs.toNat = 30 := by
  obtain ⟨hclosed, hlt⟩ := (@afterRound_start appId).walk configs cfg _ (by omega)
    (walk_failures (n := 4) hcounts hrecorded (by omega) (by omega))
  rw [length_replicate] at hclosed
  have hround := hclosed.round configs cfg hlt behaviour
  rw [hrecorded, routeCount, hcounts, hthreshold] at hround
  -- The fifth failure opens both, and then a request asks at any time.
  have hafter : ∀ now, 30 ≤ now / 1000000000 ↔ cfg.resetTimeoutSecs.toNat ≤ now / 1000000000 := by
    intro now
    have hevents : ∀ e ∈ rounds appId 0 (List.replicate 4 behaviour) ++
        (round appId (0 + 4) behaviour ++ [.request appId now]), EndsAs occurs e := by
      intro e he
      rcases mem_append.mp he with he | he
      · exact endsAs_rounds (fun b hb => by rw [eq_of_mem_replicate hb]; exact hoccurs) 0 e he
      · grind [round, EndsAs]
    have hstate := hgoverns _ hevents
    rw [runAll_append, runAll_append] at hstate
    generalize hs : runAll (governanceStep configs appId cfg) (runAll (governanceStep configs appId
      cfg) Governance.start (rounds appId 0 (List.replicate 4 behaviour)))
        (round appId (0 + 4) behaviour) = s at hstate hround
    obtain ⟨hopened, hsince⟩ := hround.counted now
    have hcircuit : s.circuit = .opened 0 := hround.intended
    have hcode : (governanceStep configs appId cfg s (.request appId now)).breaker.stateOf appId =
        if 30 ≤ now / 1000000000 then .halfOpen else .opened := by
      change (breakerStep s.breaker (.check appId now)).stateOf appId = _
      rw [stateOf_check, if_pos rfl, hround.settings.timeout]
      grind [Circuit.check]
    have hroute : (governanceStep configs appId cfg s (.request appId now)).circuit.state =
        if cfg.resetTimeoutSecs.toNat ≤ now / 1000000000 then .halfOpen else .opened := by
      change (if appId = appId then s.circuit.check _ now else s.circuit).state = _
      rw [if_pos rfl, hcircuit, RouteCircuit.check, Nat.sub_zero]
      split_ifs with helapsed
      · rfl
      · rfl
    rw [runAll_cons, runAll_nil, hcode, hroute] at hstate
    grind
  have hcode := hafter 30000000000
  have hroute := hafter (cfg.resetTimeoutSecs.toNat * 1000000000)
  rw [Nat.mul_div_cancel _ (by omega)] at hroute
  omega

end Failing

theorem settingsApply_of_governs (hthreshold : 1 ≤ cfg.failureThreshold.toNat) :
    SettingsApply cfg occurs := by
  refine ⟨fun behaviour hb => alike_of_governs hgoverns hthreshold hb, ?_⟩
  intro hfails
  obtain ⟨behaviour, hoccurs, hcounts⟩ := hfails
  have hrecorded : behaviour.recorded = some false := by
    have halike := (alike_iff _ _).mp (alike_of_governs hgoverns hthreshold hoccurs)
    rw [hcounts] at halike
    rcases hoption : behaviour.recorded with _ | _ | _ <;> rw [hoption] at halike <;> first
      | rfl
      | cases halike
  have hfive := threshold_of_governs hgoverns hoccurs hcounts hrecorded hthreshold
  exact ⟨hfive, timeout_of_governs hgoverns hoccurs hcounts hrecorded hfive,
    fun other hother => answered_of_governs hgoverns hoccurs hcounts hrecorded hfive hother⟩

end Governed

end Rounds

/-- The configurations with breaker settings for the route of an application. -/
def withBreaker (configs : String → Option GatewayRouteConfig) (appId : String)
    (route : GatewayRouteConfig) (cfg : CircuitBreakerConfig) :
    String → Option GatewayRouteConfig :=
  fun other =>
    if other = appId then some { route with circuitBreaker := some cfg } else configs other

/-- The settings of a route govern the circuit of its application after every
    trace of endings that occur, exactly if they are what the proxy does anyway. -/
theorem breaker_governed_iff (configs : String → Option GatewayRouteConfig) (appId : String)
    (route : GatewayRouteConfig) (cfg : CircuitBreakerConfig)
    (hthreshold : 1 ≤ cfg.failureThreshold.toNat) (occurs : UpstreamBehaviour → Prop) :
    Governs (withBreaker configs appId route cfg) appId cfg occurs ↔ SettingsApply cfg occurs :=
  ⟨fun hgoverns => settingsApply_of_governs hgoverns hthreshold, governs_of_settingsApply⟩

def breakerConfigs (cfg : CircuitBreakerConfig) : String → Option GatewayRouteConfig :=
  withBreaker (fun _ => none) "default/api:v1" .default cfg

/-- The settings that are the manager's own, for responses. -/
theorem breaker_governed_default :
    Governs (breakerConfigs ⟨5, 30, .serverErrors⟩) "default/api:v1" ⟨5, 30, .serverErrors⟩
      (fun behaviour => ∃ status, behaviour = .answered status) := by
  refine (breaker_governed_iff (fun _ => none) "default/api:v1" .default ⟨5, 30, .serverErrors⟩
    (by decide) _).mpr ⟨?_, ?_⟩
  · intro behaviour hanswered
    obtain ⟨status, rfl⟩ := hanswered
    rfl
  · intro _
    exact ⟨rfl, rfl, fun _ hanswered => hanswered⟩

def breakerRun (cfg : CircuitBreakerConfig) (behaviours : List UpstreamBehaviour) : Governance :=
  runAll (governanceStep (breakerConfigs cfg) "default/api:v1" cfg) Governance.start
    (rounds "default/api:v1" 0 behaviours)

/-- Two failures should open the circuit of a critical service, and after them
    it is closed; refused connections are failures, and after five of them it is
    closed as well. -/
theorem breaker_ignores_settings :
    let answered := breakerRun ⟨2, 60, .serverErrors⟩ [.answered 500, .answered 500]
    let unreached := breakerRun ⟨5, 30, .serverErrors⟩ (List.replicate 5 .connectFailed)
    answered.breaker.stateOf "default/api:v1" = .closed ∧ answered.circuit = .opened 0 ∧
      unreached.breaker.stateOf "default/api:v1" = .closed ∧ unreached.circuit = .opened 0 := by
  decide +kernel

end WasmCloud
