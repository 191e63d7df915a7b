import WasmCloud.Supervisor.Ticks

/-!
# Idle Instances

A health tick kills the instances that have been idle for longer than the configuration allows.
What it takes for idle is the time since `last_request_at`, which no request updates, so it kills
every instance older than the timeout, busy or not.

The model adds a clock and the round-robin counters to the monitored fleet of `Supervisor.Ticks`.
`Watch` has who had been selected within the timeout when a tick began, and who answered.
`Young` asks that such an instance is not older than the timeout when the tick reads the pools.
-/

namespace WasmCloud

open List

/-- A request that was sent to an instance. -/
structure Selection where
  id : Nat
  appId : AppId
  time : Nat
  deriving DecidableEq

/-- The instances that had been selected in time when a tick began, and those that answered. -/
structure Watch where
  busy : List Nat
  answered : List Nat

/-- A monitored fleet with a clock in milliseconds, the `last_request_at` of each instance and
    the round-robin counters. `selected` is not the node's own knowledge. -/
structure Traffic where
  monitored : Monitored
  now : Nat
  lastRequest : List (Nat × Nat)
  counters : List (AppId × Nat)
  selected : List Selection
  watch : Option Watch

/-- What happens. `answers` are the instances that answer a tick's probes. -/
inductive TrafficAction where
  | pass (ms : Nat)
  | fleet (a : FleetAction)
  | request (appId : AppId)
  | tickBegin
  | tickRead (answers : List Nat)
  | tickNext
  | tickReap
  | tickEnd
  deriving DecidableEq

namespace Traffic

def instances (s : Traffic) : List Tracked := s.monitored.fleet.instances

/-- The addresses of an application, in the order they were added. -/
def addrs (s : Traffic) (appId : AppId) : List Nat :=
  (s.monitored.fleet.registries.upstreams.filter (fun entry => entry.1 = appId)).map Prod.snd

/-- The round-robin counter of an application. A new one starts at zero. -/
def counter (s : Traffic) (appId : AppId) : Nat :=
  ((s.counters.find? (fun entry => entry.1 = appId)).map Prod.snd).getD 0

/-- `last_request_at` of an instance. -/
def lastRequestAt (s : Traffic) (id : Nat) : Option Nat :=
  (s.lastRequest.find? (fun entry => entry.1 = id)).map Prod.snd

end Traffic

/-- `UpstreamRegistry::next`: the address a request is sent to. -/
def nextUpstream (s : Traffic) (appId : AppId) : Option Nat :=
  (s.addrs appId)[s.counter appId % (s.addrs appId).length]?

/-- The test of `idle_instance_ids`, in whole seconds. -/
def idleLongerThan (s : Traffic) (id timeout : Nat) : Bool :=
  match s.lastRequestAt id with
  | some last => decide (timeout < (s.now - last) / 1000)
  | none => true

/-- The ready instances of an application. -/
def readyOf (s : Traffic) (appId : AppId) : List Tracked :=
  s.instances.filter (fun inst => inst.appId = appId ∧ inst.phase = .pooled .ready)

section Steps

variable (env : SpawnEnv) (timeout : AppId → Nat)

/-- In each pool those that do not answer, then those taken for idle. -/
def doomed (s : Traffic) (answers : List Nat) : List (AppId × Nat) :=
  s.monitored.fleet.pools.flatMap (fun appId =>
    (((readyOf s appId).filter (fun inst => inst.id ∉ answers)) ++
      (readyOf s appId).filter (fun inst => idleLongerThan s inst.id (timeout appId))).map
        (fun inst => (inst.appId, inst.id)))

/-- The instances that were selected within their timeout before now. -/
def busyNow (s : Traffic) : List Nat :=
  (s.selected.filter (fun sel => s.now - sel.time ≤ 1000 * timeout sel.appId)).map Selection.id

/-- A spawn that asks for the pools has made its instance; a counter goes with the last address. -/
def Traffic.follow (s : Traffic) (monitored : Monitored) : Traffic :=
  let made := monitored.fleet.instances.filter (fun inst =>
    inst.phase = .spawning .bound ∧ s.lastRequestAt inst.id = none)
  { s with
    monitored := monitored
    lastRequest := made.map (fun inst => (inst.id, s.now)) ++ s.lastRequest
    counters := s.counters.filter (fun entry =>
      monitored.fleet.registries.upstreams.any (fun upstream => upstream.1 = entry.1)) }

/-- A request: `next` moves the counter on, and nothing else is updated. -/
def requestStep (s : Traffic) (appId : AppId) : Traffic :=
  match nextUpstream s appId with
  | none => s
  | some port =>
    { s with
      counters := (appId, (s.counter appId + 1) % 2 ^ 64) ::
        s.counters.filter (fun entry => entry.1 ≠ appId)
      selected := ((s.instances.filter (fun inst =>
        inst.appId = appId ∧ inst.port = port)).map (fun inst => ⟨inst.id, appId, s.now⟩)) ++
          s.selected }

/-- One step. There is one tick at a time. -/
def trafficStep (s : Traffic) : TrafficAction → Traffic
  | .pass ms => { s with now := s.now + ms }
  | .fleet a => s.follow (monitorStep env s.monitored (.fleet a))
  | .request appId => requestStep s appId
  | .tickBegin =>
    match s.watch with
    | some _ => s
    | none => { s with watch := some ⟨busyNow timeout s, []⟩ }
  | .tickRead answers =>
    match s.watch, s.monitored.tick with
    | some watch, none =>
      { s with
        monitored := monitorStep env s.monitored (.tickStart (doomed timeout s answers))
        watch := some { watch with answered := answers } }
    | some _, some _ | none, _ => s
  | .tickNext => s.follow (monitorStep env s.monitored .tickNext)
  | .tickReap => { s with monitored := monitorStep env s.monitored .tickReap }
  | .tickEnd =>
    let monitored := monitorStep env s.monitored .tickEnd
    { s with
      monitored := monitored
      watch := if s.monitored.tick.isSome ∧ monitored.tick.isNone then none else s.watch }

end Steps

/-- A tick finds no instance that is selected in time and answers but was made too long ago. -/
def Young (timeout : AppId → Nat) (s : Traffic) : TrafficAction → Prop
  | .tickRead answers =>
    ∀ watch ∈ s.watch, ∀ inst ∈ s.instances, inst.phase = .pooled .ready →
      inst.id ∈ watch.busy → inst.id ∈ answers →
        ∀ last ∈ s.lastRequestAt inst.id, (s.now - last) / 1000 ≤ timeout inst.appId
  | .pass _ | .fleet _ | .request _ | .tickBegin | .tickNext | .tickReap | .tickEnd => True

instance (timeout : AppId → Nat) (s : Traffic) : (a : TrafficAction) → Decidable (Young timeout s a)
  | .tickRead answers => inferInstanceAs (Decidable
      (∀ watch ∈ s.watch, ∀ inst ∈ s.instances, inst.phase = .pooled .ready →
        inst.id ∈ watch.busy → inst.id ∈ answers →
          ∀ last ∈ s.lastRequestAt inst.id, (s.now - last) / 1000 ≤ timeout inst.appId))
  | .pass _ | .fleet _ | .request _ | .tickBegin | .tickNext | .tickReap | .tickEnd =>
    instDecidableTrue

variable {s : Traffic} {timeout : AppId → Nat} {appId : AppId} {answers : List Nat} {id : Nat}
  {env : SpawnEnv}

theorem mem_readyOf {inst : Tracked} : inst ∈ readyOf s appId ↔
      inst ∈ s.instances ∧ inst.appId = appId ∧ inst.phase = .pooled .ready := by
  simp [readyOf]

theorem mem_doomed : (appId, id) ∈ doomed timeout s answers ↔
      appId ∈ s.monitored.fleet.pools ∧ ∃ inst ∈ s.instances, inst.id = id ∧ inst.appId = appId ∧
        inst.phase = .pooled .ready ∧
        (id ∉ answers ∨ idleLongerThan s id (timeout appId) = true) := by
  grind [doomed, mem_readyOf]

/-- The instance is made: its spawn waits for the pools, or it has been in one. -/
def Phase.made : Phase → Bool
  | .spawning .bound | .pooled _ | .shutdown _ _ => true
  | .spawning _ => false

theorem Passes.made {s : Fleet} {a : FleetAction} {old : Tracked} {phase : Phase}
    (h : Passes s a old phase) (hmade : phase.made = true) :
    old.phase.made = true ∨ phase = .spawning .bound := by
  cases h with
  | moves phase hmoves =>
    unfold Moves at hmoves
    split at hmoves <;> grind [Phase.made]
  | _ => grind [Phase.made]

/-- What is to be killed was not busy and answering, and what is to be collected is not ready. -/
def Watched (instances : List Tracked) (watch : Option Watch) (tick : Tick) : Prop :=
  ∃ seen, watch = some seen ∧ ∀ entry ∈ tick.todo,
    if tick.reaping then
      ∀ inst ∈ instances, inst.id = entry.2 →
        inst.phase.stage = .closing ∨ inst.phase.stage = .past
    else ¬ (entry.2 ∈ seen.busy ∧ entry.2 ∈ seen.answered)

structure IdleInv (s : Traffic) : Prop where
  fleet : FleetInv s.monitored.fleet
  made : ∀ inst ∈ s.instances, inst.phase.made = true → (s.lastRequestAt inst.id).isSome = true
  known : ∀ tick, s.monitored.tick = some tick → ∀ entry ∈ tick.todo,
    entry.2 < s.monitored.fleet.nextId
  watched : ∀ tick, s.monitored.tick = some tick → Watched s.instances s.watch tick

theorem Traffic.lastRequestAt_follow {m : Monitored} (h : (s.lastRequestAt id).isSome = true ∨
      ∃ inst ∈ m.fleet.instances, inst.id = id ∧ inst.phase = .spawning .bound) :
    ((s.follow m).lastRequestAt id).isSome = true := by
  rw [Traffic.lastRequestAt, Option.isSome_map, List.find?_isSome]
  by_cases hold : (s.lastRequestAt id).isSome = true
  · rw [Traffic.lastRequestAt, Option.isSome_map, List.find?_isSome] at hold
    rcases hold with ⟨entry, hentry, hid⟩
    exact ⟨entry, mem_append_right _ hentry, hid⟩
  · rcases h.resolve_left hold with ⟨inst, hinst, rfl, hphase⟩
    refine ⟨(inst.id, s.now), mem_append_left _ (mem_map.mpr ⟨inst, ?_, rfl⟩), decide_eq_true rfl⟩
    rw [Option.not_isSome_iff_eq_none] at hold
    exact mem_filter.mpr ⟨hinst, decide_eq_true ⟨hphase, hold⟩⟩

theorem IdleInv.follow (h : IdleInv s) {a : FleetAction} {m : Monitored}
    (heffect : FleetEffect env s.monitored.fleet a m.fleet)
    (htick : ∀ tick, m.tick = some tick → ∃ old, s.monitored.tick = some old ∧
      old.reaping = tick.reaping ∧ tick.todo ⊆ old.todo) : IdleInv (s.follow m) := by
  refine ⟨heffect.inv h.fleet, ?_, ?_, ?_⟩
  · intro inst hinst hmade
    refine Traffic.lastRequestAt_follow ?_
    rcases heffect.origin h.fleet hinst with ⟨-, hphase, -⟩ | ⟨old, hold, heq, hpass⟩
    · rw [hphase] at hmade
      cases hmade
    · rcases hpass.made hmade with hbefore | hphase
      · rw [heq]
        exact .inl (h.made old hold hbefore)
      · exact .inr ⟨inst, hinst, rfl, hphase⟩
  · intro tick htick' entry hentry
    rcases htick tick htick' with ⟨old, hold, -, hsub⟩
    exact lt_of_lt_of_le (h.known old hold entry (hsub hentry)) heffect.nextId_le
  · intro tick htick'
    rcases htick tick htick' with ⟨old, hold, hreaping, hsub⟩
    rcases h.watched old hold with ⟨seen, hseen, htodo⟩
    refine ⟨seen, hseen, fun entry hentry => ?_⟩
    have hentry := hsub hentry
    have hbefore := htodo entry hentry
    rw [hreaping] at hbefore
    cases hkind : tick.reaping with
    | false =>
      rw [hkind] at hbefore
      exact hbefore
    | true =>
      rw [hkind] at hbefore
      intro inst hinst hid
      rcases heffect.origin h.fleet hinst with ⟨hnew, -⟩ | ⟨was, hwas, heq, hpass⟩
      · have hlt := h.known old hold entry hentry
        omega
      · rw [heq] at hid
        exact hpass.closed (hbefore was hwas hid)

theorem IdleInv.of_now (h : IdleInv s) (now : Nat) (counters : List (AppId × Nat))
    (selected : List Selection) :
    IdleInv { s with now := now, counters := counters, selected := selected } :=
  ⟨h.fleet, h.made, h.known, h.watched⟩

theorem not_doomed_of_young (h : IdleInv s) {watch : Watch} (hwatch : s.watch = some watch)
    (hyoung : Young timeout s (.tickRead answers)) {entry : AppId × Nat}
    (hdoomed : entry ∈ doomed timeout s answers) :
    ¬ (entry.2 ∈ watch.busy ∧ entry.2 ∈ answers) := by
  rintro ⟨hbusy, hanswers⟩
  rcases mem_doomed.mp hdoomed with ⟨-, inst, hinst, hid, happ, hready, hsilent | hidle⟩
  · exact hsilent hanswers
  · -- The instance is made, so there is a time, and it is not long ago.
    have hmade := h.made inst hinst (by rw [hready]; rfl)
    rcases Option.isSome_iff_exists.mp hmade with ⟨last, hlast⟩
    have hrecent := hyoung watch hwatch inst hinst hready (hid ▸ hbusy) (hid ▸ hanswers) last hlast
    rw [idleLongerThan, ← hid, hlast] at hidle
    have hlong := of_decide_eq_true hidle
    rw [happ] at hrecent
    omega

theorem closed_of_reapCandidate {s : Fleet} (hinv : FleetInv s) {entry : AppId × Nat}
    (hentry : entry ∈ s.reapCandidates) :
    entry.2 < s.nextId ∧ ∀ inst ∈ s.instances, inst.id = entry.2 →
      inst.phase.stage = .closing ∨ inst.phase.stage = .past := by
  rcases mem_map.mp hentry with ⟨cand, hcand, rfl⟩
  rcases mem_filter.mp hcand with ⟨hmem, hfenced⟩
  refine ⟨hinv.fresh cand hmem, fun inst hinst hid => .inl ?_⟩
  rw [inj_on_of_nodup_map hinv.ids hinst hmem hid]
  cases hphase : cand.phase with
  | spawning point | shutdown killer point => rw [hphase] at hfenced; cases hfenced
  | pooled state => cases state <;> grind [InstanceState.fenced, Phase.stage]

theorem idleInv_tickRead (hyoung : Young timeout s (.tickRead answers)) (h : IdleInv s) :
    IdleInv (trafficStep env timeout s (.tickRead answers)) := by
  rw [trafficStep]
  rcases hwatch : s.watch with _ | watch
  · exact h
  · rcases htick : s.monitored.tick with _ | tick
    · have hstart : monitorStep env s.monitored (.tickStart (doomed timeout s answers)) =
          { s.monitored with
            tick := some ⟨false, (doomed timeout s answers).filter
              (fun entry => s.monitored.fleet.isReady entry.1 entry.2),
              s.monitored.fleet.inserted.filter s.monitored.fleet.finished⟩ } := by
        rw [monitorStep, htick]
      refine ⟨hstart ▸ h.fleet, hstart ▸ h.made, ?_, ?_⟩
      · rw [hstart]
        rintro tick ⟨⟩ ⟨appId, id⟩ hentry
        rcases mem_doomed.mp (mem_of_mem_filter hentry) with ⟨-, inst, hinst, rfl, -⟩
        exact h.fleet.fresh inst hinst
      · rw [hstart]
        rintro tick ⟨⟩
        exact ⟨{ watch with answered := answers }, rfl, fun entry hentry =>
          not_doomed_of_young h hwatch hyoung (mem_of_mem_filter hentry)⟩
    · exact h

theorem idleInv_step (s : Traffic) (a : TrafficAction) (hyoung : Young timeout s a)
    (h : IdleInv s) : IdleInv (trafficStep env timeout s a) := by
  cases a with
  | pass ms => exact h.of_now _ _ _
  | fleet a =>
    exact h.follow (fleetStep_effect env s.monitored.fleet a)
      (fun tick htick => ⟨tick, htick, rfl, List.Subset.refl _⟩)
  | request appId =>
    grind [trafficStep, requestStep, h.of_now]
  | tickBegin =>
    rw [trafficStep]
    rcases hwatch : s.watch with _ | watch
    · -- Without a watch there is no tick.
      refine ⟨h.fleet, h.made, h.known, fun tick htick => ?_⟩
      rcases h.watched tick htick with ⟨seen, hseen, -⟩
      rw [hwatch] at hseen
      cases hseen
    · exact h
  | tickRead answers => exact idleInv_tickRead hyoung h
  | tickNext =>
    rw [trafficStep]
    rcases tickNext_cases env s.monitored with
      hsame | ⟨reaping, appId, id, todo, exited, htick, hnext⟩
    · rw [hsame]
      exact h.follow (.idle env s.monitored.fleet (.workerExits 0))
        (fun tick htick => ⟨tick, htick, rfl, List.Subset.refl _⟩)
    · rw [hnext]
      refine h.follow (fleetStep_effect env s.monitored.fleet
        (.take (if reaping then .reap else .health) appId id)) ?_
      rintro tick ⟨⟩
      exact ⟨_, htick, rfl, subset_cons_self _ _⟩
  | tickReap =>
    rw [trafficStep]
    rcases tickReap_cases env s.monitored with hsame | ⟨exited, htick, hreap⟩
    · rwa [hsame]
    · rw [hreap]
      rcases h.watched _ htick with ⟨seen, hseen, -⟩
      refine ⟨h.fleet, h.made, ?_, ?_⟩
      · rintro tick ⟨⟩ entry hentry
        exact (closed_of_reapCandidate h.fleet hentry).1
      · rintro tick ⟨⟩
        exact ⟨seen, hseen, fun entry hentry => (closed_of_reapCandidate h.fleet hentry).2⟩
  | tickEnd =>
    rw [trafficStep]
    rcases tickEnd_cases env s.monitored with hsame | ⟨exited, -, heq⟩
    · simp only [hsame]
      by_cases hend : s.monitored.tick.isSome = true ∧ s.monitored.tick.isNone = true
      · rw [Option.isNone_iff_eq_none] at hend
        rw [hend.2] at hend
        cases hend.1
      · rwa [if_neg hend]
    · simp only [heq]
      exact ⟨h.fleet, h.made, nofun, nofun⟩

theorem mem_take_of_ne (env : SpawnEnv) {s : Fleet} (hinv : FleetInv s) {inst : Tracked}
    (hinst : inst ∈ s.instances) {killer : Killer} (hne : inst.id ≠ id) :
    inst ∈ (fleetStep env s (.take killer appId id)).instances := by
  grind [fleetStep, Fleet.mem_of_findPooled, hinv.mem_moveTo]

/-- A supervisor before its first tick. -/
def Traffic.init (start finish : Nat) (restored : List AppId) : Traffic :=
  ⟨.init start finish restored, 0, [], [], [], none⟩

theorem idleInv_init (start finish : Nat) (restored : List AppId) :
    IdleInv (.init start finish restored) where
  fleet := fleetInv_init start finish restored
  made := nofun
  known := nofun
  watched := nofun

/-- In a run whose ticks meet no busy instance that is too old, a ready instance that
    had been selected within its timeout when the tick began, and answered it, is left
    alone by each step of that tick. -/
theorem busy_not_reaped {env : SpawnEnv} {timeout : AppId → Nat} {start finish : Nat}
    {restored : List AppId} {run : List TrafficAction} {s : Traffic}
    (hrun : Along (trafficStep env timeout) (Young timeout) (.init start finish restored) run)
    (hs : s = runAll (trafficStep env timeout) (.init start finish restored) run)
    {watch : Watch} (hwatch : s.watch = some watch) {inst : Tracked} (hinst : inst ∈ s.instances)
    (hready : inst.phase = .pooled .ready) (hbusy : inst.id ∈ watch.busy)
    (hanswered : inst.id ∈ watch.answered) :
    inst ∈ (trafficStep env timeout s .tickNext).instances := by
  have hinv : IdleInv s :=
    hs ▸ invariant_along idleInv_step hrun (idleInv_init start finish restored)
  rcases tickNext_cases env s.monitored with
    hsame | ⟨reaping, appId, id, todo, exited, htick, hnext⟩
  · rw [trafficStep, hsame]
    exact hinst
  · have hother : inst.id ≠ id := by
      rintro rfl
      rcases hinv.watched _ htick with ⟨seen, hseen, htodo⟩
      have hentry := htodo _ mem_cons_self
      rw [hwatch, Option.some.injEq] at hseen
      subst hseen
      cases reaping with
      | false => exact hentry ⟨hbusy, hanswered⟩
      | true =>
        have hclosed := hentry inst hinst rfl
        rw [hready] at hclosed
        rcases hclosed with hc | hc <;> cases hc
    rw [trafficStep, hnext]
    exact mem_take_of_ne env hinv.fleet hinst hother

/-- A request is sent to an instance some time after its spawn, and right then a tick begins. -/
def busyTick (ms : Nat) : List TrafficAction :=
  (spawnSteps 0).map .fleet ++ [.pass ms, .request portApp, .tickBegin, .tickRead [0]]

/-- The timeout is one second, and the instance is half a second old. -/
theorem busy_not_reaped_busyTick :
    let s := runAll (trafficStep (oneApp "default") (fun _ => 1)) (.init 9000 9001 [])
      (busyTick 500)
    ∃ inst ∈ s.instances, inst.phase = .pooled .ready ∧
      inst ∈ (trafficStep (oneApp "default") (fun _ => 1) s .tickNext).instances := by
  intro s
  have hinst : s.instances = [⟨0, portApp, portApp, 9000, .wasiCli, .pooled .ready⟩] := by
    decide +kernel
  have hwatch : (s.watch.map (fun watch => (watch.busy, watch.answered))) = some ([0], [0]) := by
    decide +kernel
  rcases Option.map_eq_some_iff.mp hwatch with ⟨watch, hwatch, hseen⟩
  rw [Prod.mk.injEq] at hseen
  have hmem := hinst ▸ mem_singleton_self (Tracked.mk 0 portApp portApp 9000 .wasiCli
    (.pooled .ready))
  refine ⟨_, hmem, rfl, busy_not_reaped (by decide +kernel) rfl hwatch hmem rfl ?_ ?_⟩
  · rw [hseen.1]
    exact mem_singleton_self 0
  · rw [hseen.2]
    exact mem_singleton_self 0

/-- An instance of five seconds is killed by the tick, though it was just used and answers. -/
theorem busy_reaped :
    let s := runAll (trafficStep (oneApp "default") (fun _ => 1)) (.init 9000 9001 [])
      (busyTick 5000)
    s.selected = [⟨0, portApp, 5000⟩] ∧ s.now = 5000 ∧
      s.watch.map (fun watch => (watch.busy, watch.answered)) = some ([0], [0]) ∧
      s.instances.map Tracked.phase = [.pooled .ready] ∧
      (trafficStep (oneApp "default") (fun _ => 1) s .tickNext).instances.map Tracked.phase =
        [.shutdown .health .taken] := by
  decide +kernel

end WasmCloud
