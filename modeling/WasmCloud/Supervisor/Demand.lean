import WasmCloud.Supervisor.Fleet

/-!
# Who Asks for Instances

Gateways ask for an instance when an application has none that is ready, and for one more when
those that are ready are fewer than the configuration allows. Either call looks at the pool
first and then spawns, and neither look is repeated or sees spawns that are under way or
instances that are stopping. `HasRoom` asks a call to spawn only if the workers of the
application and the spawns without one are fewer than the configuration allows.
-/

namespace WasmCloud

open List

inductive CallKind where
  | ensureInstance
  | maybeScaleUp
  | spawn
  deriving DecidableEq, Repr

/-- `calls` are spawns that have passed the check of the marker and wait for the pools. -/
structure Demand where
  fleet : Fleet
  calls : List AppId
  undeployed : List AppId

/-- A call decides, a spawn allocates a port, or something else happens to the fleet. -/
inductive DemandAction where
  | call (kind : CallKind) (appId : AppId)
  | enter (appId : AppId) (available : List AppId)
  | fleet (a : FleetAction)
  deriving DecidableEq

/-- The call goes on to spawn an instance, and the application is not marked. -/
def goesOn (env : SpawnEnv) (s : Demand) (kind : CallKind) (appId : AppId) : Bool :=
  (match kind with
    -- No address of the pool is ready, or there is no pool.
    | .ensureInstance => s.fleet.activeCount appId = 0
    -- Without a pool nothing is scaled.
    | .maybeScaleUp =>
      appId ∈ s.fleet.pools ∧
        (env.config appId).any (fun config => s.fleet.activeCount appId < config.maxInstances)
    | .spawn => true) && decide (appId ∉ s.undeployed)

/-- One step of a call. A spawn's port is allocated by the call that spawns. -/
def demandStep (env : SpawnEnv) (s : Demand) : DemandAction → Demand
  | .call kind appId => if goesOn env s kind appId then { s with calls := appId :: s.calls } else s
  | .enter appId available =>
    if appId ∈ s.calls then
      { s with
        calls := s.calls.erase appId
        fleet := fleetStep env s.fleet (.allocate appId available) }
    else s
  -- Ports are allocated by calls only.
  | .fleet (.allocate _ _) => s
  | .fleet a => { s with fleet := fleetStep env s.fleet a }

theorem demandStep_fleet (env : SpawnEnv) (s : Demand) (a : DemandAction) :
    (demandStep env s a).fleet = s.fleet ∨
      ∃ b, (demandStep env s a).fleet = fleetStep env s.fleet b ∧
        (a = .fleet b ∧ (∀ appId available, b ≠ .allocate appId available) ∨
          ∃ appId available, b = .allocate appId available ∧ appId ∈ s.calls) := by
  cases a with
  | call kind appId =>
    rw [demandStep]
    split <;> exact .inl rfl
  | enter appId available =>
    grind [demandStep]
  | fleet b =>
    cases b with
    | allocate appId available => exact .inl rfl
    | _ => exact .inr ⟨_, rfl, .inl ⟨rfl, fun _ _ => nofun⟩⟩

variable {env : SpawnEnv}

theorem mem_calls_demandStep {s : Demand} {a : DemandAction} {appId : AppId}
    (h : appId ∈ (demandStep env s a).calls) : appId ∈ s.calls ∨ appId ∉ s.undeployed := by
  cases a with
  | call kind app =>
    rw [demandStep] at h
    by_cases hgoes : goesOn env s kind app = true
    · rw [if_pos hgoes] at h
      rcases mem_cons.mp h with rfl | h
      · exact .inr (of_decide_eq_true (Bool.and_eq_true_iff.mp hgoes).2)
      · exact .inl h
    · rw [if_neg hgoes] at h
      exact .inl h
  | enter app available =>
    rw [demandStep] at h
    split at h
    · exact .inl (mem_of_mem_erase h)
    · exact .inl h
  | fleet b => cases b <;> exact .inl h

@[simp] theorem undeployed_demandStep (env : SpawnEnv) (s : Demand) (a : DemandAction) :
    (demandStep env s a).undeployed = s.undeployed := by
  cases a with
  | call kind appId | enter appId available => rw [demandStep]; split <;> rfl
  | fleet b => cases b <;> rfl

/-- The workers of an application that have not exited. -/
def Fleet.workers (s : Fleet) (appId : AppId) : Nat :=
  s.running.countP (fun worker => worker.2 = appId)

/-- An instance that has a port and no worker yet. -/
def Tracked.unlaunched (appId : AppId) (inst : Tracked) : Bool :=
  inst.appId = appId ∧ inst.phase = .spawning .allocated

/-- The workers of an application, and its spawns that have a port and no worker yet. -/
def Fleet.committed (s : Fleet) (appId : AppId) : Nat :=
  s.workers appId + s.instances.countP (Tracked.unlaunched appId)

/-- So far, and with the calls on their way. -/
def Demand.committed (s : Demand) (appId : AppId) : Nat :=
  s.fleet.committed appId + s.calls.count appId

/-- A call goes on to spawn an instance only if there is room for it. -/
def HasRoom (env : SpawnEnv) (s : Demand) : DemandAction → Prop
  | .call kind appId =>
    goesOn env s kind appId = true →
      (env.config appId).all (fun config => s.committed appId < config.maxInstances) = true
  | .enter _ _ | .fleet _ => True

instance (env : SpawnEnv) (s : Demand) : ∀ a, Decidable (HasRoom env s a)
  | .call _ _ => inferInstanceAs (Decidable (_ → _))
  | .enter _ _ | .fleet _ => instDecidableTrue

theorem countP_moveTo_le (s : Fleet) (appId : AppId) (id : Nat) {phase : Phase}
    (hstage : phase.stage ≠ .unlaunched) :
    (s.moveTo id phase).instances.countP (Tracked.unlaunched appId) ≤
      s.instances.countP (Tracked.unlaunched appId) := by
  refine Roster.countP_update_le _ (fun inst => ?_) id s.instances
  have hphase : phase ≠ .spawning .allocated := by
    intro h
    exact hstage (by rw [h]; rfl)
  simp [Tracked.unlaunched, hphase]

theorem committed_launch {s : Fleet} {inst : Tracked} (hinst : inst ∈ s.instances)
    (hphase : inst.phase = .spawning .allocated) {point : SpawnPoint}
    (hpoint : point = .started ∨ point = .polling) (appId : AppId) :
    Fleet.committed
      { s.moveTo inst.id (.spawning point) with running := (inst.id, inst.appId) :: s.running }
      appId ≤ s.committed appId := by
  have hstage : (Phase.spawning point).stage ≠ .unlaunched := by
    rcases hpoint with rfl | rfl <;> exact Stage.noConfusion
  have hle := countP_moveTo_le s appId inst.id hstage
  rw [Fleet.committed, Fleet.workers, Fleet.committed, Fleet.workers, countP_cons]
  by_cases happ : inst.appId = appId
  · -- The worker takes the place of the instance without one.
    have hlt : (s.moveTo inst.id (.spawning point)).instances.countP (Tracked.unlaunched appId) <
        s.instances.countP (Tracked.unlaunched appId) := by
      refine Roster.countP_update_lt (fun x => ?_) hinst ?_
      · rcases hpoint with rfl | rfl <;> simp [Tracked.unlaunched]
      · simp [Tracked.unlaunched, happ, hphase]
    simp only [happ, decide_true, if_true]
    omega
  · simp only [happ, decide_false, Bool.false_eq_true, if_false]
    omega

theorem committed_step {s t : Fleet} {a : FleetAction} (heffect : FleetEffect env s a t)
    (appId : AppId) :
    t.committed appId ≤ s.committed appId ∨ (∃ available, a = .allocate appId available) ∧
        t.committed appId ≤ s.committed appId + 1 := by
  cases heffect with
  | keeps running hrunning => exact .inl (Nat.add_le_add_right hrunning.countP_le _)
  | allocates inst available free ha hprepare hallocate hid hphase =>
    -- The new instance counts for its own application and for no other.
    grind [Fleet.committed, Fleet.workers, Tracked.unlaunched]
  | launches inst hinst hphase point hpoint =>
    -- This is the only step that adds a worker.
    exact .inl (committed_launch hinst hphase hpoint appId)
  | moves inst hinst phase hmove =>
    exact .inl (Nat.add_le_add_left (countP_moveTo_le s appId inst.id hmove.stage.1) _)
  | inserts inst hinst hphase | bills inst hinst killer hphase =>
    exact .inl (Nat.add_le_add_left (countP_moveTo_le s appId inst.id Stage.noConfusion) _)
  | gives inst hinst hends | loses inst hinst hlost =>
    exact .inl (Nat.add_le_add_left (Roster.drop_sublist _ _).countP_le _)
  | forgets app ha hactive =>
    exact .inl (Nat.add_le_add_left filter_sublist.countP_le _)

/-- Workers, spawns and calls on their way are within the configuration. -/
def Capped (env : SpawnEnv) (s : Demand) : Prop :=
  ∀ appId config, env.config appId = some config → s.committed appId ≤ config.maxInstances

theorem capped_step (s : Demand) (a : DemandAction) (hroom : HasRoom env s a)
    (hcap : Capped env s) : Capped env (demandStep env s a) := by
  intro appId config hconfig
  have hle := hcap appId config hconfig
  cases a with
  | call kind app =>
    rw [demandStep]
    by_cases hgoes : goesOn env s kind app = true
    · rw [if_pos hgoes]
      by_cases happ : app = appId
      · -- The call takes the room that it was asked to have.
        subst happ
        have hless := hroom hgoes
        rw [hconfig] at hless
        have hless := of_decide_eq_true hless
        simp only [Demand.committed, count_cons_self] at hless ⊢
        omega
      · simp only [Demand.committed, count_cons_of_ne happ]
        exact hle
    · rw [if_neg hgoes]
      exact hle
  | enter app available =>
    rw [demandStep]
    by_cases hcall : app ∈ s.calls
    · rw [if_pos hcall]
      simp only [Demand.committed] at hle ⊢
      have heffect := fleetStep_effect env s.fleet (.allocate app available)
      rcases committed_step heffect appId with hsame | ⟨⟨_, ha⟩, hmore⟩
      · have hfewer := (erase_sublist (l := s.calls) (a := app)).count_le appId
        omega
      · -- The call that gets a port is not on its way any more.
        cases ha
        have hcalls := count_pos_iff.mpr hcall
        rw [count_erase_self]
        omega
    · rw [if_neg hcall]
      exact hle
  | fleet a =>
    -- Kills, exits and the further steps of a spawn commit to nothing.
    have hfleet : ∀ b, (∀ available, b ≠ .allocate appId available) →
        Demand.committed { s with fleet := fleetStep env s.fleet b } appId ≤
          config.maxInstances := by
      intro b hb
      rcases committed_step (fleetStep_effect env s.fleet b) appId with hsame | ⟨⟨_, ha⟩, -⟩
      · exact le_trans (Nat.add_le_add_right hsame _) hle
      · exact absurd ha (hb _)
    cases a with
    | allocate app available => exact hle
    | proceed id succeeds | take killer app id | forgetApp app | workerExits id =>
      exact hfleet _ (fun _ => nofun)

/-- A supervisor before the first call. -/
def Demand.init (start finish : Nat) (restored undeployed : List AppId) : Demand :=
  ⟨.init start finish restored, [], undeployed⟩

/-- In a run in which a call goes on to spawn only if there is room, an application
    never has more workers than its configuration allows. -/
theorem cap_holds {env : SpawnEnv} {start finish : Nat} {restored undeployed : List AppId}
    {run : List DemandAction} {s : Demand}
    (hrun : Along (demandStep env) (HasRoom env) (.init start finish restored undeployed) run)
    (hs : s = runAll (demandStep env) (.init start finish restored undeployed) run)
    (appId : AppId) (config : PoolConfig) (hconfig : env.config appId = some config) :
    s.fleet.workers appId ≤ config.maxInstances := by
  have hinit : Capped env (.init start finish restored undeployed) :=
    fun _ config _ => Nat.zero_le config.maxInstances
  have hcap := invariant_along capped_step hrun hinit appId config hconfig
  subst hs
  simp only [Demand.committed, Fleet.committed] at hcap
  omega

/-- A cold start of the only application, up to the pool. -/
def coldStart (id : Nat) : List DemandAction :=
  [.call .ensureInstance portApp, .enter portApp []] ++
    (List.replicate 8 (FleetAction.proceed id true)).map .fleet

/-- An instance is killed, its worker exits, and there is another cold start. -/
def restartedRun : List DemandAction :=
  coldStart 0 ++ [.call .maybeScaleUp portApp, .fleet (.workerExits 0)] ++
    (signalSteps .request 0).map .fleet ++ coldStart 1

theorem cap_holds_restartedRun :
    let s := runAll (demandStep (oneApp "default")) (.init 9000 9001 [] []) restartedRun
    s.fleet.running = [(1, portApp)] ∧ s.fleet.workers portApp ≤ 1 :=
  ⟨by decide +kernel, @cap_holds (oneApp "default") 9000 9001 [] [] restartedRun _
    (by decide +kernel) rfl portApp _ rfl⟩

/-- Two cold starts at once, one while an instance taken from the pool still runs, and one while
    it is back: two workers run where one is allowed. -/
theorem cap_exceeded :
    let launch : Nat → List DemandAction := fun id =>
      [.call .ensureInstance portApp, .enter portApp [], .fleet (.proceed id true)]
    let run := runAll (demandStep (oneApp "default")) (.init 9000 9001 [] [])
    let together := run [.call .ensureInstance portApp, .call .ensureInstance portApp,
      .enter portApp [], .enter portApp [], .fleet (.proceed 0 true), .fleet (.proceed 1 true)]
    let stopping := run (coldStart 0 ++ [.fleet (.take .request portApp 0)] ++ launch 1)
    let fenced := run (coldStart 0 ++ (signalSteps .request 0).map .fleet ++
      [.fleet (.proceed 0 true), .fleet (.proceed 0 true)] ++
      [.call .maybeScaleUp portApp, .enter portApp [], .fleet (.proceed 1 true)])
    ((oneApp "default").config portApp).map PoolConfig.maxInstances = some 1 ∧
      together.fleet.workers portApp = 2 ∧ stopping.fleet.workers portApp = 2 ∧
      fenced.fleet.workers portApp = 2 := by
  decide +kernel

end WasmCloud
