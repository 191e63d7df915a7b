import Mathlib.Algebra.BigOperators.Group.Finset.Basic
import Mathlib.Algebra.GroupWithZero.Nat
import Mathlib.Algebra.Order.BigOperators.Group.Finset
import WasmCloud.Supervisor.Demand

/-!
# The Memory Budget of a Node

A spawn checks that the memory its application may use in all, its limit times its number of
instances, is within the node's budget. The check is made for each application alone, and so is
what it is good for.
-/

namespace WasmCloud

/-- The memory limit of an application's instances in bytes. -/
def memoryOf (env : SpawnEnv) (appId : AppId) : Nat :=
  (env.config appId).elim 0 PoolConfig.memoryBytes

/-- The memory an application declares: its limit for each instance it may have. -/
def declaredPool (env : SpawnEnv) (appId : AppId) : Nat :=
  (env.config appId).elim 0 (fun config => config.memoryBytes * config.maxInstances)

def liveMemory (env : SpawnEnv) (s : Fleet) : Nat :=
  (s.running.map (fun worker => memoryOf env worker.2)).sum

/-- The memory the workers of one application may use. -/
def appMemory (env : SpawnEnv) (s : Fleet) (appId : AppId) : Nat :=
  ((s.running.filter (fun worker => worker.2 = appId)).map
    (fun worker => memoryOf env worker.2)).sum

/-- The applications that have a worker, or an instance that a call has. -/
def Fleet.busy (s : Fleet) : Finset AppId :=
  (s.running.map Prod.snd ++ s.instances.map Tracked.appId).toFinset

variable {appId : AppId} {s : Fleet} {env : SpawnEnv}

theorem Fleet.mem_busy : appId ∈ s.busy ↔ (∃ worker ∈ s.running, worker.2 = appId) ∨
      ∃ inst ∈ s.instances, inst.appId = appId := by
  simp [Fleet.busy]

/-- A busy application was busy before, or passed the checks of an allocation. -/
theorem busy_step {a : FleetAction} (hinv : FleetInv s) (hbusy : appId ∈ (fleetStep env s a).busy) :
    appId ∈ s.busy ∨ ∃ available checked, a = .allocate appId available ∧
      prepareSpawn env available appId = .ok checked := by
  have heffect := fleetStep_effect env s a
  generalize fleetStep env s a = t at heffect hbusy
  rcases Fleet.mem_busy.mp hbusy with ⟨worker, hworker, rfl⟩ | ⟨inst, hinst, rfl⟩
  · -- A worker is started for an instance that is there.
    left
    have hold : worker ∈ s.running → worker.2 ∈ s.busy :=
      fun h => Fleet.mem_busy.mpr (.inl ⟨worker, h, rfl⟩)
    cases heffect with
    | keeps running hrunning => exact hold (hrunning.subset hworker)
    | launches inst hinst hphase point hpoint =>
      rcases List.mem_cons.mp hworker with rfl | hworker
      · exact Fleet.mem_busy.mpr (.inr ⟨inst, hinst, rfl⟩)
      · exact hold hworker
    | allocates | moves | inserts | bills | gives | loses | forgets => exact hold hworker
  · rcases heffect.origin hinv hinst with ⟨-, -, available, ha, hok⟩ | ⟨old, hold, heq, -⟩
    · exact .inr ⟨available, _, ha, hok⟩
    · rw [heq]
      exact .inl (Fleet.mem_busy.mpr (.inr ⟨old, hold, rfl⟩))

theorem declaredPool_le {available : List AppId} {checked : AppId × ComponentExecutionModel}
    (h : prepareSpawn env available appId = .ok checked) : declaredPool env appId ≤ env.budget := by
  grind [declaredPool, checkResourceLimits, prepareSpawn_ok]

/-- Every busy application has passed the check. -/
structure AdmittedInv (env : SpawnEnv) (s : Fleet) : Prop where
  fleet : FleetInv s
  admitted : ∀ appId ∈ s.busy, declaredPool env appId ≤ env.budget

theorem admittedInv_step (s : Fleet) (a : FleetAction) (hinv : AdmittedInv env s) :
    AdmittedInv env (fleetStep env s a) := by
  refine ⟨fleetInv_step env s a hinv.fleet, fun appId hbusy => ?_⟩
  rcases busy_step hinv.fleet hbusy with hold | ⟨available, checked, -, hok⟩
  · exact hinv.admitted appId hold
  · exact declaredPool_le hok

theorem appMemory_eq (env : SpawnEnv) (s : Fleet) (appId : AppId) :
    appMemory env s appId = s.workers appId * memoryOf env appId := by
  have hown : ∀ worker ∈ s.running.filter (fun worker => worker.2 = appId),
      memoryOf env worker.2 = memoryOf env appId := by
    intro worker hworker
    rw [of_decide_eq_true (List.mem_filter.mp hworker).2]
  rw [appMemory, List.map_congr_left hown, List.map_const', List.sum_replicate_nat,
    Fleet.workers, List.countP_eq_length_filter]

theorem workers_mul_memoryOf_le
    (hcap : ∀ config, env.config appId = some config → s.workers appId ≤ config.maxInstances) :
    s.workers appId * memoryOf env appId ≤ declaredPool env appId := by
  rcases hconfig : env.config appId with _ | config
  · simp [memoryOf, declaredPool, hconfig]
  · simp only [memoryOf, declaredPool, hconfig, Option.elim_some]
    rw [Nat.mul_comm]
    exact Nat.mul_le_mul_left _ (hcap config hconfig)

/-- In every run, the memory of an application's workers is within the budget in every
    state in which it has no more of them than it may have. -/
theorem app_budget_holds {env : SpawnEnv} {start finish : Nat} {restored : List AppId}
    {run : List FleetAction} {s : Fleet} {appId : AppId}
    (hs : s = runAll (fleetStep env) (.init start finish restored) run)
    (hcap : ∀ config, env.config appId = some config → s.workers appId ≤ config.maxInstances) :
    appMemory env s appId ≤ env.budget := by
  have hinit : AdmittedInv env (.init start finish restored) :=
    ⟨fleetInv_init start finish restored, fun _ h => absurd h (Finset.notMem_empty _)⟩
  have hinv := invariant_run admittedInv_step run hinit
  rw [← hs] at hinv
  rw [appMemory_eq]
  by_cases hbusy : appId ∈ s.busy
  · exact (workers_mul_memoryOf_le hcap).trans (hinv.admitted appId hbusy)
  · -- An application that is not busy has no workers.
    have hnone : s.workers appId = 0 := by
      rw [Fleet.workers, List.countP_eq_zero]
      intro worker hworker heq
      exact hbusy (Fleet.mem_busy.mpr (.inl ⟨worker, hworker, of_decide_eq_true heq⟩))
    rw [hnone, Nat.zero_mul]
    exact Nat.zero_le _

def twoApps (budget : Nat) : SpawnEnv where
  budget := budget
  config := fun appId =>
    if appId = portApp ∨ appId = ⟨"default/web:v1"⟩ then
      some ⟨⟨appId, "default", []⟩, 1000000, 8192, 1⟩
    else none
  prepare := fun _ => some .wasiCli

def oneOfEach : List FleetAction :=
  spawnSteps 0 ++ .allocate ⟨"default/web:v1"⟩ [] :: List.replicate 8 (.proceed 1 true)

theorem app_budget_holds_oneOfEach :
    let s := runAll (fleetStep (twoApps (2 ^ 29))) (.init 9000 9001 []) oneOfEach
    s.workers portApp = 1 ∧ appMemory (twoApps (2 ^ 29)) s portApp ≤ 2 ^ 29 := by
  have hone : (runAll (fleetStep (twoApps (2 ^ 29))) (.init 9000 9001 []) oneOfEach).workers
      portApp = 1 := by decide +kernel
  refine ⟨hone, app_budget_holds rfl ?_⟩
  intro config hconfig
  have hmax : config.maxInstances = 1 := by
    simp only [twoApps] at hconfig
    split_ifs at hconfig
    exact (Option.some.inj hconfig) ▸ rfl
  rw [hone, hmax]

/-- On a node with room for one of them, both pass the check, and both run. -/
theorem budget_exceeded :
    let s := runAll (fleetStep (twoApps (2 ^ 29))) (.init 9000 9001 []) oneOfEach
    s.instances.map (fun inst => (inst.appId.text, inst.phase)) =
        [("default/web:v1", .pooled .ready), ("default/api:v1", .pooled .ready)] ∧
      s.workers portApp = 1 ∧ s.workers ⟨"default/web:v1"⟩ = 1 ∧
      liveMemory (twoApps (2 ^ 29)) s = 2 ^ 30 := by
  decide +kernel

end WasmCloud
