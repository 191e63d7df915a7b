import WasmCloud.Supervisor.Fleet

/-!
# Restoring the Pools

When a node starts, the supervisor goes through the deployed applications and makes a pool for
each that has an artifact. Anything that is wrong with one of them, apart from a missing
artifact, ends the loop. The pools made until then stay. Applications come in the order of
their keys, so it is the names that decide which of them are restored.

## Main definitions

* `restoreFromStorage`: The pools that are made, and how the loop ends.
* `Restorable`: An application with all that a pool takes.
* `PassesRestore`: An application that does not end the loop.

## Theorems

* `restoreLoop_iff`: What it takes for an application of the list to get its pool.
* `restored_iff`: The same of all that can be restored.
-/

namespace WasmCloud

/-- `M` are the modules the runtime prepares. The store has what deployment reads of a
    configuration, and `decodeConfig` the rest of its text, or why it cannot be read. -/
structure RestoreEnv (M : Type) where
  nodeMemoryBudget : Nat
  store : Store
  decodeConfig : AppConfig → Except String PoolConfig
  prepare : List UInt8 → PoolConfig → Except String M

/-- `InstancePool`, without instances. -/
structure RestoredPool (M : Type) where
  config : PoolConfig
  prepared : M
  deriving DecidableEq

variable {M : Type}

section

variable (env : RestoreEnv M)

def loadConfig (appId : AppId) : Except String (Option PoolConfig) :=
  match env.store.configs.get? appId.text with
  | some entry => (env.decodeConfig entry.2).map some
  | none => .ok none

/-- `load_config`, where there has to be one. -/
def requireConfig (appId : AppId) : Except String PoolConfig := do
  (← loadConfig env appId).elim (throw ("app not found: " ++ appId.text)) pure

def loadArtifact (appId : AppId) : Option (List UInt8) :=
  (env.store.artifacts.get? appId.text).map Prod.snd

def getPrepared (appId : AppId) : Except String M := do
  let config ← requireConfig env appId
  let artifact ← (loadArtifact env appId).elim
    (throw ("app not found: no artifact: " ++ appId.text)) pure
  env.prepare artifact config

/-- The body of the loop: the pool of an application, if it has an artifact. -/
def restoreApp (appId : AppId) : Except String (Option (RestoredPool M)) := do
  let config ← requireConfig env appId
  checkResourceLimits env.nodeMemoryBudget config
  if (loadArtifact env appId).isSome then
    return some ⟨config, ← getPrepared env appId⟩
  else return none

/-- The loop, with the pools made so far. -/
def restoreLoop : List AppId → (AppId → Option (RestoredPool M)) →
    (AppId → Option (RestoredPool M)) × Except String Unit
  | [], pools => (pools, .ok ())
  | appId :: appIds, pools =>
    match restoreApp env appId with
    | .error e => (pools, .error e)
    | .ok none => restoreLoop appIds pools
    | .ok (some pool) => restoreLoop appIds (Function.update pools appId (some pool))

/-- `restore_from_storage`, on a supervisor without pools. -/
def restoreFromStorage : (AppId → Option (RestoredPool M)) × Except String Unit :=
  restoreLoop env env.store.listDeployedApps (fun _ => none)

/-- A configuration that can be read and is within the limits. -/
def Admissible (appId : AppId) (config : PoolConfig) : Prop :=
  loadConfig env appId = .ok (some config) ∧
    checkResourceLimits env.nodeMemoryBudget config = .ok ()

/-- Such a configuration, and an artifact that can be prepared. -/
def Restorable (appId : AppId) (pool : RestoredPool M) : Prop :=
  Admissible env appId pool.config ∧ ∃ artifact, loadArtifact env appId = some artifact ∧
    env.prepare artifact pool.config = .ok pool.prepared

/-- It can be restored, or nothing is wrong with it but a missing artifact. -/
def PassesRestore (appId : AppId) : Prop :=
  (∃ pool, Restorable env appId pool) ∨
    (∃ config, Admissible env appId config) ∧ loadArtifact env appId = none

end

variable {env : RestoreEnv M} {appId : AppId} {pool : RestoredPool M}

theorem requireConfig_ok_iff {config : PoolConfig} :
    requireConfig env appId = .ok config ↔ loadConfig env appId = .ok (some config) := by
  simp [requireConfig, bind_ok_iff, elim_throw_ok_iff]

theorem getPrepared_ok_iff {prepared : M} : getPrepared env appId = .ok prepared ↔
    ∃ config, loadConfig env appId = .ok (some config) ∧ ∃ artifact,
      loadArtifact env appId = some artifact ∧ env.prepare artifact config = .ok prepared := by
  simp [getPrepared, bind_ok_iff, elim_throw_ok_iff, requireConfig_ok_iff]

theorem restoreApp_some_iff :
    restoreApp env appId = .ok (some pool) ↔ Restorable env appId pool := by
  simp only [restoreApp, bind_ok_iff, requireConfig_ok_iff, Restorable, Admissible]
  constructor
  · rintro ⟨config, hconfig, ⟨⟩, hlimits, hpool⟩
    split_ifs at hpool
    · simp only [bind_ok_iff, getPrepared_ok_iff, pure_ok_iff, Option.some_inj] at hpool
      obtain ⟨prepared, ⟨again, hagain, artifact, hload, hprepare⟩, rfl⟩ := hpool
      rw [hconfig, Except.ok.injEq, Option.some_inj] at hagain
      exact ⟨⟨hconfig, hlimits⟩, artifact, hload, hagain ▸ hprepare⟩
    · cases hpool
  · rintro ⟨⟨hconfig, hlimits⟩, artifact, hload, hprepare⟩
    refine ⟨pool.config, hconfig, (), hlimits, ?_⟩
    rw [if_pos (by rw [hload, Option.isSome_some])]
    simp only [bind_ok_iff, getPrepared_ok_iff, pure_ok_iff]
    exact ⟨pool.prepared, ⟨pool.config, hconfig, artifact, hload, hprepare⟩, rfl⟩

theorem restoreApp_none_iff : restoreApp env appId = .ok none ↔
    (∃ config, Admissible env appId config) ∧ loadArtifact env appId = none := by
  simp only [restoreApp, bind_ok_iff, requireConfig_ok_iff, Admissible]
  constructor
  · rintro ⟨config, hconfig, ⟨⟩, hlimits, hnone⟩
    split_ifs at hnone with hartifact
    · simp only [bind_ok_iff, pure_ok_iff, reduceCtorEq, and_false, exists_false] at hnone
    · exact ⟨⟨config, hconfig, hlimits⟩, Option.not_isSome_iff_eq_none.mp hartifact⟩
  · rintro ⟨⟨config, hconfig, hlimits⟩, hartifact⟩
    exact ⟨config, hconfig, (), hlimits, by rw [hartifact]; rfl⟩

theorem restoreApp_ok_iff :
    (∃ result, restoreApp env appId = .ok result) ↔ PassesRestore env appId := by
  rw [PassesRestore, ← restoreApp_none_iff]
  constructor
  · rintro ⟨_ | pool, hresult⟩
    · exact .inr hresult
    · exact .inl ⟨pool, restoreApp_some_iff.mp hresult⟩
  · rintro (⟨pool, hpool⟩ | hnone)
    · exact ⟨some pool, restoreApp_some_iff.mpr hpool⟩
    · exact ⟨none, hnone⟩

variable {pools : AppId → Option (RestoredPool M)}

theorem restoreLoop_keeps (hpool : Restorable env appId pool) (hmade : pools appId = some pool)
    (appIds : List AppId) : (restoreLoop env appIds pools).1 appId = some pool := by
  induction appIds generalizing pools with
  | nil => exact hmade
  | cons a appIds ih =>
    rw [restoreLoop]
    split
    · exact hmade
    · exact ih hmade
    · rename_i other hother
      grind [restoreApp_some_iff]

theorem restoreLoop_iff (hpool : Restorable env appId pool) (hnew : pools appId = none)
    {appIds : List AppId} (hlisted : appId ∈ appIds) :
    (restoreLoop env appIds pools).1 appId = some pool ↔
      ∀ a ∈ appIds.takeWhile (fun a => a ≠ appId), PassesRestore env a := by
  induction appIds generalizing pools with
  | nil => nomatch hlisted
  | cons a appIds ih =>
    rw [restoreLoop]
    by_cases ha : a = appId
    · subst ha
      rw [restoreApp_some_iff.mpr hpool]
      refine iff_of_true (restoreLoop_keeps hpool (Function.update_self ..) appIds) ?_
      simp
    · have hrest := (List.mem_cons.mp hlisted).resolve_left (Ne.symm ha)
      rw [List.takeWhile_cons_of_pos (by simpa using ha), List.forall_mem_cons]
      cases happ : restoreApp env a with
      | error e =>
        refine iff_of_false (by simp [hnew]) fun h => ?_
        obtain ⟨result, hresult⟩ := restoreApp_ok_iff.mpr h.1
        rw [happ] at hresult
        cases hresult
      | ok result =>
        rw [and_iff_right (restoreApp_ok_iff.mp ⟨result, happ⟩)]
        cases result with
        | none => exact ih hnew hrest
        | some other => exact ih (by rw [Function.update_of_ne (Ne.symm ha), hnew]) hrest

/-- Every deployed application that can have a pool gets it exactly if all that are listed
    before one pass. -/
theorem restored_iff (env : RestoreEnv M) :
    (∀ appId ∈ env.store.listDeployedApps, ∀ pool, Restorable env appId pool →
      (restoreFromStorage env).1 appId = some pool) ↔
    ∀ appId ∈ env.store.listDeployedApps, (∃ pool, Restorable env appId pool) →
      ∀ a ∈ env.store.listDeployedApps.takeWhile (fun a => a ≠ appId), PassesRestore env a := by
  rw [restoreFromStorage]
  constructor
  · rintro h appId hlisted ⟨pool, hpool⟩
    exact (restoreLoop_iff hpool rfl hlisted).mp (h appId hlisted pool hpool)
  · intro h appId hlisted pool hpool
    exact (restoreLoop_iff hpool rfl hlisted).mpr (h appId hlisted ⟨pool, hpool⟩)

/-- `api` is within the limits, the other application asks for more fuel than a node allows. -/
def twoStored (other : AppId) : RestoreEnv Unit where
  nodeMemoryBudget := 2 ^ 30
  store := [⟨"api:v1"⟩, other].foldl (fun s id =>
    (s.storeArtifact id [1]).saveConfig ⟨id, "default", []⟩) emptyStore
  decodeConfig config :=
    .ok ⟨config, if config.id = ⟨"api:v1"⟩ then 1000 else 20000000000, 16, 1⟩
  prepare _ _ := .ok ()

def apiPool : RestoredPool Unit := ⟨⟨⟨⟨"api:v1"⟩, "default", []⟩, 1000, 16, 1⟩, ()⟩

/-- Behind `a-batch`, `api` gets no pool. It has one before `batch`. -/
theorem restore_blocked :
    Restorable (twoStored ⟨"a-batch:v1"⟩) ⟨"api:v1"⟩ apiPool ∧
    (restoreFromStorage (twoStored ⟨"a-batch:v1"⟩)).1 ⟨"api:v1"⟩ = none ∧
    (restoreFromStorage (twoStored ⟨"a-batch:v1"⟩)).2 =
      .error "fuel_quota exceeds maximum allowed (10B units)" ∧
    (restoreFromStorage (twoStored ⟨"batch:v1"⟩)).1 ⟨"api:v1"⟩ = some apiPool := by
  refine ⟨⟨?_, [1], ?_⟩, ?_⟩
  · exact ⟨by decide +kernel, by decide +kernel⟩
  · decide +kernel
  · decide +kernel

end WasmCloud
