import WasmCloud.Supervisor.Fleet

/-!
# What a New Instance Runs

Deployments and configuration updates write to the store. A spawn takes the configuration and the
module of its application from the pool, if there is one, and neither handler touches pools. So a
new instance runs what the store held when the pool was made.

The steps are whole operations, with every way in which a handler can be cut short between two
transactions. The table of configurations has all their fields, which a type parameter stands
for. `Refreshable` asks that what is written to the store is not in a pool, unless the pool holds
the same.
-/

namespace WasmCloud

open List

/-- A configuration: what the supervisor reads, and the other fields. -/
structure FullConfig (R : Type) extends PoolConfig where
  rest : R
  deriving DecidableEq

/-- The store, with whole configurations. -/
structure NodeStore (R : Type) where
  tables : Store
  configs : KeyedTable (FullConfig R)
  agrees : ∀ key, (tables.configs.get? key).map Prod.snd =
    (configs.get? key).map (fun entry => entry.2.toAppConfig)

/-- Of the four transactions that deploy, the last two may be missing. -/
def Plan.savesConfig (p : Plan) (committed : Nat) : Bool :=
  p.completes && decide (p.writes.length ≤ committed + 2)

theorem cached_tables {cached : List (Store → Store)}
    (hcached : ∀ w ∈ cached, ∃ sha256 bytes, w = fun t => Store.saveRawWasm t sha256 bytes)
    (s : Store) (k : Nat) :
    (commitAll (cached.take k) s).configs = s.configs ∧
      (commitAll (cached.take k) s).artifacts = s.artifacts := by
  refine commitAll_induct (fun t => t.configs = s.configs ∧ t.artifacts = s.artifacts)
    (fun w hw t ht => ?_) ⟨rfl, rfl⟩
  rcases hcached w (mem_of_mem_take hw) with ⟨sha256, bytes, rfl⟩
  exact ht

theorem deployWrites_tables (d : DeployRequest) (sha256 : String) (artifact : List UInt8)
    (s : Store) (k : Nat) :
    let t := commitAll ((deployWrites d sha256 artifact).take k) s
    t.configs = (if 2 ≤ k then s.configs.insert (d.config.id.text, d.config) else s.configs) ∧
      (t.artifacts = s.artifacts ∨ t.artifacts = s.artifacts.insert (d.appId.text, artifact)) := by
  match k with
  | 0 => exact ⟨rfl, .inl rfl⟩
  | 1 => exact ⟨rfl, .inr rfl⟩
  | 2 => exact ⟨rfl, .inr rfl⟩
  | 3 => exact ⟨rfl, .inr rfl⟩
  | k + 4 =>
    have hall : (deployWrites d sha256 artifact).take (k + 4) = deployWrites d sha256 artifact :=
      take_of_length_le (by simp [deployWrites])
    rw [hall, if_pos (by omega : 2 ≤ k + 4)]
    exact ⟨rfl, .inr rfl⟩

theorem deploy_tables (nodeId : String) (s : Store) (d : DeployRequest) (committed : Nat) :
    let p := deployPlan nodeId s d
    let t := commitAll (p.writes.take committed) s
    t.configs = (if p.savesConfig committed then s.configs.insert (d.config.id.text, d.config)
        else s.configs) ∧
      (t.artifacts = s.artifacts ∨
        ∃ artifact, t.artifacts = s.artifacts.insert (d.appId.text, artifact)) := by
  rcases deployPlan_cases nodeId s d with ⟨cached, -, hcached, hplan | ⟨sha256, artifact, hplan⟩⟩
  · rw [hplan]
    exact ⟨(cached_tables hcached s committed).1, .inl (cached_tables hcached s committed).2⟩
  · have hsaves : (Plan.mk (cached ++ deployWrites d sha256 artifact) true).savesConfig committed =
        decide (2 ≤ committed - cached.length) := by
      rw [Plan.savesConfig, Bool.true_and, decide_eq_decide]
      simp only [length_append, deployWrites, length_cons, length_nil]
      omega
    rcases cached_tables hcached s committed with ⟨hconfigs, hartifacts⟩
    grind [take_append, commitAll_append, deployWrites_tables]

namespace NodeStore

variable {R : Type}

def loadConfig (n : NodeStore R) (appId : AppId) : Option (FullConfig R) :=
  (n.configs.get? appId.text).map Prod.snd

def loadArtifact (n : NodeStore R) (appId : AppId) : Option (List UInt8) :=
  (n.tables.artifacts.get? appId.text).map Prod.snd

theorem agrees_insert (n : NodeStore R) (config : FullConfig R) (key : String) :
    ((n.tables.configs.insert (config.id.text, config.toAppConfig)).get? key).map Prod.snd =
      ((n.configs.insert (config.id.text, config)).get? key).map
        (fun entry => entry.2.toAppConfig) := by
  rw [OrdTable.get?_insert, OrdTable.get?_insert]
  by_cases hkey : key = config.id.text
  · rw [if_pos hkey, if_pos hkey]
    rfl
  · rw [if_neg hkey, if_neg hkey]
    exact n.agrees key

def saveConfig (n : NodeStore R) (config : FullConfig R) : NodeStore R where
  tables := n.tables.saveConfig config.toAppConfig
  configs := n.configs.insert (config.id.text, config)
  agrees := n.agrees_insert config

/-- The transactions of a deployment that got through. -/
def deploy (n : NodeStore R) (nodeId : String) (d : DeployRequest) (config : FullConfig R)
    (hconfig : d.config = config.toAppConfig) (committed : Nat) : NodeStore R where
  tables := commitAll ((deployPlan nodeId n.tables d).writes.take committed) n.tables
  configs :=
    if (deployPlan nodeId n.tables d).savesConfig committed then
      n.configs.insert (config.id.text, config)
    else n.configs
  agrees := by
    intro key
    rw [(deploy_tables nodeId n.tables d committed).1, hconfig]
    split
    · exact n.agrees_insert config key
    · exact n.agrees key

theorem remove_configs (n : NodeStore R) (appId : AppId) (now : Nat) :
    (commitAll (removePlan n.tables appId now true).writes n.tables).configs = n.tables.configs ∧
      (commitAll (removePlan n.tables appId now true).writes n.tables).artifacts =
        n.tables.artifacts := by
  refine commitAll_induct (fun t => t.configs = n.tables.configs ∧ t.artifacts = n.tables.artifacts)
    (fun w hw t ht => ?_) ⟨rfl, rfl⟩
  rcases mem_append.mp hw with hroute | hmark
  · rcases mem_map.mp hroute with ⟨route, -, rfl⟩
    exact ht
  · rw [mem_singleton.mp hmark]
    exact ht

def remove (n : NodeStore R) (appId : AppId) (now : Nat) : NodeStore R where
  tables := commitAll (removePlan n.tables appId now true).writes n.tables
  configs := n.configs
  agrees := by
    rw [(n.remove_configs appId now).1]
    exact n.agrees

end NodeStore

/-- The node's name and budget, and how an artifact is prepared. -/
structure RolloutEnv (R P : Type) where
  nodeId : String
  budget : Nat
  prepare : List UInt8 → FullConfig R → Option P

/-- What a pool keeps for the instances to come. -/
structure WarmPool (R P : Type) where
  config : FullConfig R
  prepared : P

structure Launched (R P : Type) where
  id : Nat
  appId : AppId
  config : FullConfig R
  prepared : P

/-- The node: its store, its pools and its instances. -/
structure Rollout (R P : Type) where
  store : NodeStore R
  pools : KeyedTable (WarmPool R P)
  instances : List (Launched R P)
  nextId : Nat

/-- `committed` is how many transactions got through, `saved` whether the only one did,
    `succeeds` the outcome of a spawn from the allocation of its port on. -/
inductive RolloutAction (R : Type) where
  | deploy (d : DeployRequest) (config : FullConfig R) (committed : Nat)
  | configUpdate (config : FullConfig R) (saved : Bool)
  | spawn (appId : AppId) (succeeds : Bool)
  | kill (appId : AppId) (id : Nat)
  | remove (appId : AppId) (now : Nat)
  | restart

section Operations

variable {R P : Type} (env : RolloutEnv R P)

/-- The checks that `handle_deploy` and `handle_config_update` start with. -/
def accepts (n : NodeStore R) (config : FullConfig R) : Bool :=
  (checkResourceLimits env.budget config.toPoolConfig).toOption.isSome &&
    (validateLocalPlacement env.nodeId n.tables config.toAppConfig).toOption.isSome

/-- A deploy event for a configuration, with what the supervisor answers to it. -/
def redeployRequest (d : DeployRequest) (config : FullConfig R) : DeployRequest :=
  { d with
    config := config.toAppConfig
    withinLimits := (checkResourceLimits env.budget config.toPoolConfig).toOption.isSome }

/-- What a spawn is going to run: from the pool, or from the store. -/
def spawnSource (s : Rollout R P) (appId : AppId) : Option (FullConfig R × P) :=
  match s.pools.get? appId.text with
  | some (_, pool) => some (pool.config, pool.prepared)
  | none => do
    let config ← s.store.loadConfig appId
    let artifact ← s.store.loadArtifact appId
    let prepared ← env.prepare artifact config
    return (config, prepared)

/-- The checks of a spawn on what it is going to run. -/
def spawnable (s : Rollout R P) (appId : AppId) (config : FullConfig R) : Bool :=
  (checkResourceLimits env.budget config.toPoolConfig).toOption.isSome &&
    config.localDependencies.all s.store.tables.dependencyAvailable &&
    (qualifiedId config.toPoolConfig appId).isSome

/-- `spawn`. The pool is made if there is none, from what the spawn has read. -/
def rolloutSpawn (s : Rollout R P) (appId : AppId) (succeeds : Bool) : Rollout R P :=
  if s.store.tables.isUndeployed appId.text then s
  else match spawnSource env s appId with
    | none => s
    | some (config, prepared) =>
      if spawnable env s appId config && succeeds then
        { s with
          pools := match s.pools.get? appId.text with
            | some _ => s.pools
            | none => s.pools.insert (appId.text, ⟨config, prepared⟩)
          instances := ⟨s.nextId, appId, config, prepared⟩ :: s.instances
          nextId := s.nextId + 1 }
      else s

/-- `restore_from_storage` returns at the first error, and passes over a missing artifact. -/
def restore (n : NodeStore R) (pools : KeyedTable (WarmPool R P)) :
    List AppId → KeyedTable (WarmPool R P)
  | [] => pools
  | appId :: rest =>
    match n.loadConfig appId with
    | none => pools
    | some config =>
      if (checkResourceLimits env.budget config.toPoolConfig).toOption.isSome then
        match n.loadArtifact appId with
        | none => restore n pools rest
        | some artifact =>
          match env.prepare artifact config with
          | none => pools
          | some prepared =>
            restore n (pools.insert (appId.text, ⟨config, prepared⟩)) rest
      else pools

def Rollout.start (n : NodeStore R) (nextId : Nat) : Rollout R P :=
  ⟨n, restore env n OrdTable.empty n.tables.listDeployedApps, [], nextId⟩

/-- Killed instances leave their pool behind; a removal takes the pool along. -/
def rolloutStep (s : Rollout R P) : RolloutAction R → Rollout R P
  | .deploy d config committed =>
    { s with store :=
        s.store.deploy env.nodeId (redeployRequest env d config) config rfl committed }
  | .configUpdate config saved =>
    if accepts env s.store config && saved then { s with store := s.store.saveConfig config }
    else s
  | .spawn appId succeeds => rolloutSpawn env s appId succeeds
  | .kill appId id =>
    { s with instances :=
        s.instances.filter (fun inst => ¬ (inst.appId = appId ∧ inst.id = id)) }
  | .remove appId now =>
    { s with
      store := s.store.remove appId now
      pools := s.pools.remove appId.text
      instances := s.instances.filter (fun inst => inst.appId ≠ appId) }
  | .restart => Rollout.start env s.store s.nextId

end Operations

section Fresh

variable {R P : Type} {env : RolloutEnv R P}

/-- A configuration and a module are those of an application in the store. -/
def UpToDate (env : RolloutEnv R P) (n : NodeStore R) (appId : AppId) (config : FullConfig R)
    (prepared : P) : Prop :=
  n.loadConfig appId = some config ∧
    ∃ artifact, n.loadArtifact appId = some artifact ∧ env.prepare artifact config = some prepared

/-- Every pool holds what is in the store. -/
def Fresh (env : RolloutEnv R P) (s : Rollout R P) : Prop :=
  ∀ appId pool, s.pools.get? appId.text = some (appId.text, pool) →
    UpToDate env s.store appId pool.config pool.prepared

/-- A deployment that passes the checks finds no pool of its application, and a written
    configuration none with another one. -/
def Refreshable (env : RolloutEnv R P) (s : Rollout R P) : RolloutAction R → Prop
  | .deploy d config _ => accepts env s.store config = true →
      (s.pools.get? d.appId.text).isNone = true ∧
        ∀ entry ∈ s.pools.get? config.id.text, entry.2.config = config
  | .configUpdate config _ => accepts env s.store config = true →
      ∀ entry ∈ s.pools.get? config.id.text, entry.2.config = config
  | .spawn _ _ | .kill _ _ | .remove _ _ | .restart => True

instance [DecidableEq R] (env : RolloutEnv R P) (s : Rollout R P) :
    (a : RolloutAction R) → Decidable (Refreshable env s a)
  | .deploy d config _ => inferInstanceAs (Decidable (accepts env s.store config = true →
      (s.pools.get? d.appId.text).isNone = true ∧
        ∀ entry ∈ s.pools.get? config.id.text, entry.2.config = config))
  | .configUpdate config _ => inferInstanceAs (Decidable (accepts env s.store config = true →
      ∀ entry ∈ s.pools.get? config.id.text, entry.2.config = config))
  | .spawn _ _ | .kill _ _ | .remove _ _ | .restart => instDecidableTrue

theorem AppId.ext_text {a b : AppId} (h : a.text = b.text) : a = b :=
  congrArg AppId.mk h

variable {n : NodeStore R} {config : FullConfig R} {appId : AppId} {s : Rollout R P}
  {d : DeployRequest}

theorem UpToDate.saveConfig {m : NodeStore R} {written : FullConfig R} {prepared : P}
    (h : UpToDate env n appId config prepared)
    (hconfigs : m.configs = n.configs.insert (written.id.text, written))
    (hartifact : m.loadArtifact appId = n.loadArtifact appId)
    (hsame : appId.text = written.id.text → config = written) :
    UpToDate env m appId config prepared := by
  refine ⟨?_, hartifact ▸ h.2⟩
  rw [NodeStore.loadConfig, hconfigs, OrdTable.get?_insert]
  by_cases hkey : appId.text = written.id.text
  · rw [if_pos hkey, hsame hkey]
    rfl
  · rw [if_neg hkey]
    exact h.1

theorem fresh_restore {pools : KeyedTable (WarmPool R P)} {apps : List AppId}
    (hpools : ∀ appId pool, pools.get? appId.text = some (appId.text, pool) →
      UpToDate env n appId pool.config pool.prepared) :
    ∀ appId pool, (restore env n pools apps).get? appId.text = some (appId.text, pool) →
      UpToDate env n appId pool.config pool.prepared := by
  induction apps generalizing pools with
  | nil => exact hpools
  | cons app rest ih =>
    rw [restore]
    rcases hconfig : n.loadConfig app with _ | config
    · exact hpools
    · dsimp only
      split
      · rcases hartifact : n.loadArtifact app with _ | artifact
        · exact ih hpools
        · dsimp only
          rcases hprepared : env.prepare artifact config with _ | prepared
          · exact hpools
          · refine ih (fun appId pool hpool => ?_)
            rw [OrdTable.get?_insert] at hpool
            by_cases hkey : appId.text = app.text
            · -- The pool just made is read from the store.
              rw [if_pos hkey, Option.some.injEq, Prod.mk.injEq] at hpool
              have happ : appId = app := AppId.ext_text hkey
              rw [← hpool.2, happ]
              exact ⟨hconfig, artifact, hartifact, hprepared⟩
            · rw [if_neg hkey] at hpool
              exact hpools appId pool hpool
      · exact hpools

theorem fresh_start (n : NodeStore R) (nextId : Nat) : Fresh env (Rollout.start env n nextId) :=
  fresh_restore (fun _ _ h => absurd h (by simp [OrdTable.get?, OrdTable.empty]))

theorem upToDate_spawnSource (hfresh : Fresh env s) {prepared : P}
    (h : spawnSource env s appId = some (config, prepared)) :
    UpToDate env s.store appId config prepared := by
  rw [spawnSource] at h
  split at h
  · next key pool hpool =>
      have hkey : key = appId.text := (OrdTable.get?_eq_some_iff.mp hpool).2
      rw [Option.some.injEq, Prod.mk.injEq] at h
      rw [← h.1, ← h.2]
      exact hfresh appId pool (hkey ▸ hpool)
  · rcases Option.bind_eq_some_iff.mp h with ⟨loaded, hconfig, h⟩
    rcases Option.bind_eq_some_iff.mp h with ⟨artifact, hartifact, h⟩
    rcases Option.bind_eq_some_iff.mp h with ⟨ready, hready, h⟩
    rcases Prod.mk.injEq .. ▸ Option.some.inj h with ⟨rfl, rfl⟩
    exact ⟨hconfig, artifact, hartifact, hready⟩

theorem deployPlan_of_not_accepts (h : ¬ accepts env n config = true) :
    deployPlan env.nodeId n.tables (redeployRequest env d config) = ⟨[], false⟩ :=
  if_neg h

theorem loadArtifact_deploy {nodeId : String} (hconfig : d.config = config.toAppConfig)
    {committed : Nat} (hne : appId.text ≠ d.appId.text) :
    (n.deploy nodeId d config hconfig committed).loadArtifact appId = n.loadArtifact appId := by
  have htables := (deploy_tables nodeId n.tables d committed).2
  unfold NodeStore.loadArtifact NodeStore.deploy
  rcases htables with hsame | ⟨artifact, hinsert⟩
  · rw [hsame]
  · rw [hinsert, OrdTable.get?_insert, if_neg hne]

theorem fresh_deploy (hfresh : Fresh env s) {committed : Nat}
    (hsafe : Refreshable env s (.deploy d config committed)) :
    Fresh env (rolloutStep env s (.deploy d config committed)) := by
  intro appId pool hpool
  have hpool : s.pools.get? appId.text = some (appId.text, pool) := hpool
  have hold := hfresh appId pool hpool
  by_cases haccepts : accepts env s.store config = true
  · rcases hsafe haccepts with ⟨hnone, hconfig⟩
    have hne : appId.text ≠ (redeployRequest env d config).appId.text := by
      intro heq
      have heq : appId.text = d.appId.text := heq
      rw [heq, Option.isNone_iff_eq_none.mp hnone] at hpool
      nomatch hpool
    by_cases hsaves : (deployPlan env.nodeId s.store.tables
        (redeployRequest env d config)).savesConfig committed = true
    · exact hold.saveConfig (if_pos hsaves) (loadArtifact_deploy rfl hne)
        (fun heq => hconfig _ (heq ▸ hpool))
    · have hconfigs : (rolloutStep env s (.deploy d config committed)).store.configs =
          s.store.configs := if_neg hsaves
      have hartifact : (rolloutStep env s (.deploy d config committed)).store.loadArtifact appId =
          s.store.loadArtifact appId := loadArtifact_deploy rfl hne
      refine ⟨?_, hartifact ▸ hold.2⟩
      rw [NodeStore.loadConfig, hconfigs]
      exact hold.1
  · have hplan := deployPlan_of_not_accepts (d := d) haccepts
    have hstore : (rolloutStep env s (.deploy d config committed)).store = s.store := by
      simp only [rolloutStep, NodeStore.deploy, hplan, take_nil, Plan.savesConfig,
        Bool.false_and, Bool.false_eq_true, if_false]
      rfl
    rw [hstore]
    exact hold

theorem rolloutSpawn_cases (env : RolloutEnv R P) (s : Rollout R P) (appId : AppId)
    (succeeds : Bool) :
    rolloutSpawn env s appId succeeds = s ∨
      ∃ config prepared, spawnSource env s appId = some (config, prepared) ∧
        rolloutSpawn env s appId succeeds = { s with
            pools := match s.pools.get? appId.text with
              | some _ => s.pools
              | none => s.pools.insert (appId.text, ⟨config, prepared⟩)
            instances := ⟨s.nextId, appId, config, prepared⟩ :: s.instances
            nextId := s.nextId + 1 } := by
  unfold rolloutSpawn
  split_ifs
  · exact .inl rfl
  · rcases hsource : spawnSource env s appId with _ | ⟨config, prepared⟩
    · exact .inl rfl
    · dsimp only
      split_ifs
      · exact .inr ⟨config, prepared, rfl, rfl⟩
      · exact .inl rfl

theorem fresh_spawn (hfresh : Fresh env s) (appId : AppId) (succeeds : Bool) :
    Fresh env (rolloutSpawn env s appId succeeds) := by
  rcases rolloutSpawn_cases env s appId succeeds with
    hsame | ⟨config, prepared, hsource, hspawned⟩
  · rw [hsame]
    exact hfresh
  · intro app pool hpool
    rw [hspawned] at hpool ⊢
    dsimp only at hpool
    split at hpool
    · exact hfresh app pool hpool
    · rw [OrdTable.get?_insert] at hpool
      by_cases hkey : app.text = appId.text
      · rw [if_pos hkey, Option.some.injEq, Prod.mk.injEq] at hpool
        have happ : app = appId := AppId.ext_text hkey
        rw [← hpool.2, happ]
        exact upToDate_spawnSource hfresh hsource
      · rw [if_neg hkey] at hpool
        exact hfresh app pool hpool

theorem fresh_step (s : Rollout R P) (a : RolloutAction R) (hsafe : Refreshable env s a)
    (hfresh : Fresh env s) : Fresh env (rolloutStep env s a) := by
  cases a with
  | deploy d config committed => exact fresh_deploy hfresh hsafe
  | configUpdate config saved =>
    rw [rolloutStep]
    split
    · next hsaved =>
        intro appId pool hpool
        exact (hfresh appId pool hpool).saveConfig rfl rfl
          (fun heq => hsafe (Bool.and_eq_true_iff.mp hsaved).1 _ (heq ▸ hpool))
    · exact hfresh
  | spawn appId succeeds => exact fresh_spawn hfresh appId succeeds
  | kill appId id => exact hfresh
  | remove app now =>
    intro appId pool hpool
    rw [rolloutStep, OrdTable.get?_remove] at hpool
    split at hpool
    · nomatch hpool
    · have hold := hfresh appId pool hpool
      refine ⟨hold.1, ?_⟩
      rw [NodeStore.loadArtifact, rolloutStep, NodeStore.remove, (s.store.remove_configs app now).2]
      exact hold.2
  | restart => exact fresh_start s.store s.nextId

/-- In a run of operations that change nothing a pool holds, a spawn that makes an
    instance makes it from the configuration and the artifact in the store. -/
theorem new_instances_up_to_date {n : NodeStore R} {run : List (RolloutAction R)} {s : Rollout R P}
    (hrun : Along (rolloutStep env) (Refreshable env) (Rollout.start env n 0) run)
    (hs : s = runAll (rolloutStep env) (Rollout.start env n 0) run)
    {appId : AppId} {succeeds : Bool} {inst : Launched R P}
    (hinst : inst ∈ (rolloutStep env s (.spawn appId succeeds)).instances)
    (hnew : inst ∉ s.instances) :
    inst.appId = appId ∧ UpToDate env s.store appId inst.config inst.prepared := by
  have hfresh : Fresh env s := hs ▸ invariant_along fresh_step hrun (fresh_start n 0)
  rcases rolloutSpawn_cases env s appId succeeds with
    hsame | ⟨config, prepared, hsource, hspawned⟩
  · rw [rolloutStep, hsame] at hinst
    exact absurd hinst hnew
  · rw [rolloutStep, hspawned] at hinst
    rcases mem_cons.mp hinst with rfl | hold
    · exact ⟨rfl, upToDate_spawnSource hfresh hsource⟩
    · exact absurd hold hnew

end Fresh

/-- A configuration that is told apart by one number. -/
def revision (rest : Nat) : FullConfig Nat :=
  ⟨⟨⟨portApp, "default", []⟩, 1000000, 256, 1⟩, rest⟩

def deployNumbered (rest : Nat) (byte : UInt8) : RolloutAction Nat :=
  .deploy ⟨portApp, (revision rest).toAppConfig, some (toString byte.toNat), true, true,
    some [byte], some⟩ (revision rest) 5

def revisionEnv : RolloutEnv Nat (List UInt8 × Nat) :=
  ⟨"n1", 2 ^ 30, fun artifact config => some (artifact, config.rest)⟩

def bareNode : NodeStore Nat := ⟨emptyStore, OrdTable.empty, fun _ => rfl⟩

def redeployedRun : List (RolloutAction Nat) :=
  [deployNumbered 1 1, .spawn portApp true, .remove portApp 0, deployNumbered 2 2]

theorem new_instances_up_to_date_redeployedRun :
    let s := runAll (rolloutStep revisionEnv) (Rollout.start revisionEnv bareNode 0) redeployedRun
    (rolloutStep revisionEnv s (.spawn portApp true)).instances.length = 1 ∧
      ∀ inst ∈ (rolloutStep revisionEnv s (.spawn portApp true)).instances,
        UpToDate revisionEnv s.store portApp inst.config inst.prepared := by
  have hnone : (runAll (rolloutStep revisionEnv) (Rollout.start revisionEnv bareNode 0)
      redeployedRun).instances = [] := length_eq_zero_iff.mp (by decide +kernel)
  refine ⟨by decide +kernel, fun inst hinst => ?_⟩
  exact (new_instances_up_to_date (by decide +kernel) rfl hinst (hnone ▸ not_mem_nil)).2

/-- A new version is deployed and a configuration saved, and the next instance still runs the old
    ones. -/
theorem new_instance_outdated :
    let s := runAll (rolloutStep revisionEnv) (Rollout.start revisionEnv bareNode 0)
      [deployNumbered 1 1, .spawn portApp true, .kill portApp 0, deployNumbered 2 2,
        .configUpdate (revision 3) true]
    (s.store.loadConfig portApp).map FullConfig.rest = some 3 ∧
      s.store.loadArtifact portApp = some [2] ∧
      (rolloutStep revisionEnv s (.spawn portApp true)).instances.map
        (fun inst => (inst.id, inst.config.rest, inst.prepared)) = [(1, 1, ([1], 1))] := by
  decide +kernel

end WasmCloud
