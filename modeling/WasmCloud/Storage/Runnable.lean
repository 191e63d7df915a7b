import WasmCloud.Lib.Checks
import WasmCloud.Storage.Lifecycle

/-!
# Deployed Applications Can Run

A deployment stores the artifact before the configuration, and before it stores anything it
looks whether the local dependencies are deployed and have their artifacts. A change of the
configuration makes the same check. The check is made once, by design: a dependency is there
unless it was removed or collected since, and `missed` keeps track of that.

Artifacts disappear together with configurations. An event may bring the configuration of
another application, or a configuration alone, and a collection may fail halfway: `unbacked` are
the applications that have a configuration and no artifact for one of these reasons.
-/

namespace WasmCloud

open Function List

/-- `handle_config_update`. -/
def configUpdatePlan (nodeId : String) (s : Store) (config : AppConfig) (withinLimits : Bool) :
    Plan :=
  if withinLimits && (validateLocalPlacement nodeId s config).toOption.isSome then
    ⟨[fun t => t.saveConfig config], true⟩
  else ⟨[], false⟩

/-- With what the surroundings answer. `committed` is how many transactions got through. -/
inductive HandlerEvent where
  | deploy (d : DeployRequest) (committed : Nat)
  | configUpdate (appId : AppId) (config : AppConfig) (withinLimits : Bool) (committed : Nat)
  | remove (appId : AppId) (now : Nat) (forgotten : Bool) (committed : Nat)
  | gc (now graceSecs : Nat) (committed : Nat)

/-- The store, the configurations without an artifact, and for each identifier what was removed
    or collected since its configuration was stored. -/
structure RunnableState where
  store : Store
  unbacked : String → Bool
  missed : String → String → Bool

/-- All but the last `left` transactions of a plan got through. -/
def Plan.reached (p : Plan) (committed left : Nat) : Bool :=
  p.completes && decide (p.writes.length ≤ committed + left)

namespace RunnableState

def withConfig (st : RunnableState) (id : String) : RunnableState :=
  { st with
    unbacked := update st.unbacked id (st.store.artifacts.get? id).isNone
    missed := update st.missed id (fun _ => false) }

def withArtifact (st : RunnableState) (id : String) : RunnableState :=
  { st with unbacked := update st.unbacked id false }

/-- Applications have been removed or collected. -/
def without (st : RunnableState) (gone : String → Bool) : RunnableState :=
  { st with missed := fun id dependency => st.missed id dependency || gone dependency }

end RunnableState

/-- A collection takes what is stored under an identifier. -/
def collects (s : Store) (now graceSecs : Nat) (id : String) : Bool :=
  (s.expiredApps now graceSecs).any (fun name => Text.startsWith id (name ++ ":"))

def runnableStep (nodeId : String) (st : RunnableState) : HandlerEvent → RunnableState
  | .deploy d committed =>
    let p := deployPlan nodeId st.store d
    let st := { st with store := commitAll (p.writes.take committed) st.store }
    -- The artifact, the configuration, the hash and the marker, in this order.
    let st := if p.reached committed 3 then st.withArtifact d.appId.text else st
    if p.reached committed 2 then st.withConfig d.config.id.text else st
  | .configUpdate _ config withinLimits committed =>
    let p := configUpdatePlan nodeId st.store config withinLimits
    let st := { st with store := commitAll (p.writes.take committed) st.store }
    if p.reached committed 0 then st.withConfig config.id.text else st
  | .remove appId now forgotten committed =>
    let p := removePlan st.store appId now forgotten
    { st with store := commitAll (p.writes.take committed) st.store }.without
      (fun id => decide (id = appId.text))
  | .gc now graceSecs committed =>
    let p := gcPlan st.store now graceSecs
    let gone := collects st.store now graceSecs
    -- The artifacts go before the configurations, so one may be left without the other.
    { st with
      store := commitAll (p.writes.take committed) st.store
      unbacked := fun id => st.unbacked id || gone id && !p.completed committed }.without gone

def RunnableState.new : RunnableState := ⟨emptyStore, fun _ => false, fun _ _ => false⟩

variable {s : Store}

theorem available_iff {dependency : AppId} : s.dependencyAvailable dependency = true ↔
      dependency ∈ s.listDeployedApps ∧ ∃ bytes, (dependency.text, bytes) ∈ s.artifacts := by
  simp only [Store.dependencyAvailable, Bool.and_eq_true, Bool.not_eq_true', keyed_isSome_iff,
    Store.mem_listDeployedApps]
  tauto

/-- What was available before still is. -/
structure Grows (s t : Store) : Prop where
  artifacts : ∀ key, (∃ bytes, (key, bytes) ∈ s.artifacts) → ∃ bytes, (key, bytes) ∈ t.artifacts
  configs : ∀ key, (∃ config, (key, config) ∈ s.configs) → ∃ config, (key, config) ∈ t.configs
  marks : ∀ id, s.isUndeployed id = false → t.isUndeployed id = false

theorem grows_refl (s : Store) : Grows s s := ⟨fun _ h => h, fun _ h => h, fun _ h => h⟩

variable {t : Store}

theorem Grows.trans {u : Store} (h : Grows s t) (h' : Grows t u) : Grows s u :=
  ⟨fun key hk => h'.artifacts key (h.artifacts key hk),
    fun key hk => h'.configs key (h.configs key hk), fun id hid => h'.marks id (h.marks id hid)⟩

theorem Grows.available (h : Grows s t) {dependency : AppId}
    (hdep : s.dependencyAvailable dependency = true) : t.dependencyAvailable dependency = true := by
  rw [available_iff, Store.mem_listDeployedApps] at hdep ⊢
  exact ⟨⟨h.configs _ hdep.1.1, h.marks _ hdep.1.2⟩, h.artifacts _ hdep.2⟩

theorem grows_deployWrite {d : DeployRequest} {sha256 : String} {artifact : List UInt8}
    {w : Store → Store} (hw : w ∈ deployWrites d sha256 artifact) (s : Store) : Grows s (w s) := by
  simp only [deployWrites, mem_cons, not_mem_nil, or_false] at hw
  rcases hw with rfl | rfl | rfl | rfl
  · exact ⟨fun _ h => exists_mem_insert_iff.mpr (.inr h), fun _ h => h, fun _ h => h⟩
  · exact ⟨fun _ h => h, fun _ h => exists_mem_insert_iff.mpr (.inr h), fun _ h => h⟩
  · exact ⟨fun _ h => h, fun _ h => h, fun _ h => h⟩
  · refine ⟨fun _ h => h, fun _ h => h, fun id h => ?_⟩
    rw [isUndeployed_markDeployed, h, Bool.and_false]

theorem grows_commitAll {writes : List (Store → Store)} (h : ∀ w ∈ writes, ∀ s, Grows s (w s))
    (s : Store) : Grows s (commitAll writes s) :=
  commitAll_induct (fun t => Grows s t) (fun w hw t ht => ht.trans (h w hw t)) (grows_refl s)

theorem available_of_placement {nodeId : String} {config : AppConfig}
    (h : (validateLocalPlacement nodeId s config).toOption.isSome = true) :
    ∀ dependency ∈ config.localDependencies, s.dependencyAvailable dependency = true := by
  rw [validateLocalPlacement_isSome] at h
  exact all_eq_true.mp (Bool.and_eq_true_iff.mp h).2

/-- What stores a configuration leaves the others, and puts it in its place. -/
structure StoresConfig (s t : Store) (config : AppConfig) (stored : Bool) : Prop where
  grows : Grows s t
  entries : ∀ entry ∈ t.configs, stored = true ∧ entry = (config.id.text, config) ∨
    entry ∈ s.configs ∧ (stored = true → entry.1 ≠ config.id.text)

theorem deployWrites_effect (d : DeployRequest) (sha256 : String) (artifact : List UInt8) (k : Nat)
    (s : Store) :
    StoresConfig s (commitAll ((deployWrites d sha256 artifact).take k) s) d.config
        (decide (2 ≤ k)) ∧
      (1 ≤ k → ∃ bytes, (d.appId.text, bytes) ∈
        (commitAll ((deployWrites d sha256 artifact).take k) s).artifacts) := by
  have hgrows : Grows s (commitAll ((deployWrites d sha256 artifact).take k) s) :=
    grows_commitAll (fun w hw t => grows_deployWrite (mem_of_mem_take hw) t) s
  have hentries {stored : Bool} (hstored : stored = true) :
      ∀ entry ∈ s.configs.insert (d.config.id.text, d.config),
        stored = true ∧ entry = (d.config.id.text, d.config) ∨
          entry ∈ s.configs ∧ (stored = true → entry.1 ≠ d.config.id.text) :=
    fun entry hentry => (OrdTable.mem_insert.mp hentry).imp (fun h => ⟨hstored, h⟩)
      (fun h => ⟨h.1, fun _ => h.2⟩)
  have hnew : ∃ bytes, (d.appId.text, bytes) ∈ s.artifacts.insert (d.appId.text, artifact) :=
    ⟨artifact, OrdTable.mem_insert.mpr (.inl rfl)⟩
  match k with
  | 0 =>
    exact ⟨⟨hgrows, fun entry hentry => .inr ⟨hentry, nofun⟩⟩, nofun⟩
  | 1 =>
    exact ⟨⟨hgrows, fun entry hentry => .inr ⟨hentry, nofun⟩⟩, fun _ => hnew⟩
  | 2 => exact ⟨⟨hgrows, hentries rfl⟩, fun _ => hnew⟩
  | 3 => exact ⟨⟨hgrows, hentries rfl⟩, fun _ => hnew⟩
  | k + 4 =>
    have hlong : decide (2 ≤ k + 4) = true := decide_eq_true (by omega)
    have hall : (deployWrites d sha256 artifact).take (k + 4) = deployWrites d sha256 artifact :=
      take_of_length_le (Nat.le_add_left 4 k)
    rw [hall] at hgrows ⊢
    exact ⟨⟨hgrows, hentries hlong⟩, fun _ => hnew⟩

theorem deploy_effect (nodeId : String) (s : Store) (d : DeployRequest) (committed : Nat) :
    let p := deployPlan nodeId s d
    StoresConfig s (commitAll (p.writes.take committed) s) d.config (p.reached committed 2) ∧
      (p.reached committed 3 = true → ∃ bytes, (d.appId.text, bytes) ∈
        (commitAll (p.writes.take committed) s).artifacts) ∧
      (p.completes = true → (validateLocalPlacement nodeId s d.config).toOption.isSome = true) := by
  intro p
  have hvalid : p.completes = true →
      (validateLocalPlacement nodeId s d.config).toOption.isSome = true := by
    intro hcompletes
    by_contra hinvalid
    have hnone : p = ⟨[], false⟩ := by
      change deployPlan nodeId s d = _
      unfold deployPlan
      rw [if_neg (fun h => hinvalid (Bool.and_eq_true_iff.mp h).2)]
    rw [hnone] at hcompletes
    exact Bool.false_ne_true hcompletes
  rcases deployPlan_cases nodeId s d with ⟨cached, -, hcached, hplan⟩
  have hcache : ∀ n, ∃ raw, commitAll (cached.take n) s = { s with rawWasm := raw } := by
    intro n
    refine commitAll_induct (fun t => ∃ raw, t = { s with rawWasm := raw }) ?_ ⟨s.rawWasm, rfl⟩
    rintro w hw t ⟨raw, rfl⟩
    rcases hcached w (mem_of_mem_take hw) with ⟨sha256, bytes, rfl⟩
    exact ⟨_, rfl⟩
  rcases hcache committed with ⟨raw, hraw⟩
  have hsame : Grows s { s with rawWasm := raw } := ⟨fun _ h => h, fun _ h => h, fun _ h => h⟩
  rcases hplan with hplan | ⟨sha256, artifact, hplan⟩
  · have hp : p = ⟨cached, false⟩ := hplan
    rw [hp, hraw]
    exact ⟨⟨hsame, fun entry hentry => .inr ⟨hentry, nofun⟩⟩, nofun, nofun⟩
  · have hp : p = ⟨cached ++ deployWrites d sha256 artifact, true⟩ := hplan
    rcases deployWrites_effect d sha256 artifact (committed - cached.length)
      { s with rawWasm := raw } with ⟨heffect, hart⟩
    have hlength : (cached ++ deployWrites d sha256 artifact).length = cached.length + 4 :=
      length_append
    have hreached : p.reached committed 2 = decide (2 ≤ committed - cached.length) := by
      rw [hp, Plan.reached, hlength, Bool.true_and]
      exact decide_eq_decide.mpr (by omega)
    refine ⟨?_, fun hthree => ?_, hvalid⟩
    · rw [hreached, hp, take_append, commitAll_append, hraw]
      exact ⟨hsame.trans heffect.grows, heffect.entries⟩
    · rw [hp, Plan.reached, hlength, Bool.true_and, decide_eq_true_eq] at hthree
      rw [hp, take_append, commitAll_append, hraw]
      exact hart (by omega)

theorem configUpdate_effect (nodeId : String) (s : Store) (config : AppConfig) (withinLimits : Bool)
    (committed : Nat) :
    let p := configUpdatePlan nodeId s config withinLimits
    StoresConfig s (commitAll (p.writes.take committed) s) config (p.reached committed 0) ∧
      (p.completes = true → (validateLocalPlacement nodeId s config).toOption.isSome = true) := by
  intro p
  have hnothing : StoresConfig s s config false :=
    ⟨grows_refl s, fun entry hentry => .inr ⟨hentry, nofun⟩⟩
  by_cases hok : (withinLimits && (validateLocalPlacement nodeId s config).toOption.isSome) = true
  · have hp : p = ⟨[fun t => t.saveConfig config], true⟩ := if_pos hok
    rw [hp]
    refine ⟨?_, fun _ => (Bool.and_eq_true_iff.mp hok).2⟩
    cases committed with
    | zero => exact hnothing
    | succ committed =>
      have hreached : Plan.reached ⟨[fun t => t.saveConfig config], true⟩ (committed + 1) 0 =
          true := by
        rw [Plan.reached, Bool.true_and]
        exact decide_eq_true (Nat.succ_le_succ (Nat.zero_le _))
      rw [hreached, take_succ_cons, take_nil]
      refine ⟨⟨fun _ h => h, fun _ h => exists_mem_insert_iff.mpr (.inr h), fun _ h => h⟩,
        fun entry hentry => ?_⟩
      exact (OrdTable.mem_insert.mp hentry).imp (fun h => ⟨rfl, h⟩) (fun h => ⟨h.1, fun _ => h.2⟩)
  · have hp : p = ⟨[], false⟩ := if_neg hok
    rw [hp, take_nil]
    exact ⟨hnothing, nofun⟩

structure CollectEffect (s t : Store) (gone : String → Bool) : Prop where
  entries : ∀ entry ∈ t.configs, entry ∈ s.configs
  configs : ∀ entry ∈ s.configs, gone entry.1 = false → entry ∈ t.configs
  artifacts : ∀ entry ∈ s.artifacts, gone entry.1 = false → entry ∈ t.artifacts
  marks : ∀ id, s.isUndeployed id = false → t.isUndeployed id = false

theorem purge_effect {u : Store} {app : String} {gone : String → Bool} {w : Store → Store}
    (hw : w ∈ s.purgeTables app)
    (hgone : ∀ id, gone id = false → Text.startsWith id (app ++ ":") = false)
    (h : CollectEffect t u gone) : CollectEffect t (w u) gone := by
  rcases purge_write_cases hw with rfl | rfl | rfl | rfl | ⟨host, rfl⟩ | rfl
  · exact ⟨h.entries, h.configs, fun entry hentry hkept =>
      mem_dropVersions.mpr ⟨h.artifacts entry hentry hkept, hgone _ hkept⟩, h.marks⟩
  · exact ⟨h.entries, h.configs, h.artifacts, h.marks⟩
  · exact ⟨fun entry hentry => h.entries entry (mem_dropVersions.mp hentry).1,
      fun entry hentry hkept =>
        mem_dropVersions.mpr ⟨h.configs entry hentry hkept, hgone _ hkept⟩, h.artifacts, h.marks⟩
  · exact ⟨h.entries, h.configs, h.artifacts, h.marks⟩
  · exact ⟨h.entries, h.configs, h.artifacts, h.marks⟩
  · refine ⟨h.entries, h.configs, h.artifacts, fun id hid => ?_⟩
    rw [isUndeployed_markDeployed, h.marks id hid, Bool.and_false]

theorem purge_drops_configs (s t : Store) (app : String) :
    ∀ entry ∈ (commitAll (s.purgeTables app) t).configs,
      Text.startsWith entry.1 (app ++ ":") = false := by
  rw [Store.purgeTables, commitAll_append]
  refine commitAll_induct
    (fun u => ∀ entry ∈ u.configs, Text.startsWith entry.1 (app ++ ":") = false)
    (fun w hw u hu => ?_) (fun entry hentry => (mem_dropVersions.mp hentry).2)
  -- Behind the tables only routes and the marker are left to go.
  rcases mem_append.mp hw with hw | hw
  · rcases mem_map.mp hw with ⟨route, -, rfl⟩
    exact hu
  · rw [mem_singleton.mp hw]
    exact hu

/-- A collection takes versions of expired names, and all configurations if it gets through. -/
theorem gc_effect (s : Store) (now graceSecs committed : Nat) :
    let p := gcPlan s now graceSecs
    CollectEffect s (commitAll (p.writes.take committed) s) (collects s now graceSecs) ∧
      (p.completed committed = true → ∀ entry ∈ (commitAll (p.writes.take committed) s).configs,
        collects s now graceSecs entry.1 = false) := by
  intro p
  have heffect : ∀ writes, (∀ w ∈ writes, w ∈ p.writes) → ∀ t,
      CollectEffect s t (collects s now graceSecs) →
      CollectEffect s (commitAll writes t) (collects s now graceSecs) := by
    intro writes hwrites t ht
    refine commitAll_induct (fun u => CollectEffect s u (collects s now graceSecs))
      (fun w hw u hu => ?_) ht
    rcases mem_flatMap.mp (hwrites w hw) with ⟨name, hname, hw⟩
    refine purge_effect hw (fun id hid => ?_) hu
    exact Bool.eq_false_iff.mpr (fun hext =>
      Bool.eq_false_iff.mp hid (any_eq_true.mpr ⟨name, hname, hext⟩))
  have hself : CollectEffect s s (collects s now graceSecs) :=
    ⟨fun _ h => h, fun _ h _ => h, fun _ h _ => h, fun _ h => h⟩
  refine ⟨heffect _ (fun w hw => mem_of_mem_take hw) s hself, fun hdone entry hentry => ?_⟩
  have hall := of_decide_eq_true (Bool.and_eq_true_iff.mp hdone).2
  rw [take_of_length_le hall] at hentry
  refine Bool.eq_false_iff.mpr (fun hgone => ?_)
  rcases any_eq_true.mp hgone with ⟨name, hname, hext⟩
  rcases append_of_mem hname with ⟨before, after, hsplit⟩
  -- Its purge drops the configuration, and the purges behind it bring nothing back.
  have hwrites : p.writes = before.flatMap s.purgeTables ++
      (s.purgeTables name ++ after.flatMap s.purgeTables) := by
    change (s.expiredApps now graceSecs).flatMap s.purgeTables = _
    rw [hsplit, flatMap_append, flatMap_cons]
  rw [hwrites, commitAll_append, commitAll_append] at hentry
  have hback := commitAll_induct
    (fun u => ∀ entry ∈ u.configs, Text.startsWith entry.1 (name ++ ":") = false)
    (fun w hw u hu => ?_)
    (purge_drops_configs s (commitAll (before.flatMap s.purgeTables) s) name) entry hentry
  · rw [hext] at hback
    nomatch hback
  · rcases mem_flatMap.mp hw with ⟨other, -, hw⟩
    rcases purge_write_cases hw with rfl | rfl | rfl | rfl | ⟨host, rfl⟩ | rfl
    case inr.inr.inl => exact fun entry hentry => hu entry (mem_dropVersions.mp hentry).1
    all_goals exact hu

structure Runnable (st : RunnableState) : Prop where
  backed : ∀ entry ∈ st.store.configs, st.unbacked entry.1 = false →
    ∃ bytes, (entry.1, bytes) ∈ st.store.artifacts
  available : ∀ entry ∈ st.store.configs, ∀ dependency ∈ entry.2.localDependencies,
    st.missed entry.1 dependency.text = false → st.store.dependencyAvailable dependency = true

variable {st : RunnableState}

theorem runnable_stored {st : RunnableState} {t : Store} {config : AppConfig} {stored : Bool}
    {unbacked : String → Bool} (h : Runnable st) (hstores : StoresConfig st.store t config stored)
    (hdeps : stored = true →
      ∀ dependency ∈ config.localDependencies, st.store.dependencyAvailable dependency = true)
    (hbacked : ∀ id, unbacked id = false →
      st.unbacked id = false ∨ ∃ bytes, (id, bytes) ∈ t.artifacts) :
    Runnable (if stored = true then
      RunnableState.withConfig ⟨t, unbacked, st.missed⟩ config.id.text
      else ⟨t, unbacked, st.missed⟩) := by
  have hold : ∀ entry ∈ st.store.configs,
      (unbacked entry.1 = false → ∃ bytes, (entry.1, bytes) ∈ t.artifacts) ∧
      ∀ dependency ∈ entry.2.localDependencies,
        st.missed entry.1 dependency.text = false → t.dependencyAvailable dependency = true := by
    refine fun entry hentry => ⟨fun hun => ?_, fun dependency hdep hmissed =>
      hstores.grows.available (h.available entry hentry dependency hdep hmissed)⟩
    rcases hbacked entry.1 hun with hun | hart
    · exact hstores.grows.artifacts _ (h.backed entry hentry hun)
    · exact hart
  cases stored with
  | false =>
    have hfrom : ∀ entry ∈ t.configs, entry ∈ st.store.configs := fun entry hentry =>
      (hstores.entries entry hentry).elim (fun hc => nomatch hc.1) And.left
    exact ⟨fun entry hentry => (hold entry (hfrom entry hentry)).1,
      fun entry hentry => (hold entry (hfrom entry hentry)).2⟩
  | true =>
    rw [if_pos rfl]
    refine ⟨fun entry hentry hun => ?_, fun entry hentry dependency hdep hmissed => ?_⟩
    · rcases hstores.entries entry hentry with ⟨-, rfl⟩ | ⟨hmem, hne⟩
      · -- The new one: whether it has an artifact is what `unbacked` says.
        simp only [RunnableState.withConfig, update_self] at hun
        exact keyed_isSome_iff.mp (Option.isNone_eq_false_iff.mp hun)
      · simp only [RunnableState.withConfig, update_of_ne (hne rfl)] at hun
        exact (hold entry hmem).1 hun
    · rcases hstores.entries entry hentry with ⟨-, rfl⟩ | ⟨hmem, hne⟩
      · exact hstores.grows.available (hdeps rfl dependency hdep)
      · simp only [RunnableState.withConfig, update_of_ne (hne rfl)] at hmissed
        exact (hold entry hmem).2 dependency hdep hmissed

theorem runnable_deploy {st : RunnableState} (h : Runnable st) (nodeId : String) (d : DeployRequest)
    (committed : Nat) : Runnable (runnableStep nodeId st (.deploy d committed)) := by
  rcases deploy_effect nodeId st.store d committed with ⟨hstores, hart, hvalid⟩
  have hdeps : (deployPlan nodeId st.store d).reached committed 2 = true →
      ∀ dependency ∈ d.config.localDependencies, st.store.dependencyAvailable dependency = true :=
    fun hreached => available_of_placement (hvalid (Bool.and_eq_true_iff.mp hreached).1)
  simp only [runnableStep]
  by_cases hthree : (deployPlan nodeId st.store d).reached committed 3 = true
  · rw [if_pos hthree]
    have hbacked : ∀ id, update st.unbacked d.appId.text false id = false →
        st.unbacked id = false ∨ ∃ bytes, (id, bytes) ∈ (commitAll
          ((deployPlan nodeId st.store d).writes.take committed) st.store).artifacts := by
      grind
    exact @runnable_stored st _ d.config _ _ h hstores hdeps hbacked
  · rw [if_neg hthree]
    exact @runnable_stored st _ d.config _ st.unbacked h hstores hdeps (fun id hid => .inl hid)

theorem runnable_configUpdate (h : Runnable st) (nodeId : String) (appId : AppId)
    (config : AppConfig) (withinLimits : Bool) (committed : Nat) :
    Runnable (runnableStep nodeId st (.configUpdate appId config withinLimits committed)) := by
  rcases configUpdate_effect nodeId st.store config withinLimits committed with ⟨hstores, hvalid⟩
  exact runnable_stored h hstores
    (fun hreached => available_of_placement (hvalid (Bool.and_eq_true_iff.mp hreached).1))
    (fun id hid => .inl hid)

theorem runnable_remove (h : Runnable st) (nodeId : String) (appId : AppId) (now : Nat)
    (forgotten : Bool) (committed : Nat) :
    Runnable (runnableStep nodeId st (.remove appId now forgotten committed)) := by
  -- A removal deletes routes and sets its own marker.
  have heffect : ∀ t, t = commitAll
      ((removePlan st.store appId now forgotten).writes.take committed) st.store →
      t.configs = st.store.configs ∧ t.artifacts = st.store.artifacts ∧
        ∀ id, id ≠ appId.text → t.isUndeployed id = st.store.isUndeployed id := by
    rintro t rfl
    refine commitAll_induct (fun u => u.configs = st.store.configs ∧
      u.artifacts = st.store.artifacts ∧
        ∀ id, id ≠ appId.text → u.isUndeployed id = st.store.isUndeployed id)
      (fun w hw u hu => ?_) ⟨rfl, rfl, fun _ _ => rfl⟩
    rcases mem_append.mp (mem_of_mem_take hw) with hw | hw
    · rcases mem_map.mp hw with ⟨route, -, rfl⟩
      exact hu
    · rw [mem_singleton.mp hw]
      refine ⟨hu.1, hu.2.1, fun id hid => ?_⟩
      rw [isUndeployed_markUndeployed, decide_eq_false hid, Bool.false_or, hu.2.2 id hid]
  rcases heffect _ rfl with ⟨hconfigs, hartifacts, hmarks⟩
  simp only [runnableStep]
  refine ⟨fun entry hentry hun => ?_, fun entry hentry dependency hdep hmissed => ?_⟩
  · simp only [RunnableState.without, hconfigs, hartifacts] at hentry hun ⊢
    exact h.backed entry hentry hun
  · simp only [RunnableState.without, hconfigs, Bool.or_eq_false_iff, decide_eq_false_iff_not]
      at hentry hmissed
    have hold := h.available entry hentry dependency hdep hmissed.1
    simp only [RunnableState.without, Store.dependencyAvailable, hconfigs, hartifacts,
      hmarks _ hmissed.2] at hold ⊢
    exact hold

theorem runnable_gc (h : Runnable st) (nodeId : String) (now graceSecs committed : Nat) :
    Runnable (runnableStep nodeId st (.gc now graceSecs committed)) := by
  rcases gc_effect st.store now graceSecs committed with ⟨heffect, hdone⟩
  refine ⟨fun entry hentry hun => ?_, fun entry hentry dependency hdep hmissed => ?_⟩
  · simp only [runnableStep, RunnableState.without, Bool.or_eq_false_iff] at hun
    have hkept : collects st.store now graceSecs entry.1 = false := by
      by_contra hgone
      rw [Bool.not_eq_false] at hgone
      rw [hgone, Bool.true_and, Bool.not_eq_false'] at hun
      have hleft := hdone hun.2 entry hentry
      rw [hgone] at hleft
      nomatch hleft
    rcases h.backed entry (heffect.entries entry hentry) hun.1 with ⟨bytes, hart⟩
    exact ⟨bytes, heffect.artifacts _ hart hkept⟩
  · simp only [runnableStep, RunnableState.without, Bool.or_eq_false_iff] at hmissed
    have hold := h.available entry (heffect.entries entry hentry) dependency hdep hmissed.1
    rw [available_iff, Store.mem_listDeployedApps] at hold ⊢
    rcases hold with ⟨⟨⟨config, hconfig⟩, hmark⟩, bytes, hart⟩
    exact ⟨⟨⟨config, heffect.configs _ hconfig hmissed.2⟩, heffect.marks _ hmark⟩, bytes,
      heffect.artifacts _ hart hmissed.2⟩

theorem runnable_step (nodeId : String) (st : RunnableState) (e : HandlerEvent) (h : Runnable st) :
    Runnable (runnableStep nodeId st e) := by
  cases e with
  | deploy d committed => exact runnable_deploy h nodeId d committed
  | configUpdate appId config withinLimits committed =>
    exact runnable_configUpdate h nodeId appId config withinLimits committed
  | remove appId now forgotten committed =>
    exact runnable_remove h nodeId appId now forgotten committed
  | gc now graceSecs committed => exact runnable_gc h nodeId now graceSecs committed

/-- A deployment brings its own configuration, a changed configuration finds the artifact, and a
    collection gets through. -/
def Backing (st : RunnableState) : HandlerEvent → Prop
  | .deploy d _ => d.config.id = d.appId
  | .configUpdate _ config _ _ => ∃ bytes, (config.id.text, bytes) ∈ st.store.artifacts
  | .remove _ _ _ _ => True
  | .gc now graceSecs committed => (gcPlan st.store now graceSecs).completed committed = true

/-- A configuration that is stored beside its artifact is not `unbacked`. -/
theorem withConfig_backed {id : String} (hart : ∃ bytes, (id, bytes) ∈ st.store.artifacts)
    (h : ∀ x, st.unbacked x = false) (x : String) : (st.withConfig id).unbacked x = false := by
  by_cases hx : x = id
  · rw [hx]
    simp only [RunnableState.withConfig, update_self]
    exact Option.isNone_eq_false_iff.mpr (keyed_isSome_iff.mpr hart)
  · simp only [RunnableState.withConfig, update_of_ne hx]
    exact h x

theorem backing_step (nodeId : String) (st : RunnableState) (e : HandlerEvent)
    (hbacking : Backing st e) (h : ∀ id, st.unbacked id = false) :
    ∀ id, (runnableStep nodeId st e).unbacked id = false := by
  cases e with
  | deploy d committed =>
    rcases deploy_effect nodeId st.store d committed with ⟨-, hart, -⟩
    have hid : d.config.id = d.appId := hbacking
    simp only [runnableStep, hid]
    by_cases hthree : (deployPlan nodeId st.store d).reached committed 3 = true
    · rw [if_pos hthree]
      have hun : ∀ x, (update st.unbacked d.appId.text false) x = false := by
        grind
      split
      · exact withConfig_backed (hart hthree) hun
      · exact hun
    · -- The configuration is stored after the artifact.
      have htwo : ¬ (deployPlan nodeId st.store d).reached committed 2 = true := by
        simp only [Plan.reached, Bool.and_eq_true, decide_eq_true_eq] at hthree ⊢
        rintro ⟨hcompletes, hle⟩
        exact hthree ⟨hcompletes, by omega⟩
      rw [if_neg hthree, if_neg htwo]
      exact h
  | configUpdate appId config withinLimits committed =>
    rcases configUpdate_effect nodeId st.store config withinLimits committed with ⟨hstores, -⟩
    simp only [runnableStep]
    split
    · exact withConfig_backed (hstores.grows.artifacts _ hbacking) h
    · exact h
  | remove appId now forgotten committed => exact h
  | gc now graceSecs committed =>
    intro id
    have hdone : (gcPlan st.store now graceSecs).completed committed = true := hbacking
    simp only [runnableStep, RunnableState.without, hdone, Bool.not_true, Bool.and_false,
      Bool.or_false]
    exact h id

/-- After any sequence of handlers a deployed application has its artifact unless it is
    `unbacked`, which no application becomes if all handlers are `Backing`; and everything its
    configuration depends on is deployed and has its artifact, unless that was removed or
    collected since the configuration was stored. -/
theorem deployed_apps_run (nodeId : String) (events : List HandlerEvent) :
    let st := runAll (runnableStep nodeId) RunnableState.new events
    (∀ id ∈ st.store.listDeployedApps,
      (st.unbacked id.text = false → ∃ bytes, (id.text, bytes) ∈ st.store.artifacts) ∧
      ∀ config, (id.text, config) ∈ st.store.configs → ∀ dependency ∈ config.localDependencies,
        st.missed id.text dependency.text = false → dependency ∈ st.store.listDeployedApps ∧
            ∃ bytes, (dependency.text, bytes) ∈ st.store.artifacts) ∧
    (Along (runnableStep nodeId) Backing RunnableState.new events →
      ∀ id, st.unbacked id = false) := by
  intro st
  have hnew : Runnable RunnableState.new :=
    ⟨fun entry hentry => (nomatch hentry), fun entry hentry => nomatch hentry⟩
  have hrun : Runnable st := invariant_run (runnable_step nodeId) events hnew
  refine ⟨fun id hid => ?_, fun hbacking =>
    invariant_along (backing_step nodeId) hbacking (fun _ => rfl)⟩
  rcases (Store.mem_listDeployedApps.mp hid).1 with ⟨stored, hstored⟩
  refine ⟨fun hun => hrun.backed _ hstored hun, fun config hconfig dependency hdep hmissed => ?_⟩
  exact available_iff.mp (hrun.available _ hconfig dependency hdep hmissed)

def deployWeb : DeployRequest :=
  { deployApi with
    appId := ⟨"default/web:v1"⟩
    config := ⟨⟨"default/web:v1"⟩, "default", [⟨"default/api:v1"⟩]⟩ }

/-- While nothing is removed, what it calls is there. -/
theorem deployed_apps_run_web :
    let st := runAll (runnableStep "node-0") RunnableState.new
      [.deploy deployApi 5, .deploy deployWeb 5]
    (∃ bytes, ("default/web:v1", bytes) ∈ st.store.artifacts) ∧
      (⟨"default/api:v1"⟩ : AppId) ∈ st.store.listDeployedApps ∧
        ∃ bytes, ("default/api:v1", bytes) ∈ st.store.artifacts := by
  intro st
  have hbacking : Along (runnableStep "node-0") Backing RunnableState.new
      [.deploy deployApi 5, .deploy deployWeb 5] := ⟨rfl, rfl, trivial⟩
  have hrun := deployed_apps_run "node-0" [.deploy deployApi 5, .deploy deployWeb 5]
  have hlisted : (⟨"default/web:v1"⟩ : AppId) ∈ st.store.listDeployedApps :=
    mem_cons_of_mem _ mem_cons_self
  rcases hrun.1 _ hlisted with ⟨hart, hdeps⟩
  exact ⟨hart (hrun.2 hbacking _), hdeps deployWeb.config
    (.tail _ (.head _)) ⟨"default/api:v1"⟩ (.head _) rfl⟩

def orphanedRun : List HandlerEvent :=
  [.deploy deployApi 5, .deploy deployWeb 5, .remove ⟨"default/api:v1"⟩ 100 true 1]

/-- What needs it stays deployed, and a deployment of another's configuration deploys that one
    without an artifact. -/
theorem dependency_is_gone :
    let orphaned := (runAll (runnableStep "node-0") RunnableState.new orphanedRun).store
    let misnamed := (runAll (runnableStep "node-0") RunnableState.new
      [.deploy { deployApi with appId := ⟨"default/web:v1"⟩ } 5]).store
    orphaned.listDeployedApps = [⟨"default/web:v1"⟩] ∧
      orphaned.configs.get? "default/web:v1" = some ("default/web:v1", deployWeb.config) ∧
      deployWeb.config.localDependencies = [⟨"default/api:v1"⟩] ∧
      misnamed.listDeployedApps = [⟨"default/api:v1"⟩] ∧
      misnamed.artifacts.get? "default/api:v1" = none :=
  ⟨rfl, rfl, rfl, rfl, rfl⟩

end WasmCloud
