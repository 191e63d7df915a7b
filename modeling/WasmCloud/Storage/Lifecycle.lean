import WasmCloud.Lib.Run
import WasmCloud.Storage.Store

/-!
# The Lifecycle of an Application

Deploying, removing and collecting applications on one node. A handler is modelled by the list
of transactions it is going to commit and by whether it reports success after them. A step
commits a prefix of that list.

Beside the store a run carries, for each identifier, the last operation that completed for it.
An identifier whose last operation was a removal is not listed as long as its marker is there,
and collection takes the marker away, so by then nothing may be left under the identifier.
`purgeTables` drops the keys that extend the identifier by a colon, and the identifier itself
is not such a key. `SafeStep` rules out the steps on which that shows.
-/

namespace WasmCloud

open List

/-- `AppId::namespace`. -/
def AppId.ns (id : AppId) : String :=
  if id.text.toList.contains '/' then (Text.split id.text '/').headD "default" else "default"

/-- The complaints of `validate_placement_contract`, given those already seen. -/
def placementProblems (config : AppConfig) : List String → List AppId → List String
  | _, [] => []
  | seen, dependency :: rest =>
    (if dependency = config.id then
      ["local dependency cannot refer to the application itself"] else []) ++
    (if dependency.ns ≠ config.ns then
      ["local dependency " ++ dependency.text ++ " must be in namespace " ++ config.ns]
      else []) ++
    (if seen.contains dependency.text then
      ["local dependency " ++ dependency.text ++ " is declared more than once"] else []) ++
    placementProblems config (dependency.text :: seen) rest

def validatePlacementContract (config : AppConfig) : Except String Unit :=
  match placementProblems config [] config.localDependencies with
  | [] => .ok ()
  | problems => .error (String.intercalate "\n" (problems.map (fun m => "invalid config: " ++ m)))

/-- Deployed, with its configuration and its artifact. -/
def Store.dependencyAvailable (s : Store) (dependency : AppId) : Bool :=
  !s.isUndeployed dependency.text && (s.configs.get? dependency.text).isSome &&
    (s.artifacts.get? dependency.text).isSome

def validateLocalPlacement (nodeId : String) (s : Store) (config : AppConfig) :
    Except String Unit := do
  validatePlacementContract config
  match config.localDependencies.find? (fun d => !s.dependencyAvailable d) with
  | some dependency =>
    throw ("required node-local dependency " ++ dependency.text ++ " for " ++ config.id.text ++
      " is not deployed on node " ++ nodeId ++
      "; deploy the dependency first with the same every_node placement")
  | none => return ()

/-- A deploy event, with the supervisor's limits, whether a transfer was authorized for this
    node, what the download gives, and the compiler. -/
structure DeployRequest where
  appId : AppId
  config : AppConfig
  expectedHash : Option String
  withinLimits : Bool
  targeted : Bool
  fetched : Option (List UInt8)
  compile : List UInt8 → Option (List UInt8)

/-- What a handler commits, in order, and whether it then reports success. -/
structure Plan where
  writes : List (Store → Store)
  completes : Bool

/-- The transactions that cache the artifact, and its bytes, unless it is refused or for others. -/
def obtainWasm (s : Store) (d : DeployRequest) (sha256 : String) :
    Option (List (Store → Store) × List UInt8) :=
  match s.rawWasm.get? sha256 with
  | some entry => some ([], entry.2)
  | none =>
    if d.targeted then d.fetched.map (fun bytes => ([fun t => t.saveRawWasm sha256 bytes], bytes))
    else none

/-- The transactions that make an application deployed. -/
def deployWrites (d : DeployRequest) (sha256 : String) (artifact : List UInt8) :
    List (Store → Store) :=
  [fun t => t.storeArtifact d.appId artifact, fun t => t.saveConfig d.config,
    fun t => t.saveArtifactHash d.appId sha256, fun t => t.markDeployed d.appId.text]

/-- `handle_deploy`. -/
def deployPlan (nodeId : String) (s : Store) (d : DeployRequest) : Plan :=
  if d.withinLimits && (validateLocalPlacement nodeId s d.config).toOption.isSome then
    match d.expectedHash with
    | none => ⟨[], false⟩
    | some sha256 =>
      match obtainWasm s d sha256 with
      | none => ⟨[], false⟩
      | some (cached, bytes) =>
        match d.compile bytes with
        -- The download stays cached.
        | none => ⟨cached, false⟩
        | some artifact => ⟨cached ++ deployWrites d sha256 artifact, true⟩
  else ⟨[], false⟩

/-- `handle_remove`. `forgotten` is the supervisor's answer, given after the marker is set; it
    does not forget an application that still has an instance. -/
def removePlan (s : Store) (appId : AppId) (now : Nat) (forgotten : Bool) : Plan :=
  ⟨(s.listRoutesForApp appId.text).map (fun route t => Store.deleteRoute t route.host) ++
    [fun t => t.markUndeployed appId.text now], forgotten⟩

/-- `gc_undeployed_apps` at the time `now`. -/
def gcPlan (s : Store) (now graceSecs : Nat) : Plan :=
  ⟨(s.expiredApps now graceSecs).flatMap s.purgeTables, true⟩

/-- The operations of an application's life. -/
inductive LifecycleOp where
  | deploy
  | remove
  deriving DecidableEq, Repr

/-- One operation. `committed` is how many transactions got through. -/
inductive LifecycleAction where
  | deploy (d : DeployRequest) (committed : Nat)
  | remove (appId : AppId) (now : Nat) (forgotten : Bool) (committed : Nat)
  | gc (now graceSecs : Nat) (committed : Nat)

/-- The store, and the last operation that completed for each identifier. -/
structure LifecycleState where
  store : Store
  last : String → Option LifecycleOp

def commitAll (writes : List (Store → Store)) (s : Store) : Store :=
  writes.foldl (fun t w => w t) s

/-- All transactions of a plan got through and it reports success. -/
def Plan.completed (p : Plan) (committed : Nat) : Bool :=
  p.completes && decide (p.writes.length ≤ committed)

def record (last : String → Option LifecycleOp) (id : String) (op : LifecycleOp) (done : Bool) :
    String → Option LifecycleOp :=
  fun x => if done = true ∧ x = id then some op else last x

def lifecycleStep (nodeId : String) (st : LifecycleState) : LifecycleAction → LifecycleState
  | .deploy d committed =>
    let p := deployPlan nodeId st.store d
    ⟨commitAll (p.writes.take committed) st.store,
      record st.last d.appId.text .deploy (p.completed committed)⟩
  | .remove appId now forgotten committed =>
    let p := removePlan st.store appId now forgotten
    ⟨commitAll (p.writes.take committed) st.store,
      record st.last appId.text .remove (p.completed committed)⟩
  | .gc now graceSecs committed =>
    ⟨commitAll ((gcPlan st.store now graceSecs).writes.take committed) st.store, st.last⟩

theorem validateLocalPlacement_isSome (nodeId : String) (s : Store) (config : AppConfig) :
    (validateLocalPlacement nodeId s config).toOption.isSome =
      ((validatePlacementContract config).toOption.isSome &&
        config.localDependencies.all s.dependencyAvailable) := by
  unfold validateLocalPlacement
  cases validatePlacementContract config with
  | error e => rfl
  | ok u =>
    cases hfind : config.localDependencies.find? (fun d => !s.dependencyAvailable d) with
    | none =>
      have hall : config.localDependencies.all s.dependencyAvailable = true := by
        refine all_eq_true.mpr (fun dependency hmem => ?_)
        have hno := List.find?_eq_none.mp hfind dependency hmem
        rwa [Bool.not_eq_true', Bool.not_eq_false] at hno
      rw [hall]
      rfl
    | some dependency =>
      have hmissing := List.find?_some hfind
      have hall : config.localDependencies.all s.dependencyAvailable = false := by
        refine all_eq_false.mpr ⟨dependency, mem_of_find?_eq_some hfind, ?_⟩
        rw [Bool.not_eq_true'] at hmissing
        rw [hmissing]
        exact Bool.false_ne_true
      rw [hall]
      rfl

/-- No artifact and no configuration is stored under an identifier. -/
def Store.Clean (s : Store) (id : String) : Prop :=
  (∀ bytes, (id, bytes) ∉ s.artifacts) ∧ ∀ config, (id, config) ∉ s.configs

def Store.NoRoute (s : Store) (id : String) : Prop := ∀ route ∈ s.routes, route.appId.text ≠ id

/-- It is not listed, and once its marker is gone so is its data. -/
def Undeployed (s : Store) (id : String) : Prop :=
  (⟨id⟩ : AppId) ∉ s.listDeployedApps ∧
    (s.isUndeployed id = false → s.Clean id ∧ s.NoRoute id)

/-- No route, and a marker until nothing is left. -/
def Kept (s : Store) (id : String) : Prop :=
  s.NoRoute id ∧ (s.isUndeployed id = true ∨ s.Clean id)

variable {app sha256 id : String} {t s : Store} {committed : Nat} {d : DeployRequest}
  {cached : List (Store → Store)}

theorem Kept.undeployed (h : Kept s id) : Undeployed s id := by
  rcases h with ⟨hroute, hmark | hclean⟩
  · refine ⟨fun hmem => ?_, fun hno => ?_⟩
    · have hno := (Store.mem_listDeployedApps.mp hmem).2
      rw [hmark] at hno
      nomatch hno
    · rw [hmark] at hno
      nomatch hno
  · refine ⟨fun hmem => ?_, fun _ => ⟨hclean, hroute⟩⟩
    rcases (Store.mem_listDeployedApps.mp hmem).1 with ⟨config, hconfig⟩
    exact hclean.2 config hconfig

/-- The steps that do not run into what purging leaves behind.

    * A deployment that gets as far as storing something, under an identifier
      that was removed, finds the marker still there, or is of that very
      identifier and is not cut short.
    * A collection that takes the marker of a removed identifier finds nothing
      stored under exactly that identifier, or also collects a shorter name
      that the identifier extends by a colon. -/
def SafeStep (nodeId : String) (st : LifecycleState) : LifecycleAction → Prop
  | .deploy d committed =>
    (deployPlan nodeId st.store d).completes = true →
      ∀ id, st.last id = some .remove → id = d.appId.text ∨ id = d.config.id.text →
        st.store.isUndeployed id = true ∨ (id = d.appId.text ∧ 5 ≤ committed)
  | .remove _ _ _ _ => True
  | .gc now graceSecs _ =>
    ∀ id ∈ st.store.expiredApps now graceSecs, st.last id = some .remove →
      st.store.Clean id ∨ ∃ name ∈ st.store.expiredApps now graceSecs,
        Text.startsWith id (name ++ ":") = true

theorem commitAll_induct (P : Store → Prop) {writes : List (Store → Store)}
    (hkeep : ∀ w ∈ writes, ∀ s, P s → P (w s)) (h : P s) : P (commitAll writes s) := by
  induction writes generalizing s with
  | nil => exact h
  | cons w writes ih =>
    exact ih (fun w' hw' => hkeep w' (.tail _ hw')) (hkeep w (.head _) s h)

theorem commitAll_append (ws vs : List (Store → Store)) (s : Store) :
    commitAll (ws ++ vs) s = commitAll vs (commitAll ws s) :=
  foldl_append

theorem undeployKey_inj {a b : String} : Store.undeployKey a = Store.undeployKey b ↔ a = b := by
  constructor
  · intro h
    have hstrip := congrArg (fun s => Text.stripPrefix s "_undeploy:") h
    simp only [Store.undeployKey, Text.stripPrefix_append, Option.some.injEq] at hstrip
    exact hstrip
  · exact congrArg Store.undeployKey

theorem isUndeployed_markUndeployed (s : Store) (app id : String) (now : Nat) :
    (s.markUndeployed app now).isUndeployed id = (decide (id = app) || s.isUndeployed id) := by
  rw [Store.isUndeployed, Store.markUndeployed, OrdTable.get?_insert]
  by_cases hid : id = app <;> simp [hid, undeployKey_inj, Store.isUndeployed]

theorem isUndeployed_markDeployed (s : Store) (app id : String) :
    (s.markDeployed app).isUndeployed id = (decide (id ≠ app) && s.isUndeployed id) := by
  rw [Store.isUndeployed, Store.markDeployed, OrdTable.get?_remove]
  by_cases hid : id = app <;> simp [hid, undeployKey_inj, Store.isUndeployed]

/-- No route, and the marker is there. -/
def Marked (s : Store) (id : String) : Prop := s.NoRoute id ∧ s.isUndeployed id = true

theorem Marked.kept (h : Marked s id) : Kept s id := ⟨h.1, .inl h.2⟩

theorem noRoute_deleteRoute (h : s.NoRoute id) (host : String) : (s.deleteRoute host).NoRoute id :=
  fun route hroute => h route (OrdTable.mem_remove.mp hroute).1

theorem kept_deleteRoute (h : Kept s id) (host : String) : Kept (s.deleteRoute host) id :=
  ⟨noRoute_deleteRoute h.1 host, h.2⟩

theorem kept_markUndeployed (h : Kept s id) (app : String) (now : Nat) :
    Kept (s.markUndeployed app now) id := by
  refine ⟨h.1, ?_⟩
  rw [isUndeployed_markUndeployed]
  rcases h.2 with hmark | hclean
  · left
    rw [hmark, Bool.or_true]
  · exact .inr hclean

theorem marked_markDeployed (h : Marked s id) (hne : id ≠ app) :
    Marked (s.markDeployed app) id := by
  refine ⟨h.1, ?_⟩
  rw [isUndeployed_markDeployed, decide_eq_true hne, h.2, Bool.and_self]

theorem kept_markDeployed (h : Kept s id) (hne : id ≠ app) : Kept (s.markDeployed app) id := by
  rcases h with ⟨hroute, hmark | hclean⟩
  · exact (marked_markDeployed ⟨hroute, hmark⟩ hne).kept
  · exact ⟨hroute, .inr hclean⟩

theorem kept_storeArtifact {app : AppId} (h : Kept s id) (hne : id ≠ app.text)
    (bytes : List UInt8) : Kept (s.storeArtifact app bytes) id := by
  rcases h with ⟨hroute, hmark | ⟨hart, hconf⟩⟩
  · exact ⟨hroute, .inl hmark⟩
  · refine ⟨hroute, .inr ⟨fun b hb => ?_, hconf⟩⟩
    rcases OrdTable.mem_insert.mp hb with heq | ⟨hold, -⟩
    · exact hne (congrArg Prod.fst heq)
    · exact hart b hold

theorem kept_saveConfig {config : AppConfig} (h : Kept s id) (hne : id ≠ config.id.text) :
    Kept (s.saveConfig config) id := by
  rcases h with ⟨hroute, hmark | ⟨hart, hconf⟩⟩
  · exact ⟨hroute, .inl hmark⟩
  · refine ⟨hroute, .inr ⟨hart, fun c hc => ?_⟩⟩
    rcases OrdTable.mem_insert.mp hc with heq | ⟨hold, -⟩
    · exact hne (congrArg Prod.fst heq)
    · exact hconf c hold

/-- The transactions of a download that is kept. -/
def OnlyCaches (cached : List (Store → Store)) : Prop :=
  ∀ w ∈ cached, ∃ sha256 bytes, w = fun t => Store.saveRawWasm t sha256 bytes

theorem obtainWasm_cached {bytes : List UInt8} (h : obtainWasm s d sha256 = some (cached, bytes)) :
    cached.length ≤ 1 ∧ OnlyCaches cached := by
  unfold obtainWasm at h
  split at h
  · simp only [Option.some.injEq, Prod.mk.injEq] at h
    rw [← h.1]
    exact ⟨Nat.zero_le 1, fun w hw => nomatch hw⟩
  · split at h
    · rcases Option.map_eq_some_iff.mp h with ⟨b, -, hb⟩
      simp only [Prod.mk.injEq] at hb
      rw [← hb.1]
      exact ⟨le_refl 1, fun w hw => ⟨sha256, b, mem_singleton.mp hw⟩⟩
    · nomatch h

theorem deployPlan_obtained (nodeId : String) (s : Store) (d : DeployRequest) :
    deployPlan nodeId s d = ⟨[], false⟩ ∨ ∃ sha256 cached bytes, d.expectedHash = some sha256 ∧
        obtainWasm s d sha256 = some (cached, bytes) ∧
        (deployPlan nodeId s d = ⟨cached, false⟩ ∨ ∃ artifact, deployPlan nodeId s d =
            ⟨cached ++ deployWrites d sha256 artifact, true⟩) := by
  unfold deployPlan
  split
  · split
    · exact .inl rfl
    · rename_i sha256 hhash
      split
      · exact .inl rfl
      · rename_i cached bytes hwasm
        grind
  · exact .inl rfl

/-- Nothing but a cached download, or that and the four transactions that deploy. -/
theorem deployPlan_cases (nodeId : String) (s : Store) (d : DeployRequest) :
    ∃ cached : List (Store → Store), cached.length ≤ 1 ∧
      OnlyCaches cached ∧
      (deployPlan nodeId s d = ⟨cached, false⟩ ∨ ∃ sha256 artifact, deployPlan nodeId s d =
          ⟨cached ++ deployWrites d sha256 artifact, true⟩) := by
  rcases deployPlan_obtained nodeId s d with hnone | ⟨sha256, cached, bytes, -, hwasm, hplan⟩
  · exact ⟨[], Nat.zero_le 1, fun w hw => (nomatch hw), .inl hnone⟩
  · grind [obtainWasm_cached]

theorem kept_cached (hcached : OnlyCaches cached) :
    ∀ w ∈ cached, ∀ s, Kept s id → Kept (w s) id := by
  intro w hw s h
  rcases hcached w hw with ⟨sha256, bytes, rfl⟩
  exact h

theorem marked_cached (hcached : OnlyCaches cached) :
    ∀ w ∈ cached, ∀ s, Marked s id → Marked (w s) id := by
  intro w hw s h
  rcases hcached w hw with ⟨sha256, bytes, rfl⟩
  exact h

variable {artifact : List UInt8} {nodeId : String} {st : LifecycleState} {now : Nat}
  {w : Store → Store}

theorem marked_deployStart :
    ∀ w ∈ [fun t => Store.storeArtifact t d.appId artifact, fun t => Store.saveConfig t d.config,
      fun t => Store.saveArtifactHash t d.appId sha256],
      ∀ s, Marked s id → Marked (w s) id := by
  intro w hw s h
  simp only [mem_cons, not_mem_nil, or_false] at hw
  rcases hw with rfl | rfl | rfl
  · exact h
  · exact h
  · exact h

theorem record_of_done {last : String → Option LifecycleOp} {op : LifecycleOp} {done : Bool}
    (h : done = true) : record last id op done id = some op :=
  if_pos ⟨h, rfl⟩

/-- Only an identifier's own deployment takes its marker, if it gets through. -/
theorem marked_deploy (hcached : OnlyCaches cached)
    (hshort : id = d.appId.text → committed < (cached ++ deployWrites d sha256 artifact).length)
    (h : Marked s id) :
    Marked (commitAll ((cached ++ deployWrites d sha256 artifact).take committed) s) id := by
  have hsplit : cached ++ deployWrites d sha256 artifact =
      (cached ++ [fun t => Store.storeArtifact t d.appId artifact,
        fun t => Store.saveConfig t d.config,
        fun t => Store.saveArtifactHash t d.appId sha256]) ++
        [fun t => Store.markDeployed t d.appId.text] := by
    rw [append_assoc]
    rfl
  have hstart : ∀ w ∈ cached ++ [fun t => Store.storeArtifact t d.appId artifact,
      fun t => Store.saveConfig t d.config, fun t => Store.saveArtifactHash t d.appId sha256],
      ∀ s, Marked s id → Marked (w s) id := by
    intro w hw
    rcases mem_append.mp hw with hw | hw
    · exact marked_cached hcached w hw
    · exact marked_deployStart w hw
  refine commitAll_induct (Marked · id) (fun w hw => ?_) h
  by_cases hid : id = d.appId.text
  · -- Cut short, so the marker is not reached.
    have hlt := hshort hid
    rw [hsplit, length_append, length_singleton] at hlt
    rw [hsplit, take_append_of_le_length (Nat.le_of_lt_succ hlt)] at hw
    exact hstart w (mem_of_mem_take hw)
  · have hw := mem_of_mem_take hw
    grind [marked_markDeployed]

theorem kept_deploy_other (hcached : OnlyCaches cached) (happ : id ≠ d.appId.text)
    (hconfig : id ≠ d.config.id.text) (committed : Nat) (h : Kept s id) :
    Kept (commitAll ((cached ++ deployWrites d sha256 artifact).take committed) s) id := by
  refine commitAll_induct (Kept · id) (fun w hw s h => ?_) h
  rcases mem_append.mp (mem_of_mem_take hw) with hw | hw
  · exact kept_cached hcached w hw s h
  · simp only [deployWrites, mem_cons, not_mem_nil, or_false] at hw
    rcases hw with rfl | rfl | rfl | rfl
    · exact kept_storeArtifact h happ artifact
    · exact kept_saveConfig h hconfig
    · exact h
    · exact kept_markDeployed h happ

theorem deploy_keeps (hsafe : SafeStep nodeId st (.deploy d committed))
    (hlast : st.last id = some .remove) (hkept : Kept st.store id)
    (hafter : (lifecycleStep nodeId st (.deploy d committed)).last id = some .remove) :
    Kept (lifecycleStep nodeId st (.deploy d committed)).store id := by
  rcases deployPlan_cases nodeId st.store d with
    ⟨cached, hlen, hcached, hplan | ⟨sha256, art, hplan⟩⟩
  · -- Nothing but the download is stored.
    simp only [lifecycleStep, hplan]
    exact commitAll_induct (Kept · id)
      (fun w hw => kept_cached hcached w (mem_of_mem_take hw)) hkept
  simp only [lifecycleStep, hplan] at hafter ⊢
  by_cases hnamed : id = d.appId.text ∨ id = d.config.id.text
  · have hshort : id = d.appId.text → committed < (cached ++ deployWrites d sha256 art).length := by
      -- Otherwise the last operation would be this deployment.
      intro hid
      by_contra hle
      rw [hid, record_of_done
        (by rw [Plan.completed, decide_eq_true (Nat.le_of_not_lt hle), Bool.and_self])] at hafter
      nomatch hafter
    have hmark : st.store.isUndeployed id = true := by
      rcases hsafe (by rw [hplan]) id hlast hnamed with hmark | ⟨hid, hfive⟩
      · exact hmark
      · -- At most one download and four transactions: it was not cut short.
        have hlt := hshort hid
        simp only [length_append, deployWrites, length_cons, length_nil] at hlt
        omega
    exact (marked_deploy hcached hshort ⟨hkept.1, hmark⟩).kept
  · rw [not_or] at hnamed
    exact kept_deploy_other hcached hnamed.1 hnamed.2 committed hkept

theorem mem_routes_commit_delete {routes : List Route} {route : Route}
    (h : route ∈ (commitAll (routes.map (fun r t => Store.deleteRoute t r.host)) s).routes) :
    route ∈ s.routes ∧ ∀ r ∈ routes, route.host ≠ r.host := by
  induction routes generalizing s with
  | nil => exact ⟨h, fun r hr => nomatch hr⟩
  | cons r routes ih =>
    rcases ih h with ⟨hmem, hhosts⟩
    rcases OrdTable.mem_remove.mp hmem with ⟨hold, hne⟩
    grind

theorem noRoute_commit_delete (s : Store) (id : String) :
    (commitAll ((s.listRoutesForApp id).map (fun r t => Store.deleteRoute t r.host)) s).NoRoute
      id := by
  intro route hroute happ
  rcases mem_routes_commit_delete hroute with ⟨hold, hhosts⟩
  refine hhosts route ?_ rfl
  exact mem_filter.mpr ⟨hold, decide_eq_true happ⟩

/-- A removal keeps the promise for others, and establishes it when it completes. -/
theorem remove_keeps {appId : AppId} {forgotten : Bool}
    (hkept : st.last id = some .remove → Kept st.store id)
    (hafter : (lifecycleStep nodeId st (.remove appId now forgotten committed)).last id =
      some .remove) :
    Kept (lifecycleStep nodeId st (.remove appId now forgotten committed)).store id := by
  simp only [lifecycleStep] at hafter ⊢
  by_cases hdone : (removePlan st.store appId now forgotten).completed committed = true ∧
      id = appId.text
  · -- All routes are gone and the marker is set.
    rcases hdone with ⟨hdone, hid⟩
    have hle := of_decide_eq_true (Bool.and_eq_true_iff.mp hdone).2
    rw [take_of_length_le hle, removePlan, commitAll_append]
    refine Marked.kept ⟨?_, ?_⟩
    · rw [hid]
      exact noRoute_commit_delete st.store appId.text
    · change (Store.markUndeployed _ appId.text now).isUndeployed id = true
      rw [isUndeployed_markUndeployed, decide_eq_true hid, Bool.true_or]
  · rw [record, if_neg hdone] at hafter
    refine commitAll_induct (Kept · id) (fun w hw s h => ?_) (hkept hafter)
    rcases mem_append.mp (mem_of_mem_take hw) with hw | hw
    · rcases mem_map.mp hw with ⟨route, -, rfl⟩
      exact kept_deleteRoute h route.host
    · rw [mem_singleton.mp hw]
      exact kept_markUndeployed h appId.text now

theorem mem_dropVersions {V : Type} {t : KeyedTable V} {entry : String × V} :
    entry ∈ Store.dropVersions t app ↔
      entry ∈ t ∧ Text.startsWith entry.1 (app ++ ":") = false := by
  rw [Store.dropVersions, OrdTable.mem_filter, Bool.not_eq_true']

theorem purge_write_cases (hw : w ∈ s.purgeTables app) :
    (w = fun t => { t with artifacts := Store.dropVersions t.artifacts app }) ∨
      (w = fun t => { t with rawWasm := Store.dropVersions t.rawWasm app }) ∨
      (w = fun t => { t with configs := Store.dropVersions t.configs app }) ∨
      (w = fun t => { t with metrics := Store.dropVersions t.metrics app }) ∨
      (∃ host, w = fun t => t.deleteRoute host) ∨ w = fun t => t.markDeployed app := by
  rw [Store.purgeTables] at hw
  rcases mem_append.mp hw with hw | hw
  · grind
  · rcases mem_append.mp hw with hw | hw
    · rcases mem_map.mp hw with ⟨route, -, rfl⟩
      exact .inr (.inr (.inr (.inr (.inl ⟨route.host, rfl⟩))))
    · exact .inr (.inr (.inr (.inr (.inr (mem_singleton.mp hw)))))

theorem clean_purge (hw : w ∈ s.purgeTables app) (h : t.NoRoute id ∧ t.Clean id) :
    (w t).NoRoute id ∧ (w t).Clean id := by
  rcases h with ⟨hroute, hart, hconf⟩
  rcases purge_write_cases hw with rfl | rfl | rfl | rfl | ⟨host, rfl⟩ | rfl
  · exact ⟨hroute, fun b hb => hart b (mem_dropVersions.mp hb).1, hconf⟩
  · exact ⟨hroute, hart, hconf⟩
  · exact ⟨hroute, hart, fun c hc => hconf c (mem_dropVersions.mp hc).1⟩
  · exact ⟨hroute, hart, hconf⟩
  · exact ⟨noRoute_deleteRoute hroute host, hart, hconf⟩
  · exact ⟨hroute, hart, hconf⟩

theorem marked_purge (hw : w ∈ s.purgeTables app) (hne : id ≠ app) (h : Marked t id) :
    Marked (w t) id := by
  rcases purge_write_cases hw with rfl | rfl | rfl | rfl | ⟨host, rfl⟩ | rfl
  · exact h
  · exact h
  · exact h
  · exact h
  · exact ⟨noRoute_deleteRoute h.1 host, h.2⟩
  · exact marked_markDeployed h hne

/-- Nothing is left under an identifier that extends the name by a colon. -/
theorem purge_cleans (s : Store) (hroute : t.NoRoute id)
    (hext : Text.startsWith id (app ++ ":") = true) :
    (commitAll (s.purgeTables app) t).NoRoute id ∧ (commitAll (s.purgeTables app) t).Clean id := by
  rw [Store.purgeTables, commitAll_append]
  refine commitAll_induct (fun u => u.NoRoute id ∧ u.Clean id) (fun w hw u hu => ?_) ?_
  · have hmem : w ∈ s.purgeTables app := by
      rw [Store.purgeTables]
      exact mem_append.mpr (.inr hw)
    exact clean_purge hmem hu
  · -- The four tables are filtered first.
    refine ⟨hroute, fun b hb => ?_, fun c hc => ?_⟩
    · have hdropped := (mem_dropVersions.mp hb).2
      rw [hext] at hdropped
      nomatch hdropped
    · have hdropped := (mem_dropVersions.mp hc).2
      rw [hext] at hdropped
      nomatch hdropped

theorem expiredApps_sorted (s : Store) (now graceSecs : Nat) :
    (s.expiredApps now graceSecs).Pairwise
      (fun a b => Store.undeployKey a < Store.undeployKey b) := by
  have hkey {entry : String × String} {name : String}
      (h : (match Text.stripPrefix entry.1 "_undeploy:" with
        | none => none
        | some appName =>
          if graceSecs < (now + 2 ^ 64 - (Text.parseU64 entry.2).getD 0) % 2 ^ 64 then
            some appName else none) = some name) : entry.1 = Store.undeployKey name := by
    split at h
    · nomatch h
    · rename_i appName hstrip
      split at h
      · rw [Option.some.injEq] at h
        rw [← h]
        exact (Text.stripPrefix_eq_some_iff _ _ _).mp hstrip
      · nomatch h
  -- The markers are iterated in the order of their keys.
  refine s.schemaMeta.sorted.filterMap _ (fun e e' hlt a ha b hb => ?_)
  rw [← hkey ha, ← hkey hb]
  exact hlt

variable {graceSecs : Nat} {name : String} {names : List String}

theorem expiredApps_split (hname : name ∈ s.expiredApps now graceSecs)
    (hid : id ∈ s.expiredApps now graceSecs) (hext : Text.startsWith id (name ++ ":") = true) :
    ∃ before after, s.expiredApps now graceSecs = before ++ id :: after ∧ name ∈ before := by
  rcases (Text.startsWith_iff _ _).mp hext with ⟨rest, hrest⟩
  -- An extension sorts behind what it extends.
  have hlt : Store.undeployKey name < Store.undeployKey id := by
    rw [hrest, Store.undeployKey, Store.undeployKey, String.append_assoc, ← String.append_assoc]
    exact Text.lt_append _ (by
      rw [ne_eq, ← String.toList_inj, String.toList_append]
      exact cons_ne_nil _ _)
  rcases append_of_mem hid with ⟨before, after, hsplit⟩
  refine ⟨before, after, hsplit, ?_⟩
  have hsorted := expiredApps_sorted s now graceSecs
  rw [hsplit] at hname hsorted
  rcases mem_append.mp hname with hbefore | hafter
  · exact hbefore
  · rcases mem_cons.mp hafter with heq | hafter
    · rw [heq] at hlt
      exact absurd hlt (lt_irrefl _)
    · have hgt := (pairwise_cons.mp (pairwise_append.mp hsorted).2.1).1 name hafter
      exact absurd hlt (lt_asymm hgt)

theorem marked_purges (hid : id ∉ names) (committed : Nat) (h : Marked t id) :
    Marked (commitAll ((names.flatMap s.purgeTables).take committed) t) id := by
  refine commitAll_induct (Marked · id) (fun w hw u hu => ?_) h
  rcases mem_flatMap.mp (mem_of_mem_take hw) with ⟨name, hname, hw⟩
  exact marked_purge hw (fun hc => hid (hc ▸ hname)) hu

theorem clean_purges (s : Store) (names : List String) (committed : Nat)
    (h : t.NoRoute id ∧ t.Clean id) :
    (commitAll ((names.flatMap s.purgeTables).take committed) t).NoRoute id ∧
      (commitAll ((names.flatMap s.purgeTables).take committed) t).Clean id := by
  refine commitAll_induct (fun u => u.NoRoute id ∧ u.Clean id) (fun w hw u hu => ?_) h
  rcases mem_flatMap.mp (mem_of_mem_take hw) with ⟨name, -, hw⟩
  exact clean_purge hw hu

theorem noRoute_purges (s : Store) (names : List String) (h : t.NoRoute id) :
    (commitAll (names.flatMap s.purgeTables) t).NoRoute id := by
  refine commitAll_induct (Store.NoRoute · id) (fun w hw u hu => ?_) h
  rcases mem_flatMap.mp hw with ⟨name, -, hw⟩
  rcases purge_write_cases hw with rfl | rfl | rfl | rfl | ⟨host, rfl⟩ | rfl
  · exact hu
  · exact hu
  · exact hu
  · exact hu
  · exact noRoute_deleteRoute hu host
  · exact hu

theorem purges_clean (s : Store) (hname : name ∈ names)
    (hext : Text.startsWith id (name ++ ":") = true) (h : t.NoRoute id) :
    (commitAll (names.flatMap s.purgeTables) t).NoRoute id ∧
      (commitAll (names.flatMap s.purgeTables) t).Clean id := by
  rcases append_of_mem hname with ⟨before, after, rfl⟩
  rw [flatMap_append, flatMap_cons, commitAll_append, commitAll_append]
  have hpurged := purge_cleans s (noRoute_purges s before h) hext
  have hrest := clean_purges s after (after.flatMap s.purgeTables).length hpurged
  rw [take_length] at hrest
  exact hrest

theorem gc_keeps (hsafe : SafeStep nodeId st (.gc now graceSecs committed))
    (hlast : st.last id = some .remove) (hkept : Kept st.store id) :
    Kept (lifecycleStep nodeId st (.gc now graceSecs committed)).store id := by
  simp only [lifecycleStep, gcPlan]
  rcases hkept with ⟨hroute, hkept⟩
  have hcollected {s : Store} (names : List String) (n : Nat)
      (h : s.NoRoute id ∧ s.Clean id) :
      Kept (commitAll ((names.flatMap st.store.purgeTables).take n) s) id :=
    have hboth := clean_purges st.store names n h
    ⟨hboth.1, .inr hboth.2⟩
  rcases hkept with hmark | hclean
  · by_cases hexpired : id ∈ st.store.expiredApps now graceSecs
    · rcases hsafe id hexpired hlast with hclean | ⟨name, hname, hext⟩
      · exact hcollected _ committed ⟨hroute, hclean⟩
      · -- The shorter name comes first: until its purge is through the marker
        -- stands, and after it nothing is left.
        rcases expiredApps_split hname hexpired hext with ⟨before, after, hsplit, hbefore⟩
        have hfresh : id ∉ before := by
          intro hmem
          have hsorted := expiredApps_sorted st.store now graceSecs
          rw [hsplit] at hsorted
          exact absurd ((pairwise_append.mp hsorted).2.2 id hmem id (.head _)) (lt_irrefl _)
        rw [hsplit, flatMap_append]
        by_cases hle : committed ≤ (before.flatMap st.store.purgeTables).length
        · rw [take_append_of_le_length hle]
          exact (marked_purges hfresh committed ⟨hroute, hmark⟩).kept
        · rw [take_append, take_of_length_le (Nat.le_of_not_le hle), commitAll_append]
          exact hcollected (id :: after) _ (purges_clean st.store hbefore hext hroute)
    · -- Its marker is not among those collected.
      exact (marked_purges hexpired committed ⟨hroute, hmark⟩).kept
  · exact hcollected _ committed ⟨hroute, hclean⟩

/-- What a run keeps: the promise to every identifier that was removed last. -/
def LifecycleInv (st : LifecycleState) : Prop :=
  ∀ id, st.last id = some .remove → Kept st.store id

theorem lifecycleStep_inv (nodeId : String) (st : LifecycleState) (a : LifecycleAction)
    (hsafe : SafeStep nodeId st a) (hinv : LifecycleInv st) :
    LifecycleInv (lifecycleStep nodeId st a) := by
  intro id hafter
  cases a with
  | deploy d committed =>
    have hlast : st.last id = some .remove := by
      -- A deployment only ever records itself.
      simp only [lifecycleStep, record] at hafter
      grind
    exact deploy_keeps hsafe hlast (hinv id hlast) hafter
  | remove appId now forgotten committed => exact remove_keeps (hinv id) hafter
  | gc now graceSecs committed => exact gc_keeps hsafe hafter (hinv id hafter)

def freshState (s : Store) : LifecycleState := ⟨s, fun _ => none⟩

/-- In every state that a run of safe steps reaches, from any store, an
    identifier whose last operation was a removal is undeployed. -/
theorem removed_stays_undeployed (nodeId : String) (s : Store)
    (actions reached : List LifecycleAction) (hreached : reached <+: actions)
    (hsafe : Along (lifecycleStep nodeId) (SafeStep nodeId) (freshState s) actions) (id : String)
    (hlast : (runAll (lifecycleStep nodeId) (freshState s) reached).last id = some .remove) :
    Undeployed (runAll (lifecycleStep nodeId) (freshState s) reached).store id := by
  rcases hreached with ⟨rest, rfl⟩
  have hinit : LifecycleInv (freshState s) :=
    fun id h => absurd h (by simp [freshState])
  exact (invariant_along (lifecycleStep_inv nodeId) (along_of_append hsafe) hinit id
    hlast).undeployed

def deployApi : DeployRequest where
  appId := ⟨"default/api:v1"⟩
  config := ⟨⟨"default/api:v1"⟩, "default", []⟩
  expectedHash := some "c0ffee"
  withinLimits := true
  targeted := true
  fetched := some [0, 97, 115, 109]
  compile bytes := some bytes

def removedRun : List LifecycleAction :=
  [.deploy deployApi 5, .remove ⟨"default/api:v1"⟩ 100 true 1, .gc 1000 60 100]

/-- After that the application is listed as deployed again. -/
theorem removed_comes_back :
    (runAll (lifecycleStep "node-0") (freshState emptyStore) removedRun).last "default/api:v1" =
        some .remove ∧
      ¬ Undeployed (runAll (lifecycleStep "node-0") (freshState emptyStore) removedRun).store
        "default/api:v1" := by
  have hlisted : (runAll (lifecycleStep "node-0") (freshState emptyStore)
      removedRun).store.listDeployedApps = [⟨"default/api:v1"⟩] := rfl
  refine ⟨rfl, fun h => h.1 ?_⟩
  rw [hlisted]
  exact mem_singleton.mpr rfl

def coveredRun : List LifecycleAction :=
  [.deploy deployApi 5, .remove ⟨"default/api:v1"⟩ 100 true 1, .remove ⟨"default/api"⟩ 100 true 1,
    .gc 1000 60 100]

/-- Then it stays undeployed, and nothing of it is left. -/
theorem removed_stays_undeployed_coveredRun :
    Undeployed (runAll (lifecycleStep "node-0") (freshState emptyStore) coveredRun).store
      "default/api:v1" := by
  refine removed_stays_undeployed "node-0" emptyStore coveredRun coveredRun (prefix_refl _)
    ⟨?_, trivial, trivial, ?_, trivial⟩ "default/api:v1" rfl
  · intro _ id hlast
    exact absurd hlast (by simp [freshState])
  · intro id hid _
    have hexpired : Store.expiredApps (runAll (lifecycleStep "node-0") (freshState emptyStore)
        (coveredRun.take 3)).store 1000 60 = ["default/api", "default/api:v1"] := rfl
    have hid : id ∈ ["default/api", "default/api:v1"] := hexpired ▸ hid
    simp only [mem_cons, not_mem_nil, or_false] at hid
    rcases hid with rfl | rfl
    · left
      have hother : "default/api" ≠ "default/api:v1" := by decide
      refine ⟨fun bytes hb => ?_, fun config hc => ?_⟩
      · have heq : ("default/api", bytes) = ("default/api:v1", [0, 97, 115, 109]) :=
          mem_singleton.mp hb
        exact hother (congrArg Prod.fst heq)
      · have heq : ("default/api", config) = ("default/api:v1", deployApi.config) :=
          mem_singleton.mp hc
        exact hother (congrArg Prod.fst heq)
    · exact .inr ⟨"default/api", hexpired ▸ mem_cons_self, by decide⟩

end WasmCloud
