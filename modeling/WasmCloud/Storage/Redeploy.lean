import WasmCloud.Storage.Lifecycle

/-!
# Deploying While the Collector Runs

A collection reads the expired names in one transaction and purges them in later ones. A
deployment in between clears the marker too late. The purge of an identifier deletes the routes
that lead to it; the purge of a bare name takes the artifacts and configurations of all its
versions. Here deployments and collections are processes that make one transaction at a time;
`Storage.Lifecycle` has each of them in one piece.

Beside the store the system keeps a ledger of what the collections have purged. A deployment
that returned has stored everything, so what is missing later was purged, and the ledger knows.

## Main definitions

* `DeployRequest.advance`, `purgeTasks`: The transactions of a deployment and of a purge.
* `redeployStep`: One transaction of one of them, or of somebody else.
* `RedeployLedger`: What was purged since it was stored, and the deployments that returned.

## Theorems

* `advance_prepares`: A deployment has stored what the phases before have to store.
* `inv_step`: What is neither in the store nor purged was never stored.
* `redeployed_kept_iff`: A deployment survives exactly if nothing of it was purged.
-/

namespace WasmCloud

open Function

/-- A purge has its own, since what matters is whose they are. -/
inductive StoreTx where
  | saveRawWasm (sha256 : String) (bytes : List UInt8)
  | storeArtifact (id : AppId) (bytes : List UInt8)
  | saveConfig (config : AppConfig)
  | saveArtifactHash (id : AppId) (sha256 : String)
  | markDeployed (app : String)
  | markUndeployed (app : String) (now : Nat)
  | saveRoute (route : Route)
  | deleteRoute (host : String)
  | purgeArtifacts (name : String)
  | purgeRawWasm (name : String)
  | purgeConfigs (name : String)
  | purgeMetrics (name : String)
  | purgeRoute (host : String)
  | purgeMarker (name : String)

def StoreTx.apply (s : Store) : StoreTx → Store
  | .saveRawWasm sha256 bytes => s.saveRawWasm sha256 bytes
  | .storeArtifact id bytes => s.storeArtifact id bytes
  | .saveConfig config => s.saveConfig config
  | .saveArtifactHash id sha256 => s.saveArtifactHash id sha256
  | .markDeployed app => s.markDeployed app
  | .markUndeployed app now => s.markUndeployed app now
  | .saveRoute route => s.saveRoute route
  | .deleteRoute host => s.deleteRoute host
  | .purgeArtifacts name => { s with artifacts := Store.dropVersions s.artifacts name }
  | .purgeRawWasm name => { s with rawWasm := Store.dropVersions s.rawWasm name }
  | .purgeConfigs name => { s with configs := Store.dropVersions s.configs name }
  | .purgeMetrics name => { s with metrics := Store.dropVersions s.metrics name }
  | .purgeRoute host => s.deleteRoute host
  | .purgeMarker name => s.markDeployed name

/-- Where a deployment stands: what it looks up or commits next. -/
inductive DeployPhase where
  | placing (probes : List (Store → Bool))
  | loading (sha256 : String)
  | caching (sha256 : String) (bytes : List UInt8)
  | storing (sha256 : String) (artifact : List UInt8)
  | configuring (sha256 : String)
  | hashing (sha256 : String)
  | marking

/-- It looks something up or commits, or fails, or returns, early or not. -/
inductive DeployMove where
  | look (next : Option DeployPhase)
  | commit (tx : StoreTx) (next : Option DeployPhase)
  | skip
  | finish (tx : StoreTx)

/-- The lookups of `validate_local_placement`, one after the other. -/
def placementProbes (config : AppConfig) : List (Store → Bool) :=
  config.localDependencies.flatMap (fun dependency =>
    [fun s => !s.isUndeployed dependency.text, fun s => (s.configs.get? dependency.text).isSome,
      fun s => (s.artifacts.get? dependency.text).isSome])

/-- `handle_deploy` from a point on. -/
def DeployRequest.advance (d : DeployRequest) (s : Store) : DeployPhase → DeployMove
  | .placing (probe :: probes) => .look (if probe s then some (.placing probes) else none)
  | .placing [] =>
    match d.expectedHash with
    | none => .look none
    | some sha256 =>
      if (s.rawWasm.get? sha256).isSome then .look (some (.loading sha256))
      else if d.targeted then .look (d.fetched.map (.caching sha256))
      else .skip
  -- The artifact may have vanished since it was seen.
  | .loading sha256 =>
    .look (((s.rawWasm.get? sha256).bind (fun entry => d.compile entry.2)).map (.storing sha256))
  | .caching sha256 bytes =>
    .commit (.saveRawWasm sha256 bytes) ((d.compile bytes).map (.storing sha256))
  | .storing sha256 artifact =>
    .commit (.storeArtifact d.appId artifact) (some (.configuring sha256))
  | .configuring sha256 => .commit (.saveConfig d.config) (some (.hashing sha256))
  | .hashing sha256 => .commit (.saveArtifactHash d.appId sha256) (some .marking)
  | .marking => .finish (.markDeployed d.appId.text)

/-- `handle_deploy` up to its first lookup. -/
def DeployRequest.begin (d : DeployRequest) : Option DeployPhase :=
  if d.withinLimits && (validatePlacementContract d.config).toOption.isSome then
    some (.placing (placementProbes d.config))
  else none

/-- What a collection still has to do. -/
inductive GcTask where
  | commit (tx : StoreTx)
  | readRoutes (name : String)

/-- `purge_app_state`. -/
def purgeTasks (name : String) : List GcTask :=
  [.commit (.purgeArtifacts name), .commit (.purgeRawWasm name), .commit (.purgeConfigs name),
    .commit (.purgeMetrics name), .readRoutes name, .commit (.purgeMarker name)]

/-- Whether an application's artifact and configuration were purged since they were last stored;
    the routes added since its deployment returned, and whether a purge deleted their hosts after
    that; and the deployments that have stored the application as its own and returned. -/
structure RedeployLedger where
  purgedArtifact : String → Bool
  purgedConfig : String → Bool
  added : String → Option Route
  taken : String → Bool
  own : String → Bool

namespace RedeployLedger

def note (l : RedeployLedger) : StoreTx → RedeployLedger
  | .storeArtifact id _ => { l with purgedArtifact := update l.purgedArtifact id.text false }
  | .saveConfig config => { l with purgedConfig := update l.purgedConfig config.id.text false }
  | .markUndeployed app _ => { l with own := update l.own app false }
  | .saveRoute route =>
    { l with
      added := update l.added route.host (some route)
      taken := update l.taken route.host false }
  | .deleteRoute host => { l with added := update l.added host none }
  | .purgeArtifacts name =>
    { l with purgedArtifact := fun id => l.purgedArtifact id || Text.startsWith id (name ++ ":") }
  | .purgeConfigs name =>
    { l with purgedConfig := fun id => l.purgedConfig id || Text.startsWith id (name ++ ":") }
  | .purgeRoute host => { l with taken := update l.taken host true }
  | .saveRawWasm _ _ | .saveArtifactHash _ _ | .markDeployed _ | .purgeRawWasm _
  | .purgeMetrics _ | .purgeMarker _ => l

/-- A deployment returned. If there was one before, the routes added since that one count. -/
def noteReturn (l : RedeployLedger) (app : String) : RedeployLedger :=
  { l with
    added := fun host => (l.added host).filter (fun route => l.own app ∨ route.appId.text ≠ app)
    own := update l.own app true }

end RedeployLedger

/-- The store, the ledger, the deployments under way and the collections. -/
structure RedeployState where
  store : Store
  ledger : RedeployLedger
  calls : Nat → Option (DeployRequest × DeployPhase)
  tasks : Nat → List GcTask

/-- A transaction that is not `ok` fails, and what made it returns the error. -/
inductive RedeployEvent where
  | deployBegin (call : Nat) (d : DeployRequest)
  | deployNext (call : Nat) (ok : Bool)
  | gcBegin (collector now graceSecs : Nat)
  | gcNext (collector : Nat) (ok : Bool)
  | routeAdd (route : Route)
  | routeRemove (host : String)
  | removeMark (app : String) (now : Nat)

namespace RedeployState

variable (st : RedeployState)

def commit (tx : StoreTx) : RedeployState :=
  { st with store := tx.apply st.store, ledger := st.ledger.note tx }

/-- A deployment goes on from a point, or ends. -/
def goOn (call : Nat) (d : DeployRequest) (next : Option DeployPhase) : RedeployState :=
  { st with calls := update st.calls call (next.map (fun phase => (d, phase))) }

/-- A deployment returns. Only one that has stored its own configuration is noted. -/
def ret (d : DeployRequest) : RedeployState :=
  if d.config.id = d.appId then { st with ledger := st.ledger.noteReturn d.appId.text } else st

/-- What a collection still has to do is replaced. -/
def setTasks (collector : Nat) (tasks : List GcTask) : RedeployState :=
  { st with tasks := update st.tasks collector tasks }

end RedeployState

def redeployStep (st : RedeployState) : RedeployEvent → RedeployState
  | .deployBegin call d =>
    match st.calls call with
    | some _ => st
    | none => st.goOn call d d.begin
  | .deployNext call ok =>
    match st.calls call with
    | none => st
    | some (d, phase) =>
      if ok then
        match d.advance st.store phase with
        | .look next => st.goOn call d next
        | .commit tx next => (st.commit tx).goOn call d next
        | .skip => st.goOn call d none
        | .finish tx => ((st.commit tx).ret d).goOn call d none
      else st.goOn call d none
  | .gcBegin collector now graceSecs =>
    match st.tasks collector with
    | _ :: _ => st
    | [] => st.setTasks collector ((st.store.expiredApps now graceSecs).flatMap purgeTasks)
  | .gcNext collector ok =>
    match st.tasks collector with
    | [] => st
    | task :: tasks =>
      if ok then
        match task with
        | .commit tx => (st.commit tx).setTasks collector tasks
        | .readRoutes name =>
          st.setTasks collector ((st.store.listRoutesForApp name).map
            (fun route => GcTask.commit (.purgeRoute route.host)) ++ tasks)
      else st.setTasks collector []
  | .routeAdd route => st.commit (.saveRoute route)
  | .routeRemove host => st.commit (.deleteRoute host)
  | .removeMark app now => st.commit (.markUndeployed app now)

def RedeployState.new (s : Store) : RedeployState :=
  ⟨s, ⟨fun _ => false, fun _ => false, fun _ => none, fun _ => false, fun _ => false⟩,
    fun _ => none, fun _ => []⟩

variable {tx : StoreTx} {call : Nat} {next : Option DeployPhase} {app id : String}
  {l : RedeployLedger} {phase : DeployPhase} {d : DeployRequest} {s : Store} {st}

section Tables

variable {V : Type} {t : KeyedTable V} {purged : String → Bool}

/-- What was stored under an identifier is there, or was purged. -/
def Recorded (t : KeyedTable V) (purged : String → Bool) (id : String) : Prop :=
  (t.get? id).isSome ∨ purged id = true

/-- What was purged is not there. -/
def Gone (t : KeyedTable V) (purged : String → Bool) : Prop :=
  ∀ id, purged id = true → (t.get? id).isSome = false

theorem recorded_insert (entry : String × V) :
    Recorded (t.insert entry) (update purged entry.1 false) entry.1 := by
  simp [Recorded, OrdTable.get?_insert]

theorem Recorded.insert (h : Recorded t purged id) (entry : String × V) :
    Recorded (t.insert entry) (update purged entry.1 false) id := by
  simp only [Recorded, OrdTable.get?_insert] at h ⊢
  grind [update_apply]

theorem Gone.insert (h : Gone t purged) (entry : String × V) :
    Gone (t.insert entry) (update purged entry.1 false) := by
  intro id hpurged
  have hold := h id
  rw [OrdTable.get?_insert]
  grind [update_apply]

theorem isSome_dropVersions (t : KeyedTable V) (name id : String) :
    ((Store.dropVersions t name).get? id).isSome =
      ((t.get? id).isSome && !Text.startsWith id (name ++ ":")) := by
  rw [Bool.eq_iff_iff, Bool.and_eq_true, keyed_isSome_iff, keyed_isSome_iff, Bool.not_eq_true']
  simp [mem_dropVersions]

theorem Recorded.dropVersions (h : Recorded t purged id) (name : String) :
    Recorded (Store.dropVersions t name)
      (fun id => purged id || Text.startsWith id (name ++ ":")) id := by
  simp only [Recorded, isSome_dropVersions] at h ⊢
  grind

theorem Gone.dropVersions (h : Gone t purged) (name : String) : Gone (Store.dropVersions t name)
    (fun id => purged id || Text.startsWith id (name ++ ":")) := by
  intro id hpurged
  have hold := h id
  rw [isSome_dropVersions]
  grind

end Tables

/-- What a deployment has stored when it comes to a phase. -/
def Prepared (l : RedeployLedger) (s : Store) (d : DeployRequest) : DeployPhase → Prop
  | .placing _ | .loading _ | .caching _ _ | .storing _ _ => True
  | .configuring _ => Recorded s.artifacts l.purgedArtifact d.appId.text
  | .hashing _ => Recorded s.artifacts l.purgedArtifact d.appId.text ∧
      Recorded s.configs l.purgedConfig d.config.id.text
  | .marking => Recorded s.artifacts l.purgedArtifact d.appId.text ∧
      Recorded s.configs l.purgedConfig d.config.id.text ∧
      (s.artifactHashes.get? d.appId.text).isSome

/-- The ledger is right about what was purged, deployments under way have stored what they
    should, and so have those that returned. -/
structure RedeployInv (st : RedeployState) : Prop where
  artifacts : Gone st.store.artifacts st.ledger.purgedArtifact
  configs : Gone st.store.configs st.ledger.purgedConfig
  routes : ∀ host route, st.ledger.added host = some route →
    st.store.loadRoute host = bif st.ledger.taken host then none else some route
  calls : ∀ call d phase, st.calls call = some (d, phase) → Prepared st.ledger st.store d phase
  own : ∀ app, st.ledger.own app = true →
    Recorded st.store.artifacts st.ledger.purgedArtifact app ∧
      Recorded st.store.configs st.ledger.purgedConfig app ∧
      (st.store.artifactHashes.get? app).isSome ∧ st.store.isUndeployed app = false

theorem artifact_commit (h : Recorded s.artifacts l.purgedArtifact id) (tx : StoreTx) :
    Recorded (tx.apply s).artifacts (l.note tx).purgedArtifact id := by
  cases tx with
  | storeArtifact other bytes => exact h.insert (other.text, bytes)
  | purgeArtifacts name => exact h.dropVersions name
  | _ => exact h

theorem config_commit (h : Recorded s.configs l.purgedConfig id) (tx : StoreTx) :
    Recorded (tx.apply s).configs (l.note tx).purgedConfig id := by
  cases tx with
  | saveConfig config => exact h.insert (config.id.text, config)
  | purgeConfigs name => exact h.dropVersions name
  | _ => exact h

theorem hash_commit (h : (s.artifactHashes.get? id).isSome) (tx : StoreTx) :
    ((tx.apply s).artifactHashes.get? id).isSome := by
  cases tx with
  | saveArtifactHash other sha256 =>
    simp only [StoreTx.apply, Store.saveArtifactHash, OrdTable.get?_insert]
    grind
  | _ => exact h

theorem prepared_commit (h : Prepared l s d phase) (tx : StoreTx) :
    Prepared (l.note tx) (tx.apply s) d phase := by
  cases phase with
  | configuring sha256 => exact artifact_commit h tx
  | hashing sha256 => exact ⟨artifact_commit h.1 tx, config_commit h.2 tx⟩
  | marking => exact ⟨artifact_commit h.1 tx, config_commit h.2.1 tx, hash_commit h.2.2 tx⟩
  | _ => trivial

/-- Only a removal marks an application, and that ends what was noted of it. -/
theorem unmarked_commit (hown : (l.note tx).own id = true)
    (h : l.own id = true → s.isUndeployed id = false) :
    l.own id = true ∧ (tx.apply s).isUndeployed id = false := by
  cases tx with
  | markUndeployed app now =>
    simp only [RedeployLedger.note, StoreTx.apply, isUndeployed_markUndeployed] at hown ⊢
    grind [update_apply]
  | markDeployed app | purgeMarker app =>
    refine ⟨hown, ?_⟩
    simp only [StoreTx.apply, isUndeployed_markDeployed, h hown]
    simp
  | _ => exact ⟨hown, h hown⟩

theorem routes_commit (tx : StoreTx) {host : String} {route : Route}
    (h : l.added host = some route →
      s.loadRoute host = bif l.taken host then none else some route)
    (hadded : (l.note tx).added host = some route) :
    (tx.apply s).loadRoute host = bif (l.note tx).taken host then none else some route := by
  cases tx with
  | saveRoute other | deleteRoute other | purgeRoute other =>
    simp only [StoreTx.apply, RedeployLedger.note, Store.loadRoute, Store.saveRoute,
      Store.deleteRoute, OrdTable.get?_insert, OrdTable.get?_remove] at hadded h ⊢
    grind [update_apply]
  | _ => exact h hadded

theorem inv_commit (h : RedeployInv st) (tx : StoreTx) : RedeployInv (st.commit tx) where
  artifacts := by
    cases tx with
    | storeArtifact other bytes => exact h.artifacts.insert (other.text, bytes)
    | purgeArtifacts name => exact h.artifacts.dropVersions name
    | _ => exact h.artifacts
  configs := by
    cases tx with
    | saveConfig config => exact h.configs.insert (config.id.text, config)
    | purgeConfigs name => exact h.configs.dropVersions name
    | _ => exact h.configs
  routes := fun host route => routes_commit tx (h.routes host route)
  calls := fun call d phase hcall => prepared_commit (h.calls call d phase hcall) tx
  own := fun app hown => by
    rcases unmarked_commit hown fun hold => (h.own app hold).2.2.2 with ⟨hold, hunmarked⟩
    rcases h.own app hold with ⟨hartifact, hconfig, hhash, -⟩
    exact ⟨artifact_commit hartifact tx, config_commit hconfig tx, hash_commit hhash tx, hunmarked⟩

theorem inv_goOn (h : RedeployInv st)
    (hnext : ∀ phase, next = some phase → Prepared st.ledger st.store d phase) :
    RedeployInv (st.goOn call d next) := by
  refine ⟨h.artifacts, h.configs, h.routes, fun other e phase hcall => ?_, h.own⟩
  have hold := h.calls other e phase
  simp only [RedeployState.goOn, update_apply] at hcall ⊢
  grind [Option.map_eq_some_iff]

theorem inv_return (h : RedeployInv st) (hprepared : Prepared st.ledger st.store d .marking)
    (hunmarked : st.store.isUndeployed d.appId.text = false) : RedeployInv (st.ret d) := by
  rw [RedeployState.ret]
  split
  · rename_i hid
    refine ⟨h.artifacts, h.configs, fun host route hadded => ?_, h.calls, fun app hown => ?_⟩
    · exact h.routes host route (Option.filter_eq_some_iff.mp hadded).1
    · by_cases heq : app = d.appId.text
      · subst heq
        rcases hprepared with ⟨hartifact, hconfig, hhash⟩
        rw [hid] at hconfig
        exact ⟨hartifact, hconfig, hhash, hunmarked⟩
      · exact h.own app ((update_of_ne heq _ _).symm.trans hown)
  · exact h

/-- A deployment has stored what the phases before have to store. -/
theorem advance_prepares (d : DeployRequest) (st : RedeployState) (phase : DeployPhase)
    (h : Prepared st.ledger st.store d phase) :
    match d.advance st.store phase with
    | .look next => ∀ p, next = some p → Prepared st.ledger st.store d p
    | .commit tx next => ∀ p, next = some p → Prepared (st.ledger.note tx) (tx.apply st.store) d p
    | .skip => True
    | .finish tx => phase = .marking ∧ tx = .markDeployed d.appId.text := by
  cases phase with
  | placing probes =>
    cases probes with
    | nil => grind [DeployRequest.advance, Prepared, Option.map_eq_some_iff]
    | cons probe probes => grind [DeployRequest.advance, Prepared]
  | loading sha256 => grind [DeployRequest.advance, Prepared, Option.map_eq_some_iff]
  | caching sha256 bytes => grind [DeployRequest.advance, Prepared, Option.map_eq_some_iff]
  | storing sha256 artifact =>
    rintro p ⟨⟩
    exact recorded_insert (d.appId.text, artifact)
  | configuring sha256 =>
    rintro p ⟨⟩
    exact ⟨artifact_commit h _, recorded_insert (d.config.id.text, d.config)⟩
  | hashing sha256 =>
    rintro p ⟨⟩
    refine ⟨artifact_commit h.1 _, config_commit h.2 _, ?_⟩
    simp [StoreTx.apply, Store.saveArtifactHash, OrdTable.get?_insert]
  | marking => exact ⟨rfl, rfl⟩

theorem inv_setTasks (h : RedeployInv st) (collector : Nat) (tasks : List GcTask) :
    RedeployInv (st.setTasks collector tasks) :=
  ⟨h.artifacts, h.configs, h.routes, h.calls, h.own⟩

theorem inv_advance (h : RedeployInv st) (hcall : st.calls call = some (d, phase)) :
    RedeployInv (redeployStep st (.deployNext call true)) := by
  have hprepares := advance_prepares d st phase (h.calls call d phase hcall)
  simp only [redeployStep, hcall, if_true]
  cases hmove : d.advance st.store phase with
  | look next =>
    rw [hmove] at hprepares
    exact inv_goOn h hprepares
  | commit tx next =>
    rw [hmove] at hprepares
    exact inv_goOn (inv_commit h tx) hprepares
  | skip => exact inv_goOn h nofun
  | finish tx =>
    rw [hmove] at hprepares
    rcases hprepares with ⟨rfl, rfl⟩
    refine inv_goOn (inv_return (inv_commit h _) (h.calls call d _ hcall) ?_) nofun
    simp [RedeployState.commit, StoreTx.apply, isUndeployed_markDeployed]

theorem inv_step (st : RedeployState) (e : RedeployEvent) (h : RedeployInv st) :
    RedeployInv (redeployStep st e) := by
  cases e with
  | deployBegin call d =>
    simp only [redeployStep]
    split
    · exact h
    · refine inv_goOn h fun phase hphase => ?_
      grind [DeployRequest.begin, Prepared]
  | deployNext call ok =>
    cases hcall : st.calls call with
    | none =>
      simp only [redeployStep, hcall]
      exact h
    | some entry =>
      cases ok with
      | true => exact inv_advance h hcall
      | false =>
        simp only [redeployStep, hcall, Bool.false_eq_true, if_false]
        exact inv_goOn h nofun
  | gcBegin collector now graceSecs =>
    simp only [redeployStep]
    split
    · exact h
    · exact inv_setTasks h _ _
  | gcNext collector ok => grind [redeployStep, inv_setTasks, inv_commit]
  | routeAdd route | routeRemove host | removeMark app now => exact inv_commit h _

theorem inv_new (s : Store) : RedeployInv (RedeployState.new s) := by
  refine ⟨fun id h => ?_, fun id h => ?_, fun host route h => ?_, fun call d phase h => ?_,
    fun app h => ?_⟩
  all_goals cases h

/-- The artifact, the configuration, the hash, the listing, and the routes added since. -/
def Survives (st : RedeployState) (app : AppId) : Prop :=
  (∃ bytes, (app.text, bytes) ∈ st.store.artifacts) ∧
    (∃ config, (app.text, config) ∈ st.store.configs) ∧
    (∃ sha256, (app.text, sha256) ∈ st.store.artifactHashes) ∧
    app ∈ st.store.listDeployedApps ∧
    ∀ host route, st.ledger.added host = some route → route.appId = app →
      st.store.loadRoute host = some route

/-- No purge took the artifact, the configuration or a route after it was put there. -/
def Untaken (l : RedeployLedger) (app : AppId) : Prop :=
  l.purgedArtifact app.text = false ∧ l.purgedConfig app.text = false ∧
    ∀ host route, l.added host = some route → route.appId = app → l.taken host = false

/-- What was recorded is there exactly if it was not purged. -/
theorem exists_mem_iff {V : Type} {t : KeyedTable V} {purged : String → Bool}
    (hgone : Gone t purged) (h : Recorded t purged id) :
    (∃ value, (id, value) ∈ t) ↔ purged id = false := by
  rw [← keyed_isSome_iff]
  have hold := hgone id
  unfold Recorded at h
  grind

/-- In every interleaving, a deployment that stored the application with its own configuration,
    returned, and was not followed by a removal survives exactly if no purge took something
    of it. -/
theorem redeployed_kept_iff (s : Store) (events : List RedeployEvent) (app : AppId) :
    let st := runAll redeployStep (RedeployState.new s) events
    st.ledger.own app.text = true → (Survives st app ↔ Untaken st.ledger app) := by
  intro st hown
  have hinv : RedeployInv st := invariant_run inv_step events (inv_new s)
  rcases hinv.own app.text hown with ⟨hartifact, hconfig, hhash, hunmarked⟩
  have hroute : ∀ host route, st.ledger.added host = some route →
      (st.store.loadRoute host = some route ↔ st.ledger.taken host = false) := by
    grind [hinv.routes]
  rw [Survives, Untaken, Store.mem_listDeployedApps, exists_mem_iff hinv.artifacts hartifact,
    exists_mem_iff hinv.configs hconfig, ← keyed_isSome_iff]
  grind

def apiRoute : Route := ⟨"api.example.com", ⟨"default/api:v1"⟩, "/", false, 1000, 1000⟩

/-- A collection reads that a name expired, then `default/api:v1` is deployed and gets a route,
    and then the collection goes on. -/
def deployedBetween (name : String) : List RedeployEvent :=
  [.removeMark name 100, .gcBegin 0 1000 60, .deployBegin 0 deployApi] ++
    List.replicate 6 (.deployNext 0 true) ++ [.routeAdd apiRoute] ++
      List.replicate 7 (.gcNext 0 true)

/-- If the name is another application's, the deployment survives. -/
theorem redeployed_kept_other : Survives (runAll redeployStep (RedeployState.new emptyStore)
      (deployedBetween "default/web:v1")) ⟨"default/api:v1"⟩ := by
  refine (redeployed_kept_iff emptyStore (deployedBetween "default/web:v1")
    ⟨"default/api:v1"⟩ rfl).mpr ⟨rfl, rfl, fun host _ _ _ => ?_⟩
  have htaken : (runAll redeployStep (RedeployState.new emptyStore)
      (deployedBetween "default/web:v1")).ledger.taken =
        update (fun _ => false) "api.example.com" false := rfl
  rw [htaken, update_eq_self]

/-- Its own loses the route; under the bare name artifact and configuration are gone as well. -/
theorem collector_takes_redeployed :
    let versioned := runAll redeployStep (RedeployState.new emptyStore)
      (deployedBetween "default/api:v1")
    let whole := runAll redeployStep (RedeployState.new emptyStore) (deployedBetween "default/api")
    (versioned.ledger.own "default/api:v1" = true ∧ ¬ Survives versioned ⟨"default/api:v1"⟩) ∧
      whole.ledger.own "default/api:v1" = true ∧ whole.store.listDeployedApps = [] ∧
      whole.store.artifacts.get? "default/api:v1" = none := by
  refine ⟨⟨rfl, fun h => ?_⟩, rfl, rfl, rfl⟩
  have hroute := h.2.2.2.2 "api.example.com" apiRoute rfl rfl
  nomatch hroute

end WasmCloud
