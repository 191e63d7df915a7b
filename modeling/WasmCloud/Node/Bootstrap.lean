import WasmCloud.Artifact.Fetch
import WasmCloud.Lib.Attempt
import WasmCloud.Node.Policy

/-!
# Joining a Cluster

A node that starts empty asks for a snapshot and takes the first that has its session and
nonce. It is written to the tables one record after the other; the artifacts are fetched
from the sender and compiled in tasks of their own. Then the session is marked as applied.

A write that fails ends the handler before the mark. A download or a compilation that fails
does not, and the artifact is then not there. Undeploy markers are not cleared either, so an
application that was once removed on this node stays unlisted.

## Main definitions

* `handleStateSnapshot`: The handler, write by write.
* `bootstrapStep`: A snapshot arrives, or a compilation ends.
* `delivered`, `Compiles`: The tasks of the entries whose bytes came, and one of them succeeds.

## Theorems

* `forM_importArtifact_tasks`: An import starts a task for each entry whose bytes came.
* `applied_run`: After the mark, artifacts come from the tasks and nothing else changes.
* `bootstrap_complete_iff`: When an application of the imported snapshot is complete.
-/

namespace WasmCloud

open Attempt

inductive SecretTransportPayload where
  | plaintextUtf8V1 (value : String)
  | nodeTransportCiphertextV1 (ciphertext : List UInt8)
  | bootstrapPeerCiphertextV1 (ciphertext : List UInt8)
  deriving DecidableEq, Repr

structure SecretTransportEnvelope where
  version : UInt32
  payload : SecretTransportPayload
  deriving DecidableEq, Repr

structure SecretTransportEntry where
  appId : String
  key : String
  envelope : SecretTransportEnvelope
  deriving DecidableEq, Repr

/-- `BootstrapArtifactFetchAuthorization`, as far as the import looks into it. -/
structure ArtifactFetchAuthorization where
  appId : String
  sha256 : String
  artifactUrl : String
  deriving DecidableEq, Repr

/-- `Event::StateSnapshot`. -/
structure BootstrapSnapshot extends StateSnapshot where
  forNodeId : String
  sessionId : String
  nonce : String
  encryptedSecrets : List SecretTransportEntry
  artifactFetches : List ArtifactFetchAuthorization

/-- The authorization for a hash. Of several the map keeps the last one. -/
def BootstrapSnapshot.fetchFor (snapshot : BootstrapSnapshot) (sha256 : String) :
    Option ArtifactFetchAuthorization :=
  snapshot.artifactFetches.reverse.find? (fun fetch => fetch.sha256 = sha256)

/-- `committed` is how many transactions get through, `decrypt` the session's key, `provider`
    whether a secret is stored. `fetch` is by the place of an artifact in the list; `load` is
    what an attempt to load one gives while it is waited for, as others write that table too. -/
structure BootstrapEnv where
  committed : Nat
  decrypt : List UInt8 → Except PlatformError (List UInt8)
  debug : SecretTransportPayload → String
  provider : SecretTransportEntry → Bool
  fetch : Nat → ArtifactFetchAuthorization → Option (List UInt8)
  load : Nat → Nat → Option (List UInt8)
  appliedRecord : String

/-- `BootstrapSessionState`. -/
structure BootstrapSession where
  sessionId : String
  nonce : String
  applied : Bool
  deriving DecidableEq, Repr

/-- The compilation of an artifact, in a task of its own. -/
structure CompileTask where
  appId : AppId
  raw : List UInt8
  ended : Bool
  deriving DecidableEq, Repr

/-- `writable` is how many transactions of the running handler still get through. -/
structure BootstrapNode where
  node : ClusterNode
  secrets : String → String → Option String
  session : Option BootstrapSession
  tasks : List CompileTask
  writable : Nat

namespace BootstrapNode

def store (st : BootstrapNode) : Store := st.node.routing.store

/-- The tables a snapshot is written to. -/
def tables (st : BootstrapNode) : NodeTables :=
  ⟨st.store, st.node.gatewayConfigs, st.node.apiKeys⟩

def applied (st : BootstrapNode) : Bool := st.session.any BootstrapSession.applied

def setApplied (st : BootstrapNode) : BootstrapNode :=
  { st with session := st.session.map (fun session => { session with applied := true }) }

def setSecret (st : BootstrapNode) (appId key value : String) : BootstrapNode :=
  { st with secrets := fun a k => if a = appId ∧ k = key then some value else st.secrets a k }

def spawnTask (st : BootstrapNode) (appId : AppId) (raw : List UInt8) : BootstrapNode :=
  { st with tasks := st.tasks ++ [⟨appId, raw, false⟩] }

end BootstrapNode

def ClusterNode.mapStore (n : ClusterNode) (f : Store → Store) : ClusterNode :=
  { n with routing := { n.routing with store := f n.routing.store } }

def Store.saveMeta (s : Store) (key value : String) : Store :=
  { s with schemaMeta := s.schemaMeta.insert (key, value) }

def Store.deleteMeta (s : Store) (key : String) : Store :=
  { s with schemaMeta := s.schemaMeta.remove key }

def bootstrapPendingMetaKey : String := "bootstrap.pending_session"

def bootstrapAppliedMetaKey : String := "bootstrap.applied_session"

section Import

variable (env : BootstrapEnv) (snapshot : BootstrapSnapshot)

/-- One transaction, and what is done in memory when it got through. -/
def writeNode (f : ClusterNode → ClusterNode) : Attempt BootstrapNode PlatformError Unit := do
  let st ← get
  if st.writable = 0 then Attempt.ofExcept (.error (.storage "transaction failed"))
  else Attempt.update (fun st => { st with node := f st.node, writable := st.writable - 1 })

def decryptBootstrapSecret (envelope : SecretTransportEnvelope) : Except PlatformError String := do
  if envelope.version ≠ 1 then
    throw (.messaging ("unsupported bootstrap secret transport version " ++
      toString envelope.version))
  match envelope.payload with
  | .bootstrapPeerCiphertextV1 ciphertext =>
    let plaintext ← env.decrypt ciphertext
    (Text.fromUtf8 plaintext).elim (throw (.encryption "bootstrap secret not valid UTF-8")) pure
  | other =>
    throw (.messaging ("unexpected bootstrap secret payload variant: " ++ env.debug other))

def importSecret (entry : SecretTransportEntry) : Attempt BootstrapNode PlatformError Unit := do
  let plaintext ← Attempt.ofExcept (decryptBootstrapSecret env entry.envelope)
  if env.provider entry then
    Attempt.update (fun st => st.setSecret entry.appId entry.key plaintext)
  else Attempt.ofExcept (.error (.storage "secret not stored"))

/-- Routes, gateway configurations, API keys, secrets and hashes of a snapshot. -/
def importOtherRecords : Attempt BootstrapNode PlatformError Unit := do
  snapshot.routes.forM (fun route =>
    writeNode (fun n => { n with routing := handleRouteAdd n.routing route true }))
  snapshot.gatewayConfigs.forM (fun entry =>
    writeNode (fun n => handleGatewayConfigUpdate n ⟨entry.1⟩ entry.2 true))
  snapshot.apiKeys.forM (fun entry => writeNode (fun n => importKeys n entry))
  snapshot.encryptedSecrets.forM (importSecret env)
  snapshot.artifactHashes.forM (fun entry =>
    writeNode (fun n => n.mapStore (·.saveArtifactHash ⟨entry.1⟩ entry.2)))

def importRecords : Attempt BootstrapNode PlatformError Unit := do
  snapshot.configs.forM (fun config => writeNode (fun n => n.mapStore (·.saveConfig config)))
  importOtherRecords env snapshot

/-- An artifact without a fetch is waited for, with as many more attempts as are left. -/
def awaitRawWasm (entry : Nat) : Nat → Option (List UInt8)
  | 0 => env.load entry 0
  | left + 1 => (env.load entry (left + 1)).orElse fun _ => awaitRawWasm entry left

/-- The bytes of an artifact, if they can be had. -/
def obtainArtifact (entry : (String × String) × Nat) : Option (List UInt8) :=
  match snapshot.fetchFor entry.1.2 with
  | some fetch => env.fetch entry.2 fetch
  | none => awaitRawWasm env entry.2 50

/-- What was fetched is stored. -/
def saveFetched (sha256 : String) (raw : List UInt8) : Attempt BootstrapNode PlatformError Unit :=
  if (snapshot.fetchFor sha256).isSome then
    writeNode (fun n => n.mapStore (·.saveRawWasm sha256 raw))
  else pure ()

/-- One artifact: its compilation is started, or a warning is logged. -/
def importArtifact (entry : (String × String) × Nat) : Attempt BootstrapNode PlatformError Unit :=
  match obtainArtifact env snapshot entry with
  | some raw => do
    saveFetched snapshot entry.1.2 raw
    update (fun st => st.spawnTask ⟨entry.1.1⟩ raw)
  | none => pure ()

/-- `persist_applied_bootstrap_session`. -/
def persistAppliedSession : Attempt BootstrapNode PlatformError Unit := do
  writeNode (fun n => n.mapStore (·.saveMeta bootstrapAppliedMetaKey env.appliedRecord))
  writeNode (fun n => n.mapStore (·.deleteMeta bootstrapPendingMetaKey))

/-- The import of a snapshot that is accepted. -/
def importAll : Attempt BootstrapNode PlatformError Unit := do
  importRecords env snapshot
  snapshot.artifactHashes.zipIdx.forM (importArtifact env snapshot)

def handleStateSnapshot : Attempt BootstrapNode PlatformError Unit := do
  let st ← get
  match st.session with
  | none => pure ()
  | some session =>
    if session.applied then pure ()
    else if session.sessionId ≠ snapshot.sessionId ∨ session.nonce ≠ snapshot.nonce then pure ()
    else do
      importAll env snapshot
      update BootstrapNode.setApplied
      persistAppliedSession env

end Import

/-- `spawn` of an application that has no pool yet, up to its artifact. -/
def firstSpawn (s : Store) (appId : AppId) : Except PlatformError (AppConfig × List UInt8) := do
  if s.isUndeployed appId.text then throw (.appNotFound (appId.text ++ " is undeployed"))
  let config ← (s.configs.get? appId.text).elim (throw (.appNotFound appId.text)) pure
  let artifact ← (s.artifacts.get? appId.text).elim
    (throw (.appNotFound ("no artifact for " ++ appId.text))) pure
  return (config.2, artifact.2)

/-- A snapshot arrives, or a task ends, with its compilation and whether that is stored. Tasks
    are numbered as they are started. A task only touches artifacts, so it might as well end
    after the handler. -/
inductive BootstrapEvent where
  | snapshot (env : BootstrapEnv) (snapshot : BootstrapSnapshot)
  | task (number : Nat) (compiled : Option (List UInt8)) (stored : Bool)

/-- A task stores what it has compiled, or logs a warning. -/
def CompileTask.finish (task : CompileTask) (st : BootstrapNode) (compiled : Option (List UInt8))
    (stored : Bool) : BootstrapNode :=
  match compiled with
  | some artifact =>
    if stored then { st with node := st.node.mapStore (·.storeArtifact task.appId artifact) }
    else st
  | none => st

def bootstrapStep (st : BootstrapNode) : BootstrapEvent → BootstrapNode
  | .snapshot env snapshot =>
    if snapshot.forNodeId = st.node.nodeId then
      { ((handleStateSnapshot env snapshot).exec { st with writable := env.committed }).2 with
        writable := st.writable }
    else st
  | .task number compiled stored =>
    match st.tasks[number]? with
    | none => st
    | some task =>
      if task.ended then st
      else
        let tasks := st.tasks.set number { task with ended := true }
        task.finish { st with tasks := tasks } compiled stored

/-- An import leaves artifacts, markers and the session, and only adds configurations. -/
structure Imports (st t : BootstrapNode) : Prop where
  artifacts : t.store.artifacts = st.store.artifacts
  marks : ∀ id, t.store.isUndeployed id = st.store.isUndeployed id
  configs : ∀ key, (∃ config, (key, config) ∈ st.store.configs) →
    ∃ config, (key, config) ∈ t.store.configs
  session : t.session = st.session

/-- Nothing that is written starts a task. -/
structure Writes (st t : BootstrapNode) : Prop extends Imports st t where
  tasks : t.tasks = st.tasks

instance : Std.Refl Imports := ⟨fun _ => ⟨rfl, fun _ => rfl, fun _ h => h, rfl⟩⟩

instance : IsTrans BootstrapNode Imports :=
  ⟨fun _ _ _ h h' => ⟨h'.artifacts.trans h.artifacts, fun id => (h'.marks id).trans (h.marks id),
    fun key hkey => h'.configs key (h.configs key hkey), h'.session.trans h.session⟩⟩

instance : Std.Refl Writes := ⟨fun _ => ⟨refl _, rfl⟩⟩

instance : IsTrans BootstrapNode Writes :=
  ⟨fun _ _ _ h h' => ⟨IsTrans.trans _ _ _ h.toImports h'.toImports, h'.tasks.trans h.tasks⟩⟩

abbrev Writing {α : Type} (x : Attempt BootstrapNode PlatformError α) : Prop :=
  Attempt.Within Writes (fun _ => True) x

variable {f : ClusterNode → ClusterNode}

theorem writing_write
    (hartifacts : ∀ n, (f n).routing.store.artifacts = n.routing.store.artifacts)
    (hmarks : ∀ n id, (f n).routing.store.isUndeployed id = n.routing.store.isUndeployed id)
    (hconfigs : ∀ n key, (∃ config, (key, config) ∈ n.routing.store.configs) →
      ∃ config, (key, config) ∈ (f n).routing.store.configs) : Writing (writeNode f) := by
  refine within_bind within_get (fun st => ?_)
  split
  · exact within_ofExcept (fun _ _ => trivial)
  · exact within_update (fun st =>
      ⟨⟨hartifacts st.node, hmarks st.node, hconfigs st.node, rfl⟩, rfl⟩)

theorem writing_secret (env : BootstrapEnv) (entry : SecretTransportEntry) :
    Writing (importSecret env entry) := by
  refine within_bind (within_ofExcept (fun _ _ => trivial)) (fun plaintext => ?_)
  split
  · exact within_update (fun _ => ⟨⟨rfl, fun _ => rfl, fun _ h => h, rfl⟩, rfl⟩)
  · exact within_ofExcept (fun _ _ => trivial)

theorem writing_config (config : AppConfig) :
    Writing (writeNode (fun n => n.mapStore (·.saveConfig config))) := by
  refine writing_write (fun _ => rfl) (fun _ _ => rfl) (fun n key hkey => ?_)
  exact exists_mem_insert_iff.mpr (.inr hkey)

theorem writing_others (env : BootstrapEnv) (snapshot : BootstrapSnapshot) :
    Writing (importOtherRecords env snapshot) := by
  have hplain {f : ClusterNode → ClusterNode}
      (hf : ∀ n, (f n).routing.store = n.routing.store) : Writing (writeNode f) :=
    writing_write (fun n => by rw [hf]) (fun n _ => by rw [hf]) (fun n _ h => by rwa [hf])
  refine within_bind (within_forM (fun route _ => writing_write (fun _ => rfl)
    (fun _ _ => rfl) (fun _ _ h => h))) (fun _ => ?_)
  refine within_bind (within_forM (fun entry _ => hplain (fun _ => rfl))) (fun _ => ?_)
  refine within_bind (within_forM (fun entry _ => hplain (fun _ => rfl))) (fun _ => ?_)
  refine within_bind (within_forM (fun entry _ => writing_secret env entry)) (fun _ => ?_)
  exact within_forM (fun entry _ => writing_write (fun _ => rfl) (fun _ _ => rfl) (fun _ _ h => h))

theorem writing_records (env : BootstrapEnv) (snapshot : BootstrapSnapshot) :
    Writing (importRecords env snapshot) :=
  within_bind (within_forM (fun config _ => writing_config config))
    (fun _ => writing_others env snapshot)

theorem undeployKey_ne {key : String} (h : key.toList.head? = some 'b') (id : String) :
    Store.undeployKey id ≠ key := by
  intro heq
  rw [← heq, Store.undeployKey, String.toList_append] at h
  simp at h

theorem writing_persist (env : BootstrapEnv) : Writing (persistAppliedSession env) := by
  refine within_bind ?_ (fun _ => ?_)
  all_goals
    refine writing_write (fun _ => rfl) (fun n id => ?_) (fun _ _ h => h)
    simp only [ClusterNode.mapStore, Store.saveMeta, Store.deleteMeta, Store.isUndeployed,
      OrdTable.get?_insert, OrdTable.get?_remove]
    rw [if_neg (undeployKey_ne (by decide) id)]

variable {env : BootstrapEnv} {st t : BootstrapNode} {snapshot : BootstrapSnapshot}

/-- The tasks that an import starts: those of the entries whose bytes can be had. -/
def delivered (env : BootstrapEnv) (snapshot : BootstrapSnapshot)
    (entries : List ((String × String) × Nat)) : List CompileTask :=
  entries.filterMap fun entry =>
    (obtainArtifact env snapshot entry).map (⟨⟨entry.1.1⟩, ·, false⟩)

theorem writing_fetched (snapshot : BootstrapSnapshot) (sha256 : String) (raw : List UInt8) :
    Writing (saveFetched snapshot sha256 raw) := by
  rw [saveFetched]
  split
  · exact writing_write (fun _ => rfl) (fun _ _ => rfl) (fun _ _ h => h)
  · exact within_pure ()

theorem importing_artifact (env : BootstrapEnv) (snapshot : BootstrapSnapshot)
    (entry : (String × String) × Nat) :
    Attempt.Within Imports (fun _ => True) (importArtifact env snapshot entry) := by
  rw [importArtifact]
  split
  · refine within_bind (fun st result t h =>
      ⟨(writing_fetched snapshot _ _ st result t h).1.toImports, fun _ _ => trivial⟩)
      (fun _ => within_update fun _ => ?_)
    exact ⟨rfl, fun _ => rfl, fun _ h => h, rfl⟩
  · exact within_pure ()

theorem importing_all (env : BootstrapEnv) (snapshot : BootstrapSnapshot) :
    Attempt.Within Imports (fun _ => True) (importAll env snapshot) :=
  within_bind (fun st result t h => ⟨(writing_records env snapshot st result t h).1.toImports,
    fun _ _ => trivial⟩)
    (fun _ => within_forM (fun entry _ => importing_artifact env snapshot entry))

/-- A loop over entries that gets through starts the tasks of all of them. -/
theorem forM_importArtifact_tasks {entries : List ((String × String) × Nat)}
    (h : (entries.forM (importArtifact env snapshot)).exec st = (.ok (), t)) :
    t.tasks = st.tasks ++ delivered env snapshot entries := by
  induction entries generalizing st with
  | nil =>
    cases h
    exact (List.append_nil _).symm
  | cons entry entries ih =>
    rcases exec_bind_ok_iff.mp h with ⟨_, u, hfirst, hrest⟩
    rw [ih hrest, delivered, delivered, List.filterMap_cons]
    rw [importArtifact] at hfirst
    cases hraw : obtainArtifact env snapshot entry with
    | none =>
      rw [hraw] at hfirst
      cases hfirst
      rfl
    | some raw =>
      rw [hraw] at hfirst
      rcases exec_bind_ok_iff.mp hfirst with ⟨_, v, hwrite, hspawn⟩
      cases hspawn
      have htasks := (writing_fetched snapshot _ raw st _ v hwrite).1.tasks
      simp [BootstrapNode.spawnTask, htasks]

theorem importAll_ok (h : (importAll env snapshot).exec st = (.ok (), t)) :
    t.tasks = st.tasks ++ delivered env snapshot snapshot.artifactHashes.zipIdx ∧
      ∀ config ∈ snapshot.configs, ∃ stored, (config.id.text, stored) ∈ t.store.configs := by
  rcases exec_bind_ok_iff.mp h with ⟨_, u, hrecords, hartifacts⟩
  constructor
  · rw [forM_importArtifact_tasks hartifacts,
      (writing_records env snapshot st _ u hrecords).1.tasks]
  · intro config hconfig
    rcases exec_bind_ok_iff.mp hrecords with ⟨_, v, hconfigs, hothers⟩
    -- The configuration is there after its own transaction, and nothing later takes it away.
    rcases forM_ok_reached (fun config _ => writing_config config) hconfigs config
      hconfig with ⟨w, x, hwrite, hxv⟩
    have hstored : ∃ stored, (config.id.text, stored) ∈ x.store.configs := by
      rcases exec_bind_ok_iff.mp hwrite with ⟨_, y, hget, hcommit⟩
      cases hget
      split at hcommit
      · cases hcommit
      · cases hcommit
        exact ⟨config, OrdTable.mem_insert.mpr (.inl rfl)⟩
    have hvu : Writes v u := (writing_others env snapshot v _ u hothers).1
    have hut : Imports u t :=
      (within_forM (fun entry _ => importing_artifact env snapshot entry) u _ t hartifacts).1
    exact hut.configs _ (hvu.configs _ (hxv.configs _ hstored))

/-- The snapshot is for the session that waits. -/
def Accepts (snapshot : BootstrapSnapshot) (st : BootstrapNode) : Prop :=
  ∃ session, st.session = some session ∧ session.applied = false ∧
    session.sessionId = snapshot.sessionId ∧ session.nonce = snapshot.nonce

/-- The handler does nothing, or is accepted and does a part of the import, or all of it with
    the mark. -/
theorem snapshot_cases (env : BootstrapEnv) (snapshot : BootstrapSnapshot) (st : BootstrapNode) :
    let t := ((handleStateSnapshot env snapshot).exec st).2
    t = st ∨ Accepts snapshot st ∧ (t.session = st.session ∨
      ∃ u, (importAll env snapshot).exec st = (.ok (), u) ∧ Writes u.setApplied t) := by
  intro t
  have ht : t = ((handleStateSnapshot env snapshot).exec st).2 := rfl
  rw [handleStateSnapshot, exec_bind_of_ok (exec_get st)] at ht
  rcases hsession : st.session with _ | session
  · simp only [hsession] at ht
    exact .inl ht
  · simp only [hsession] at ht
    split_ifs at ht with happlied hother
    · exact .inl ht
    · exact .inl ht
    · rw [not_or, not_not, not_not] at hother
      refine .inr ⟨⟨session, hsession, Bool.eq_false_iff.mpr happlied, hother⟩, ?_⟩
      rcases hall : (importAll env snapshot).exec st with ⟨e | ⟨⟩, u⟩
      · -- The import stops at an error.
        rw [exec_bind_of_error hall] at ht
        rw [ht, ← hsession]
        exact .inl (importing_all env snapshot st _ u hall).1.session
      · rw [exec_bind_of_ok hall, exec_bind_of_ok (exec_update _ u)] at ht
        refine .inr ⟨u, rfl, ?_⟩
        rw [ht]
        exact (writing_persist env u.setApplied _ _ rfl).1

theorem snapshot_step_of_not (h : ¬ Accepts snapshot st) :
    bootstrapStep st (.snapshot env snapshot) = st := by
  rw [bootstrapStep]
  split
  · rcases snapshot_cases env snapshot { st with writable := env.committed } with
      hsame | ⟨haccepts, -⟩
    · rw [hsame]
    · exact absurd haccepts h
  · rfl

/-- When the session is marked, all entries were gone through and all configurations stored. -/
theorem snapshot_applied (hfresh : st.applied = false)
    (happlied : (bootstrapStep st (.snapshot env snapshot)).applied = true) :
    let t := bootstrapStep st (.snapshot env snapshot)
    t.store.artifacts = st.store.artifacts ∧
      (∀ id, t.store.isUndeployed id = st.store.isUndeployed id) ∧
      t.tasks = st.tasks ++ delivered env snapshot snapshot.artifactHashes.zipIdx ∧
      ∀ config ∈ snapshot.configs, ∃ stored, (config.id.text, stored) ∈ t.store.configs := by
  have hne : ∀ {t : BootstrapNode}, t.session = st.session → t.applied = true → False := by
    intro t hsame ht
    rw [BootstrapNode.applied, hsame, ← BootstrapNode.applied, hfresh] at ht
    cases ht
  rw [bootstrapStep] at happlied ⊢
  split at happlied
  · rename_i hnode
    rw [if_pos hnode]
    rcases snapshot_cases env snapshot { st with writable := env.committed } with
      hsame | ⟨-, hsession | ⟨u, hall, hwrites⟩⟩
    · exact (hne (by rw [hsame]) happlied).elim
    · exact (hne hsession happlied).elim
    · have hi := (importing_all env snapshot _ _ u hall).1
      have hok := importAll_ok hall
      exact ⟨hwrites.artifacts.trans hi.artifacts, fun id => (hwrites.marks id).trans (hi.marks id),
        hwrites.tasks.trans hok.1,
        fun config hconfig => hwrites.configs _ (hok.2 config hconfig)⟩
  · exact (hne rfl happlied).elim

/-- The first event of a task is that it has compiled the artifact and stored it. -/
def Succeeds (n : Nat) : List BootstrapEvent → Prop
  | [] => False
  | .task number compiled stored :: events =>
    if number = n then compiled.isSome ∧ stored = true else Succeeds n events
  | .snapshot _ _ :: events => Succeeds n events

/-- A task that ends writes nothing but its artifact. -/
theorem finish_keeps (task : CompileTask) (st : BootstrapNode) (compiled : Option (List UInt8))
    (stored : Bool) :
    let t := task.finish st compiled stored
    t.tasks = st.tasks ∧ t.session = st.session ∧ t.store.configs = st.store.configs ∧
      (∀ id, t.store.isUndeployed id = st.store.isUndeployed id) ∧
      ∀ id, (∃ bytes, (id, bytes) ∈ t.store.artifacts) ↔
        (∃ bytes, (id, bytes) ∈ st.store.artifacts) ∨
          (compiled.isSome ∧ stored = true) ∧ task.appId.text = id := by
  intro t
  have ht : t = task.finish st compiled stored := rfl
  cases compiled with
  | none => exact ⟨rfl, rfl, rfl, fun _ => rfl, fun id => by simp [ht, CompileTask.finish]⟩
  | some artifact =>
    cases stored with
    | false => exact ⟨rfl, rfl, rfl, fun _ => rfl, fun id => by simp [ht, CompileTask.finish]⟩
    | true =>
      refine ⟨rfl, rfl, rfl, fun _ => rfl, fun id => exists_mem_insert_iff.trans ?_⟩
      simp [or_comm, eq_comm, BootstrapNode.store]

/-- A task for an application has not ended, and will succeed. -/
def Compiles (tasks : List CompileTask) (events : List BootstrapEvent) (id : String) : Prop :=
  ∃ n task, tasks[n]? = some task ∧ task.ended = false ∧ task.appId.text = id ∧ Succeeds n events

section Tasks

variable {tasks : List CompileTask} {events : List BootstrapEvent} {id : String} {m : Nat}
  {compiled : Option (List UInt8)} {stored : Bool} {task : CompileTask}

theorem compiles_skip (h : ∀ task, tasks[m]? = some task → task.ended = true) :
    Compiles tasks (.task m compiled stored :: events) id ↔ Compiles tasks events id := by
  refine exists_congr fun n => exists_congr fun task => and_congr_right fun htask =>
    and_congr_right fun hopen => and_congr_right fun _ => ?_
  rw [Succeeds, if_neg]
  rintro rfl
  rw [h task htask] at hopen
  cases hopen

theorem compiles_end (h : tasks[m]? = some task) (hopen : task.ended = false) :
    Compiles tasks (.task m compiled stored :: events) id ↔
      (compiled.isSome ∧ stored = true) ∧ task.appId.text = id ∨
        Compiles (tasks.set m { task with ended := true }) events id := by
  constructor
  · rintro ⟨n, other, hother, hother_open, hid, hsucceeds⟩
    by_cases hn : m = n
    · subst hn
      cases h.symm.trans hother
      rw [Succeeds, if_pos rfl] at hsucceeds
      exact .inl ⟨hsucceeds, hid⟩
    · rw [Succeeds, if_neg hn] at hsucceeds
      exact .inr ⟨n, other, (List.getElem?_set_ne hn).trans hother, hother_open, hid, hsucceeds⟩
  · rintro (⟨hsucceeds, hid⟩ | ⟨n, other, hother, hother_open, hid, hsucceeds⟩)
    · exact ⟨m, task, h, hopen, hid, by rwa [Succeeds, if_pos rfl]⟩
    · -- The task that has ended is not the one that will succeed.
      have hn : m ≠ n := by
        rintro rfl
        rw [List.getElem?_set_self (List.getElem?_eq_some_iff.mp h).1] at hother
        cases hother
        cases hother_open
      rw [List.getElem?_set_ne hn] at hother
      exact ⟨n, other, hother, hother_open, hid, by rwa [Succeeds, if_neg hn]⟩

end Tasks

/-- Once the session is marked, markers and configurations stay, further snapshots do nothing,
    and artifacts come from the tasks. -/
theorem applied_run (happlied : st.applied = true) (events : List BootstrapEvent) :
    let t := runAll bootstrapStep st events
    t.applied = true ∧ t.store.configs = st.store.configs ∧
      (∀ id, t.store.isUndeployed id = st.store.isUndeployed id) ∧
      ∀ id, (∃ bytes, (id, bytes) ∈ t.store.artifacts) ↔
        (∃ bytes, (id, bytes) ∈ st.store.artifacts) ∨ Compiles st.tasks events id := by
  induction events generalizing st with
  | nil => exact ⟨happlied, rfl, fun _ => rfl, fun _ => by simp [Compiles, Succeeds]⟩
  | cons e events ih =>
    cases e with
    | snapshot env snapshot =>
      have hnot : ¬ Accepts snapshot st := by
        rintro ⟨session, hsession, hfresh, -⟩
        rw [BootstrapNode.applied, hsession, Option.any_some, hfresh] at happlied
        cases happlied
      rw [runAll_cons, snapshot_step_of_not hnot]
      exact ih happlied
    | task m compiled stored =>
      by_cases hskip : ∀ task, st.tasks[m]? = some task → task.ended = true
      · have hstep : bootstrapStep st (.task m compiled stored) = st := by
          rw [bootstrapStep]
          split
          · rfl
          · rename_i task hget
            rw [if_pos (hskip task hget)]
        rw [runAll_cons, hstep]
        simp only [compiles_skip hskip]
        exact ih happlied
      · simp only [not_forall, Bool.not_eq_true] at hskip
        rcases hskip with ⟨task, hget, hended⟩
        have hstep : bootstrapStep st (.task m compiled stored) = task.finish
            { st with tasks := st.tasks.set m { task with ended := true } } compiled stored := by
          simp [bootstrapStep, hget, hended]
        rcases finish_keeps task { st with tasks := st.tasks.set m { task with ended := true } }
          compiled stored with ⟨htasks, hsession, hconfigs, hmarks, hartifacts⟩
        rw [← hstep] at htasks hsession hconfigs hmarks hartifacts
        rw [runAll_cons]
        rcases ih (by rw [BootstrapNode.applied, hsession]; exact happlied) with
          ⟨happlied', hconfigs', hmarks', hartifacts'⟩
        refine ⟨happlied', hconfigs'.trans hconfigs,
          fun id => (hmarks' id).trans (hmarks id), fun id => ?_⟩
        rw [hartifacts' id, hartifacts id, htasks, compiles_end hget hended, or_assoc]
        rfl

/-- It is listed, and it has its artifact or will have it before a spawn looks for it. -/
def Bootstrapped (st : BootstrapNode) (appId : AppId) : Prop :=
  appId ∈ st.store.listDeployedApps ∧
    ((∃ bytes, (appId.text, bytes) ∈ st.store.artifacts) ∨
      ∀ events : List BootstrapEvent, ∃ source,
        firstSpawn (runAll bootstrapStep st events).store appId = .ok source)

theorem artifact_of_firstSpawn {s : Store} {appId : AppId} {source : AppConfig × List UInt8}
    (h : firstSpawn s appId = .ok source) : ∃ bytes, (appId.text, bytes) ∈ s.artifacts := by
  by_cases hmark : s.isUndeployed appId.text = true
  · simp only [firstSpawn, hmark, if_true] at h
    cases h
  · simp only [firstSpawn, hmark, if_false, Bool.false_eq_true, bind_ok_iff, elim_throw_ok_iff,
      pure_ok_iff] at h
    rcases h with ⟨config, -, ⟨key, bytes⟩, hget, -⟩
    rcases OrdTable.get?_eq_some_iff.mp hget with ⟨hmem, rfl⟩
    exact ⟨bytes, hmem⟩

/-- Whatever the node has stored, and whatever fails: a snapshot changes the tables only if it
    matches the session and none was applied before. When it is applied, further snapshots change
    nothing, and an application of it is complete exactly if no marker of it was there, and its
    artifact was, or its bytes came and were compiled and stored. -/
theorem bootstrap_complete_iff (st : BootstrapNode) (env : BootstrapEnv)
    (snapshot : BootstrapSnapshot) :
    let t := bootstrapStep st (.snapshot env snapshot)
    (t.tables ≠ st.tables ∨ t.secrets ≠ st.secrets → Accepts snapshot st) ∧
    (st.applied = false → t.applied = true → ∀ events : List BootstrapEvent,
      let run := runAll bootstrapStep t events
      (∀ other, ¬ Accepts other run) ∧
      ∀ config ∈ snapshot.configs,
        (Bootstrapped run config.id ↔ st.store.isUndeployed config.id.text = false ∧
          ((∃ bytes, (config.id.text, bytes) ∈ st.store.artifacts) ∨
            Compiles (st.tasks ++ delivered env snapshot snapshot.artifactHashes.zipIdx) events
              config.id.text))) := by
  intro t
  refine ⟨fun hchange => ?_, fun hfresh happlied events => ?_⟩
  · by_contra hnot
    have hsame : t = st := snapshot_step_of_not hnot
    simp [hsame] at hchange
  · intro run
    rcases snapshot_applied hfresh happlied with ⟨hartifacts, hmarks, htasks, hconfigs⟩
    rcases applied_run happlied events with ⟨happlied', hkept, hmarks', hartifacts'⟩
    refine ⟨?_, fun config hconfig => ?_⟩
    · rintro other ⟨session, hsession, hopen, -⟩
      rw [BootstrapNode.applied, hsession, Option.any_some, hopen] at happlied'
      cases happlied'
    · have hstored := hconfigs config hconfig
      rw [← hkept] at hstored
      rw [← hmarks, ← hmarks', ← htasks, ← hartifacts, ← hartifacts']
      constructor
      · rintro ⟨hlisted, hart | hlater⟩
        · exact ⟨(Store.mem_listDeployedApps.mp hlisted).2, hart⟩
        · -- A spawn may come at once.
          rcases hlater [] with ⟨source, hsource⟩
          exact ⟨(Store.mem_listDeployedApps.mp hlisted).2, artifact_of_firstSpawn hsource⟩
      · rintro ⟨hmark, hart⟩
        exact ⟨Store.mem_listDeployedApps.mpr ⟨hstored, hmark⟩, .inl hart⟩

/-- A node that waits, with the given tables of applications. -/
def waitingNode (s : Store) : BootstrapNode where
  node := ⟨"node-1", ⟨s, OrdTable.empty⟩, OrdTable.empty, OrdTable.empty, none⟩
  secrets _ _ := none
  session := some ⟨"session-1", "nonce-1", false⟩
  tasks := []
  writable := 0

/-- A snapshot with `default/api:v1`, its hash and an authorization to fetch it. -/
def apiSnapshot : BootstrapSnapshot where
  configs := [⟨⟨"default/api:v1"⟩, "default", []⟩]
  routes := []
  gatewayConfigs := []
  apiKeys := []
  artifactHashes := [("default/api:v1", "c0ffee")]
  forNodeId := "node-1"
  sessionId := "session-1"
  nonce := "nonce-1"
  encryptedSecrets := []
  artifactFetches := [⟨"default/api:v1", "c0ffee", "http://node-0:9091/artifacts/c0ffee"⟩]

/-- Nothing fails but, if nothing is given, the download. -/
def fetchEnv (fetched : Option (List UInt8)) : BootstrapEnv where
  committed := 10
  decrypt bytes := .ok bytes
  debug _ := ""
  provider _ := true
  fetch _ _ := fetched
  load _ _ := none
  appliedRecord := ""

/-- The snapshot arrives and the artifact is compiled. -/
def joined (s : Store) (fetched : Option (List UInt8)) : BootstrapNode :=
  runAll bootstrapStep (waitingNode s)
    [.snapshot (fetchEnv fetched) apiSnapshot, .task 0 (some [1]) true]

/-- On an empty node, with the download, the application is complete. -/
theorem bootstrap_complete_fresh :
    Bootstrapped (joined emptyStore (some [0])) ⟨"default/api:v1"⟩ := by
  have hall := (bootstrap_complete_iff (waitingNode emptyStore) (fetchEnv (some [0]))
    apiSnapshot).2 rfl rfl [.task 0 (some [1]) true]
  refine (hall.2 ⟨⟨"default/api:v1"⟩, "default", []⟩ (.head _)).mpr ⟨rfl, .inr ?_⟩
  exact ⟨0, ⟨⟨"default/api:v1"⟩, [0], false⟩, rfl, rfl, rfl, rfl, rfl⟩

/-- One that was removed before is not listed; without its download there is no artifact. -/
theorem bootstrap_incomplete :
    let marked := joined (emptyStore.markUndeployed "default/api:v1" 100) (some [0])
    let missing := joined emptyStore none
    (marked.applied = true ∧ marked.store.listDeployedApps = []) ∧
    missing.applied = true ∧ missing.tasks = [] ∧
      firstSpawn missing.store ⟨"default/api:v1"⟩ =
        .error (.appNotFound "no artifact for default/api:v1") :=
  ⟨⟨rfl, rfl⟩, rfl, rfl, rfl⟩

end WasmCloud
