import WasmCloud.Gateway.Config

/-!
# The Store

The tables of a node's embedded database that hold applications, ordered by their keys. Each
operation is one transaction, so it happens as a whole or not at all.

Whether an application is deployed is derived: a configuration is there, and no undeploy marker
is. The marker lives in a table of metadata under the application's identifier.
-/

namespace WasmCloud

/-- A route from a host to an application. -/
structure Route where
  host : String
  appId : AppId
  pathPrefix : String
  stripPrefix : Bool
  createdAt : Nat
  updatedAt : Nat
  deriving DecidableEq, Repr

/-- An application's configuration, as far as deployment reads it. -/
structure AppConfig where
  id : AppId
  ns : String
  localDependencies : List AppId
  deriving DecidableEq, Repr

abbrev KeyedTable (V : Type) := OrdTable (fun entry : String × V => entry.1)

variable {V : Type} {t : KeyedTable V} {key : String}

theorem keyed_isSome_iff : (t.get? key).isSome = true ↔ ∃ value, (key, value) ∈ t := by
  constructor
  · intro h
    rcases Option.isSome_iff_exists.mp h with ⟨⟨key', value⟩, hget⟩
    rcases OrdTable.get?_eq_some_iff.mp hget with ⟨hmem, rfl⟩
    exact ⟨value, hmem⟩
  · rintro ⟨value, hmem⟩
    rw [OrdTable.get?_eq_some_iff.mpr ⟨hmem, rfl⟩]
    rfl

theorem exists_mem_insert_iff {entry : String × V} :
    (∃ value, (key, value) ∈ t.insert entry) ↔ key = entry.1 ∨ ∃ value, (key, value) ∈ t := by
  grind

structure Store where
  artifacts : KeyedTable (List UInt8)
  configs : KeyedTable AppConfig
  metrics : KeyedTable String
  routes : OrdTable Route.host
  rawWasm : KeyedTable (List UInt8)
  schemaMeta : KeyedTable String
  artifactHashes : KeyedTable String

def emptyStore : Store :=
  ⟨OrdTable.empty, OrdTable.empty, OrdTable.empty, OrdTable.empty, OrdTable.empty, OrdTable.empty,
    OrdTable.empty⟩

namespace Store

def undeployKey (appName : String) : String := "_undeploy:" ++ appName

variable (s : Store)

/-- `mark_undeployed`, at the time `now`. -/
def markUndeployed (appName : String) (now : Nat) : Store :=
  { s with schemaMeta := s.schemaMeta.insert (undeployKey appName, toString now) }

def markDeployed (appName : String) : Store :=
  { s with schemaMeta := s.schemaMeta.remove (undeployKey appName) }

def isUndeployed (appName : String) : Bool :=
  (s.schemaMeta.get? (undeployKey appName)).isSome

def storeArtifact (id : AppId) (bytes : List UInt8) : Store :=
  { s with artifacts := s.artifacts.insert (id.text, bytes) }

/-- `save_config`: the key is the identifier in the configuration. -/
def saveConfig (config : AppConfig) : Store :=
  { s with configs := s.configs.insert (config.id.text, config) }

def saveArtifactHash (id : AppId) (sha256 : String) : Store :=
  { s with artifactHashes := s.artifactHashes.insert (id.text, sha256) }

def saveRawWasm (sha256 : String) (bytes : List UInt8) : Store :=
  { s with rawWasm := s.rawWasm.insert (sha256, bytes) }

/-- `save_route`: the key is the host alone. -/
def saveRoute (route : Route) : Store := { s with routes := s.routes.insert route }

def loadRoute (host : String) : Option Route := s.routes.get? host

def listRoutes : List Route := s.routes.entries

def deleteRoute (host : String) : Store := { s with routes := s.routes.remove host }

def listApps : List AppId := s.configs.entries.map (fun entry => ⟨entry.1⟩)

def listDeployedApps : List AppId :=
  s.listApps.filter (fun id => !s.isUndeployed id.text)

def listRoutesForApp (appName : String) : List Route :=
  s.routes.entries.filter (fun route => route.appId.text = appName)

/-- A table without the keys that start with the application's name and a colon. -/
def dropVersions {V : Type} (t : KeyedTable V) (appName : String) : KeyedTable V :=
  t.filter (fun entry => !Text.startsWith entry.1 (appName ++ ":"))

/-- The names whose grace period is over. The difference wraps as in a release build. -/
def expiredApps (now graceSecs : Nat) : List String :=
  s.schemaMeta.entries.filterMap (fun entry =>
    match Text.stripPrefix entry.1 "_undeploy:" with
    | none => none
    | some appName =>
      let ts := (Text.parseU64 entry.2).getD 0
      if graceSecs < (now + 2 ^ 64 - ts) % 2 ^ 64 then some appName else none)

/-- `purge_app_state`, transaction by transaction, with the routes there are when it starts. -/
def purgeTables (appName : String) : List (Store → Store) :=
  [fun t => { t with artifacts := dropVersions t.artifacts appName },
    fun t => { t with rawWasm := dropVersions t.rawWasm appName },
    fun t => { t with configs := dropVersions t.configs appName },
    fun t => { t with metrics := dropVersions t.metrics appName }] ++
    ((s.listRoutesForApp appName).map (fun route t => t.deleteRoute route.host) ++
      [fun t => t.markDeployed appName])

theorem mem_listDeployedApps {s : Store} {id : AppId} : id ∈ s.listDeployedApps ↔
      (∃ config, (id.text, config) ∈ s.configs) ∧ s.isUndeployed id.text = false := by
  grind [listDeployedApps, listApps]

end Store

end WasmCloud
