import WasmCloud.Node.ApiKeys
import WasmCloud.Routing.Removal

/-!
# Policy Across Restarts

What a node enforces for an application lives in three caches: route configurations, API key
validators and overrides of the rate limiter. Events feed them while the node runs, a start
fills them from the tables, and a node that joins a cluster from a snapshot.

The three ways agree on route configurations only. A key that is written to the table does
not reach the running validators, and an override that comes with a deployment is not read
back. The token buckets and the secrets of a snapshot are not modelled.
-/

namespace WasmCloud

open Gateway List

/-- `RateLimitConfig`, and the equal `AppRateLimitConfig` of an application. -/
structure RateLimitConfig where
  requestsPerSecond : Nat
  burstCapacity : Nat
  perIpLimit : Nat
  deriving DecidableEq, Repr

/-- The configurations of `RateLimiter`. -/
structure RateLimiter where
  configs : KeyedTable RateLimitConfig
  defaultConfig : RateLimitConfig

namespace RateLimiter

def new (defaultConfig : RateLimitConfig) : RateLimiter := ⟨OrdTable.empty, defaultConfig⟩

def setAppConfig (limiter : RateLimiter) (appId : String) (config : RateLimitConfig) :
    RateLimiter :=
  { limiter with configs := limiter.configs.insert (appId, config) }

def removeAppConfig (limiter : RateLimiter) (appId : String) : RateLimiter :=
  { limiter with configs := limiter.configs.remove appId }

def getAppConfig (limiter : RateLimiter) (appId : String) : RateLimitConfig :=
  ((limiter.configs.get? appId).map Prod.snd).getD limiter.defaultConfig

/-- `apply_rate_limit`, for the limit in an application's configuration. -/
def applyRateLimit (limiter : RateLimiter) (appId : AppId) (rateLimit : Option RateLimitConfig) :
    RateLimiter :=
  match rateLimit with
  | some limit => limiter.setAppConfig appId.text limit
  | none => limiter.removeAppConfig appId.text

end RateLimiter

namespace Gateway

def new (oidc : Option OidcProvider) : Gateway := ⟨oidc, OrdTable.empty, OrdTable.empty, none⟩

def setApiKeyValidator (gw : Gateway) (appId : String) (validator : ApiKeyValidator) : Gateway :=
  { gw with apiKeyValidators := gw.apiKeyValidators.insert (appId, validator) }

/-- Set up a validator, unless there are no keys. -/
def installKeys (gw : Gateway) (appId : String) (keys : List ApiKeyRecord) : Gateway :=
  if keys.isEmpty then gw else gw.setApiKeyValidator appId (ApiKeyValidator.new keys)

/-- Fill a gateway with configurations, and then with keys. -/
def load (gw : Gateway) (configs : List (String × GatewayRouteConfig))
    (keys : List (String × List ApiKeyRecord)) : Gateway :=
  keys.foldl (fun g entry => g.installKeys entry.1 entry.2)
    (configs.foldl (fun g entry => g.setRouteConfig entry.1 entry.2) gw)

end Gateway

structure NodeTables where
  store : Store
  gatewayConfigs : KeyedTable GatewayRouteConfig
  apiKeys : KeyedTable (List ApiKeyRecord)

/-- The tables of a node that was never used. -/
def emptyTables : NodeTables := ⟨emptyStore, OrdTable.empty, OrdTable.empty⟩

def NodeTables.loadApiKeys (tables : NodeTables) (appId : String) : List ApiKeyRecord :=
  ((tables.apiKeys.get? appId).map Prod.snd).getD []

structure PolicyNode where
  node : ClusterNode
  limiter : RateLimiter

namespace PolicyNode

def store (n : PolicyNode) : Store := n.node.routing.store

def tables (n : PolicyNode) : NodeTables := ⟨n.store, n.node.gatewayConfigs, n.node.apiKeys⟩

/-- The gateway's configuration for an application. -/
def routeConfig (n : PolicyNode) (appId : AppId) : Option GatewayRouteConfig :=
  n.node.gateway.bind (fun gw => gw.getRouteConfig appId)

def acceptsKey (sha256 : String → String) (n : PolicyNode) (appId apiKey path : String) : Bool :=
  match n.node.gateway with
  | some gw => gw.validateApiKey sha256 appId apiKey path
  | none => false

end PolicyNode

/-- How a node is set up: its name, its token validator and the default limits. -/
structure NodeSetup where
  nodeId : String
  oidc : Option OidcProvider
  defaults : RateLimitConfig

variable (setup : NodeSetup)

/-- Everything is read from the tables, and the limiter has no overrides. -/
def startNode (tables : NodeTables) : PolicyNode where
  node :=
    { nodeId := setup.nodeId
      routing := ⟨tables.store, HostRouter.loadRoutesFromStore tables.store⟩
      gatewayConfigs := tables.gatewayConfigs
      apiKeys := tables.apiKeys
      gateway := some ((new setup.oidc).load tables.gatewayConfigs.entries
        (tables.store.listApps.map (fun id => (id.text, tables.loadApiKeys id.text)))) }
  limiter := RateLimiter.new setup.defaults

/-- The parts of a `StateSnapshot` that the tables hold. -/
structure StateSnapshot where
  configs : List AppConfig
  routes : List Route
  gatewayConfigs : List (String × GatewayRouteConfig)
  apiKeys : List (String × List ApiKeyRecord)
  artifactHashes : List (String × String)

/-- The snapshot `handle_node_joined` sends. -/
def buildSnapshot (tables : NodeTables) : StateSnapshot :=
  let appIds := tables.store.listDeployedApps
  let configs := appIds.filterMap (fun id => (tables.store.configs.get? id.text).map Prod.snd)
  { configs := configs
    routes := tables.store.listRoutes.filter (fun route => appIds.contains route.appId)
    gatewayConfigs := tables.gatewayConfigs.entries
    apiKeys := configs.filterMap (fun config =>
      let keys := tables.loadApiKeys config.id.text
      if keys.isEmpty then none else some (config.id.text, keys))
    artifactHashes := configs.filterMap (fun config =>
      (tables.store.artifactHashes.get? config.id.text).map
        (fun entry => (config.id.text, entry.2))) }

/-- The keys of one application in a snapshot. -/
def importKeys (n : ClusterNode) (entry : String × List ApiKeyRecord) : ClusterNode :=
  { n with
    apiKeys := n.apiKeys.insert entry
    gateway := n.gateway.map (fun gw => gw.installKeys entry.1 entry.2) }

/-- `handle_state_snapshot` up to the artifacts, when no write fails. -/
def importSnapshot (n : ClusterNode) (snapshot : StateSnapshot) : ClusterNode :=
  let store := snapshot.configs.foldl Store.saveConfig n.routing.store
  let routing := snapshot.routes.foldl (fun r route => handleRouteAdd r route true)
    { n.routing with store := store }
  let configured := snapshot.gatewayConfigs.foldl
    (fun m entry => handleGatewayConfigUpdate m ⟨entry.1⟩ entry.2 true)
    { n with routing := routing }
  let keyed := snapshot.apiKeys.foldl importKeys configured
  { keyed with
    routing := { keyed.routing with
      store := snapshot.artifactHashes.foldl (fun s entry => s.saveArtifactHash ⟨entry.1⟩ entry.2)
        keyed.routing.store } }

/-- A fresh node that imported a snapshot of the tables. -/
def joinNode (tables : NodeTables) : PolicyNode :=
  { startNode setup emptyTables with
    node := importSnapshot (startNode setup emptyTables).node (buildSnapshot tables) }

/-- With what the surroundings answer. The limit is that of the event's configuration. -/
inductive PolicyEvent where
  | deployApp (d : DeployRequest) (rateLimit : Option RateLimitConfig) (committed : Nat)
  | configUpdate (appId : AppId) (config : AppConfig) (rateLimit : Option RateLimitConfig)
      (withinLimits saved : Bool)
  | removeApp (env : RemoveEnv) (appId : AppId)
  | gatewayConfigUpdate (appId : AppId) (config : GatewayRouteConfig) (saved : Bool)
  | gatewayConfigRemove (appId : AppId) (deleted : Bool)
  | saveApiKeys (appId : String) (keys : List ApiKeyRecord) (saved : Bool)

variable (n : PolicyNode)

/-- `handle_config_update` gets as far as storing the configuration. -/
def configStored (config : AppConfig) (withinLimits saved : Bool) : Bool :=
  withinLimits && (validateLocalPlacement n.node.nodeId n.store config).toOption.isSome && saved

/-- `handle_deploy` gets as far as storing the configuration, two writes before the last. -/
def deployStored (d : DeployRequest) (committed : Nat) : Bool :=
  let p := deployPlan n.node.nodeId n.store d
  p.completes && decide (p.writes.length ≤ committed + 2)

/-- A node handles an event, or keys are written to its table. -/
def policyStep : PolicyEvent → PolicyNode
  | .deployApp d rateLimit committed =>
    let writes := (deployPlan n.node.nodeId n.store d).writes.take committed
    { node := { n.node with routing := { n.node.routing with store := commitAll writes n.store } }
      limiter :=
        if deployStored n d committed then n.limiter.applyRateLimit d.appId rateLimit
        else n.limiter }
  | .configUpdate appId config rateLimit withinLimits saved =>
    if configStored n config withinLimits saved then
      let store := n.store.saveConfig config
      { node := { n.node with routing := { n.node.routing with store := store } }
        limiter := n.limiter.applyRateLimit appId rateLimit }
    else n
  | .removeApp env appId =>
    let removed := handleRemove env n.node.routing appId
    { node := { n.node with routing := removed.1 }
      limiter := if removed.2 then n.limiter.removeAppConfig appId.text else n.limiter }
  | .gatewayConfigUpdate appId config saved =>
    { n with node := handleGatewayConfigUpdate n.node appId config saved }
  | .gatewayConfigRemove appId deleted =>
    if deleted then
      { n with node := { n.node with
          gatewayConfigs := n.node.gatewayConfigs.remove appId.text
          gateway := n.node.gateway.map (fun gw => gw.removeRouteConfig appId.text) } }
    else n
  | .saveApiKeys appId keys saved =>
    if saved then { n with node := { n.node with apiKeys := n.node.apiKeys.insert (appId, keys) } }
    else n

/-- The scopes of the key with a hash, if the gateway accepts it. -/
def Gateway.acceptedScopes (gw : Gateway) (appId hash : String) : Option (List String) :=
  ((gw.apiKeyValidators.get? appId).bind (fun entry => entry.2.get? hash)).map ApiKeyRecord.scopes

/-- The running gateway has exactly these hashes, with these scopes. -/
def RunsWithKeys (appId : String) (keys : List ApiKeyRecord) : Prop :=
  ∀ gw ∈ n.node.gateway, ∀ hash, gw.acceptedScopes appId hash =
    ((ApiKeyValidator.new keys).get? hash).map ApiKeyRecord.scopes

/-- It brings only default limits, and the gateway runs with the keys in the table. -/
def StorableConfig (config : AppConfig) (rateLimit : Option RateLimitConfig) : Prop :=
  (∀ limit ∈ rateLimit, limit = n.limiter.defaultConfig) ∧
    RunsWithKeys n config.id.text (n.tables.loadApiKeys config.id.text)

/-- The steps that leave the caches as a start would fill them.

    * A deployment or an update that stores a configuration stores a `StorableConfig`.
    * Keys of an application that has a configuration are written only as the gateway
      runs with them. -/
def PolicyKept : PolicyEvent → Prop
  | .deployApp d rateLimit committed =>
    deployStored n d committed = true → StorableConfig n d.config rateLimit
  | .configUpdate _ config rateLimit withinLimits saved =>
    configStored n config withinLimits saved = true → StorableConfig n config rateLimit
  | .saveApiKeys appId keys saved =>
    saved = true → (⟨appId⟩ : AppId) ∈ n.store.listApps → RunsWithKeys n appId keys
  | .removeApp _ _ | .gatewayConfigUpdate _ _ _ | .gatewayConfigRemove _ _ => True

/-- Two nodes enforce the same policy for an application. -/
def SamePolicy (sha256 : String → String) (n m : PolicyNode) (appId : AppId) : Prop :=
  n.routeConfig appId = m.routeConfig appId ∧
    (∀ apiKey path, n.acceptsKey sha256 appId.text apiKey path =
      m.acceptsKey sha256 appId.text apiKey path) ∧
    n.limiter.getAppConfig appId.text = m.limiter.getAppConfig appId.text

/-- Configurations are stored under their own identifiers. -/
def ConfigsKeyed (store : Store) : Prop := ∀ entry ∈ store.configs, entry.2.id.text = entry.1

namespace Gateway

theorem validateApiKey_eq (sha256 : String → String) (gw : Gateway) (appId apiKey path : String) :
    gw.validateApiKey sha256 appId apiKey path =
      match gw.acceptedScopes appId ("sha256$" ++ sha256 apiKey) with
      | some scopes => scopes.isEmpty || scopes.any (fun s => Text.startsWith path s)
      | none => false := by
  unfold validateApiKey acceptedScopes ApiKeyValidator.validate
  grind

theorem routeConfigs_installKeys (gw : Gateway) (appId : String) (keys : List ApiKeyRecord) :
    (gw.installKeys appId keys).routeConfigs = gw.routeConfigs := by
  unfold installKeys
  split_ifs with h
  · rfl
  · rfl

theorem routeConfigs_load (gw : Gateway) (configs : List (String × GatewayRouteConfig))
    (keys : List (String × List ApiKeyRecord)) :
    (gw.load configs keys).routeConfigs = gw.routeConfigs.insertAll configs := by
  unfold load
  have hkeys : ∀ g : Gateway, (keys.foldl (fun g entry => g.installKeys entry.1 entry.2)
      g).routeConfigs = g.routeConfigs := by
    induction keys with
    | nil => exact fun g => rfl
    | cons entry keys ih =>
      intro g
      rw [foldl_cons, ih, routeConfigs_installKeys]
  rw [hkeys]
  induction configs generalizing gw with
  | nil => rfl
  | cons entry configs ih => exact ih (gw.setRouteConfig entry.1 entry.2)

theorem getRouteConfig_load (oidc : Option OidcProvider) (table : KeyedTable GatewayRouteConfig)
    (keys : List (String × List ApiKeyRecord)) (appId : AppId) :
    ((new oidc).load table.entries keys).getRouteConfig appId =
      (table.get? appId.text).map Prod.snd := by
  rw [getRouteConfig, routeConfigs_load]
  exact congrArg (Option.map Prod.snd)
    ((OrdTable.get?_insertAll_entries OrdTable.empty table appId.text).trans (Option.or_none))

/-- Setting up validators for a list of applications, each with the keys `f` gives it. -/
theorem validators_installKeys (f : String → List ApiKeyRecord)
    {keys : List (String × List ApiKeyRecord)} (hf : ∀ entry ∈ keys, entry.2 = f entry.1)
    (gw : Gateway) (appId : String) :
    (keys.foldl (fun g entry => g.installKeys entry.1 entry.2) gw).apiKeyValidators.get? appId =
      if appId ∈ keys.map Prod.fst ∧ f appId ≠ [] then
        some (appId, ApiKeyValidator.new (f appId))
      else gw.apiKeyValidators.get? appId := by
  induction keys generalizing gw with
  | nil => rw [List.foldl_nil, if_neg (fun h => nomatch h.1)]
  | cons entry keys ih =>
    rw [List.forall_mem_cons] at hf
    rw [List.foldl_cons, ih hf.2, hf.1]
    have hhead : (gw.installKeys entry.1 (f entry.1)).apiKeyValidators.get? appId =
        if appId = entry.1 ∧ f appId ≠ [] then some (appId, ApiKeyValidator.new (f appId))
        else gw.apiKeyValidators.get? appId := by
      unfold installKeys setApiKeyValidator
      grind
    grind

/-- A gateway accepts the keys of an application it was filled with. -/
theorem acceptedScopes_load (oidc : Option OidcProvider)
    (configs : List (String × GatewayRouteConfig)) (f : String → List ApiKeyRecord)
    {keys : List (String × List ApiKeyRecord)} (hf : ∀ entry ∈ keys, entry.2 = f entry.1)
    {appId : String} (hlisted : f appId ≠ [] → appId ∈ keys.map Prod.fst) (hash : String) :
    ((new oidc).load configs keys).acceptedScopes appId hash =
      ((ApiKeyValidator.new (f appId)).get? hash).map ApiKeyRecord.scopes := by
  have hnone : (configs.foldl (fun g entry => g.setRouteConfig entry.1 entry.2)
      (new oidc)).apiKeyValidators.get? appId = none := by
    have hkeep : ∀ g : Gateway, (configs.foldl (fun g entry => g.setRouteConfig entry.1 entry.2)
        g).apiKeyValidators = g.apiKeyValidators := by
      induction configs with
      | nil => exact fun g => rfl
      | cons entry configs ih => exact fun g => ih (g.setRouteConfig entry.1 entry.2)
    rw [hkeep]
    rfl
  rw [acceptedScopes, load, validators_installKeys f hf]
  by_cases hempty : f appId = []
  · rw [if_neg (fun h => h.2 hempty), hnone, hempty]
    rfl
  · rw [if_pos ⟨hlisted hempty, hempty⟩]
    rfl

end Gateway

/-- No override differs from the default limits. -/
structure RateLimiter.AllDefault (limiter : RateLimiter) (defaults : RateLimitConfig) : Prop where
  limits : ∀ appId, limiter.getAppConfig appId = defaults
  default : limiter.defaultConfig = defaults

/-- The gateway has the configurations and keys of the tables, and the limits are the default. -/
structure PolicyInv (defaults : RateLimitConfig) (n : PolicyNode) : Prop where
  running : ∃ gw, n.node.gateway = some gw
  configs : ∀ gw ∈ n.node.gateway, ∀ appId,
    gw.routeConfigs.get? appId = n.node.gatewayConfigs.get? appId
  keys : ∀ id ∈ n.store.listApps, RunsWithKeys n id.text (n.tables.loadApiKeys id.text)
  limiter : n.limiter.AllDefault defaults
  keyed : ConfigsKeyed n.store

variable {s : Store}

theorem Store.mem_listApps {id : AppId} :
    id ∈ s.listApps ↔ ∃ config, (id.text, config) ∈ s.configs := by
  simp only [Store.listApps, mem_map]
  constructor
  · rintro ⟨entry, hentry, rfl⟩
    exact ⟨entry.2, hentry⟩
  · rintro ⟨config, hconfig⟩
    exact ⟨_, hconfig, rfl⟩

theorem startNode_keys (tables : NodeTables) {id : AppId} (hid : id ∈ tables.store.listApps) :
    RunsWithKeys (startNode setup tables) id.text (tables.loadApiKeys id.text) := by
  intro gw hgw hash
  rw [← Option.some.inj hgw]
  refine acceptedScopes_load setup.oidc tables.gatewayConfigs.entries tables.loadApiKeys
    ?_ (fun _ => ?_) hash
  · intro entry hentry
    rcases mem_map.mp hentry with ⟨id', -, rfl⟩
    rfl
  · rw [map_map]
    exact mem_map_of_mem hid

theorem startNode_routeConfig (tables : NodeTables) (appId : AppId) :
    (startNode setup tables).routeConfig appId =
      (tables.gatewayConfigs.get? appId.text).map Prod.snd :=
  getRouteConfig_load setup.oidc tables.gatewayConfigs _ appId

variable {tables : NodeTables}

theorem policyInv_start (hkeyed : ConfigsKeyed tables.store) :
    PolicyInv setup.defaults (startNode setup tables) where
  running := ⟨_, rfl⟩
  configs := by
    intro gw hgw appId
    rw [← Option.some.inj hgw, routeConfigs_load]
    exact (OrdTable.get?_insertAll_entries OrdTable.empty tables.gatewayConfigs appId).trans
      Option.or_none
  keys := fun _ hid => startNode_keys setup tables hid
  limiter := ⟨fun _ => rfl, rfl⟩
  keyed := hkeyed

variable {defaults : RateLimitConfig} {limiter : RateLimiter}

namespace RateLimiter

variable (hlimiter : limiter.AllDefault defaults)
include hlimiter

theorem AllDefault.remove (appId : String) :
    (limiter.removeAppConfig appId).AllDefault defaults := by
  refine ⟨fun id => ?_, hlimiter.default⟩
  rw [removeAppConfig, getAppConfig, OrdTable.get?_remove]
  split_ifs with h
  · exact hlimiter.default
  · exact hlimiter.limits id

theorem AllDefault.apply {rateLimit : Option RateLimitConfig}
    (hlimit : ∀ limit ∈ rateLimit, limit = limiter.defaultConfig) (appId : AppId) :
    (limiter.applyRateLimit appId rateLimit).AllDefault defaults := by
  cases rateLimit with
  | none => exact hlimiter.remove appId.text
  | some limit =>
    refine ⟨fun id => ?_, hlimiter.default⟩
    rw [applyRateLimit, setAppConfig, getAppConfig, OrdTable.get?_insert]
    split_ifs with h
    · exact (hlimit limit rfl).trans hlimiter.default
    · exact hlimiter.limits id

end RateLimiter

/-- A store in which nothing but one configuration is new. -/
def AddsConfig (config : AppConfig) (s t : Store) : Prop :=
  ∀ entry ∈ t.configs, entry ∈ s.configs ∨ entry = (config.id.text, config)

theorem addsConfig_saveConfig {config : AppConfig} {t : Store} (h : AddsConfig config s t) :
    AddsConfig config s (t.saveConfig config) := by
  grind [AddsConfig, Store.saveConfig]

theorem addsConfig_deploy (nodeId : String) (s : Store) (d : DeployRequest) (committed : Nat) :
    AddsConfig d.config s (commitAll ((deployPlan nodeId s d).writes.take committed) s) := by
  refine commitAll_induct (AddsConfig d.config s) (fun w hw t ht => ?_)
    (fun entry hentry => .inl hentry)
  have hmem := mem_of_mem_take hw
  rcases deployPlan_cases nodeId s d with ⟨cached, -, hcached, hplan | ⟨sha256, artifact, hplan⟩⟩
  · rw [hplan] at hmem
    rcases hcached w hmem with ⟨hash, bytes, rfl⟩
    exact ht
  · rw [hplan, mem_append] at hmem
    rcases hmem with hmem | hmem
    · rcases hcached w hmem with ⟨hash, bytes, rfl⟩
      exact ht
    · simp only [deployWrites, mem_cons, not_mem_nil, or_false] at hmem
      rcases hmem with rfl | rfl | rfl | rfl
      · exact ht
      · exact addsConfig_saveConfig ht
      · exact ht
      · exact ht

theorem configs_deploy_unstored {n : PolicyNode} {d : DeployRequest} {committed : Nat}
    (h : deployStored n d committed ≠ true) :
    (commitAll ((deployPlan n.node.nodeId n.store d).writes.take committed) n.store).configs =
      n.store.configs := by
  refine commitAll_induct (fun t => t.configs = n.store.configs) (fun w hw t ht => ?_) rfl
  rcases deployPlan_cases n.node.nodeId n.store d with
    ⟨cached, -, hcached, hplan | ⟨sha256, artifact, hplan⟩⟩
  · -- A refused deployment stores at most a download.
    rw [hplan] at hw
    rcases hcached w (mem_of_mem_take hw) with ⟨hash, bytes, rfl⟩
    exact ht
  · -- One that is cut short before the configuration stores the artifact too.
    have hcut : committed ≤ cached.length + 1 := by
      simp only [deployStored, hplan, deployWrites, Bool.true_and, ne_eq, decide_eq_true_eq,
        length_append, length_cons, length_nil] at h
      omega
    rw [hplan, deployWrites] at hw
    have hmem := (take_sublist_take_left hcut).mem hw
    rw [take_length_add_append, mem_append] at hmem
    rcases hmem with hmem | hmem
    · rcases hcached w hmem with ⟨hash, bytes, rfl⟩
      exact ht
    · rw [mem_singleton.mp hmem]
      exact ht

theorem configs_removeRoutes (env : RemoveEnv) (s : RoutingState) (hosts : List String) :
    (removeRoutes env s hosts).1.store.configs = s.store.configs := by
  have hone : ∀ (s : RoutingState) (host : String), (handleRouteRemove s host (env.loaded host)
      (env.deleted host)).store.configs = s.store.configs := by
    grind [handleRouteRemove, Store.deleteRoute]
  induction hosts generalizing s with
  | nil => rfl
  | cons host hosts ih =>
    unfold removeRoutes
    dsimp only
    split_ifs with h
    · rw [ih, hone]
    · exact hone s host

theorem configs_handleRemove (env : RemoveEnv) (s : RoutingState) (appId : AppId) :
    (handleRemove env s appId).1.store.configs = s.store.configs := by
  have hroutes := configs_removeRoutes env s ((s.store.listRoutesForApp appId.text).map Route.host)
  rcases handleRemove_cases env s appId with hend | ⟨t, done, hremoved, hend | ⟨-, hend⟩⟩
  all_goals grind [Store.markUndeployed]

variable {n}

/-- Another store, in which a configuration that is new has the keys the gateway runs with. -/
theorem PolicyInv.withStore (h : PolicyInv defaults n) {routing : RoutingState}
    (hstore : ∀ entry ∈ routing.store.configs, entry ∈ n.store.configs ∨
      entry.2.id.text = entry.1 ∧ RunsWithKeys n entry.1 (n.tables.loadApiKeys entry.1))
    (hlimiter : limiter.AllDefault defaults) :
    PolicyInv defaults ⟨{ n.node with routing := routing }, limiter⟩ where
  running := h.running
  configs := h.configs
  keys := by
    intro id hid
    rcases Store.mem_listApps.mp hid with ⟨c, hc⟩
    rcases hstore _ hc with hold | ⟨-, hkeys⟩
    · exact h.keys id (Store.mem_listApps.mpr ⟨c, hold⟩)
    · exact hkeys
  limiter := hlimiter
  keyed := by
    intro entry hentry
    rcases hstore entry hentry with hold | ⟨hkeyed, -⟩
    · exact h.keyed entry hold
    · exact hkeyed

theorem PolicyInv.addsConfig (h : PolicyInv defaults n) {config : AppConfig}
    {rateLimit : Option RateLimitConfig} (hstorable : StorableConfig n config rateLimit)
    {routing : RoutingState} (hadds : AddsConfig config n.store routing.store) (appId : AppId) :
    PolicyInv defaults
      ⟨{ n.node with routing := routing }, n.limiter.applyRateLimit appId rateLimit⟩ := by
  refine h.withStore (fun entry hentry => ?_) (h.limiter.apply hstorable.1 appId)
  refine (hadds entry hentry).imp_right ?_
  rintro rfl
  exact ⟨rfl, hstorable.2⟩

theorem policyInv_gatewayConfig
    (h : PolicyInv defaults n) {f : Gateway → Gateway} {table : KeyedTable GatewayRouteConfig}
    (hconfigs : ∀ gw ∈ n.node.gateway, ∀ appId, (f gw).routeConfigs.get? appId = table.get? appId)
    (hkeys : ∀ gw, (f gw).apiKeyValidators = gw.apiKeyValidators) :
    PolicyInv defaults { n with
        node := { n.node with gatewayConfigs := table, gateway := n.node.gateway.map f } } where
  running := by
    rcases h.running with ⟨gw, hgw⟩
    exact ⟨f gw, congrArg (Option.map f) hgw⟩
  configs := by
    intro gw hgw
    rcases Option.map_eq_some_iff.mp hgw with ⟨old, hold, rfl⟩
    exact hconfigs old hold
  keys := by
    intro id hid gw hgw hash
    rcases Option.map_eq_some_iff.mp hgw with ⟨old, hold, rfl⟩
    rw [acceptedScopes, hkeys]
    exact h.keys id hid old hold hash
  limiter := h.limiter
  keyed := h.keyed

theorem policyInv_step (n : PolicyNode) (event : PolicyEvent) (hgood : PolicyKept n event)
    (h : PolicyInv defaults n) : PolicyInv defaults (policyStep n event) := by
  cases event with
  | deployApp d rateLimit committed =>
    rw [policyStep]
    split_ifs with hstored
    · exact h.addsConfig (hgood hstored) (addsConfig_deploy n.node.nodeId n.store d committed) _
    · refine h.withStore (fun entry hentry => .inl ?_) h.limiter
      rwa [configs_deploy_unstored hstored] at hentry
  | configUpdate appId config rateLimit withinLimits saved =>
    rw [policyStep]
    split_ifs with hstored
    · exact h.addsConfig (hgood hstored) (addsConfig_saveConfig fun entry hentry => .inl hentry) _
    · exact h
  | removeApp env appId =>
    refine h.withStore (fun entry hentry => .inl ?_) ?_
    · rwa [configs_handleRemove env n.node.routing appId] at hentry
    · split_ifs with hremoved
      · exact h.limiter.remove appId.text
      · exact h.limiter
  | gatewayConfigUpdate appId config saved =>
    rw [policyStep, handleGatewayConfigUpdate]
    split_ifs with hsaved
    · refine policyInv_gatewayConfig h (fun gw hgw id => ?_) (fun gw => rfl)
      rw [setRouteConfig, OrdTable.get?_insert, OrdTable.get?_insert, h.configs gw hgw id]
    · exact h
  | gatewayConfigRemove appId deleted =>
    grind [policyStep, removeRouteConfig, h.configs, policyInv_gatewayConfig]
  | saveApiKeys appId keys saved =>
    rw [policyStep]
    split_ifs with hsaved
    · refine ⟨h.running, h.configs, fun id hid => ?_, h.limiter, h.keyed⟩
      have hload : NodeTables.loadApiKeys ⟨n.store, n.node.gatewayConfigs,
          n.node.apiKeys.insert (appId, keys)⟩ id.text =
            if id.text = appId then keys else n.tables.loadApiKeys id.text := by
        grind [NodeTables.loadApiKeys, PolicyNode.tables]
      change RunsWithKeys n id.text (NodeTables.loadApiKeys ⟨n.store, n.node.gatewayConfigs,
        n.node.apiKeys.insert (appId, keys)⟩ id.text)
      rw [hload]
      split_ifs with heq
      · rw [heq]
        exact hgood hsaved (by rw [← heq]; exact hid)
      · exact h.keys id hid
    · exact h

theorem acceptsKey_eq {m : PolicyNode} {appId : String} {keys : List ApiKeyRecord}
    (hn : RunsWithKeys n appId keys) (hm : RunsWithKeys m appId keys)
    (hgn : ∃ gw, n.node.gateway = some gw) (hgm : ∃ gw, m.node.gateway = some gw)
    (sha256 : String → String) (apiKey path : String) :
    n.acceptsKey sha256 appId apiKey path = m.acceptsKey sha256 appId apiKey path := by
  rcases hgn with ⟨gw, hgw⟩
  rcases hgm with ⟨gw', hgw'⟩
  rw [PolicyNode.acceptsKey, PolicyNode.acceptsKey, hgw, hgw']
  dsimp only
  rw [validateApiKey_eq, validateApiKey_eq, hn gw hgw, hm gw' hgw']

theorem gateway_importSnapshot (n : ClusterNode) (snapshot : StateSnapshot) :
    (importSnapshot n snapshot).gateway =
      n.gateway.map (fun gw => gw.load snapshot.gatewayConfigs snapshot.apiKeys) := by
  have hkeys : ∀ (keys : List (String × List ApiKeyRecord)) (m : ClusterNode),
      (keys.foldl importKeys m).gateway =
        m.gateway.map (fun gw => keys.foldl (fun g entry => g.installKeys entry.1 entry.2) gw) := by
    intro keys
    induction keys with
    | nil => exact fun m => Option.map_id'.symm
    | cons entry keys ih =>
      intro m
      rw [foldl_cons, ih, importKeys, Option.map_map]
      rfl
  have hconfigs : ∀ (configs : List (String × GatewayRouteConfig)) (m : ClusterNode), (configs.foldl
        (fun m entry => handleGatewayConfigUpdate m ⟨entry.1⟩ entry.2 true) m).gateway =
        m.gateway.map (fun gw =>
          configs.foldl (fun g entry => g.setRouteConfig entry.1 entry.2) gw) := by
    intro configs
    induction configs with
    | nil => exact fun m => Option.map_id'.symm
    | cons entry configs ih =>
      intro m
      rw [foldl_cons, ih, handleGatewayConfigUpdate, if_pos rfl, Option.map_map]
      rfl
  rw [importSnapshot]
  dsimp only
  rw [hkeys, hconfigs, Option.map_map]
  rfl

theorem buildSnapshot_keys (hkeyed : ConfigsKeyed tables.store) {id : AppId}
    (hid : id ∈ tables.store.listDeployedApps) (hne : tables.loadApiKeys id.text ≠ []) :
    id.text ∈ (buildSnapshot tables).apiKeys.map Prod.fst := by
  rcases (Store.mem_listDeployedApps.mp hid).1 with ⟨config, hconfig⟩
  have hget : tables.store.configs.get? id.text = some (id.text, config) :=
    OrdTable.get?_eq_some_iff.mpr ⟨hconfig, rfl⟩
  have hname : config.id.text = id.text := hkeyed _ hconfig
  refine List.mem_map.mpr ⟨(id.text, tables.loadApiKeys id.text), ?_, rfl⟩
  refine List.mem_filterMap.mpr ⟨config, List.mem_filterMap.mpr ⟨id, hid, ?_⟩, ?_⟩
  · rw [hget]
    rfl
  · dsimp only
    rw [hname, if_neg (by rwa [List.isEmpty_iff])]

theorem joinNode_gateway (tables : NodeTables) : (joinNode setup tables).node.gateway =
    some ((new setup.oidc).load (buildSnapshot tables).gatewayConfigs
      (buildSnapshot tables).apiKeys) :=
  gateway_importSnapshot _ _

theorem joinNode_keys (hkeyed : ConfigsKeyed tables.store) {id : AppId}
    (hid : id ∈ tables.store.listDeployedApps) :
    RunsWithKeys (joinNode setup tables) id.text (tables.loadApiKeys id.text) := by
  intro gw hgw hash
  rw [joinNode_gateway] at hgw
  rw [← Option.some.inj hgw]
  refine acceptedScopes_load setup.oidc _ tables.loadApiKeys ?_ (buildSnapshot_keys hkeyed hid) hash
  intro entry hentry
  rcases mem_filterMap.mp hentry with ⟨config, -, hconfig⟩
  dsimp only at hconfig
  split_ifs at hconfig with hempty
  rw [← Option.some.inj hconfig]

theorem joinNode_routeConfig (tables : NodeTables) (appId : AppId) :
    (joinNode setup tables).routeConfig appId =
      (tables.gatewayConfigs.get? appId.text).map Prod.snd := by
  rw [PolicyNode.routeConfig, joinNode_gateway]
  exact getRouteConfig_load setup.oidc tables.gatewayConfigs _ appId

/-- Along a run of steps that keep the policy, a running node, a node started on its
    tables and a node that joins with a snapshot of them enforce the same policy for
    every deployed application. -/
theorem policy_survives_restart (sha256 : String → String) {setup other : NodeSetup}
    (hdefaults : other.defaults = setup.defaults) {tables : NodeTables}
    (hkeyed : ConfigsKeyed tables.store) {events : List PolicyEvent} {n : PolicyNode}
    (hrun : Along policyStep PolicyKept (startNode setup tables) events)
    (hn : n = runAll policyStep (startNode setup tables) events) {appId : AppId}
    (hdeployed : appId ∈ n.store.listDeployedApps) :
    SamePolicy sha256 n (startNode setup n.tables) appId ∧
      SamePolicy sha256 n (joinNode other n.tables) appId := by
  have h : PolicyInv setup.defaults n := by
    rw [hn]
    exact invariant_along policyInv_step hrun (policyInv_start setup hkeyed)
  have hlisted : appId ∈ n.store.listApps := (mem_filter.mp hdeployed).1
  rcases h.running with ⟨gw, hgw⟩
  have hroute : n.routeConfig appId = (n.tables.gatewayConfigs.get? appId.text).map Prod.snd := by
    rw [PolicyNode.routeConfig, hgw]
    exact congrArg (Option.map Prod.snd) (h.configs gw hgw appId.text)
  have hkeys := h.keys appId hlisted
  refine ⟨⟨hroute.trans (startNode_routeConfig setup n.tables appId).symm, fun apiKey path => ?_,
    h.limiter.limits appId.text⟩, ⟨hroute.trans (joinNode_routeConfig other n.tables appId).symm,
      fun apiKey path => ?_, ?_⟩⟩
  · exact acceptsKey_eq hkeys (startNode_keys setup n.tables hlisted) ⟨gw, hgw⟩ ⟨_, rfl⟩ sha256
      apiKey path
  · exact acceptsKey_eq hkeys (joinNode_keys other h.keyed hdeployed) ⟨gw, hgw⟩
      ⟨_, gateway_importSnapshot _ _⟩ sha256 apiKey path
  · rw [h.limiter.limits, ← hdefaults]
    rfl

def plainSetup : NodeSetup := ⟨"node-1", none, ⟨1000, 50, 100⟩⟩

def plainDeploy (appName : String) : DeployRequest where
  appId := ⟨appName⟩
  config := ⟨⟨appName⟩, "default", []⟩
  expectedHash := some "hash"
  withinLimits := true
  targeted := true
  fetched := some [0]
  compile := some

/-- An application gets default limits and a configuration; another, not deployed, gets keys. -/
def keptPolicyRun : List PolicyEvent :=
  [.deployApp (plainDeploy "default/api:v1") (some ⟨1000, 50, 100⟩) 8,
    .gatewayConfigUpdate ⟨"default/api:v1"⟩ adminRoute true,
    .saveApiKeys "default/web:v1" [⟨"ci", "sha256$secret", []⟩] true]

theorem policy_survives_restart_keptPolicyRun :
    let n := runAll policyStep (startNode plainSetup emptyTables) keptPolicyRun
    n.routeConfig ⟨"default/api:v1"⟩ = some adminRoute ∧
      SamePolicy id n (startNode plainSetup n.tables) ⟨"default/api:v1"⟩ := by
  have hkept : Along policyStep PolicyKept (startNode plainSetup emptyTables) keptPolicyRun := by
    refine ⟨fun _ => ⟨fun limit hlimit => (Option.some.inj hlimit).symm, fun gw hgw hash => ?_⟩,
      trivial, nofun, trivial⟩
    -- Nothing is stored yet, and the gateway has no keys.
    rw [← Option.some.inj hgw]
    rfl
  refine ⟨rfl, (policy_survives_restart id (rfl : plainSetup.defaults = _) ?_ hkept rfl ?_).1⟩
  · exact fun entry hentry => absurd hentry not_mem_nil
  · decide

/-- A key stored meanwhile is accepted only after a restart, and a limit that came with a
    deployment is gone after one. -/
theorem policy_lost_on_restart :
    let run := runAll policyStep (startNode plainSetup emptyTables)
    (let n := run [.deployApp (plainDeploy "default/api:v1") none 8,
        .saveApiKeys "default/api:v1" [⟨"ci", "sha256$secret", []⟩] true];
      n.store.listDeployedApps = [⟨"default/api:v1"⟩] ∧
        n.acceptsKey id "default/api:v1" "secret" "/" = false ∧
        (startNode plainSetup n.tables).acceptsKey id "default/api:v1" "secret" "/" = true ∧
        (joinNode plainSetup n.tables).acceptsKey id "default/api:v1" "secret" "/" = true) ∧
    (let n := run [.deployApp (plainDeploy "default/api:v1") (some ⟨5, 1, 1⟩) 8];
      n.store.listDeployedApps = [⟨"default/api:v1"⟩] ∧
        n.limiter.getAppConfig "default/api:v1" = ⟨5, 1, 1⟩ ∧
        (startNode plainSetup n.tables).limiter.getAppConfig "default/api:v1" = ⟨1000, 50, 100⟩ ∧
        (joinNode plainSetup n.tables).limiter.getAppConfig "default/api:v1" =
          ⟨1000, 50, 100⟩) := by
  decide

end WasmCloud
