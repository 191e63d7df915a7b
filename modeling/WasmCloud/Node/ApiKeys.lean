import WasmCloud.Gateway.Internal
import WasmCloud.Routing.HostRouter
import WasmCloud.Storage.Lifecycle

/-!
# Changing API Keys

API keys are changed through an administration endpoint, or as part of a deploy
intent handled by a node or by the deploy ingress. Each of the three stores the
keys and tells all nodes by publishing a gateway configuration.

A node that receives a gateway configuration replaces the one it has. The endpoint
publishes the default configuration, and so does an intent that carries keys and no
configuration. So an application's policy survives a change of its keys only if
nothing is published, or if the policy was the default one: `key_change_keeps_config_iff`.
-/

namespace WasmCloud

open List

inductive ClusterEvent where
  | deployApp (appId : AppId) (config : AppConfig) (expectedHash : String)
  | routeAdd (route : Route)
  | gatewayConfigUpdate (appId : AppId) (config : GatewayRouteConfig)
  | deployIngressArtifactReplicated (expectedHash : String)
  deriving DecidableEq

/-- The node's tables, and the gateway if it runs one. -/
structure ClusterNode where
  nodeId : String
  routing : RoutingState
  gatewayConfigs : KeyedTable GatewayRouteConfig
  apiKeys : KeyedTable (List ApiKeyRecord)
  gateway : Option Gateway

/-- What a node's surroundings answer while it handles an event. -/
structure HandlerEnv where
  withinLimits : Bool
  targeted : Bool
  fetched : Option (List UInt8)
  compile : List UInt8 → Option (List UInt8)
  committed : Nat
  routeSaved : Bool
  configSaved : Bool

def handleGatewayConfigUpdate (n : ClusterNode) (appId : AppId) (config : GatewayRouteConfig)
    (configSaved : Bool) : ClusterNode :=
  if configSaved then
    { n with
      gatewayConfigs := n.gatewayConfigs.insert (appId.text, config)
      gateway := n.gateway.map (fun gw => gw.setRouteConfig appId.text config) }
  else n

def handleEvent (env : HandlerEnv) (n : ClusterNode) : ClusterEvent → ClusterNode
  | .deployApp appId config expectedHash =>
    let d : DeployRequest :=
      ⟨appId, config, some expectedHash, env.withinLimits, env.targeted, env.fetched, env.compile⟩
    let writes := (deployPlan n.nodeId n.routing.store d).writes.take env.committed
    { n with routing := { n.routing with store := commitAll writes n.routing.store } }
  | .routeAdd route => { n with routing := handleRouteAdd n.routing route env.routeSaved }
  | .gatewayConfigUpdate appId config => handleGatewayConfigUpdate n appId config env.configSaved
  -- Meant for other ingresses.
  | .deployIngressArtifactReplicated _ => n

/-- A node handles events in order, each with answers of its own. -/
def deliver : (Nat → HandlerEnv) → ClusterNode → List ClusterEvent → ClusterNode
  | _, n, [] => n
  | env, n, e :: es => deliver (fun i => env (i + 1)) (handleEvent (env 0) n e) es

/-- The reply, whether the keys were stored with the server, and what was published. -/
structure Served (Reply : Type) where
  reply : Reply
  keysSaved : Bool
  events : List ClusterEvent

inductive ApiKeysReply where
  | invalidAppId (message : String)
  | storageError (message : String)
  | updated (appId : AppId) (keyCount : Nat)
  deriving DecidableEq

/-- The endpoint that changes API keys. A publication that fails is ignored. -/
def postApiKeys (appId : String) (body : List ApiKeyRecord) (saved published : Except String Unit) :
    Served ApiKeysReply :=
  match AppId.newValidate appId with
  | .error e => ⟨.invalidAppId e, false, []⟩
  | .ok id =>
    match saved with
    | .error e => ⟨.storageError e, false, []⟩
    | .ok () =>
      let events := match published with
        | .ok () => [ClusterEvent.gatewayConfigUpdate id .default]
        | .error _ => []
      ⟨.updated id body.length, true, events⟩

/-- A deploy intent, as far as what it publishes depends on it. -/
structure DeployIntentRequest where
  appId : AppId
  config : AppConfig
  gatewayConfig : Option GatewayRouteConfig
  routes : List Route
  apiKeys : List ApiKeyRecord
  deriving DecidableEq

/-- The hash of the artifact, if it could be obtained, and the outcomes of publishing and of
    storing the keys. -/
structure IntentEnv where
  ingested : Except String String
  published : Nat → Except String Unit
  keysSaved : Except String Unit
  keysPublished : Except String Unit

/-- Publish events in order until one fails. -/
def publishAll : (Nat → Except String Unit) → List ClusterEvent →
    Except String Unit × List ClusterEvent
  | _, [] => (.ok (), [])
  | published, e :: es =>
    match published 0 with
    | .error msg => (.error msg, [])
    | .ok () =>
      let rest := publishAll (fun i => published (i + 1)) es
      (rest.1, e :: rest.2)

/-- The update an intent's keys are announced with. -/
def DeployIntentRequest.keyUpdate (request : DeployIntentRequest) : ClusterEvent :=
  .gatewayConfigUpdate request.appId (request.gatewayConfig.getD .default)

/-- The events an intent publishes before its keys, after those in `announced`. -/
def DeployIntentRequest.plan (announced : List ClusterEvent) (request : DeployIntentRequest)
    (expectedHash : String) : List ClusterEvent :=
  announced ++ [.deployApp request.appId request.config expectedHash] ++
    (request.gatewayConfig.map (.gatewayConfigUpdate request.appId)).toList ++
    request.routes.map .routeAdd

/-- `process_deploy_intent`, from the artifact on. Any failed publication but the last ends it. -/
def processDeployIntent (announce : String → List ClusterEvent) (env : IntentEnv)
    (request : DeployIntentRequest) : Served (Except String Unit) :=
  match env.ingested with
  | .error e => ⟨.error e, false, []⟩
  | .ok expectedHash =>
    let sent := publishAll env.published (request.plan (announce expectedHash) expectedHash)
    match sent.1 with
    | .error e => ⟨.error e, false, sent.2⟩
    | .ok () =>
      if request.apiKeys.isEmpty then ⟨.ok (), false, sent.2⟩
      else
        match env.keysSaved with
        | .error e => ⟨.error e, false, sent.2⟩
        | .ok () =>
          -- Without a configuration in the request this is the default one.
          let events := match env.keysPublished with
            | .ok () => sent.2 ++ [request.keyUpdate]
            | .error _ => sent.2
          ⟨.ok (), true, events⟩

/-- A node's `process_deploy_intent`. -/
def nodeProcessDeployIntent (env : IntentEnv) (request : DeployIntentRequest) :
    Served (Except String Unit) :=
  processDeployIntent (fun _ => []) env request

/-- At the ingress the artifact is announced to other ingresses first. -/
def ingressProcessDeployIntent (haEnabled : Bool) (env : IntentEnv)
    (request : DeployIntentRequest) : Served (Except String Unit) :=
  processDeployIntent
    (fun expectedHash => if haEnabled then [.deployIngressArtifactReplicated expectedHash] else [])
    env request

/-- At a node's endpoint, or by an intent at a node or at the ingress. -/
inductive KeyChange where
  | post (server : Nat) (appId : String) (body : List ApiKeyRecord)
      (saved published : Except String Unit)
  | nodeIntent (server : Nat) (env : IntentEnv) (request : DeployIntentRequest)
  | ingressIntent (haEnabled : Bool) (env : IntentEnv) (request : DeployIntentRequest)

namespace KeyChange

def appId : KeyChange → String
  | post _ appId _ _ _ => appId
  | nodeIntent _ _ request => request.appId.text
  | ingressIntent _ _ request => request.appId.text

/-- The keys, and the node that stores them. -/
def savedKeys : KeyChange → Option (Nat × List ApiKeyRecord)
  | post server appId body saved published =>
    if (postApiKeys appId body saved published).keysSaved then some (server, body) else none
  | nodeIntent server env request =>
    if (nodeProcessDeployIntent env request).keysSaved then some (server, request.apiKeys)
    else none
  | ingressIntent _ _ _ => none

def events : KeyChange → List ClusterEvent
  | post _ appId body saved published => (postApiKeys appId body saved published).events
  | nodeIntent _ env request => (nodeProcessDeployIntent env request).events
  | ingressIntent haEnabled env request => (ingressProcessDeployIntent haEnabled env request).events

/-- A request, or an intent without a gateway configuration that was processed. -/
def Processed : KeyChange → Prop
  | post _ _ _ _ _ => True
  | nodeIntent _ env request =>
    request.gatewayConfig = none ∧ (nodeProcessDeployIntent env request).reply = .ok ()
  | ingressIntent haEnabled env request =>
    request.gatewayConfig = none ∧
      (ingressProcessDeployIntent haEnabled env request).reply = .ok ()

/-- There is something to publish about the keys, and the bus takes it. -/
def Announced : KeyChange → Prop
  | post _ appId _ saved published =>
    AppId.newValidate appId = .ok ⟨appId⟩ ∧ saved = .ok () ∧ published = .ok ()
  | nodeIntent _ env request | ingressIntent _ env request =>
    request.apiKeys ≠ [] ∧ env.keysPublished = .ok ()

end KeyChange

/-- The node that served the change stores the keys. -/
def KeyChange.storeKeys (change : KeyChange) (i : Nat) (n : ClusterNode) : ClusterNode :=
  match change.savedKeys with
  | some (server, keys) =>
    if i = server then { n with apiKeys := n.apiKeys.insert (change.appId, keys) } else n
  | none => n

/-- The nodes once every one has handled what was published. -/
def applyKeyChange (env : Nat → Nat → HandlerEnv) (change : KeyChange)
    (cluster : List ClusterNode) : List ClusterNode :=
  cluster.mapIdx fun i n => deliver (env i) (change.storeKeys i n) change.events

/-- A node has a configuration for an application, in its table and in its gateway. -/
def HoldsConfig (appId : String) (config : GatewayRouteConfig) (n : ClusterNode) : Prop :=
  (n.gatewayConfigs.get? appId).map Prod.snd = some config ∧
    ∀ gw ∈ n.gateway, gw.getRouteConfig ⟨appId⟩ = some config

section Handling

variable {appId : String} {g : GatewayRouteConfig} {n : ClusterNode}

theorem HoldsConfig.unique {g' : GatewayRouteConfig} (h : HoldsConfig appId g n)
    (h' : HoldsConfig appId g' n) : g = g' :=
  Option.some.inj (h.1.symm.trans h'.1)

theorem HoldsConfig.congr {n' : ClusterNode} (h : HoldsConfig appId g n)
    (hconfigs : n'.gatewayConfigs = n.gatewayConfigs) (hgateway : n'.gateway = n.gateway) :
    HoldsConfig appId g n' := by
  rw [HoldsConfig, hconfigs, hgateway]
  exact h

theorem holdsConfig_update (n : ClusterNode) (appId : String) (config : GatewayRouteConfig) :
    HoldsConfig appId config (handleGatewayConfigUpdate n ⟨appId⟩ config true) := by
  rw [handleGatewayConfigUpdate, if_pos rfl]
  constructor
  · rw [OrdTable.get?_insert, if_pos rfl]
    rfl
  · intro gw hgw
    rcases Option.map_eq_some_iff.mp hgw with ⟨old, -, rfl⟩
    rw [Gateway.getRouteConfig, Gateway.setRouteConfig, OrdTable.get?_insert, if_pos rfl]
    rfl

/-- An update of a gateway configuration. -/
def ClusterEvent.updatesConfig : ClusterEvent → Bool
  | .gatewayConfigUpdate _ _ => true
  | _ => false

theorem handleEvent_frame (env : HandlerEnv) (n : ClusterNode) {e : ClusterEvent}
    (he : e.updatesConfig = false) :
    (handleEvent env n e).gatewayConfigs = n.gatewayConfigs ∧
      (handleEvent env n e).gateway = n.gateway := by
  cases e with
  | deployApp appId config expectedHash | routeAdd route => exact ⟨rfl, rfl⟩
  | gatewayConfigUpdate appId config => nomatch he
  | deployIngressArtifactReplicated expectedHash => exact ⟨rfl, rfl⟩

theorem deliver_frame (env : Nat → HandlerEnv) (n : ClusterNode) {es : List ClusterEvent}
    (hes : ∀ e ∈ es, e.updatesConfig = false) :
    (deliver env n es).gatewayConfigs = n.gatewayConfigs ∧
      (deliver env n es).gateway = n.gateway := by
  induction es generalizing env n with
  | nil => exact ⟨rfl, rfl⟩
  | cons e es ih =>
    rw [forall_mem_cons] at hes
    have hstep := handleEvent_frame (env 0) n hes.1
    have hrest := ih (fun i => env (i + 1)) (handleEvent (env 0) n e) hes.2
    exact ⟨hrest.1.trans hstep.1, hrest.2.trans hstep.2⟩

theorem deliver_append (env : Nat → HandlerEnv) (n : ClusterNode) (es fs : List ClusterEvent) :
    deliver env n (es ++ fs) = deliver (fun i => env (i + es.length)) (deliver env n es) fs := by
  induction es generalizing env n with
  | nil => rfl
  | cons e es ih =>
    rw [cons_append, deliver, ih, deliver]
    simp only [length_cons, Nat.add_assoc]

theorem holdsConfig_deliver_update {env : Nat → HandlerEnv} (henv : ∀ i, (env i).configSaved = true)
    (n : ClusterNode) (es : List ClusterEvent) (appId : String) (config : GatewayRouteConfig) :
    HoldsConfig appId config (deliver env n (es ++ [.gatewayConfigUpdate ⟨appId⟩ config])) := by
  rw [deliver_append, deliver, deliver, handleEvent, henv]
  exact holdsConfig_update _ appId config

end Handling

section Publishing

theorem publishAll_ok {published : Nat → Except String Unit} {es : List ClusterEvent}
    (h : (publishAll published es).1 = .ok ()) : (publishAll published es).2 = es := by
  induction es generalizing published with
  | nil => rfl
  | cons e es ih =>
    grind [publishAll]

variable {request : DeployIntentRequest}

theorem DeployIntentRequest.plan_quiet (hnone : request.gatewayConfig = none)
    {announced : List ClusterEvent} (hannounced : ∀ e ∈ announced, e.updatesConfig = false)
    (expectedHash : String) :
    ∀ e ∈ request.plan announced expectedHash, e.updatesConfig = false := by
  intro e he
  rw [DeployIntentRequest.plan, hnone] at he
  simp only [Option.map_none, Option.toList_none, append_nil, mem_append,
    mem_singleton, mem_map] at he
  rcases he with (he | rfl) | ⟨route, -, rfl⟩
  · exact hannounced e he
  · rfl
  · rfl

/-- Events that update no configuration, and the default one for its keys. -/
theorem processDeployIntent_events {announce : String → List ClusterEvent}
    (hannounce : ∀ hash, ∀ e ∈ announce hash, e.updatesConfig = false) {env : IntentEnv}
    (hnone : request.gatewayConfig = none)
    (hok : (processDeployIntent announce env request).reply = .ok ()) :
    ∃ quiet : List ClusterEvent, (∀ e ∈ quiet, e.updatesConfig = false) ∧
      ((request.apiKeys ≠ [] ∧ env.keysPublished = .ok ()) ∧
          (processDeployIntent announce env request).events =
            quiet ++ [.gatewayConfigUpdate request.appId .default] ∨
        ¬ (request.apiKeys ≠ [] ∧ env.keysPublished = .ok ()) ∧
          (processDeployIntent announce env request).events = quiet) := by
  have hkey : request.keyUpdate = .gatewayConfigUpdate request.appId .default := by
    rw [DeployIntentRequest.keyUpdate, hnone]
    rfl
  -- A reply of success rules out every early exit, one after the other.
  rw [processDeployIntent] at hok ⊢
  rcases hing : env.ingested with msg | hash
  · rw [hing] at hok
    nomatch hok
  rw [hing] at hok
  refine ⟨request.plan (announce hash) hash, request.plan_quiet hnone (hannounce hash) hash, ?_⟩
  dsimp only at hok ⊢
  rcases hsent : (publishAll env.published (request.plan (announce hash) hash)).1 with msg | u
  · rw [hsent] at hok
    nomatch hok
  rw [hsent] at hok
  rw [publishAll_ok hsent] at hok ⊢
  dsimp only at hok ⊢
  by_cases hempty : request.apiKeys = []
  · refine .inr ⟨fun h => h.1 hempty, ?_⟩
    rw [hempty]
    rfl
  rw [if_neg (by rwa [List.isEmpty_iff])] at hok ⊢
  rcases hsaved : env.keysSaved with msg | u
  · rw [hsaved] at hok
    nomatch hok
  -- The last publication may fail without the reply saying so.
  grind

/-- Events that update no configuration, then the default one if it is announced. -/
theorem KeyChange.events_eq {change : KeyChange} (hprocessed : change.Processed) :
    ∃ quiet : List ClusterEvent, (∀ e ∈ quiet, e.updatesConfig = false) ∧ (change.Announced ∧
          change.events = quiet ++ [.gatewayConfigUpdate ⟨change.appId⟩ .default] ∨
        ¬ change.Announced ∧ change.events = quiet) := by
  cases change with
  | post server appId body saved published =>
    refine ⟨[], fun e he => (nomatch he), ?_⟩
    grind [KeyChange.events, KeyChange.Announced, KeyChange.appId, postApiKeys,
      AppId.newValidate_ok]
  | nodeIntent server env request =>
    exact processDeployIntent_events (fun _ _ he => absurd he not_mem_nil)
      hprocessed.1 hprocessed.2
  | ingressIntent haEnabled env request =>
    refine processDeployIntent_events (fun hash e he => ?_) hprocessed.1 hprocessed.2
    cases haEnabled with
    | false => exact absurd he not_mem_nil
    | true =>
      rw [if_pos rfl, mem_singleton] at he
      rw [he]
      rfl

end Publishing

theorem KeyChange.holdsConfig_storeKeys (change : KeyChange) (i : Nat) {appId : String}
    {g : GatewayRouteConfig} {n : ClusterNode} (h : HoldsConfig appId g n) :
    HoldsConfig appId g (change.storeKeys i n) := by
  rw [KeyChange.storeKeys]
  rcases change.savedKeys with _ | ⟨server, keys⟩
  · exact h
  · dsimp only
    split_ifs with hi
    · exact h.congr rfl rfl
    · exact h

/-- Once every node has handled what a change of keys publishes, the configuration of
    the application is still in place exactly if it was the default one, or if the
    change was not announced. -/
theorem key_change_keeps_config_iff (env : Nat → Nat → HandlerEnv) (change : KeyChange)
    (cluster : List ClusterNode) (g : GatewayRouteConfig)
    (hhandled : ∀ i j, (env i j).configSaved = true) (hprocessed : change.Processed)
    (hcluster : cluster ≠ []) (hholds : ∀ n ∈ cluster, HoldsConfig change.appId g n) :
    (∀ n ∈ applyKeyChange env change cluster, HoldsConfig change.appId g n) ↔
      g = .default ∨ ¬ change.Announced := by
  rcases KeyChange.events_eq hprocessed with ⟨quiet, hquiet, ⟨hann, hevents⟩ | ⟨hann, hevents⟩⟩
  · -- Whatever a node had, it ends with the default configuration.
    have hdefault : ∀ n ∈ applyKeyChange env change cluster,
        HoldsConfig change.appId .default n := by
      intro n hn
      rcases mem_mapIdx.mp hn with ⟨i, hi, rfl⟩
      rw [hevents]
      exact holdsConfig_deliver_update (hhandled i) _ quiet change.appId .default
    constructor
    · intro hkeeps
      have hne : applyKeyChange env change cluster ≠ [] := by
        rwa [applyKeyChange, ne_eq, mapIdx_eq_nil_iff]
      rcases exists_mem_of_ne_nil _ hne with ⟨n, hn⟩
      exact .inl ((hkeeps n hn).unique (hdefault n hn))
    · rintro (rfl | hnot)
      · exact hdefault
      · exact absurd hann hnot
  · -- No event updates a configuration, and storing keys does not either.
    refine iff_of_true (fun n hn => ?_) (.inr hann)
    rcases mem_mapIdx.mp hn with ⟨i, hi, rfl⟩
    rw [hevents]
    have hframe := deliver_frame (env i) (change.storeKeys i (cluster.get ⟨i, hi⟩)) hquiet
    exact (change.holdsConfig_storeKeys i (hholds _ (getElem_mem hi))).congr hframe.1 hframe.2

def adminNode : ClusterNode :=
  { nodeId := "node-1", routing := ⟨emptyStore, OrdTable.empty⟩,
    gatewayConfigs := OrdTable.empty.insert ("default/api:v1", adminRoute),
    apiKeys := OrdTable.empty, gateway := some adminGateway }

theorem adminNode_holdsConfig : HoldsConfig "default/api:v1" adminRoute adminNode := by
  refine ⟨rfl, fun gw hgw => ?_⟩
  rw [← Option.some.inj hgw]
  rfl

def steadyHandlers (_ _ : Nat) : HandlerEnv := ⟨true, true, some [0], some, 8, true, true⟩

def redeployIntent (keys : List ApiKeyRecord) : DeployIntentRequest :=
  ⟨⟨"default/api:v1"⟩, ⟨⟨"default/api:v1"⟩, "default", []⟩, none, [], keys⟩

/-- An intent with a key leaves an application that is open to everyone as it is. -/
theorem key_change_keeps_config_redeploy :
    let node := handleGatewayConfigUpdate adminNode ⟨"default/api:v1"⟩ .default true
    HoldsConfig "default/api:v1" .default node ∧
      ∀ n ∈ applyKeyChange steadyHandlers (.nodeIntent 0
          ⟨.ok "hash", fun _ => .ok (), .ok (), .ok ()⟩ (redeployIntent [⟨"ci", "key-hash", []⟩]))
          [node, node],
        HoldsConfig "default/api:v1" .default n := by
  intro node
  have hnode := holdsConfig_update adminNode "default/api:v1" .default
  refine ⟨hnode, (key_change_keeps_config_iff steadyHandlers (.nodeIntent 0
    ⟨.ok "hash", fun _ => .ok (), .ok (), .ok ()⟩ (redeployIntent [⟨"ci", "key-hash", []⟩]))
    [node, node] .default (fun _ _ => rfl) ⟨rfl, rfl⟩ (cons_ne_nil _ _) ?_).mpr (.inl rfl)⟩
  intro n hn
  simp only [mem_cons, not_mem_nil, or_false, or_self] at hn
  rw [hn]
  exact hnode

/-- A key is added to an application for administrators, which is then open to everyone. -/
theorem key_change_opens_route : HoldsConfig "default/api:v1" adminRoute adminNode ∧
    (∃ n ∈ applyKeyChange steadyHandlers
        (.post 0 "default/api:v1" [⟨"ci", "key-hash", []⟩] (.ok ()) (.ok ())) [adminNode],
      HoldsConfig "default/api:v1" .default n ∧ ¬ HoldsConfig "default/api:v1" adminRoute n) ∧
    (∃ n ∈ applyKeyChange steadyHandlers
        (.nodeIntent 0 ⟨.ok "hash", fun _ => .ok (), .ok (), .ok ()⟩
          (redeployIntent [⟨"ci", "key-hash", []⟩])) [adminNode],
      HoldsConfig "default/api:v1" .default n ∧ ¬ HoldsConfig "default/api:v1" adminRoute n) := by
  have hopen : ∀ {n}, HoldsConfig "default/api:v1" .default n →
      HoldsConfig "default/api:v1" .default n ∧ ¬ HoldsConfig "default/api:v1" adminRoute n :=
    fun h => ⟨h, fun hadmin => nomatch (h.unique hadmin)⟩
  refine ⟨adminNode_holdsConfig, ⟨_, (.head _), hopen ?_⟩, ⟨_, (.head _), hopen ?_⟩⟩
  · exact holdsConfig_deliver_update (fun _ => rfl) _ [] _ _
  · exact holdsConfig_deliver_update (fun _ => rfl) _ _ _ _

end WasmCloud
