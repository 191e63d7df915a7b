import WasmCloud.Gateway.Forwarding
import WasmCloud.Supervisor.Discovery

/-!
# Calls between Applications

What it takes for the internal gateway to forward a call, end to end: the handler of
`Gateway.Internal` is run against the namespace map and the registry of services.

The checks that compare the caller with its target are one function, `namespaceDecision`.
The registry knows a service by its namespace and its bare name, but the policy is kept
under an identifier with a version, which the handler makes up: it is always `v1`. So the
policy enforced is that of the instance which answers exactly if that one was deployed as
`v1`.

## Main definitions

* `namespaceDecision`: The checks of the handler on the caller and its target.
* `EastWest`: The gateway with the namespace map and the registry.
* `EastWest.picked`: The registered instance a call is resolved to.

## Theorems

* `forwarded_within_namespaces`: What holds of every call that is forwarded.
* `policy_of_serving_instance`: When the policy is that of the instance which answers.
-/

namespace WasmCloud

open List

section Handler

variable (http : HttpCrate) (sha256 : String → String)

/-- The checks of `proxy_handler` on the caller, and on the target it names. -/
def namespaceDecision (gw : InternalGateway) (peer : SocketAddr) (headers : HeaderMap) :
    Except Halt (CallerIdentity × String × String) := do
  let caller ← resolveCaller gw peer
  let target ← ((parseInternalHost ((headerStr http headers "host").getD "")).elim
    (throw (.status 400)) pure)
  if caller.ns ≠ target.2 && !gw.gatewayConfig.isCrossNamespaceAllowed caller.ns target.2 then
    throw (.status 403)
  return (caller, target)

/-- What `proxy_handler` looks up under the target's identifier. -/
def enforcePolicy (gw : InternalGateway) (appId : AppId) (req : RequestHeader) :
    Except Halt (Option UserIdentity) := do
  let routeConfig := gw.gatewayConfig.getRouteConfig appId
  let endpointRule := internalRule routeConfig req.uri.path req.method
  let userIdentity ← (proxyHandlerAuth http sha256 gw.gatewayConfig appId routeConfig
    endpointRule (stripInternalIdentityHeaders req.headers) req.uri.path).mapError Halt.status
  if throttled gw appId.text req.method routeConfig endpointRule then throw (.status 429)
  if gw.isCircuitOpen appId.text then throw (.status 503)
  return userIdentity

/-- The identifier under which the policy of a request is looked up. -/
def targetAppId (req : RequestHeader) : Option AppId :=
  (parseInternalHost ((headerStr http req.headers "host").getD "")).bind (fun target =>
    AppId.newNamespaced target.2 target.1 "v1")

/-- The handler checks the body, the namespaces, the caller's rate, the endpoint and the policy. -/
theorem admitRequest_eq (gw : InternalGateway) (peer : SocketAddr) (req : RequestHeader) :
    admitRequest http sha256 gw peer req = (do
      if bodyTooLarge http gw.maxBodySizeBytes req.headers then throw (.status 413)
      let decision ← namespaceDecision http gw peer (stripInternalIdentityHeaders req.headers)
      if !gw.checkRequest decision.1.appId peer.ip then throw (.status 429)
      let appId ← (AppId.newNamespaced decision.2.2 decision.2.1 "v1").elim (throw .panicked) pure
      let endpoint ← resolveTarget gw decision.2.2 decision.2.1 appId
      let userIdentity ← enforcePolicy http sha256 gw appId req
      return ⟨endpoint, decision.2.1, userIdentity⟩) := by
  simp only [admitRequest, namespaceDecision, enforcePolicy, bind_assoc, pure_bind, throw_bind,
    refuse_bind]

variable {http} {sha256} {gw : InternalGateway} {peer : SocketAddr}

theorem admitRequest_ok {req : RequestHeader} {admitted : AdmittedRequest}
    (h : admitRequest http sha256 gw peer req = .ok admitted) :
    ∃ caller appName ns appId,
      namespaceDecision http gw peer (stripInternalIdentityHeaders req.headers) =
          .ok (caller, appName, ns) ∧
        AppId.newNamespaced ns appName "v1" = some appId ∧
        resolveTarget gw ns appName appId = .ok admitted.endpoint ∧
        enforcePolicy http sha256 gw appId req = .ok admitted.userIdentity := by
  simp only [admitRequest_eq, throw_bind, check_ok_iff, bind_ok_iff, elim_throw_ok_iff,
    pure_ok_iff] at h
  rcases h with ⟨-, ⟨caller, appName, ns⟩, hdecision, -, appId, hid, endpoint, hendpoint,
    userIdentity, hpolicy, rfl⟩
  exact ⟨caller, appName, ns, appId, hdecision, hid, hendpoint, hpolicy⟩

variable {caller : CallerIdentity} {headers : HeaderMap} {appName ns : String}

theorem resolveCaller_ok (h : resolveCaller gw peer = .ok caller) :
    peer.ip.isLoopback = true ∧ gw.ebpfActive = true ∧
      ∃ resolve, gw.resolveIdentity = some resolve ∧ resolve peer.port = some caller := by
  grind [resolveCaller, Option.bind_eq_some_iff]

theorem isCrossNamespaceAllowed_iff {gw : Gateway} {source target : String}
    (hne : source ≠ target) :
    gw.isCrossNamespaceAllowed source target = true ↔
      ∃ allowed, gw.crossNamespaceAllowlist = some allowed ∧ allowed source target = some true := by
  grind [Gateway.isCrossNamespaceAllowed]

theorem namespaceDecision_ok
    (h : namespaceDecision http gw peer headers = .ok (caller, appName, ns)) :
    resolveCaller gw peer = .ok caller ∧
      parseInternalHost ((headerStr http headers "host").getD "") = some (appName, ns) ∧
      (caller.ns = ns ∨ ∃ allowed, gw.gatewayConfig.crossNamespaceAllowlist = some allowed ∧
        allowed caller.ns ns = some true) := by
  simp only [namespaceDecision, throw_bind, check_ok_iff, bind_ok_iff, elim_throw_ok_iff,
    pure_ok_iff, Prod.mk.injEq] at h
  grind [isCrossNamespaceAllowed_iff]

theorem namespaceDecision_host {headers' : HeaderMap}
    (hhost : headerStr http headers' "host" = headerStr http headers "host")
    (gw : InternalGateway) (peer : SocketAddr) :
    namespaceDecision http gw peer headers' = namespaceDecision http gw peer headers := by
  rw [namespaceDecision, hhost, namespaceDecision]

/-- A body within the limit does not keep a refusal of the namespaces from being the answer. -/
theorem proxyHandler_refused {req : RequestHeader} {e : Halt}
    (hbody : bodyTooLarge http gw.maxBodySizeBytes req.headers = false)
    (h : namespaceDecision http gw peer (stripInternalIdentityHeaders req.headers) = .error e) :
    proxyHandler http sha256 gw peer req = .error e := by
  rw [proxyHandler, admitRequest_eq, hbody, h]
  rfl

end Handler

/-- `resolve_caller_identity`: polls until there is an answer or no time. -/
def resolveCallerIdentity (answer : Nat → Option CallerIdentity) :
    (poll remaining : Nat) → Option CallerIdentity
  | poll, 0 => answer poll
  | poll, remaining + 1 =>
    (answer poll).orElse (fun _ => resolveCallerIdentity answer (poll + 1) remaining)

variable {caller : CallerIdentity} {peer : SocketAddr} {appName : String} {appId : AppId}

theorem resolveCallerIdentity_some {answer : Nat → Option CallerIdentity} {poll remaining : Nat}
    (h : resolveCallerIdentity answer poll remaining = some caller) :
    ∃ k ≤ poll + remaining, answer k = some caller := by
  induction remaining generalizing poll with
  | zero => exact ⟨poll, le_refl _, h⟩
  | succ n ih =>
    rcases hnow : answer poll with _ | found
    · rw [resolveCallerIdentity, hnow] at h
      rcases ih h with ⟨k, hk, hanswer⟩
      exact ⟨k, by omega, hanswer⟩
    · rw [resolveCallerIdentity, hnow] at h
      exact ⟨poll, by omega, hnow.trans h⟩

/-- Registered under the key of its qualified identifier; deployed as `appId`. -/
structure RegisteredInstance where
  appId : AppId
  qualified : AppId
  endpoint : RegisteredEndpoint
  deriving DecidableEq, Repr

/-- The first instance under a key. -/
def registeredUnder (registry : List RegisteredInstance) (ns bareName : String) :
    Option RegisteredInstance :=
  registry.find? (fun inst => inst.qualified.serviceKey = (ns, bareName))

/-- `NamespaceRegistry::resolve_endpoint`. -/
def resolveEndpoint (registry : List RegisteredInstance) (ns bareName : String) :
    Option RegisteredEndpoint :=
  (registeredUnder registry ns bareName).map RegisteredInstance.endpoint

/-- The internal gateway during one request: its settings, the namespace map at each poll, the
    registry before and after a cold start, and the answers of the limiters and of the target. -/
structure EastWest where
  gatewayConfig : Gateway
  namespaceMap : Option (Nat → UInt16 → Option CallerIdentity)
  polls : Nat
  ebpfActive : Bool
  maxBodySizeBytes : Nat
  checkRequest : String → IpAddr → Bool
  registry : List RegisteredInstance
  coldStart : Option (AppId → Option SocketAddr)
  registryAfter : List RegisteredInstance
  checkRouteRateLimit : String → RouteRateLimit → Bool
  distributedLimiter : String → Option Bool
  isCircuitOpen : String → Bool
  connect : SocketAddr → ConnectOutcome

/-- The gateway as its handler sees it. -/
def EastWest.internalGateway (node : EastWest) : InternalGateway where
  gatewayConfig := node.gatewayConfig
  resolveIdentity := node.namespaceMap.map (fun answer port =>
    resolveCallerIdentity (fun poll => answer poll port) 0 node.polls)
  ebpfActive := node.ebpfActive
  maxBodySizeBytes := node.maxBodySizeBytes
  checkRequest := node.checkRequest
  resolveEndpoint := resolveEndpoint node.registry
  coldStart := node.coldStart
  resolveAfterColdStart := resolveEndpoint node.registryAfter
  checkRouteRateLimit := node.checkRouteRateLimit
  distributedLimiter := node.distributedLimiter
  isCircuitOpen := node.isCircuitOpen
  connect := node.connect

/-- The registered instance a call is resolved to, if need be after a cold start. -/
def EastWest.picked (node : EastWest) (ns bareName : String) : Option RegisteredInstance :=
  (registeredUnder node.registry ns bareName).or (registeredUnder node.registryAfter ns bareName)

variable {ns : String} {endpoint : RegisteredEndpoint} {node : EastWest}
  {inst : RegisteredInstance}

theorem EastWest.registered_of_picked (h : node.picked ns appName = some inst) :
    inst ∈ node.registry ++ node.registryAfter ∧ inst.qualified.serviceKey = (ns, appName) := by
  rcases Option.or_eq_some_iff.mp h with hfind | ⟨-, hfind⟩
  · exact ⟨mem_append_left _ (mem_of_find?_eq_some hfind),
      of_decide_eq_true (List.find?_some hfind :)⟩
  · exact ⟨mem_append_right _ (mem_of_find?_eq_some hfind),
      of_decide_eq_true (List.find?_some hfind :)⟩

theorem EastWest.caller_of_resolveCaller
    (h : resolveCaller node.internalGateway peer = .ok caller) :
    peer.ip.isLoopback = true ∧ node.ebpfActive = true ∧ ∃ answer, node.namespaceMap = some answer ∧
        ∃ poll ≤ node.polls, answer poll peer.port = some caller := by
  rcases resolveCaller_ok h with ⟨hip, hebpf, resolve, hmap, hresolve⟩
  rcases Option.map_eq_some_iff.mp hmap with ⟨answer, hanswer, rfl⟩
  rcases resolveCallerIdentity_some hresolve with ⟨poll, hpoll, hcaller⟩
  exact ⟨hip, hebpf, answer, hanswer, poll, by omega, hcaller⟩

/-- A target is the instance picked for it, or else where a cold start has put it. -/
theorem EastWest.endpoint_of_resolveTarget
    (h : resolveTarget node.internalGateway ns appName appId = .ok endpoint) :
    (∃ inst, node.picked ns appName = some inst ∧ inst.endpoint = endpoint) ∨
      (node.picked ns appName = none ∧
        ∃ start, node.coldStart = some start ∧ start appId = some endpoint.addr) := by
  simp only [resolveTarget, EastWest.internalGateway, resolveEndpoint] at h
  cases hbefore : registeredUnder node.registry ns appName with
  | some inst =>
    rw [hbefore] at h
    exact .inl ⟨inst, by rw [picked, hbefore, Option.some_or], Except.ok.inj h⟩
  | none =>
    rw [hbefore] at h
    cases hcold : node.coldStart.bind (fun start => start appId) with
    | none =>
      rw [hcold] at h
      cases h
    | some addr =>
      rw [hcold] at h
      cases hafter : registeredUnder node.registryAfter ns appName with
      | some inst =>
        rw [hafter] at h
        exact .inl ⟨inst, by rw [picked, hbefore, Option.none_or, hafter], Except.ok.inj h⟩
      | none =>
        rw [hafter] at h
        obtain ⟨start, hstart, haddr⟩ := Option.bind_eq_some_iff.mp hcold
        refine .inr ⟨by rw [picked, hbefore, Option.none_or, hafter], start, hstart, ?_⟩
        rw [← Except.ok.inj h]
        exact haddr

theorem proxyHandler_ok {http : HttpCrate} {sha256 : String → String} {gw : InternalGateway}
    {req : RequestHeader} {fwd : ForwardedRequest}
    (h : proxyHandler http sha256 gw peer req = .ok fwd) :
    ∃ admitted, admitRequest http sha256 gw peer req = .ok admitted ∧
      admitted.endpoint = fwd.endpoint := by
  rcases bind_ok_iff.mp h with ⟨admitted, hadmitted, hfwd⟩
  rcases forwardRequest_ok_iff.mp hfwd with ⟨-, uri, host, -, -, rfl⟩
  exact ⟨admitted, hadmitted, rfl⟩

theorem headerStr_strip_host (http : HttpCrate) (headers : HeaderMap) :
    headerStr http (stripInternalIdentityHeaders headers) "host" = headerStr http headers "host" :=
  headerStr_strip http headers (by decide) (by decide) (by decide)

/-- A forwarded call came from a local peer whose identity the namespace map
    holds for its source port, while enforcement was active. Its target is in
    the caller's namespace, or the allowlist has the pair. It goes to an endpoint
    registered for the target, or to one started for it. The decision about
    namespaces is the same for every request with the same host header, and
    where it is a refusal, that is the answer to all that are not too large. -/
theorem forwarded_within_namespaces (http : HttpCrate) (sha256 : String → String)
    (node : EastWest) (peer : SocketAddr) (req : RequestHeader) :
    (∀ fwd, proxyHandler http sha256 node.internalGateway peer req = .ok fwd →
      peer.ip.isLoopback = true ∧ node.ebpfActive = true ∧ ∃ caller appName ns,
          namespaceDecision http node.internalGateway peer req.headers = .ok (caller, appName, ns) ∧
          (∃ answer, node.namespaceMap = some answer ∧
            ∃ poll ≤ node.polls, answer poll peer.port = some caller) ∧
          parseInternalHost ((headerStr http req.headers "host").getD "") = some (appName, ns) ∧
          (caller.ns = ns ∨ ∃ allowed, node.gatewayConfig.crossNamespaceAllowlist = some allowed ∧
            allowed caller.ns ns = some true) ∧
          ((∃ inst ∈ node.registry ++ node.registryAfter,
              inst.qualified.serviceKey = (ns, appName) ∧ inst.endpoint = fwd.endpoint) ∨
            ∃ start appId, node.coldStart = some start ∧
              AppId.newNamespaced ns appName "v1" = some appId ∧
              start appId = some fwd.endpoint.addr)) ∧
      ∀ req', headerStr http req'.headers "host" = headerStr http req.headers "host" →
        namespaceDecision http node.internalGateway peer req'.headers =
          namespaceDecision http node.internalGateway peer req.headers ∧
        (bodyTooLarge http node.maxBodySizeBytes req'.headers = false → ∀ e,
          namespaceDecision http node.internalGateway peer req.headers = .error e →
            proxyHandler http sha256 node.internalGateway peer req' = .error e) := by
  refine ⟨fun fwd hfwd => ?_, fun req' hhost => ⟨namespaceDecision_host hhost _ _, ?_⟩⟩
  · rcases proxyHandler_ok hfwd with ⟨admitted, hadmitted, hendpoint⟩
    rcases admitRequest_ok hadmitted with ⟨caller, appName, ns, appId, hdecision, hid, htarget, -⟩
    rw [namespaceDecision_host (headerStr_strip_host http req.headers)] at hdecision
    rcases namespaceDecision_ok hdecision with ⟨hcaller, hparse, hcross⟩
    rcases EastWest.caller_of_resolveCaller hcaller with ⟨hip, hebpf, hmap⟩
    rw [hendpoint] at htarget
    refine ⟨hip, hebpf, caller, appName, ns, hdecision, hmap, hparse, hcross, ?_⟩
    rcases EastWest.endpoint_of_resolveTarget htarget with
      ⟨inst, hpicked, hinst⟩ | ⟨-, start, hcold, hstart⟩
    · obtain ⟨hmem, hkey⟩ := EastWest.registered_of_picked hpicked
      exact .inl ⟨inst, hmem, hkey, hinst⟩
    · exact .inr ⟨start, appId, hcold, hid, hstart⟩
  · intro hbody e herror
    refine proxyHandler_refused hbody ?_
    rw [← herror]
    exact namespaceDecision_host ((headerStr_strip_host http req'.headers).trans hhost) _ _

/-- The given instances are registered, and every limiter lets calls pass. -/
def eastWestNode (config : Gateway) (registry : List RegisteredInstance) : EastWest where
  gatewayConfig := config
  namespaceMap := some (fun poll _ =>
    if poll = 0 then none else some ⟨"default", "default/web:v1", 7⟩)
  polls := 1
  ebpfActive := true
  maxBodySizeBytes := 1024
  checkRequest _ _ := true
  registry := registry
  coldStart := none
  registryAfter := registry
  checkRouteRateLimit _ _ := true
  distributedLimiter _ := none
  isCircuitOpen _ := false
  connect _ := .connected

def apiInstance (version : String) : RegisteredInstance :=
  let appId := AppId.mk ("default/api:" ++ version)
  ⟨appId, appId, ⟨⟨.v4 0x7f000001#32, 8100⟩, false⟩⟩

/-- A call that is forwarded once the second poll has found its caller. -/
theorem forwarded_within_namespaces_polled : ∃ fwd, proxyHandler .documented (fun _ => "")
        (eastWestNode oneTokenGateway [apiInstance "v1"]).internalGateway localPeer
        namedRequest = .ok fwd ∧ localPeer.ip.isLoopback = true := by
  have hfwd : ∃ fwd, proxyHandler .documented (fun _ => "")
      (eastWestNode oneTokenGateway [apiInstance "v1"]).internalGateway localPeer
      namedRequest = .ok fwd := ⟨_, rfl⟩
  rcases hfwd with ⟨fwd, hfwd⟩
  exact ⟨fwd, hfwd, ((forwarded_within_namespaces _ _ _ _ _).1 fwd hfwd).1⟩

/-- The instances that are up, each at its own address, with those the registry lists and the one
    a cold start returns. -/
structure LiveInstances (node : EastWest) where
  instances : List RegisteredInstance
  distinct : ∀ a ∈ instances, ∀ b ∈ instances, a.endpoint.addr = b.endpoint.addr → a = b
  registered : ∀ inst ∈ node.registry ++ node.registryAfter, inst ∈ instances
  started : ∀ start appId addr, node.coldStart = some start → start appId = some addr →
    ∃ inst ∈ instances, inst.appId = appId ∧ inst.endpoint.addr = addr

/-- The instance that gets the request has the identifier of the policy exactly if the one
    that was picked has it. -/
theorem LiveInstances.serving (live : LiveInstances node)
    (htarget : resolveTarget node.internalGateway ns appName appId = .ok endpoint) :
    ∃ inst ∈ live.instances, inst.endpoint.addr = endpoint.addr ∧
      (inst.appId = appId ↔ ∀ inst ∈ node.picked ns appName, inst.appId = appId) := by
  rcases EastWest.endpoint_of_resolveTarget htarget with
    ⟨inst, hpicked, rfl⟩ | ⟨hnone, start, hcold, hstart⟩
  · refine ⟨inst, live.registered inst (EastWest.registered_of_picked hpicked).1, rfl, ?_⟩
    rw [hpicked]
    constructor
    · rintro happ _ ⟨⟩
      exact happ
    · intro h
      exact h inst rfl
  · rcases live.started start appId endpoint.addr hcold hstart with ⟨inst, hmem, happ, haddr⟩
    rw [hnone]
    exact ⟨inst, hmem, haddr, fun _ inst h => absurd h (Option.not_mem_none inst), fun _ => happ⟩

/-- The policies consulted for a request are those of an instance, and so is the outcome. -/
def PolicyOf (http : HttpCrate) (sha256 : String → String) (node : EastWest) (peer : SocketAddr)
    (req : RequestHeader) (inst : RegisteredInstance) : Prop :=
  targetAppId http req = some inst.appId ∧
    ∃ admitted, admitRequest http sha256 node.internalGateway peer req = .ok admitted ∧
      enforcePolicy http sha256 node.internalGateway inst.appId req = .ok admitted.userIdentity

/-- The policy enforced on a forwarded call is that of the instance which gets
    it, exactly if the registered instance picked for the target, if there is
    one, was deployed as its version `v1`. -/
theorem policy_of_serving_instance {http : HttpCrate} {sha256 : String → String}
    {node : EastWest} (live : LiveInstances node)
    {peer : SocketAddr} {req : RequestHeader} {fwd : ForwardedRequest}
    (hfwd : proxyHandler http sha256 node.internalGateway peer req = .ok fwd) :
    ∃ appName ns,
      parseInternalHost ((headerStr http req.headers "host").getD "") = some (appName, ns) ∧
      ∃ served ∈ live.instances, served.endpoint.addr = fwd.endpoint.addr ∧
        (∀ inst ∈ live.instances, inst.endpoint.addr = fwd.endpoint.addr → inst = served) ∧
        (PolicyOf http sha256 node peer req served ↔
          ∀ inst ∈ node.picked ns appName,
            AppId.newNamespaced ns appName "v1" = some inst.appId) := by
  rcases proxyHandler_ok hfwd with ⟨admitted, hadmitted, hendpoint⟩
  rcases admitRequest_ok hadmitted with
    ⟨caller, appName, ns, appId, hdecision, hid, htarget, hpolicy⟩
  rw [namespaceDecision_host (headerStr_strip_host http req.headers)] at hdecision
  rcases namespaceDecision_ok hdecision with ⟨-, hparse, -⟩
  rw [hendpoint] at htarget
  rcases live.serving htarget with ⟨served, hserved, haddr, happ⟩
  have hmade : targetAppId http req = some appId := by
    rw [targetAppId, hparse]
    exact hid
  refine ⟨appName, ns, hparse, served, hserved, haddr, ?_, ?_⟩
  · intro inst hinst hinstAddr
    exact live.distinct inst hinst served hserved (hinstAddr.trans haddr.symm)
  · simp only [hid, Option.some.injEq, eq_comm (a := appId)]
    rw [← happ, PolicyOf, hmade, Option.some.injEq]
    constructor
    · rintro ⟨rfl, -⟩
      rfl
    · rintro rfl
      exact ⟨rfl, admitted, hadmitted, hpolicy⟩

def registeredOnly (config : Gateway) (registry : List RegisteredInstance)
    (hdistinct : ∀ a ∈ registry, ∀ b ∈ registry, a.endpoint.addr = b.endpoint.addr → a = b) :
    LiveInstances (eastWestNode config registry) where
  instances := registry
  distinct := hdistinct
  registered _ h := (mem_append.mp h).elim id id
  started _ _ _ h := absurd h nofun

/-- Two versions are registered, and `v1` is found first. -/
def twoVersions : List RegisteredInstance :=
  [apiInstance "v1", { apiInstance "v2" with endpoint := ⟨⟨.v4 0x7f000001#32, 8101⟩, false⟩ }]

/-- A call to an application of which two versions are up. -/
theorem policy_of_serving_instance_v1 : ∃ served,
    served.endpoint.addr = (apiInstance "v1").endpoint.addr ∧
      PolicyOf .documented (fun _ => "") (eastWestNode mailGateway twoVersions) localPeer
        mailRequest served := by
  have hfwd : ∃ fwd, proxyHandler .documented (fun _ => "")
      (eastWestNode mailGateway twoVersions).internalGateway localPeer
      mailRequest = .ok fwd ∧ fwd.endpoint = (apiInstance "v1").endpoint := ⟨_, rfl, rfl⟩
  rcases hfwd with ⟨fwd, hfwd, haddr⟩
  obtain ⟨appName, ns, hparse, served, -, hserved, -, hpolicy⟩ := policy_of_serving_instance
    (registeredOnly mailGateway twoVersions (by decide)) hfwd
  cases hparse
  exact ⟨served, by rw [hserved, haddr], hpolicy.mpr (by decide)⟩

def v2Gateway : Gateway := oneTokenGateway.setRouteConfig "default/api:v2" mailRoute

/-- With only an instance of `v2` registered, a call without a token is forwarded
    to it. Its own policy refuses the call. -/
theorem policy_of_another_version : ∃ fwd, proxyHandler .documented (fun _ => "")
        (eastWestNode v2Gateway [apiInstance "v2"]).internalGateway localPeer namedRequest =
          .ok fwd ∧
      fwd.endpoint = (apiInstance "v2").endpoint ∧
      (apiInstance "v2").appId = ⟨"default/api:v2"⟩ ∧
      targetAppId .documented namedRequest = some ⟨"default/api:v1"⟩ ∧
      enforcePolicy .documented (fun _ => "")
        (eastWestNode v2Gateway [apiInstance "v2"]).internalGateway ⟨"default/api:v2"⟩
        namedRequest = .error (.status 401) :=
  ⟨_, rfl, rfl, rfl, rfl, rfl⟩

end WasmCloud
