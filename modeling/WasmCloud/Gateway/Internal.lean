import WasmCloud.Gateway.External

/-!
# The Internal Gateway

The handler for traffic between applications on one node, from the accepted connection to
the request that is sent to the target. What other components answer is an argument. A
target name that is not a legal identifier makes the source panic, which is an outcome of
its own.

The authorization block resolves `inherit` once and checks the resolved policy.
`internalDecision` is its outcome as a table, in the same terms as `externalDecision`, and
the two tables differ in one row.
-/

namespace WasmCloud

/-- How the handler ends without forwarding. -/
inductive Halt where
  | status (code : Nat)
  | panicked
  deriving DecidableEq, Repr

inductive IpAddr where
  | v4 (bits : BitVec 32)
  | v6 (bits : BitVec 128)
  deriving DecidableEq, Repr

/-- `IpAddr::is_loopback`: `127.0.0.0/8`, or `::1`. -/
def IpAddr.isLoopback : IpAddr → Bool
  | .v4 bits => bits.toNat / 2 ^ 24 == 127
  | .v6 bits => bits == 1

structure SocketAddr where
  ip : IpAddr
  port : UInt16
  deriving DecidableEq, Repr

/-- Identity of a caller, resolved from its source port. -/
structure CallerIdentity where
  ns : String
  appId : String
  tid : UInt32
  deriving DecidableEq, Repr

/-- Where an instance listens, and whether it speaks cleartext HTTP/2. -/
structure RegisteredEndpoint where
  addr : SocketAddr
  h2c : Bool
  deriving DecidableEq, Repr

/-- How an attempt to connect to the target ends. -/
inductive ConnectOutcome where
  | connected
  | timedOut
  | failed
  deriving DecidableEq, Repr

/-- The gateway and what its collaborators answer during one request. The registry is asked again
    after a cold start, when it may know more. -/
structure InternalGateway where
  gatewayConfig : Gateway
  resolveIdentity : Option (UInt16 → Option CallerIdentity)
  ebpfActive : Bool
  maxBodySizeBytes : Nat
  checkRequest : String → IpAddr → Bool
  resolveEndpoint : String → String → Option RegisteredEndpoint
  coldStart : Option (AppId → Option SocketAddr)
  resolveAfterColdStart : String → String → Option RegisteredEndpoint
  checkRouteRateLimit : String → RouteRateLimit → Bool
  distributedLimiter : String → Option Bool
  isCircuitOpen : String → Bool
  connect : SocketAddr → ConnectOutcome

/-- What the handler knows of a request that passed its checks. -/
structure AdmittedRequest where
  endpoint : RegisteredEndpoint
  targetAppName : String
  userIdentity : Option UserIdentity

/-- A request as it is sent to the target. -/
structure ForwardedRequest where
  endpoint : RegisteredEndpoint
  method : String
  uri : Uri
  headers : HeaderMap

def stripInternalIdentityHeaders (headers : HeaderMap) : HeaderMap :=
  ((headers.remove ⟨"x-namespace"⟩).remove ⟨"x-source-app"⟩).remove ⟨"x-source-tid"⟩

/-- `parse_internal_host`: without the port, `.internal` at the end, then the namespace. -/
def parseInternalHost (host : String) : Option (String × String) :=
  let hostname :=
    -- An IPv6 address keeps its brackets, and the port is behind them.
    if Text.startsWith host "[" then
      match host.toList.dropWhile (fun c => c != ']') with
      | [] => host
      | _ => String.ofList (host.toList.takeWhile (fun c => c != ']') ++ [']'])
    else match Text.rsplitOnce host ':' with
      | some (name, _) => name
      | none => host
  if Text.endsWith hostname ".internal" then
    let hostname := Text.trimEndMatches hostname ".internal"
    match Text.rsplitOnce hostname '.' with
    | some (appName, ns) => some (appName, ns)
    | none => some (hostname, "default")
  else none

def endpointAuthPolicy (routeAuth : AuthPolicy) : EndpointAuth → Option AuthPolicy
  | .inherit => some routeAuth
  | .none => some .none
  | .authenticated => some .authenticated
  | .roles allowedRoles clientId => some (.roles allowedRoles clientId)
  | .apiKey => none

section Handler

variable (http : HttpCrate) (sha256 : String → String)

/-- The authorization block of `proxy_handler`: an identity, or a status. -/
def proxyHandlerAuth (gw : Gateway) (targetAppId : AppId)
    (routeConfig : Option GatewayRouteConfig) (endpointRule : Option EndpointRule)
    (headers : HeaderMap) (path : String) : Except Nat (Option UserIdentity) :=
  match endpointRule with
  | some rule =>
    match rule.auth with
    | .apiKey =>
      match headerStr http headers "x-api-key" with
      | some key =>
        if gw.validateApiKey sha256 targetAppId.text key path then .ok none else .error 401
      | none => .error 401
    | auth =>
      match endpointAuthPolicy (routeAuth routeConfig) auth with
      | some policy =>
        -- An inheriting rule brings the route's roles into the check below.
        if policy ≠ .none then
          match gw.authenticateHeaderMapWithPolicy http headers policy with
          | .ok identity =>
            if authorize identity policy && authorizeScopes identity rule.requiredScopes
            then .ok (some identity) else .error 403
          | .error _ => .error 401
        else .ok none
      | none => .ok none
  | none =>
    if routeAuth routeConfig ≠ .none then
      match gw.authenticateHeaderMapWithPolicy http headers (routeAuth routeConfig) with
      | .ok identity =>
        if authorize identity (routeAuth routeConfig) then .ok (some identity) else .error 403
      | .error _ => .error 401
    else .ok none

/-- Insert a header unless its value cannot be one. -/
def insertIfValid (headers : HeaderMap) (name : String) (value : String) : HeaderMap :=
  match http.fromStr value with
  | some v => headers.insert ⟨name⟩ v
  | none => headers

/-- The identity headers `proxy_handler` writes. -/
def identityHeaders (headers : HeaderMap) (userIdentity : Option UserIdentity) : HeaderMap :=
  match userIdentity with
  | none => headers
  | some identity =>
    let withId := insertIfValid http headers "x-user-id" identity.sub
    let withEmail := match identity.email with
      | some email => insertIfValid http withId "x-user-email" email
      | none => withId
    if identity.roles.isEmpty then withEmail
    else insertIfValid http withEmail "x-user-roles" (String.intercalate "," identity.roles)

/-- `forward_request` up to sending. The target is connected to before the request is built. -/
def forwardRequest (connect : SocketAddr → ConnectOutcome) (endpoint : RegisteredEndpoint)
    (method pathAndQuery : String) (headers : HeaderMap) (targetAppName : String) :
    Except Halt ForwardedRequest :=
  match connect endpoint.addr with
  | .timedOut => .error (.status 504)
  | .failed => .error (.status 502)
  | .connected =>
    match http.parseUri pathAndQuery with
    | none => .error (.status 400)
    | some uri =>
      let kept := (headers.remove ⟨"x-source-app"⟩).remove ⟨"host"⟩
      match http.fromStr (targetAppName ++ ":" ++ toString endpoint.addr.port.toNat) with
      | none => .error (.status 500)
      | some host => .ok ⟨endpoint, method, uri, kept.insert ⟨"host"⟩ host⟩

/-- The rate limit in force: the rule's own, else the route's. -/
def effectiveRateLimit (routeConfig : Option GatewayRouteConfig)
    (endpointRule : Option EndpointRule) : Option (Option String × RouteRateLimit) :=
  (endpointRule.bind (fun rule => rule.rateLimit.map (fun rl => (some rule.path, rl)))).orElse
    (fun _ => routeConfig.bind (fun cfg => cfg.rateLimit.map (fun rl => (none, rl))))

variable (gw : InternalGateway)

/-- The route's throttling in `proxy_handler`. -/
def throttled (appId method : String)
    (routeConfig : Option GatewayRouteConfig) (endpointRule : Option EndpointRule) : Bool :=
  match effectiveRateLimit routeConfig endpointRule with
  | none => false
  | some (endpointPath, rl) =>
    let key := match endpointPath with
      | some path => appId ++ "#" ++ method ++ "#" ++ path
      | none => appId ++ "#route"
    !gw.checkRouteRateLimit key rl || (rl.distributed && gw.distributedLimiter appId == some false)

/-- The caller of a connection, or the status that refuses it. -/
def resolveCaller (peer : SocketAddr) : Except Halt CallerIdentity :=
  if peer.ip.isLoopback then
    if gw.ebpfActive then
      match gw.resolveIdentity.bind (fun resolve => resolve peer.port) with
      | some caller => .ok caller
      | none => .error (.status 401)
    else .error (.status 401)
  else .error (.status 403)

/-- The endpoint of a target, started on demand, or the status that refuses. -/
def resolveTarget (ns appName : String) (appId : AppId) : Except Halt RegisteredEndpoint :=
  match gw.resolveEndpoint ns appName with
  | some endpoint => .ok endpoint
  | none =>
    match gw.coldStart.bind (fun start => start appId) with
    | some addr => .ok ((gw.resolveAfterColdStart ns appName).getD ⟨addr, false⟩)
    | none => .error (.status 502)

/-- The body is announced larger than the gateway takes. -/
def bodyTooLarge (maxBytes : Nat) (headers : HeaderMap) : Bool :=
  match (headerStr http headers "content-length").bind Text.parseU64 with
  | some n => decide (maxBytes < n)
  | none => false

/-- The rule `proxy_handler` finds for a request. -/
def internalRule (routeConfig : Option GatewayRouteConfig) (path method : String) :
    Option EndpointRule :=
  routeConfig.bind (fun cfg => cfg.endpoints.find? (fun e => e.covers path method))

/-- The checks of `proxy_handler`, in order, up to the circuit breaker. -/
def admitRequest (peer : SocketAddr) (req : RequestHeader) :
    Except Halt AdmittedRequest := do
  if bodyTooLarge http gw.maxBodySizeBytes req.headers then throw (.status 413)
  let sanitized := stripInternalIdentityHeaders req.headers
  let caller ← resolveCaller gw peer
  let (targetAppName, targetNs) ←
    ((parseInternalHost ((headerStr http sanitized "host").getD "")).elim
      (throw (.status 400)) pure)
  if caller.ns ≠ targetNs && !gw.gatewayConfig.isCrossNamespaceAllowed caller.ns targetNs then
    throw (.status 403)
  if !gw.checkRequest caller.appId peer.ip then throw (.status 429)
  -- The identifier is built with a constructor that panics on a bad name.
  let targetAppId ← (AppId.newNamespaced targetNs targetAppName "v1").elim (throw .panicked) pure
  let endpoint ← resolveTarget gw targetNs targetAppName targetAppId
  let routeConfig := gw.gatewayConfig.getRouteConfig targetAppId
  let endpointRule := internalRule routeConfig req.uri.path req.method
  let userIdentity ← (proxyHandlerAuth http sha256 gw.gatewayConfig targetAppId routeConfig
    endpointRule sanitized req.uri.path).mapError Halt.status
  if throttled gw targetAppId.text req.method routeConfig endpointRule then throw (.status 429)
  if gw.isCircuitOpen targetAppId.text then throw (.status 503)
  return ⟨endpoint, targetAppName, userIdentity⟩

/-- `proxy_handler`, up to the point where the request is sent. -/
def proxyHandler (peer : SocketAddr) (req : RequestHeader) :
    Except Halt ForwardedRequest := do
  let admitted ← admitRequest http sha256 gw peer req
  forwardRequest http gw.connect admitted.endpoint req.method
    ((http.pathAndQuery req.uri).getD "/")
    (identityHeaders http (stripInternalIdentityHeaders req.headers) admitted.userIdentity)
    admitted.targetAppName

end Handler

/-- The outcome of the authorization block, as `externalDecision` has it. -/
def internalDecision (rule : Option EndpointRule) (route : AuthPolicy)
    (jwt : Except GatewayError UserIdentity) (keyValid : Bool) : Option (Option UserIdentity) :=
  match rule with
  | none => if route = .none then some none else byToken jwt (fun i => authorize i route)
  | some r =>
    match r.auth with
    | .none => some none
    | .apiKey => if keyValid then some none else none
    | .inherit =>
      if route = .none then some none
      else byToken jwt (fun i => authorize i route && authorizeScopes i r.requiredScopes)
    | .authenticated => byToken jwt (fun i => authorizeScopes i r.requiredScopes)
    | .roles allowedRoles clientId =>
      byToken jwt (fun i =>
        authorizeRoles i allowedRoles clientId && authorizeScopes i r.requiredScopes)

theorem headerStr_strip (http : HttpCrate) (headers : HeaderMap) {name : String}
    (hns : name ≠ "x-namespace") (happ : name ≠ "x-source-app") (htid : name ≠ "x-source-tid") :
    headerStr http (stripInternalIdentityHeaders headers) name = headerStr http headers name := by
  have hne {other : String} (h : name ≠ other) : HeaderName.mk name ≠ ⟨other⟩ :=
    fun heq => h (HeaderName.mk.inj heq)
  rw [headerStr, stripInternalIdentityHeaders, MultiMap.get_remove_other _ _ (hne htid),
    MultiMap.get_remove_other _ _ (hne happ), MultiMap.get_remove_other _ _ (hne hns), headerStr]

theorem jwtOutcome_strip (http : HttpCrate) (gw : Gateway) (headers : HeaderMap) :
    jwtOutcome http gw (stripInternalIdentityHeaders headers) = jwtOutcome http gw headers := by
  simp [jwtOutcome, Gateway.authenticateHeaderMapWithPolicy,
    headerStr_strip http headers (by decide : "authorization" ≠ "x-namespace") (by decide)
      (by decide)]

theorem presentedKeyValid_strip (http : HttpCrate) (sha256 : String → String) (gw : Gateway)
    (appId path : String) (headers : HeaderMap) :
    presentedKeyValid http sha256 gw appId path (stripInternalIdentityHeaders headers) =
      presentedKeyValid http sha256 gw appId path headers := by
  simp [presentedKeyValid,
    headerStr_strip http headers (by decide : "x-api-key" ≠ "x-namespace") (by decide) (by decide)]

theorem token_block (http : HttpCrate) (gw : Gateway) (headers : HeaderMap) {policy : AuthPolicy}
    (hp : policy ≠ .none) (check : UserIdentity → Bool) :
    (match gw.authenticateHeaderMapWithPolicy http headers policy with
      | .ok identity => if check identity then .ok (some identity) else .error 403
      | .error _ => .error 401 : Except Nat (Option UserIdentity)).toOption
      = byToken (jwtOutcome http gw headers) check := by
  have hjwt : jwtOutcome http gw headers = gw.authenticateHeaderMapWithPolicy http headers policy :=
    Gateway.authenticate_policy_irrel http gw headers (by decide) hp
  grind [byToken, Except.toOption]

theorem proxyHandlerAuth_decision (http : HttpCrate) (sha256 : String → String) (gw : Gateway)
    (appId : AppId) (cfg : Option GatewayRouteConfig) (rule : Option EndpointRule)
    (headers : HeaderMap) (path : String) :
    (proxyHandlerAuth http sha256 gw appId cfg rule headers path).toOption
      = internalDecision rule (routeAuth cfg) (jwtOutcome http gw headers)
          (presentedKeyValid http sha256 gw appId.text path headers) := by
  rcases rule with _ | r
  · grind [proxyHandlerAuth, internalDecision, Except.toOption, token_block]
  · cases hauth : r.auth with
    | inherit =>
      grind [proxyHandlerAuth, internalDecision, endpointAuthPolicy, Except.toOption, token_block]
    | none =>
      simp only [proxyHandlerAuth, internalDecision, hauth, endpointAuthPolicy]
      rfl
    | authenticated =>
      have hp : AuthPolicy.authenticated ≠ .none := by decide
      simp only [proxyHandlerAuth, internalDecision, hauth, endpointAuthPolicy, if_pos hp]
      exact token_block http gw headers hp (fun i => authorizeScopes i r.requiredScopes)
    | roles allowedRoles clientId =>
      have hp : AuthPolicy.roles allowedRoles clientId ≠ .none := by
        simp
      simp only [proxyHandlerAuth, internalDecision, hauth, endpointAuthPolicy, if_pos hp]
      exact token_block http gw headers hp (fun i =>
        authorizeRoles i allowedRoles clientId && authorizeScopes i r.requiredScopes)
    | apiKey =>
      grind [proxyHandlerAuth, internalDecision, presentedKeyValid, Except.toOption]

/-- The external chain lets a request to an application through. -/
def externalAdmits (http : HttpCrate) (sha256 : String → String) (gw : Gateway) (appId : AppId)
    (req : RequestHeader) : Bool :=
  (filterChain http sha256 gw req (.routed (some appId) (gw.getRouteConfig appId))).toOption.isSome

/-- The authorization block of the internal gateway lets it through. -/
def internalAdmits (http : HttpCrate) (sha256 : String → String) (gw : Gateway) (appId : AppId)
    (req : RequestHeader) : Bool :=
  (proxyHandlerAuth http sha256 gw appId (gw.getRouteConfig appId)
    (internalRule (gw.getRouteConfig appId) req.uri.path req.method)
    (stripInternalIdentityHeaders req.headers) req.uri.path).toOption.isSome

theorem byToken_isSome_iff {jwt : Except GatewayError UserIdentity} {check : UserIdentity → Bool} :
    (byToken jwt check).isSome = true ↔ ∃ i, jwt = .ok i ∧ check i = true := by
  rw [Option.isSome_iff_exists]
  constructor
  · rintro ⟨_, h⟩
    rcases byToken_eq_some_iff.mp h with ⟨i, hjwt, hc, -⟩
    exact ⟨i, hjwt, hc⟩
  · rintro ⟨i, hjwt, hc⟩
    exact ⟨some i, byToken_eq_some_iff.mpr ⟨i, hjwt, hc, rfl⟩⟩

/-- The tables differ where an inheriting rule meets a token without the route's roles. -/
theorem decisions_agree_iff (rule : Option EndpointRule) (route : AuthPolicy)
    (jwt : Except GatewayError UserIdentity) (keyValid : Bool) :
    ((externalDecision rule route jwt keyValid).isSome = true ↔
      (internalDecision rule route jwt keyValid).isSome = true) ↔
      ∀ r, rule = some r → r.auth = .inherit → ∀ i, jwt = .ok i →
        authorizeScopes i r.requiredScopes = true → authorize i route = true := by
  rcases rule with _ | r
  · exact iff_of_true Iff.rfl (fun r hr => nomatch hr)
  · simp only [Option.some.injEq, forall_eq']
    by_cases hauth : r.auth = .inherit
    · simp only [externalDecision, internalDecision, hauth, true_implies]
      by_cases hroute : route = .none
      · subst hroute
        exact iff_of_true Iff.rfl (fun _ _ _ => rfl)
      · -- Outside the scopes are enough; inside the route's roles are asked for too.
        grind [byToken_isSome_iff]
    · -- Every other row is the same in both tables.
      have hrow : externalDecision (some r) route jwt keyValid =
          internalDecision (some r) route jwt keyValid := by
        grind [externalDecision, internalDecision]
      exact iff_of_true (by rw [hrow]) (fun h => absurd h hauth)

/-- The two gateways take the same decision on a request exactly when it does
    not match an inheriting rule with a token that has the rule's scopes and
    lacks the route's roles. -/
theorem gateways_agree_iff (http : HttpCrate) (sha256 : String → String) (gw : Gateway)
    (appId : AppId) (req : RequestHeader) :
    (externalAdmits http sha256 gw appId req = true ↔
      internalAdmits http sha256 gw appId req = true) ↔
      ∀ r, internalRule (gw.getRouteConfig appId) req.uri.path req.method = some r →
        r.auth = .inherit → ∀ i, jwtOutcome http gw req.headers = .ok i →
          authorizeScopes i r.requiredScopes = true →
            authorize i (routeAuth (gw.getRouteConfig appId)) = true := by
  rw [← decisions_agree_iff _ _ _
    (presentedKeyValid http sha256 gw appId.text req.uri.path req.headers)]
  have hext := filterChain_decision http sha256 gw req (some appId) (gw.getRouteConfig appId)
  have hint := proxyHandlerAuth_decision http sha256 gw appId (gw.getRouteConfig appId)
    (internalRule (gw.getRouteConfig appId) req.uri.path req.method)
    (stripInternalIdentityHeaders req.headers) req.uri.path
  rw [jwtOutcome_strip, presentedKeyValid_strip] at hint
  rw [externalAdmits, internalAdmits, hint, ← Option.isSome_map, hext]
  rfl

def adminGateway : Gateway := oneTokenGateway.setRouteConfig "default/api:v1" adminRoute

/-- The external proxy admits the user and the internal gateway does not. -/
theorem gateways_disagree_on_inherited_roles :
    externalAdmits .documented (fun _ => "") adminGateway ⟨"default/api:v1"⟩ userRequest = true ∧
      internalAdmits .documented (fun _ => "") adminGateway ⟨"default/api:v1"⟩ userRequest
        = false :=
  ⟨rfl, rfl⟩

end WasmCloud
