import WasmCloud.Gateway.External

/-!
# The Gateway Section of a Deploy Manifest

A manifest names its policies by text. A text that is none of those the conversion knows makes
an endpoint inherit and a route public, so a request without credentials can be admitted where the
manifest does not say `none`. `Known` has the texts with which that does not happen.
-/

namespace WasmCloud

structure GatewayAuthManifest where
  policy : String
  allowedRoles : List String
  clientId : Option String
  deriving DecidableEq, Repr

structure EndpointRuleManifest where
  path : String
  methods : List String
  auth : String
  allowedRoles : List String
  requiredScopes : List String
  clientId : Option String
  rateLimit : Option RouteRateLimit
  deriving DecidableEq, Repr

/-- What `to_gateway_config` reads. The hosts and routes are for `to_routes`. -/
structure GatewayManifestSection where
  auth : Option GatewayAuthManifest
  cors : Option CorsPolicy
  rateLimit : Option RouteRateLimit
  circuitBreaker : Option CircuitBreakerConfig
  transform : Option RequestTransform
  endpoints : List EndpointRuleManifest
  deriving DecidableEq, Repr

/-- The policy of a route. -/
def GatewayAuthManifest.toPolicy (a : GatewayAuthManifest) : AuthPolicy :=
  if a.policy = "none" then .none
  else if a.policy = "authenticated" then .authenticated
  else if a.policy = "roles" then .roles a.allowedRoles a.clientId
  else .none

namespace EndpointRuleManifest

def toAuth (e : EndpointRuleManifest) : EndpointAuth :=
  if e.auth = "none" then .none
  else if e.auth = "authenticated" then .authenticated
  else if e.auth = "roles" then .roles e.allowedRoles e.clientId
  else if e.auth = "api_key" then .apiKey
  else .inherit

def toRule (e : EndpointRuleManifest) : EndpointRule :=
  ⟨e.path, e.methods, e.toAuth, e.requiredScopes, e.rateLimit⟩

end EndpointRuleManifest

namespace GatewayManifestSection

/-- The body of `to_gateway_config`. -/
def toGatewayConfig (gw : GatewayManifestSection) : GatewayRouteConfig where
  auth := (gw.auth.map GatewayAuthManifest.toPolicy).getD .none
  cors := gw.cors
  transform := gw.transform
  rateLimit := gw.rateLimit
  circuitBreaker := gw.circuitBreaker
  endpoints := gw.endpoints.map EndpointRuleManifest.toRule

/-- The first endpoint of the manifest that matches. -/
def firstMatch (gw : GatewayManifestSection) (path method : String) : Option EndpointRuleManifest :=
  gw.endpoints.find? fun e => e.toRule.covers path method

/-- The manifest says that the request needs no credentials. -/
def Public (gw : GatewayManifestSection) (path method : String) : Prop :=
  (∃ e, gw.firstMatch path method = some e ∧ e.auth = "none") ∨
  (∀ e, gw.firstMatch path method = some e → e.auth = "inherit") ∧
    ∀ a, gw.auth = some a → a.policy = "none"

/-- The texts that decide about the request are known: those of the endpoint, or those of the
    route, or the route's asks for a token. -/
def Known (gw : GatewayManifestSection) (path method : String) : Prop :=
  (∃ e, gw.firstMatch path method = some e ∧
    e.auth ∈ ["none", "authenticated", "roles", "api_key"]) ∨
  (∀ e, gw.firstMatch path method = some e → e.auth = "inherit") ∧
    (∀ a, gw.auth = some a → a.policy ∈ ["none", "authenticated", "roles"]) ∨
  ∃ a, gw.auth = some a ∧ a.policy ∈ ["authenticated", "roles"]

variable {gw : GatewayManifestSection} {path method : String}

theorem findEndpointRule_toGatewayConfig (appId : Option AppId) :
    findEndpointRule (.routed appId (some gw.toGatewayConfig)) path method =
      (gw.firstMatch path method).map EndpointRuleManifest.toRule :=
  List.find?_map ..

end GatewayManifestSection

/-- Without credentials exactly the open rules and routes admit. -/
theorem admits_bare_iff (http : HttpCrate) (sha256 : String → String) (gateway : Gateway)
    {req : RequestHeader} (htoken : headerStr http req.headers "authorization" = none)
    (hkey : headerStr http req.headers "x-api-key" = none) (appId : Option AppId)
    (cfg : Option GatewayRouteConfig) :
    (filterChain http sha256 gateway req (.routed appId cfg)).toOption.isSome = true ↔
      match (findEndpointRule (.routed appId cfg) req.uri.path req.method).map
        EndpointRule.auth with
      | some .none => True
      | none | some .inherit => routeAuth cfg = .none
      | _ => False := by
  have hjwt : ∃ e, jwtOutcome http gateway req.headers = .error e := by
    rw [jwtOutcome, Gateway.authenticateHeaderMapWithPolicy, if_neg (by decide), htoken]
    cases gateway.oidc with
    | none => exact ⟨_, rfl⟩
    | some provider => exact ⟨_, rfl⟩
  obtain ⟨e, hjwt⟩ := hjwt
  have hdecision := congrArg Option.isSome
    (filterChain_decision http sha256 gateway req appId cfg)
  rw [Option.isSome_map, hjwt, presentedKeyValid, hkey] at hdecision
  rw [hdecision]
  rcases findEndpointRule (.routed appId cfg) req.uri.path req.method with _ | rule
  · simp [externalDecision, byToken]
  · cases hauth : rule.auth <;> simp [externalDecision, byToken, hauth]

namespace GatewayManifestSection

variable {gw : GatewayManifestSection}

/-- A route is public unless its text is one of the two that ask for a token. -/
theorem routeAuth_eq_none_iff :
    routeAuth (some gw.toGatewayConfig) = .none ↔
      ∀ a, gw.auth = some a → a.policy ∉ ["authenticated", "roles"] := by
  cases hauth : gw.auth with
  | none => simp [routeAuth, toGatewayConfig, hauth]
  | some a => grind [routeAuth, toGatewayConfig, GatewayAuthManifest.toPolicy]

/-- **A request without credentials is admitted only where the manifest says so**, exactly if the
    texts that decide are known. -/
theorem bare_only_where_public_iff (http : HttpCrate) (sha256 : String → String)
    (gateway : Gateway) (req : RequestHeader) (appId : Option AppId)
    (gw : GatewayManifestSection) (htoken : headerStr http req.headers "authorization" = none)
    (hkey : headerStr http req.headers "x-api-key" = none) :
    ((filterChain http sha256 gateway req
        (.routed appId (some gw.toGatewayConfig))).toOption.isSome = true →
      gw.Public req.uri.path req.method) ↔ gw.Known req.uri.path req.method := by
  rw [admits_bare_iff http sha256 gateway htoken hkey, findEndpointRule_toGatewayConfig,
    routeAuth_eq_none_iff, Public, Known]
  cases hmatch : gw.firstMatch req.uri.path req.method with
  | none => grind
  | some e => grind [EndpointRuleManifest.toRule, EndpointRuleManifest.toAuth]

/-- A manifest with a policy for its route and no endpoints. -/
def ofPolicy (policy : String) : GatewayManifestSection :=
  ⟨some ⟨policy, ["admin"], none⟩, none, none, none, none, []⟩

def bareRequest : RequestHeader := ⟨"GET", ⟨"/users", "/users", none⟩, MultiMap.empty⟩

theorem roles_keep_out :
    (ofPolicy "roles").Known "/users" "GET" ∧
      ((filterChain .documented id oneTokenGateway bareRequest
          (.routed none (some (ofPolicy "roles").toGatewayConfig))).toOption.isSome = true →
        (ofPolicy "roles").Public "/users" "GET") :=
  have hknown : (ofPolicy "roles").Known "/users" "GET" := .inr (.inr ⟨_, rfl, by decide⟩)
  ⟨hknown, (bare_only_where_public_iff .documented id oneTokenGateway bareRequest none
    (ofPolicy "roles") rfl rfl).mpr hknown⟩

/-- `api_key` is a policy of endpoints only. As that of a route it is taken for `none`. -/
theorem api_key_route_public :
    (filterChain .documented id oneTokenGateway bareRequest
        (.routed none (some (ofPolicy "api_key").toGatewayConfig))).toOption.isSome = true ∧
      ¬ (ofPolicy "api_key").Public "/users" "GET" := by
  refine ⟨rfl, ?_⟩
  rintro (⟨e, he, -⟩ | ⟨-, hroute⟩)
  · nomatch he
  · exact absurd (hroute _ rfl) (by decide)

end GatewayManifestSection

end WasmCloud
