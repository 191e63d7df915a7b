import Mathlib.Data.List.Sort
import WasmCloud.Gateway.Config
import WasmCloud.Gateway.Http

/-!
# Authorization and the Shared Gateway State

The decision functions both gateways call, and the state they share. Token validation and
hashing are other packages' code: a provider is the function from a bearer token to its
outcome, and the hash behind API keys is a parameter.

`extractScopes` sorts and removes adjacent duplicates before the scopes are compared.
Neither changes which scopes there are: `mem_extractScopes`.
-/

namespace WasmCloud

variable (identity : UserIdentity)

/-- `authz::authorize_roles`: any allowed role, bare or scoped to the client. -/
def authorizeRoles (allowedRoles : List String) (clientId : Option String) : Bool :=
  allowedRoles.any (fun required =>
    identity.roles.any (fun r => r == required) ||
      clientId.any (fun cid => identity.roles.any (fun r => r == cid ++ ":" ++ required)))

/-- `Vec::dedup`: drop an element equal to the one before it. -/
def dedupAdjacent : List String → List String
  | [] => []
  | [s] => [s]
  | s :: t :: rest => if s = t then dedupAdjacent (t :: rest) else s :: dedupAdjacent (t :: rest)

def stringItems (vs : List Json) : List String := vs.filterMap Json.asStr

/-- `extract_scopes`, before sorting: the `scope` string, the `scp` array, the `scp` string. -/
def collectScopes : List String :=
  (((identity.rawClaims.get "scope").bind Json.asStr).elim [] Text.splitWhitespace) ++
    (((identity.rawClaims.get "scp").bind Json.asArray).elim [] stringItems) ++
    (((identity.rawClaims.get "scp").bind Json.asStr).elim [] Text.splitWhitespace)

def extractScopes : List String :=
  dedupAdjacent ((collectScopes identity).insertionSort (· ≤ ·))

/-- `authz::authorize_scopes`: all required scopes are present. -/
def authorizeScopes (requiredScopes : List String) : Bool :=
  if requiredScopes.isEmpty then true
  else requiredScopes.all (fun required =>
    (extractScopes identity).any (fun scope => scope == required))

/-- `authz::authorize`: the route's policy, on an identity already validated. -/
def authorize : AuthPolicy → Bool
  | .none => true
  | .authenticated => true
  | .roles allowedRoles clientId => authorizeRoles identity allowedRoles clientId

theorem authorizeScopes_iff (required : List String) :
    authorizeScopes identity required = true ↔
      ∀ scope ∈ required, scope ∈ extractScopes identity := by
  simp +contextual [authorizeScopes]

inductive GatewayError where
  | auth (msg : String)
  | oidc (msg : String)
  deriving DecidableEq, Repr

/-- The token validator: a bearer token and its outcome. -/
structure OidcProvider where
  validateToken : String → Except GatewayError UserIdentity

/-- `ApiKeyValidator`: the records of one application by key hash. -/
abbrev ApiKeyValidator := OrdTable (fun r : ApiKeyRecord => r.keyHash)

/-- `ApiKeyValidator::new`: a later record with the same hash wins. -/
def ApiKeyValidator.new (records : List ApiKeyRecord) : ApiKeyValidator :=
  OrdTable.empty.insertAll records

/-- `ApiKeyValidator::validate`: the key is stored and its scopes cover the path. -/
def ApiKeyValidator.validate (sha256 : String → String) (validator : ApiKeyValidator)
    (headerValue path : String) : Bool :=
  match validator.get? ("sha256$" ++ sha256 headerValue) with
  | some record => record.scopes.isEmpty || record.scopes.any (fun s => Text.startsWith path s)
  | none => false

/-- The state both gateways share. The allowlist is by source and target namespace. -/
structure Gateway where
  oidc : Option OidcProvider
  routeConfigs : OrdTable (Prod.fst : String × GatewayRouteConfig → String)
  apiKeyValidators : OrdTable (Prod.fst : String × ApiKeyValidator → String)
  crossNamespaceAllowlist : Option (String → String → Option Bool)

namespace Gateway

def getRouteConfig (gw : Gateway) (appId : AppId) : Option GatewayRouteConfig :=
  (gw.routeConfigs.get? appId.text).map Prod.snd

def setRouteConfig (gw : Gateway) (appId : String) (config : GatewayRouteConfig) : Gateway :=
  { gw with routeConfigs := gw.routeConfigs.insert (appId, config) }

def removeRouteConfig (gw : Gateway) (appId : String) : Gateway :=
  { gw with routeConfigs := gw.routeConfigs.remove appId }

/-- `validate_api_key`: an application without a validator accepts no key. -/
def validateApiKey (sha256 : String → String) (gw : Gateway) (appId apiKey path : String) : Bool :=
  match gw.apiKeyValidators.get? appId with
  | some (_, validator) => validator.validate sha256 apiKey path
  | none => false

def authenticateHeaderMapWithPolicy (http : HttpCrate) (gw : Gateway) (headers : HeaderMap)
    (policy : AuthPolicy) : Except GatewayError UserIdentity :=
  if policy = .none then .ok UserIdentity.anonymous
  else match gw.oidc with
    | none => .error (.auth "OIDC not configured")
    | some provider =>
      match (headerStr http headers "authorization").bind
          (fun v => Text.stripPrefix v "Bearer ") with
      | none => .error (.auth "missing Authorization header")
      | some token => provider.validateToken token

/-- `Gateway::is_cross_namespace_allowed`: deny unless the pair is listed. -/
def isCrossNamespaceAllowed (gw : Gateway) (sourceNs targetNs : String) : Bool :=
  if sourceNs = targetNs then true
  else match gw.crossNamespaceAllowlist with
    | some allowed => allowed sourceNs targetNs == some true
    | none => false

/-- The policy decides whether a token is asked for, not how it is validated. -/
theorem authenticate_policy_irrel (http : HttpCrate) (gw : Gateway) (headers : HeaderMap)
    {p q : AuthPolicy} (hp : p ≠ .none) (hq : q ≠ .none) :
    authenticateHeaderMapWithPolicy http gw headers p =
      authenticateHeaderMapWithPolicy http gw headers q := by
  simp [authenticateHeaderMapWithPolicy, if_neg hp, if_neg hq]

end Gateway

end WasmCloud
