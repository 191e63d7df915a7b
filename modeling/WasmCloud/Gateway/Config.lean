import WasmCloud.Lib.OrdTable
import WasmCloud.Lib.Text

/-!
# Gateway Configuration and Identities

The data both gateways decide on: the per-route configuration, the rules it holds for
single endpoints, the identity a validated token yields and the API keys of an application.

An endpoint rule's `EndpointAuth` has two cases that a route's `AuthPolicy` lacks:
`inherit`, which defers to the route, and `apiKey`, which is checked against the stored
keys. Claims are a JSON value, of which numbers keep only their text.
-/

namespace WasmCloud

/-- `<name>:<version>` or `<namespace>/<name>:<version>`. -/
structure AppId where
  text : String
  deriving DecidableEq, Repr

/-- `AppId::new_validate`. Dots, slashes and colons are allowed. -/
def AppId.newValidate (s : String) : Except String AppId :=
  if s = "" then .error "AppId cannot be empty"
  else if s.toList.contains ' ' || s.toList.contains '\n' || s.toList.contains '\t' then
    .error "AppId cannot contain whitespace"
  else if s.toList.contains '>' || s.toList.contains '*' then
    .error "AppId cannot contain > or * (invalid in NATS subjects)"
  else .ok ⟨s⟩

/-- `AppId::new_namespaced`. The source panics where this is `none`. -/
def AppId.newNamespaced (ns name version : String) : Option AppId :=
  (AppId.newValidate (ns ++ "/" ++ name ++ ":" ++ version)).toOption

variable {a : AppId}

theorem AppId.newValidate_ok {s : String} (h : AppId.newValidate s = .ok a) : a = ⟨s⟩ := by
  unfold AppId.newValidate at h
  split_ifs at h
  cases h
  rfl

theorem AppId.newNamespaced_text {ns name version : String}
    (h : AppId.newNamespaced ns name version = some a) :
    a.text = ns ++ "/" ++ name ++ ":" ++ version := by
  rw [AppId.newNamespaced] at h
  rcases hv : AppId.newValidate (ns ++ "/" ++ name ++ ":" ++ version) with e | b
  · rw [hv] at h
    exact absurd h (by simp only [Except.toOption, reduceCtorEq, not_false_eq_true])
  · rw [hv, Except.toOption, Option.some.injEq] at h
    rw [← h, AppId.newValidate_ok hv]

inductive AuthPolicy where
  | none
  | authenticated
  | roles (allowedRoles : List String) (clientId : Option String)
  deriving DecidableEq, Repr

/-- Authentication methods at the endpoint level. -/
inductive EndpointAuth where
  | inherit
  | none
  | authenticated
  | roles (allowedRoles : List String) (clientId : Option String)
  | apiKey
  deriving DecidableEq, Repr

structure RouteRateLimit where
  requestsPerSecond : UInt32
  burstCapacity : UInt32
  distributed : Bool
  deriving DecidableEq, Repr

/-- Per-endpoint security rule. No methods means every method. -/
structure EndpointRule where
  path : String
  methods : List String
  auth : EndpointAuth
  requiredScopes : List String
  rateLimit : Option RouteRateLimit
  deriving DecidableEq, Repr

structure CorsPolicy where
  allowedOrigins : List String
  allowedMethods : List String
  allowedHeaders : List String
  exposeHeaders : List String
  allowCredentials : Bool
  maxAgeSecs : UInt32
  deriving DecidableEq, Repr

/-- Request transformation applied before forwarding. -/
structure RequestTransform where
  addHeaders : List (String × String)
  removeHeaders : List String
  pathPrefix : Option String
  stripQueryParams : List String
  deriving DecidableEq, Repr

/-- What counts as a failure for the circuit breaker. -/
inductive FailureCriteria where
  | serverErrors
  | allErrors
  | statusCodes (codes : List UInt16)
  deriving DecidableEq, Repr

/-- Circuit breaker configuration per upstream application. -/
structure CircuitBreakerConfig where
  failureThreshold : UInt32
  resetTimeoutSecs : UInt32
  failureCriteria : FailureCriteria
  deriving DecidableEq, Repr

/-- Of the endpoint rules the first that matches wins. -/
structure GatewayRouteConfig where
  auth : AuthPolicy
  cors : Option CorsPolicy
  transform : Option RequestTransform
  rateLimit : Option RouteRateLimit
  circuitBreaker : Option CircuitBreakerConfig
  endpoints : List EndpointRule
  deriving DecidableEq, Repr

/-- The derived `Default`: a fully public route. -/
def GatewayRouteConfig.default : GatewayRouteConfig :=
  { auth := .none, cors := none, transform := none, rateLimit := none,
    circuitBreaker := none, endpoints := [] }

/-- A JSON value, as far as the gateway reads one. -/
inductive Json where
  | null
  | bool (b : Bool)
  | number (text : String)
  | string (s : String)
  | array (vs : List Json)
  | object (fields : List (String × Json))

namespace Json

/-- `Value::get` with a string index: a field of an object. -/
def get : Json → String → Option Json
  | .object fields, k => fields.lookup k
  | _, _ => none

def asStr : Json → Option String
  | .string s => some s
  | _ => none

def asArray : Json → Option (List Json)
  | .array vs => some vs
  | _ => none

end Json

/-- Extracted user identity from a validated token. -/
structure UserIdentity where
  sub : String
  email : Option String
  roles : List String
  rawClaims : Json

def UserIdentity.anonymous : UserIdentity :=
  { sub := "anonymous", email := none, roles := [], rawClaims := .object [] }

/-- The hash is `sha256$<hex>` and the scopes are path prefixes. -/
structure ApiKeyRecord where
  name : String
  keyHash : String
  scopes : List String
  deriving DecidableEq, Repr

end WasmCloud
