import WasmCloud.Gateway.CircuitBreaker
import WasmCloud.Gateway.EastWest

/-!
# What the Gateways Record

Both gateways ask the same circuit breaker before they forward a request, and report how it
went. The breaker is meant to count answers with a 5xx status and upstreams that cannot be
reached or do not answer in time.

The external proxy reports from a filter that runs when the header of a response has
arrived, so a request without a response is not reported. The internal gateway reports
behind the call that forwards, and any response is a success there, whatever its status is.
Which hooks run is as the documentation of the proxy library has it.
-/

namespace WasmCloud

/-- What becomes of a request behind the gateway. -/
inductive UpstreamBehaviour where
  /-- There is no endpoint to connect to. -/
  | unavailable
  | connectTimedOut
  | connectFailed
  | handshakeFailed
  | replyTimedOut
  | replyFailed
  | answered (status : Nat)
  deriving DecidableEq, Repr

inductive RequestOutcome where
  | success
  | failure
  deriving DecidableEq, Repr

/-- `(500..600).contains(&status)`. -/
def isServerError (status : Nat) : Bool := decide (500 ≤ status) && decide (status < 600)

/-- A failure is an upstream not reached, not in time, or with a 5xx status. -/
def UpstreamBehaviour.due : UpstreamBehaviour → RequestOutcome
  | .answered status => if isServerError status then .failure else .success
  | _ => .failure

def UpstreamBehaviour.connect : UpstreamBehaviour → ConnectOutcome
  | .unavailable => .failed
  | .connectTimedOut => .timedOut
  | .connectFailed => .failed
  | .handshakeFailed => .connected
  | .replyTimedOut => .connected
  | .replyFailed => .connected
  | .answered _ => .connected

/-- `upstream_peer`: it needs an application and an endpoint of it. -/
def upstreamPeer (ctx : RequestCtx) (behaviour : UpstreamBehaviour) : Option AppId :=
  ctx.appId.bind (fun appId => if behaviour = .unavailable then none else some appId)

/-- What `upstream_response_filter` records of a response. -/
def upstreamResponseOutcomes (ctx : RequestCtx) (status : Nat) : List (AppId × RequestOutcome) :=
  match ctx.appId with
  | some appId => [(appId, if isServerError status then .failure else .success)]
  | none => []

/-- What the external proxy records of a request its filters have let through. -/
def externalOutcomes (ctx : RequestCtx) (behaviour : UpstreamBehaviour) :
    List (AppId × RequestOutcome) :=
  match upstreamPeer ctx behaviour with
  | none => []
  | some _ =>
    match behaviour with
    | .answered status => upstreamResponseOutcomes ctx status
    -- The library reports the error to the logging hook, which records nothing.
    | _ => []

section Internal

variable (http : HttpCrate)

/-- `forward_request` to its end: the status of the response, or of the error. -/
def forwardReply (behaviour : UpstreamBehaviour) (endpoint : RegisteredEndpoint)
    (method pathAndQuery : String) (headers : HeaderMap) (targetAppName : String) :
    Except Halt Nat := do
  let _ ← forwardRequest http (fun _ => behaviour.connect) endpoint method pathAndQuery headers
    targetAppName
  match behaviour with
  | .answered status => return status
  | .replyTimedOut => throw (.status 504)
  | _ => throw (.status 502)

/-- What `proxy_handler` records of a request it has let through. -/
def internalOutcomes (req : RequestHeader) (admitted : AdmittedRequest)
    (behaviour : UpstreamBehaviour) : List (AppId × RequestOutcome) :=
  match targetAppId http req with
  | none => []
  | some appId =>
    match forwardReply http behaviour admitted.endpoint req.method
      ((http.pathAndQuery req.uri).getD "/")
      (identityHeaders http (stripInternalIdentityHeaders req.headers) admitted.userIdentity)
      admitted.targetAppName with
    | .ok _ => [(appId, .success)]
    | .error _ => [(appId, .failure)]

/-- The path is a URI, and the name of the target makes a host header. -/
def Forwardable (req : RequestHeader) (admitted : AdmittedRequest) : Prop :=
  (http.parseUri ((http.pathAndQuery req.uri).getD "/")).isSome = true ∧
    (http.fromStr (admitted.targetAppName ++ ":" ++
      toString admitted.endpoint.addr.port.toNat)).isSome = true

end Internal

variable {behaviour : UpstreamBehaviour} {appId : AppId}

theorem upstreamPeer_eq_some {ctx : RequestCtx} (happ : ctx.appId = some appId)
    (h : behaviour ≠ .unavailable) : upstreamPeer ctx behaviour = some appId := by
  rw [upstreamPeer, happ, Option.bind_some, if_neg h]

-- A request without a response leaves the proxy by one of the two empty branches.
theorem externalOutcomes_of_error (h : ∀ status, behaviour ≠ .answered status) (ctx : RequestCtx) :
    externalOutcomes ctx behaviour = [] := by
  unfold externalOutcomes
  split
  · rfl
  · split
    · exact absurd rfl (h _)
    · rfl

theorem externalOutcomes_due_iff {ctx : RequestCtx} (happ : ctx.appId = some appId)
    (behaviour : UpstreamBehaviour) :
    externalOutcomes ctx behaviour = [(appId, behaviour.due)] ↔
      ∃ status, behaviour = .answered status := by
  constructor
  · intro hrecorded
    by_contra hnone
    rw [externalOutcomes_of_error (fun status heq => hnone ⟨status, heq⟩)] at hrecorded
    nomatch hrecorded
  · rintro ⟨status, rfl⟩
    have hpeer := upstreamPeer_eq_some happ
      (show UpstreamBehaviour.answered status ≠ .unavailable by
        simp)
    simp [externalOutcomes, hpeer, upstreamResponseOutcomes, happ, UpstreamBehaviour.due]

variable {req : RequestHeader} {admitted : AdmittedRequest}

theorem forwardRequest_isOk_iff {http : HttpCrate} {behaviour : UpstreamBehaviour}
    {req : RequestHeader} {admitted : AdmittedRequest} {headers : HeaderMap} :
    (∃ fwd, forwardRequest http (fun _ => behaviour.connect) admitted.endpoint req.method
        ((http.pathAndQuery req.uri).getD "/") headers admitted.targetAppName = .ok fwd) ↔
      behaviour.connect = .connected ∧ Forwardable http req admitted := by
  simp only [forwardRequest_ok_iff, Forwardable, Option.isSome_iff_exists]
  grind

theorem forwardReply_ok_iff {http : HttpCrate} {behaviour : UpstreamBehaviour} {req : RequestHeader}
    {admitted : AdmittedRequest} {headers : HeaderMap} :
    (∃ status, forwardReply http behaviour admitted.endpoint req.method
        ((http.pathAndQuery req.uri).getD "/") headers admitted.targetAppName = .ok status) ↔
      (∃ status, behaviour = .answered status) ∧ Forwardable http req admitted := by
  have hforward := @forwardRequest_isOk_iff http behaviour req admitted headers
  unfold forwardReply
  constructor
  · rintro ⟨status, hstatus⟩
    rcases bind_ok_iff.mp hstatus with ⟨fwd, hfwd, hreply⟩
    refine ⟨?_, (hforward.mp ⟨fwd, hfwd⟩).2⟩
    cases behaviour with
    | answered status => exact ⟨status, rfl⟩
    | unavailable | connectTimedOut | connectFailed | handshakeFailed | replyTimedOut
      | replyFailed => cases hreply
  · rintro ⟨⟨status, rfl⟩, hbuilt⟩
    rcases hforward.mpr ⟨rfl, hbuilt⟩ with ⟨fwd, hfwd⟩
    exact ⟨status, bind_ok_iff.mpr ⟨fwd, hfwd, rfl⟩⟩

/-- It is right if nothing comes back, and about what is no server error. -/
theorem internalOutcomes_due_iff {http : HttpCrate} {req : RequestHeader} {appId : AppId}
    (happ : targetAppId http req = some appId) (admitted : AdmittedRequest)
    (behaviour : UpstreamBehaviour) :
    internalOutcomes http req admitted behaviour = [(appId, behaviour.due)] ↔
      (behaviour.due = .success ↔
        (∃ status, behaviour = .answered status) ∧ Forwardable http req admitted) := by
  rw [← @forwardReply_ok_iff http behaviour req admitted
    (identityHeaders http (stripInternalIdentityHeaders req.headers) admitted.userIdentity)]
  unfold internalOutcomes
  rw [happ]
  simp only
  cases forwardReply http behaviour admitted.endpoint req.method
      ((http.pathAndQuery req.uri).getD "/")
      (identityHeaders http (stripInternalIdentityHeaders req.headers) admitted.userIdentity)
      admitted.targetAppName with
  | ok status =>
    cases behaviour.due with
    | success => simp
    | failure =>
      simp
  | error e =>
    cases behaviour.due with
    | success =>
      simp
    | failure => simp

theorem targetAppId_of_admitted {http : HttpCrate} {sha256 : String → String} {gw : InternalGateway}
    {peer : SocketAddr} (h : admitRequest http sha256 gw peer req = .ok admitted) :
    ∃ appId, targetAppId http req = some appId := by
  rcases admitRequest_ok h with ⟨caller, appName, ns, appId, hdecision, hid, -, -⟩
  rw [namespaceDecision_host (headerStr_strip_host http req.headers)] at hdecision
  rcases namespaceDecision_ok hdecision with ⟨-, hparse, -⟩
  refine ⟨appId, ?_⟩
  rw [targetAppId, hparse]
  exact hid

/-- Both gateways have let a request for the same application through. They both record
    the one outcome that is due exactly if the upstream answers, with a status that is not
    5xx if the internal gateway can build the request again. -/
theorem gateways_record_iff (http : HttpCrate) (sha256 : String → String) (gw : InternalGateway)
    (peer : SocketAddr) (req : RequestHeader) (admitted : AdmittedRequest) (ctx : RequestCtx)
    (behaviour : UpstreamBehaviour)
    (hinternal : admitRequest http sha256 gw peer req = .ok admitted)
    (hexternal : ctx.appId = targetAppId http req) :
    (∃ appId, ctx.appId = some appId ∧ externalOutcomes ctx behaviour = [(appId, behaviour.due)] ∧
        internalOutcomes http req admitted behaviour = [(appId, behaviour.due)]) ↔
      ∃ status, behaviour = .answered status ∧
        (isServerError status = false ↔ Forwardable http req admitted) := by
  rcases targetAppId_of_admitted hinternal with ⟨appId, happ⟩
  rw [happ] at hexternal
  -- A response is due as a success unless its status is 5xx.
  have hdue : ∀ status, (UpstreamBehaviour.answered status).due = .success ↔
      isServerError status = false := by
    intro status
    rw [UpstreamBehaviour.due]
    cases isServerError status with
    | true => simp
    | false => simp
  have hanswered : ∀ status, (∃ other, UpstreamBehaviour.answered status = .answered other) :=
    fun status => ⟨status, rfl⟩
  constructor
  · rintro ⟨other, hother, hext, hint⟩
    have heq : other = appId := Option.some.inj (hother.symm.trans hexternal)
    rw [heq] at hext hint
    rcases (externalOutcomes_due_iff hexternal _).mp hext with ⟨status, rfl⟩
    have hboth := (internalOutcomes_due_iff happ _ _).mp hint
    rw [hdue, and_iff_right (hanswered status)] at hboth
    exact ⟨status, rfl, hboth⟩
  · rintro ⟨status, rfl, hboth⟩
    refine ⟨appId, hexternal, (externalOutcomes_due_iff hexternal _).mpr (hanswered status), ?_⟩
    rw [internalOutcomes_due_iff happ, hdue, and_iff_right (hanswered status)]
    exact hboth

def apiContext : RequestCtx := RequestCtx.routed (some ⟨"default/api:v1"⟩) none

def apiAdmitted : AdmittedRequest := ⟨(apiInstance "v1").endpoint, "api", none⟩

/-- An answer that both record as the success it is. -/
theorem gateways_record_ok : admitRequest .documented (fun _ => "")
        (eastWestNode oneTokenGateway [apiInstance "v1"]).internalGateway localPeer
        namedRequest = .ok apiAdmitted ∧
      ∃ appId, apiContext.appId = some appId ∧
        externalOutcomes apiContext (.answered 200) = [(appId, .success)] ∧
        internalOutcomes .documented namedRequest apiAdmitted (.answered 200) =
          [(appId, .success)] :=
  ⟨rfl, (gateways_record_iff .documented (fun _ => "")
    (eastWestNode oneTokenGateway [apiInstance "v1"]).internalGateway localPeer namedRequest
    apiAdmitted apiContext (.answered 200) rfl rfl).mpr ⟨200, rfl, iff_of_true rfl ⟨rfl, rfl⟩⟩⟩

/-- A refused connection is recorded by the internal gateway only. An internal server
    error is recorded by both, as a failure by one and as a success by the other. -/
theorem gateways_record_differently : admitRequest .documented (fun _ => "")
        (eastWestNode oneTokenGateway [apiInstance "v1"]).internalGateway localPeer
        namedRequest = .ok apiAdmitted ∧
      externalOutcomes apiContext .connectFailed = [] ∧
      internalOutcomes .documented namedRequest apiAdmitted .connectFailed =
        [(⟨"default/api:v1"⟩, .failure)] ∧
      externalOutcomes apiContext (.answered 500) = [(⟨"default/api:v1"⟩, .failure)] ∧
      internalOutcomes .documented namedRequest apiAdmitted (.answered 500) =
        [(⟨"default/api:v1"⟩, .success)] :=
  ⟨rfl, rfl, rfl, rfl, rfl⟩

end WasmCloud
