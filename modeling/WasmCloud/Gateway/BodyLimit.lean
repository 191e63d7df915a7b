import WasmCloud.Gateway.Outcomes

/-!
# The Size of a Forwarded Body

Both gateways compare the first `content-length` header with their limit and then stream the
body. Where a body ends is up to the HTTP library: behind as many bytes as that header says, or
where the stream ends. A body of the first kind is within the limit, and one of the second is
forwarded as long as it is.
-/

namespace WasmCloud

/-- How the library finds the end of a body. Without a body that is after no bytes. -/
inductive BodyFraming where
  | length (bytes : Nat)
  | streamed
  deriving DecidableEq, Repr

/-- The bytes of a body that a client sends. -/
def BodyFraming.read (sent : Nat) : BodyFraming → Nat
  | .length bytes => min bytes sent
  | .streamed => sent

/-- What the library documents: a length is that of the header, and repeated headers agree. -/
def FramedByHeader (http : HttpCrate) (framing : HeaderMap → BodyFraming) : Prop :=
  ∀ headers bytes, framing headers = .length bytes →
    bytes = 0 ∨ (headerStr http headers "content-length").bind Text.parseU64 = some bytes

section Gateways

variable (http : HttpCrate) (sha256 : String → String) (framing : HeaderMap → BodyFraming)

/-- `request_filter` of the external proxy, with the normalized host, the application and the
    configuration the route is resolved to, and whether its other checks let the request pass.
    `none` is a request the filter has answered. -/
def requestFilter (gateway : Gateway) (maxBodySizeBytes : Nat) (host : String)
    (route : Option AppId) (cfg : Option GatewayRouteConfig) (passes : RequestCtx → Bool)
    (req : RequestHeader) : Option RequestCtx :=
  if host = "" ∨ req.uri.path = "/_platform/health" then some (.routed none none)
  else if bodyTooLarge http maxBodySizeBytes req.headers then none
  else if route.isNone then none
  else (filterChain http sha256 gateway req (.routed route cfg)).toOption.filter passes

/-- The bytes of a body the external proxy forwards. -/
def externalBody (gateway : Gateway) (maxBodySizeBytes : Nat) (host : String)
    (route : Option AppId) (cfg : Option GatewayRouteConfig) (passes : RequestCtx → Bool)
    (behaviour : UpstreamBehaviour) (req : RequestHeader) (sent : Nat) : Nat :=
  match (requestFilter http sha256 gateway maxBodySizeBytes host route cfg passes req).bind
    (upstreamPeer · behaviour) with
  | none => 0
  | some _ => (framing req.headers).read sent

/-- The bytes of a body the internal gateway forwards. -/
def internalBody (gw : InternalGateway) (peer : SocketAddr) (req : RequestHeader) (sent : Nat) :
    Nat :=
  match proxyHandler http sha256 gw peer req with
  | .ok _ => (framing req.headers).read sent
  | .error _ => 0

end Gateways

variable {http : HttpCrate} {sha256 : String → String} {framing : HeaderMap → BodyFraming}

theorem read_le_of_fits (hframing : FramedByHeader http framing) {headers : HeaderMap}
    {maxBytes : Nat} (hfits : bodyTooLarge http maxBytes headers = false)
    (hstreamed : framing headers ≠ .streamed) (sent : Nat) :
    (framing headers).read sent ≤ maxBytes := by
  cases hlength : framing headers with
  | streamed => exact absurd hlength hstreamed
  | length bytes =>
    refine (Nat.min_le_left bytes sent).trans ?_
    rcases hframing headers bytes hlength with rfl | hheader
    · exact Nat.zero_le _
    · rw [bodyTooLarge, hheader] at hfits
      exact not_lt.mp (of_decide_eq_false hfits)

/-- **A body that ends behind its announced length is within the limit**, whichever gateway
    forwards it. -/
theorem framed_body_bounded (hframing : FramedByHeader http framing) (gateway : Gateway)
    (maxBodySizeBytes : Nat) (host : String) (route : Option AppId)
    (cfg : Option GatewayRouteConfig) (passes : RequestCtx → Bool)
    (behaviour : UpstreamBehaviour) (gw : InternalGateway) (peer : SocketAddr)
    (req : RequestHeader) (sent : Nat) (hstreamed : framing req.headers ≠ .streamed) :
    externalBody http sha256 framing gateway maxBodySizeBytes host route cfg passes behaviour req
        sent ≤ maxBodySizeBytes ∧
      internalBody http sha256 framing gw peer req sent ≤ gw.maxBodySizeBytes := by
  constructor
  · rw [externalBody, requestFilter]
    split_ifs with hbypass hlarge hroute
    · exact Nat.zero_le _
    · exact Nat.zero_le _
    · exact Nat.zero_le _
    · split
      · exact Nat.zero_le _
      · exact read_le_of_fits hframing (Bool.eq_false_iff.mpr hlarge) hstreamed sent
  · rw [internalBody, proxyHandler, admitRequest]
    split
    · rename_i fwd hfwd
      cases hlarge : bodyTooLarge http gw.maxBodySizeBytes req.headers with
      | true =>
        rw [hlarge] at hfwd
        cases hfwd
      | false => exact read_le_of_fits hframing hlarge hstreamed sent
    · exact Nat.zero_le _

/-- The framing of HTTP/1.1. -/
def http1Framing (http : HttpCrate) (headers : HeaderMap) : BodyFraming :=
  if (headers.get ⟨"transfer-encoding"⟩).isSome then .streamed
  else .length (((headerStr http headers "content-length").bind Text.parseU64).getD 0)

theorem http1Framing_framedByHeader (http : HttpCrate) :
    FramedByHeader http (http1Framing http) := by
  intro headers bytes h
  unfold http1Framing at h
  split_ifs at h
  rw [← BodyFraming.length.inj h]
  cases (headerStr http headers "content-length").bind Text.parseU64 with
  | none => exact .inl rfl
  | some n => exact .inr rfl

/-- A request for the sample application, with one more header. -/
def uploadRequest (name value : String) : RequestHeader :=
  { method := "POST", uri := ⟨"/users", "/users", none⟩,
    headers := (MultiMap.empty.insert ⟨"host"⟩ ⟨Text.utf8 "api.default.internal"⟩).insert
      ⟨name⟩ ⟨Text.utf8 value⟩ }

theorem announced_upload_bounded :
    let req := uploadRequest "content-length" "1000"
    let framing := http1Framing .documented
    externalBody .documented id framing oneTokenGateway 1024 "api.example.com"
        (some ⟨"default/api:v1"⟩) none (fun _ => true) (.answered 200) req 1000 ≤ 1024 ∧
      internalBody .documented id framing (passingGateway oneTokenGateway) localPeer req 1000 ≤
        1024 :=
  framed_body_bounded (http1Framing_framedByHeader _) _ 1024 _ _ _ _ _
    (passingGateway oneTokenGateway) localPeer _ 1000 (by decide)

/-- Both gateways forward a chunked body of two thousand bytes. -/
theorem chunked_upload_unbounded :
    let req := uploadRequest "transfer-encoding" "chunked"
    let framing := http1Framing .documented
    externalBody .documented id framing oneTokenGateway 1024 "api.example.com"
        (some ⟨"default/api:v1"⟩) none (fun _ => true) (.answered 200) req 2000 = 2000 ∧
      internalBody .documented id framing (passingGateway oneTokenGateway) localPeer req 2000 =
        2000 :=
  ⟨rfl, rfl⟩

end WasmCloud
