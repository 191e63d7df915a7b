import WasmCloud.Gateway.Authz

/-!
# The External Filter Chain

The authorization part of the external proxy's request filter: find the endpoint rule,
resolve the policy in force, authenticate, authorize. Each stage answers the request with
an error or hands it on.

`authorizeRequest` goes back to the rule, where `inherit` is not `roles`, and so checks no
role; and it checks nothing when no identity was stored. `filterChain_decision` states the
outcome of all stages as one table, and everything about admission is read off that.
-/

namespace WasmCloud

/-- What the proxy has learned about a request. -/
structure RequestCtx where
  appId : Option AppId
  routeConfig : Option GatewayRouteConfig
  userIdentity : Option UserIdentity
  stripPrefix : Bool
  matchedPrefix : Option String
  traceId : Option String

/-- The context after routing, with nobody authenticated yet. -/
def RequestCtx.routed (appId : Option AppId) (routeConfig : Option GatewayRouteConfig) :
    RequestCtx :=
  { appId := appId, routeConfig := routeConfig, userIdentity := none, stripPrefix := false,
    matchedPrefix := none, traceId := none }

/-- An error answered by the gateway itself. -/
structure GatewayReply where
  status : Nat
  error : String
  message : String
  deriving DecidableEq, Repr

/-- A rule covers a path prefix and either every method or a listed one. -/
def EndpointRule.covers (e : EndpointRule) (path method : String) : Bool :=
  Text.startsWith path e.path &&
    (e.methods.isEmpty || e.methods.any (fun m => Text.eqIgnoreAsciiCase m method))

/-- The route's policy; a route without a configuration is public. -/
def routeAuth (routeConfig : Option GatewayRouteConfig) : AuthPolicy :=
  (routeConfig.map (fun c => c.auth)).getD .none

/-- `find_endpoint_rule`: the first rule that covers the request. -/
def findEndpointRule (ctx : RequestCtx) (path method : String) : Option EndpointRule :=
  ctx.routeConfig.bind (fun cfg => cfg.endpoints.find? (fun e => e.covers path method))

section Chain

variable (http : HttpCrate) (sha256 : String → String) (gw : Gateway)

/-- `resolve_effective_auth`. A valid API key leaves nothing to authenticate. -/
def resolveEffectiveAuth (req : RequestHeader) (ctx : RequestCtx)
    (endpointRule : Option EndpointRule) : Except GatewayReply AuthPolicy :=
  match endpointRule with
  | some rule =>
    match rule.auth with
    | .inherit => .ok (routeAuth ctx.routeConfig)
    | .none => .ok .none
    | .authenticated => .ok .authenticated
    | .roles allowedRoles clientId => .ok (.roles allowedRoles clientId)
    | .apiKey =>
      match headerStr http req.headers "x-api-key" with
      | some key =>
        -- A valid key takes the place of a token: what follows sees an open policy.
        if gw.validateApiKey sha256 (ctx.appId.elim "" AppId.text) key req.uri.path then
          .ok .none
        else .error ⟨401, "unauthorized", "invalid X-Api-Key"⟩
      | none => .error ⟨401, "unauthorized", "missing X-Api-Key header"⟩
  | none => .ok (routeAuth ctx.routeConfig)

def authenticateRequest (req : RequestHeader) (ctx : RequestCtx) (effectiveAuth : AuthPolicy) :
    Except GatewayReply RequestCtx :=
  if effectiveAuth = .none then .ok ctx
  else match gw.authenticateHeaderMapWithPolicy http req.headers effectiveAuth with
    | .ok identity => .ok { ctx with userIdentity := some identity }
    | .error _ => .error ⟨401, "unauthorized", "missing or invalid JWT token"⟩

/-- `authorize_request`. Roles are those of the rule; without an identity nothing is checked. -/
def authorizeRequest (ctx : RequestCtx) (endpointRule : Option EndpointRule) :
    Except GatewayReply Unit :=
  match ctx.userIdentity with
  | none => .ok ()
  | some identity =>
    let authorized : Bool := match endpointRule with
      | some rule =>
        (match rule.auth with
          | .roles allowedRoles clientId => authorizeRoles identity allowedRoles clientId
          -- Also for a rule that inherits: the route's roles are not looked at.
          | _ => true) &&
          authorizeScopes identity rule.requiredScopes
      | none => (ctx.routeConfig.map (fun cfg => authorize identity cfg.auth)).getD true
    if authorized then .ok ()
    else .error ⟨403, "forbidden", "user lacks required role or scope"⟩

/-- The authorization stages of `request_filter`, in order. -/
def filterChain (req : RequestHeader) (ctx : RequestCtx) : Except GatewayReply RequestCtx := do
  let endpointRule := findEndpointRule ctx req.uri.path req.method
  let effectiveAuth ← resolveEffectiveAuth http sha256 gw req ctx endpointRule
  let ctx' ← authenticateRequest http gw req ctx effectiveAuth
  authorizeRequest ctx' endpointRule
  return ctx'

/-- The outcome of validating the bearer token of a request. -/
def jwtOutcome (headers : HeaderMap) : Except GatewayError UserIdentity :=
  gw.authenticateHeaderMapWithPolicy http headers .authenticated

/-- The request presents an API key and the application accepts it. -/
def presentedKeyValid (appId path : String) (headers : HeaderMap) : Bool :=
  match headerStr http headers "x-api-key" with
  | some key => gw.validateApiKey sha256 appId key path
  | none => false

end Chain

/-- Admit the bearer of a valid token that passes a check. -/
def byToken (jwt : Except GatewayError UserIdentity) (check : UserIdentity → Bool) :
    Option (Option UserIdentity) :=
  match jwt with
  | .ok identity => if check identity then some (some identity) else none
  | .error _ => none

/-- `none` is a refusal, `some` carries the identity stored for an admitted request. -/
def externalDecision (rule : Option EndpointRule) (route : AuthPolicy)
    (jwt : Except GatewayError UserIdentity) (keyValid : Bool) : Option (Option UserIdentity) :=
  match rule with
  | none => if route = .none then some none else byToken jwt (fun i => authorize i route)
  | some r =>
    match r.auth with
    | .none => some none
    | .apiKey => if keyValid then some none else none
    | .inherit =>
      if route = .none then some none
      else byToken jwt (fun i => authorizeScopes i r.requiredScopes)
    | .authenticated => byToken jwt (fun i => authorizeScopes i r.requiredScopes)
    | .roles allowedRoles clientId =>
      byToken jwt (fun i =>
        authorizeRoles i allowedRoles clientId && authorizeScopes i r.requiredScopes)

variable {jwt : Except GatewayError UserIdentity} {r : EndpointRule}

theorem byToken_eq_some_iff {check : UserIdentity → Bool} {i : Option UserIdentity} :
    byToken jwt check = some i ↔ ∃ id, jwt = .ok id ∧ check id = true ∧ i = some id := by
  rcases jwt with e | id
  · simp [byToken]
  · grind [byToken]

section Stages

variable {http : HttpCrate} {sha256 : String → String} {gw : Gateway} {req : RequestHeader}
  {ctx : RequestCtx} {rule : Option EndpointRule} {policy : AuthPolicy}

theorem token_stages {check : UserIdentity → Bool} (hp : policy ≠ .none)
    (hcheck : ∀ i, authorizeRequest { ctx with userIdentity := some i } rule =
      if check i then .ok () else .error ⟨403, "forbidden", "user lacks required role or scope"⟩) :
    (do let ctx' ← authenticateRequest http gw req ctx policy
        authorizeRequest ctx' rule
        return ctx' : Except GatewayReply RequestCtx).toOption.map (fun c => c.userIdentity)
      = byToken (jwtOutcome http gw req.headers) check := by
  have hjwt : jwtOutcome http gw req.headers =
      gw.authenticateHeaderMapWithPolicy http req.headers policy :=
    Gateway.authenticate_policy_irrel http gw req.headers (by decide) hp
  simp only [hjwt, authenticateRequest, if_neg hp]
  -- A refused token ends the chain; an accepted one is left to the check.
  rcases gw.authenticateHeaderMapWithPolicy http req.headers policy with e | i
  · rfl
  · simp only [bind, Except.bind, hcheck i, byToken]
    by_cases hc : check i = true
    · rw [if_pos hc, if_pos hc]
      rfl
    · rw [if_neg hc, if_neg hc]
      rfl

theorem open_stages (hctx : ctx.userIdentity = none) :
    (do let ctx' ← authenticateRequest http gw req ctx .none
        authorizeRequest ctx' rule
        return ctx' : Except GatewayReply RequestCtx).toOption.map (fun c => c.userIdentity)
      = some none := by
  simp only [authenticateRequest, if_true, bind, Except.bind, authorizeRequest, hctx]
  simp only [pure, Except.pure, Except.toOption, Option.map_some, hctx]

theorem filterChain_resolved
    (hrule : findEndpointRule ctx req.uri.path req.method = rule)
    (hres : resolveEffectiveAuth http sha256 gw req ctx rule = .ok policy) :
    filterChain http sha256 gw req ctx =
      (do let ctx' ← authenticateRequest http gw req ctx policy
          authorizeRequest ctx' rule
          return ctx') := by
  subst hrule
  rw [filterChain, hres]
  rfl

theorem filterChain_apiKey {appId : Option AppId} {cfg : Option GatewayRouteConfig}
    (hrule : findEndpointRule (.routed appId cfg) req.uri.path req.method = some r)
    (hauth : r.auth = .apiKey) :
    (filterChain http sha256 gw req (.routed appId cfg)).toOption.map (fun c => c.userIdentity)
      = externalDecision (some r) (routeAuth cfg) (jwtOutcome http gw req.headers)
          (presentedKeyValid http sha256 gw (appId.elim "" AppId.text) req.uri.path
            req.headers) := by
  rcases hkey : headerStr http req.headers "x-api-key" with _ | key
  · -- Without a key, or with a refused one, the first stage ends the chain.
    simp only [filterChain, hrule, resolveEffectiveAuth, hauth, hkey, externalDecision,
      presentedKeyValid]
    rfl
  · by_cases hvalid : gw.validateApiKey sha256 (appId.elim "" AppId.text) key req.uri.path = true
    · have hres : resolveEffectiveAuth http sha256 gw req (.routed appId cfg) (some r)
          = .ok .none := by
        simp only [resolveEffectiveAuth, hauth, hkey, RequestCtx.routed]
        exact if_pos hvalid
      rw [filterChain_resolved hrule hres]
      simp only [externalDecision, hauth, presentedKeyValid, hkey, hvalid, if_true]
      exact open_stages rfl
    · have hres : resolveEffectiveAuth http sha256 gw req (.routed appId cfg) (some r)
          = .error ⟨401, "unauthorized", "invalid X-Api-Key"⟩ := by
        simp only [resolveEffectiveAuth, hauth, hkey, RequestCtx.routed]
        exact if_neg hvalid
      simp only [filterChain, hrule, hres, externalDecision, hauth, presentedKeyValid, hkey,
        if_neg hvalid]
      rfl

end Stages

/-- The chain computes the decision table. -/
theorem filterChain_decision (http : HttpCrate) (sha256 : String → String) (gw : Gateway)
    (req : RequestHeader) (appId : Option AppId) (cfg : Option GatewayRouteConfig) :
    (filterChain http sha256 gw req (.routed appId cfg)).toOption.map (fun c => c.userIdentity)
      = externalDecision (findEndpointRule (.routed appId cfg) req.uri.path req.method)
          (routeAuth cfg) (jwtOutcome http gw req.headers)
          (presentedKeyValid http sha256 gw (appId.elim "" AppId.text) req.uri.path
            req.headers) := by
  rcases hrule : findEndpointRule (.routed appId cfg) req.uri.path req.method with _ | r
  · -- No rule: the route's policy, and its own role check.
    have hres : resolveEffectiveAuth http sha256 gw req (.routed appId cfg) none
        = .ok (routeAuth cfg) := rfl
    rw [filterChain_resolved hrule hres]
    simp only [externalDecision]
    by_cases hroute : routeAuth cfg = .none
    · rw [if_pos hroute, hroute]
      exact open_stages rfl
    · rw [if_neg hroute]
      refine token_stages hroute (fun i => ?_)
      rcases cfg with _ | cfg
      · exact absurd rfl hroute
      · rfl
  · have hchain (auth : AuthPolicy) (hres : resolveEffectiveAuth http sha256 gw req
        (.routed appId cfg) (some r) = .ok auth) := filterChain_resolved hrule hres
    cases hauth : r.auth with
    | inherit =>
      rw [hchain (routeAuth cfg) (by simp [resolveEffectiveAuth, hauth, RequestCtx.routed])]
      simp only [externalDecision, hauth]
      by_cases hroute : routeAuth cfg = .none
      · rw [if_pos hroute, hroute]
        exact open_stages rfl
      · rw [if_neg hroute]
        refine token_stages hroute (fun i => ?_)
        simp [authorizeRequest, hauth]
    | none =>
      rw [hchain .none (by simp [resolveEffectiveAuth, hauth])]
      simp only [externalDecision, hauth]
      exact open_stages rfl
    | authenticated =>
      rw [hchain .authenticated (by simp [resolveEffectiveAuth, hauth])]
      simp only [externalDecision, hauth]
      refine token_stages (by decide) (fun i => ?_)
      simp [authorizeRequest, hauth]
    | roles allowedRoles clientId =>
      rw [hchain (.roles allowedRoles clientId) (by simp only [resolveEffectiveAuth, hauth])]
      simp only [externalDecision, hauth]
      refine token_stages (by simp only [ne_eq, reduceCtorEq, not_false_eq_true]) (fun i => ?_)
      simp [authorizeRequest, hauth]
    | apiKey => exact filterChain_apiKey hrule hauth

def EndpointAuth.ofRoute : AuthPolicy → EndpointAuth
  | .none => .none
  | .authenticated => .authenticated
  | .roles allowedRoles clientId => .roles allowedRoles clientId

/-- The matched rule's own policy, or the route's if it inherits or there is none. -/
def effectivePolicy (rule : Option EndpointRule) (route : AuthPolicy) : EndpointAuth :=
  match rule with
  | none => .ofRoute route
  | some r => if r.auth = .inherit then .ofRoute route else r.auth

/-- What a policy asks of the stored identity, given the two validation outcomes. -/
def PolicyMet (policy : EndpointAuth) (jwt : Except GatewayError UserIdentity) (keyValid : Bool)
    (identity : Option UserIdentity) : Prop :=
  match policy with
  | .roles allowedRoles clientId =>
    ∃ i, identity = some i ∧ jwt = .ok i ∧ authorizeRoles i allowedRoles clientId = true
  | .authenticated => ∃ i, identity = some i ∧ jwt = .ok i
  | .apiKey => keyValid = true
  | .none => True
  | .inherit => True

/-- The stored identity was validated and carries every required scope. -/
def ScopesHeld (rule : Option EndpointRule) (jwt : Except GatewayError UserIdentity)
    (identity : Option UserIdentity) : Prop :=
  ∀ r, rule = some r → ∀ scope ∈ r.requiredScopes,
    ∃ i, identity = some i ∧ jwt = .ok i ∧ scope ∈ extractScopes i

/-- An admitted request meets the policy in force and holds the required scopes. -/
def AdmissionSound (http : HttpCrate) (sha256 : String → String) (gw : Gateway)
    (req : RequestHeader) (ctx : RequestCtx) : Prop :=
  ∀ ctx', filterChain http sha256 gw req ctx = .ok ctx' →
    PolicyMet
      (effectivePolicy (findEndpointRule ctx req.uri.path req.method) (routeAuth ctx.routeConfig))
      (jwtOutcome http gw req.headers)
      (presentedKeyValid http sha256 gw (ctx.appId.elim "" AppId.text) req.uri.path req.headers)
      ctx'.userIdentity ∧
    ScopesHeld (findEndpointRule ctx req.uri.path req.method) (jwtOutcome http gw req.headers)
      ctx'.userIdentity

/-- A rule lets requests in without looking at a token. -/
def OpensWithoutToken (rule : EndpointRule) (route : AuthPolicy) (keyValid : Bool) : Prop :=
  rule.auth = .none ∨ (rule.auth = .inherit ∧ route = .none) ∨
    (rule.auth = .apiKey ∧ keyValid = true)

/-- A rule that requires scopes asks for a token, and one that inherits does not meet a token
    with the scopes but without the route's roles. -/
structure SoundWhen (rule : EndpointRule) (route : AuthPolicy)
    (jwt : Except GatewayError UserIdentity) (keyValid : Bool) : Prop where
  scopes : rule.requiredScopes ≠ [] → ¬ OpensWithoutToken rule route keyValid
  roles : rule.auth = .inherit → ∀ i, jwt = .ok i →
    authorizeScopes i rule.requiredScopes = true → authorize i route = true

theorem admitted_iff_decision (http : HttpCrate) (sha256 : String → String) (gw : Gateway)
    (req : RequestHeader) (appId : Option AppId) (cfg : Option GatewayRouteConfig)
    (P : Option UserIdentity → Prop) :
    (∀ ctx', filterChain http sha256 gw req (.routed appId cfg) = .ok ctx' → P ctx'.userIdentity) ↔
      ∀ i, externalDecision (findEndpointRule (.routed appId cfg) req.uri.path req.method)
        (routeAuth cfg) (jwtOutcome http gw req.headers)
        (presentedKeyValid http sha256 gw (appId.elim "" AppId.text) req.uri.path req.headers)
          = some i → P i := by
  rw [← filterChain_decision]
  rcases filterChain http sha256 gw req (.routed appId cfg) with e | ctx
  · simp only [reduceCtorEq, false_implies, implies_true, Except.toOption, Option.map_none]
  · simp only [Except.ok.injEq, forall_eq', Except.toOption, Option.map_some, Option.some.injEq]

variable {id : UserIdentity}

theorem scopesHeld_byToken (hjwt : jwt = .ok id) (hs : authorizeScopes id r.requiredScopes = true) :
    ScopesHeld (some r) jwt (some id) := by
  intro r' hr scope hscope
  rw [Option.some.injEq] at hr
  subst hr
  exact ⟨id, rfl, hjwt, (authorizeScopes_iff id r.requiredScopes).mp hs scope hscope⟩

theorem scopesHeld_none : ScopesHeld (some r) jwt none ↔ r.requiredScopes = [] := by
  constructor
  · intro h
    rcases hs : r.requiredScopes with _ | ⟨scope, rest⟩
    · rfl
    · rcases h r rfl scope (by rw [hs]; exact .head _) with ⟨i, hi, -⟩
      nomatch hi
  · intro hnil r' hr scope hscope
    rw [Option.some.injEq] at hr
    subst hr
    rw [hnil] at hscope
    nomatch hscope

theorem effectivePolicy_inherit (h : r.auth = .inherit) (route : AuthPolicy) :
    effectivePolicy (some r) route = .ofRoute route := by
  simp [effectivePolicy, h]

theorem effectivePolicy_own (h : r.auth ≠ .inherit) (route : AuthPolicy) :
    effectivePolicy (some r) route = r.auth := by
  simp [effectivePolicy, if_neg h]

/-- A policy that asks for a token is met exactly when `authorize` says so. -/
theorem policyMet_ofRoute {route : AuthPolicy} (hroute : route ≠ .none) {keyValid : Bool}
    (hjwt : jwt = .ok id) :
    PolicyMet (.ofRoute route) jwt keyValid (some id) ↔ authorize id route = true := by
  cases route with
  | none => exact absurd rfl hroute
  | authenticated =>
    simp only [EndpointAuth.ofRoute, PolicyMet, authorize, iff_true]
    exact ⟨id, rfl, hjwt⟩
  | roles allowedRoles clientId =>
    grind [EndpointAuth.ofRoute, PolicyMet, authorize]

section Soundness

variable {r : EndpointRule} {route : AuthPolicy} {jwt : Except GatewayError UserIdentity}
  {keyValid : Bool}

theorem opens_admits (hopen : OpensWithoutToken r route keyValid) :
    externalDecision (some r) route jwt keyValid = some none ∧
      PolicyMet (effectivePolicy (some r) route) jwt keyValid none := by
  rcases hopen with hauth | ⟨hauth, rfl⟩ | ⟨hauth, rfl⟩
  · have hne : r.auth ≠ .inherit := by rw [hauth]; decide
    rw [effectivePolicy_own hne, hauth]
    simp [externalDecision, hauth, PolicyMet]
  · rw [effectivePolicy_inherit hauth]
    simp [externalDecision, hauth, EndpointAuth.ofRoute, PolicyMet]
  · have hne : r.auth ≠ .inherit := by rw [hauth]; decide
    rw [effectivePolicy_own hne, hauth]
    simp [externalDecision, hauth, PolicyMet]

/-- A rule that opens without a token must not require scopes. -/
theorem soundWhen_iff_of_opens (hopen : OpensWithoutToken r route keyValid) :
    SoundWhen r route jwt keyValid ↔ r.requiredScopes = [] := by
  constructor
  · intro h
    by_contra hscopes
    exact h.scopes hscopes hopen
  · intro hnil
    refine ⟨fun h => absurd hnil h, fun hinherit i _ _ => ?_⟩
    rcases hopen with hauth | ⟨-, rfl⟩ | ⟨hauth, -⟩
    · nomatch (hauth.symm.trans hinherit)
    · rfl
    · nomatch (hauth.symm.trans hinherit)

theorem soundWhen_of_closed (hclosed : ¬ OpensWithoutToken r route keyValid)
    (hne : r.auth ≠ .inherit) : SoundWhen r route jwt keyValid :=
  ⟨fun _ => hclosed, fun h => absurd h hne⟩

theorem externalDecision_sound_noRule {i : Option UserIdentity}
    (hi : externalDecision none route jwt keyValid = some i) :
    PolicyMet (effectivePolicy none route) jwt keyValid i ∧ ScopesHeld none jwt i := by
  refine ⟨?_, fun r hr => nomatch hr⟩
  by_cases hroute : route = .none
  · rw [hroute]
    trivial
  · simp only [externalDecision, if_neg hroute] at hi
    rcases byToken_eq_some_iff.mp hi with ⟨id, hjwt, hauth, rfl⟩
    exact (policyMet_ofRoute hroute hjwt).mpr hauth

end Soundness

/-- The table is sound exactly on the inputs `SoundWhen` names. -/
theorem externalDecision_sound_iff (rule : Option EndpointRule) (route : AuthPolicy)
    (jwt : Except GatewayError UserIdentity) (keyValid : Bool) :
    (∀ i, externalDecision rule route jwt keyValid = some i →
      PolicyMet (effectivePolicy rule route) jwt keyValid i ∧ ScopesHeld rule jwt i) ↔
      ∀ r, rule = some r → SoundWhen r route jwt keyValid := by
  rcases rule with _ | r
  · refine iff_of_true (fun i hi => externalDecision_sound_noRule hi) (fun r hr => ?_)
    nomatch hr
  simp only [Option.some.injEq, forall_eq']
  by_cases hopen : OpensWithoutToken r route keyValid
  · -- Admitted unseen, so sound only if nothing was required.
    rw [soundWhen_iff_of_opens hopen, (opens_admits hopen).1]
    simp only [Option.some.injEq, forall_eq', scopesHeld_none]
    exact and_iff_right (opens_admits hopen).2
  cases hauth : r.auth with
  | none => exact absurd (.inl hauth) hopen
  | apiKey =>
    have hne : r.auth ≠ .inherit := by rw [hauth]; decide
    have hkey : ¬ keyValid = true := fun h => hopen (.inr (.inr ⟨hauth, h⟩))
    refine iff_of_true (fun i hi => ?_) (soundWhen_of_closed hopen hne)
    simp only [externalDecision, hauth, if_neg hkey, reduceCtorEq] at hi
  | authenticated =>
    have hne : r.auth ≠ .inherit := by rw [hauth]; decide
    refine iff_of_true (fun i hi => ?_) (soundWhen_of_closed hopen hne)
    simp only [externalDecision, hauth] at hi
    rcases byToken_eq_some_iff.mp hi with ⟨id, hjwt, hs, rfl⟩
    rw [effectivePolicy_own hne, hauth]
    exact ⟨⟨id, rfl, hjwt⟩, scopesHeld_byToken hjwt hs⟩
  | roles allowedRoles clientId =>
    have hne : r.auth ≠ .inherit := by
      rw [hauth]
      simp
    refine iff_of_true (fun i hi => ?_) (soundWhen_of_closed hopen hne)
    simp only [externalDecision, hauth] at hi
    rcases byToken_eq_some_iff.mp hi with ⟨id, hjwt, hcheck, rfl⟩
    rw [Bool.and_eq_true] at hcheck
    rw [effectivePolicy_own hne, hauth]
    exact ⟨⟨id, rfl, hjwt, hcheck.1⟩, scopesHeld_byToken hjwt hcheck.2⟩
  | inherit =>
    -- The scopes are checked but the route's roles are not.
    have hroute : route ≠ .none := fun h => hopen (.inr (.inl ⟨hauth, h⟩))
    rw [effectivePolicy_inherit hauth]
    simp only [externalDecision, hauth, if_neg hroute]
    constructor
    · intro hall
      refine ⟨fun _ => hopen, fun _ id hjwt hs => ?_⟩
      have hi : byToken jwt (fun i => authorizeScopes i r.requiredScopes) = some (some id) :=
        byToken_eq_some_iff.mpr ⟨id, hjwt, hs, rfl⟩
      exact (policyMet_ofRoute hroute hjwt).mp (hall (some id) hi).1
    · intro h i hi
      rcases byToken_eq_some_iff.mp hi with ⟨id, hjwt, hs, rfl⟩
      exact ⟨(policyMet_ofRoute hroute hjwt).mpr (h.roles hauth id hjwt hs),
        scopesHeld_byToken hjwt hs⟩

/-- The external chain admits only requests that meet the policy in force,
    exactly when the matched rule, if there is one, neither requires scopes it
    does not look at nor inherits roles the bearer lacks. -/
theorem filterChain_sound_iff (http : HttpCrate) (sha256 : String → String) (gw : Gateway)
    (req : RequestHeader) (appId : Option AppId) (cfg : Option GatewayRouteConfig) :
    AdmissionSound http sha256 gw req (.routed appId cfg) ↔
      ∀ r, findEndpointRule (.routed appId cfg) req.uri.path req.method = some r →
        SoundWhen r (routeAuth cfg) (jwtOutcome http gw req.headers)
          (presentedKeyValid http sha256 gw (appId.elim "" AppId.text) req.uri.path
            req.headers) := by
  rw [← externalDecision_sound_iff]
  exact admitted_iff_decision http sha256 gw req appId cfg (fun i =>
    PolicyMet (effectivePolicy (findEndpointRule (.routed appId cfg) req.uri.path req.method)
        (routeAuth cfg))
      (jwtOutcome http gw req.headers)
      (presentedKeyValid http sha256 gw (appId.elim "" AppId.text) req.uri.path req.headers) i ∧
    ScopesHeld (findEndpointRule (.routed appId cfg) req.uri.path req.method)
      (jwtOutcome http gw req.headers) i)

/-- A token for a user who holds the role `user` and no other. -/
def plainUser : UserIdentity :=
  { sub := "u-1", email := none, roles := ["user"], rawClaims := .object [] }

def oneTokenProvider : OidcProvider :=
  ⟨fun token => if token = "user-token" then .ok plainUser
    else .error (.auth "JWT validation failed")⟩

/-- A gateway with that provider, nothing configured. -/
def oneTokenGateway : Gateway := ⟨some oneTokenProvider, OrdTable.empty, OrdTable.empty, none⟩

def adminRoute : GatewayRouteConfig :=
  { GatewayRouteConfig.default with
    auth := .roles ["admin"] none
    endpoints := [⟨"/reports", [], .inherit, [], none⟩] }

def userRequest : RequestHeader :=
  { method := "GET", uri := ⟨"/reports", "/reports", none⟩,
    headers := MultiMap.empty.insert ⟨"authorization"⟩ ⟨Text.utf8 "Bearer user-token"⟩ }

/-- The user gets into the administrators' route through the inheriting rule. -/
theorem filterChain_inherit_roles_unsound :
    ¬ AdmissionSound .documented (fun _ => "") oneTokenGateway userRequest
      (.routed (some ⟨"default/api:v1"⟩) (some adminRoute)) := by
  intro h
  have hadmitted : filterChain .documented (fun _ => "") oneTokenGateway userRequest
      (.routed (some ⟨"default/api:v1"⟩) (some adminRoute))
      = .ok { RequestCtx.routed (some ⟨"default/api:v1"⟩) (some adminRoute) with
          userIdentity := some plainUser } := rfl
  -- The policy in force is the route's, and it asks for the role `admin`.
  have hmet : PolicyMet (.roles ["admin"] none) (.ok plainUser) false (some plainUser) :=
    (h _ hadmitted).1
  rcases hmet with ⟨i, hi, -, hroles⟩
  rw [Option.some.injEq] at hi
  subst hi
  nomatch hroles

end WasmCloud
