import WasmCloud.Gateway.Internal

/-!
# Forwarded Headers

What the application behind a gateway sees of the request's headers. The external proxy
drops the headers that only the platform may set, writes its own, moves the URI below a
stripped path, and ends with the route's transformation, where the identity of the caller
is written. The internal gateway does the same in its handler.

Both rewrites are lists of writes and drops that do not depend on the headers that come in,
so a client can choose a header of the forwarded request exactly when no update is about
the name. Neither list drops the identity headers before writing them.
-/

namespace WasmCloud

open List MultiMap

/-- The two headers the trace propagator writes for a valid span. -/
structure TraceContext where
  traceparent : String
  tracestate : String
  deriving DecidableEq, Repr

def removeUntrustedPlatformHeaders (headers : HeaderMap) : HeaderMap :=
  ["x-app-id", "x-trace-id", "traceparent", "tracestate"].foldl
    (fun acc name => acc.remove ⟨name⟩) headers

def stripUriPrefix (path : String) (query : Option String) (matched : String) : Option String :=
  (Text.stripPrefix path matched).map (fun stripped =>
    let newPath :=
      if Text.startsWith stripped "/" || stripped == "" then stripped else "/" ++ stripped
    match query with
    | some q => newPath ++ "?" ++ q
    | none => newPath)

section Filter

variable (http : HttpCrate) (headers : HeaderMap)

/-- Write a header, with a fixed value where the text cannot be one. -/
def insertOr (name value fallback : String) : HeaderMap :=
  headers.insert ⟨name⟩ ((http.fromStr value).getD ⟨Text.utf8 fallback⟩)

/-- `RequestHeaderInjector::set`. -/
def injectorSet (key value : String) : HeaderMap :=
  match http.parseName key, http.fromStr value with
  | some name, some v => headers.insert name v
  | _, _ => headers

/-- The URI replaced by a new text, if that is one. -/
def reparse (uri : Uri) (text : String) : Uri := (http.parseUri text).getD uri

/-- The identity headers of `apply_request_transform`. -/
def transformIdentity : Option UserIdentity → HeaderMap
  | none => headers
  | some identity =>
    let withId := insertOr http headers "x-user-id" identity.sub "unknown"
    let withEmail := match identity.email with
      | some email => insertOr http withId "x-user-email" email ""
      | none => withId
    if identity.roles.isEmpty then withEmail
    else insertOr http withEmail "x-user-roles" (String.intercalate "," identity.roles) ""

/-- The configured headers of `apply_request_transform`. -/
def addHeaders (added : List (String × String)) : HeaderMap :=
  added.foldl (fun acc kv => match http.parseName kv.1 with
    | some name => acc.insert name ((http.fromStr kv.2).getD ⟨Text.utf8 ""⟩)
    | none => acc) headers

/-- The headers `apply_request_transform` removes. -/
def removeHeaders (removed : List String) : HeaderMap :=
  removed.foldl (fun acc key => match http.parseName key with
    | some name => acc.remove name
    | none => acc) headers

/-- A query without the parameters in `params`. -/
def stripQuery (text : String) (params : List String) : String :=
  match Text.splitOnce text '?' with
  | none => text
  | some (path, query) =>
    let remaining := (Text.split query '&').filter (fun pair =>
      !params.contains ((Text.split pair '=').headD ""))
    if remaining.isEmpty then path else path ++ "?" ++ String.intercalate "&" remaining

/-- The URI part of `apply_request_transform`. Without a query nothing is stripped. -/
def transformUri (uri : Uri) (transform : RequestTransform) : Uri :=
  let prefixed := match transform.pathPrefix with
    | some p => reparse http uri (Text.trimEndMatches p "/" ++ uri.text)
    | none => uri
  if transform.stripQueryParams.isEmpty || (Text.splitOnce prefixed.text '?').isNone then prefixed
  else reparse http prefixed (stripQuery prefixed.text transform.stripQueryParams)

variable (request : RequestHeader)

def applyRequestTransform (transform : RequestTransform)
    (userIdentity : Option UserIdentity) : RequestHeader :=
  { request with
    headers := removeHeaders http (addHeaders http
      (transformIdentity http request.headers userIdentity) transform.addHeaders)
      transform.removeHeaders
    uri := transformUri http request.uri transform }

variable (ctx : RequestCtx)

/-- `upstream_request_filter` moves the URI; the headers are written even if it does not parse. -/
def forwardStripped : RequestHeader :=
  if ctx.stripPrefix then
    match ctx.matchedPrefix with
    | none => request
    | some matched =>
      match stripUriPrefix request.uri.path request.uri.query matched with
      | none => request
      | some newUri =>
        { request with
          headers := insertIfValid http
            (insertIfValid http request.headers "x-forwarded-prefix" matched)
            "x-original-uri" request.uri.text
          uri := reparse http request.uri newUri }
  else request

/-- The platform's headers. `span` is the trace context of a valid span. -/
def platformHeaders (span : Option TraceContext) : HeaderMap :=
  let cleaned := removeUntrustedPlatformHeaders headers
  let withApp := match ctx.appId with
    | some id => insertIfValid http cleaned "x-app-id" id.text
    | none => cleaned
  let withTrace := match ctx.traceId with
    | some tid => insertIfValid http withApp "x-trace-id" tid
    | none => withApp
  match span with
  | some t => injectorSet http (injectorSet http withTrace "traceparent" t.traceparent)
      "tracestate" t.tracestate
  | none => withTrace

def upstreamRequestFilter (span : Option TraceContext) : RequestHeader :=
  let moved := forwardStripped http
    { request with headers := platformHeaders http request.headers ctx span } ctx
  match ctx.routeConfig.bind (fun cfg => cfg.transform) with
  | some transform => applyRequestTransform http moved transform ctx.userIdentity
  | none => moved

abbrev HeaderUpdate := MultiMap.Update HeaderName HeaderValue

/-- What `insertIfValid` does. -/
def validUpdate (name value : String) : List HeaderUpdate :=
  match http.fromStr value with
  | some v => [.write ⟨name⟩ v]
  | none => []

/-- What `injectorSet` does. -/
def injectorUpdate (key value : String) : List HeaderUpdate :=
  match http.parseName key, http.fromStr value with
  | some name, some v => [.write name v]
  | _, _ => []

/-- What `insertOr` does. -/
def updateOr (name value fallback : String) : HeaderUpdate :=
  .write ⟨name⟩ ((http.fromStr value).getD ⟨Text.utf8 fallback⟩)

/-- What moving the URI below the matched path does to the headers. -/
def strippedUpdates (uri : Uri) (ctx : RequestCtx) : List HeaderUpdate :=
  if ctx.stripPrefix then
    match ctx.matchedPrefix with
    | none => []
    | some matched =>
      match stripUriPrefix uri.path uri.query matched with
      | none => []
      | some _ => validUpdate http "x-forwarded-prefix" matched ++
          validUpdate http "x-original-uri" uri.text
  else []

/-- What `platformHeaders` does. -/
def platformUpdates (span : Option TraceContext) : List HeaderUpdate :=
  ["x-app-id", "x-trace-id", "traceparent", "tracestate"].map (fun name => .drop ⟨name⟩) ++
    (ctx.appId.elim [] (fun id => validUpdate http "x-app-id" id.text) ++
      (ctx.traceId.elim [] (fun tid => validUpdate http "x-trace-id" tid) ++
        span.elim [] (fun t => injectorUpdate http "traceparent" t.traceparent ++
          injectorUpdate http "tracestate" t.tracestate)))

/-- The identity headers the transformation writes. -/
def identityUpdates : Option UserIdentity → List HeaderUpdate
  | none => []
  | some identity =>
    updateOr http "x-user-id" identity.sub "unknown" ::
      (identity.email.elim [] (fun email => [updateOr http "x-user-email" email ""]) ++
        if identity.roles.isEmpty then []
        else [updateOr http "x-user-roles" (String.intercalate "," identity.roles) ""])

/-- The configured headers the transformation writes. -/
def addedUpdates (added : List (String × String)) : List HeaderUpdate :=
  added.filterMap (fun kv => (http.parseName kv.1).map
    (fun name => .write name ((http.fromStr kv.2).getD ⟨Text.utf8 ""⟩)))

/-- The headers the transformation removes. -/
def removedUpdates (removed : List String) : List HeaderUpdate :=
  removed.filterMap (fun key => (http.parseName key).map .drop)

theorem insertIfValid_eq (name value : String) :
    insertIfValid http headers name value = applyAll (validUpdate http name value) headers := by
  unfold insertIfValid validUpdate
  cases http.fromStr value with
  | none | some v => rfl

theorem injectorSet_eq (key value : String) :
    injectorSet http headers key value = applyAll (injectorUpdate http key value) headers := by
  unfold injectorSet injectorUpdate
  cases http.parseName key with
  | none => rfl
  | some name =>
    cases http.fromStr value with
    | none | some v => rfl

theorem transformIdentity_eq (identity : Option UserIdentity) :
    transformIdentity http headers identity = applyAll (identityUpdates http identity) headers := by
  rcases identity with _ | ⟨sub, email, roles, rawClaims⟩
  · rfl
  · -- Whether there is an email and whether there are roles decides the list.
    cases email with
    | none | some email =>
      cases roles with
      | nil | cons role roles => rfl

theorem addHeaders_eq (added : List (String × String)) :
    addHeaders http headers added = applyAll (addedUpdates http added) headers := by
  refine MultiMap.foldl_eq_applyAll (fun m kv => ?_) added headers
  cases http.parseName kv.1 with
  | none | some name => rfl

theorem removeHeaders_eq (removed : List String) :
    removeHeaders http headers removed = applyAll (removedUpdates http removed) headers := by
  refine MultiMap.foldl_eq_applyAll (fun m key => ?_) removed headers
  cases http.parseName key with
  | none | some name => rfl

theorem forwardStripped_headers :
    (forwardStripped http request ctx).headers =
      applyAll (strippedUpdates http request.uri ctx) request.headers := by
  unfold forwardStripped strippedUpdates
  by_cases hstrip : ctx.stripPrefix = true
  · rw [if_pos hstrip, if_pos hstrip]
    cases ctx.matchedPrefix with
    | none => rfl
    | some matched =>
      cases hnew : stripUriPrefix request.uri.path request.uri.query matched with
      | none => simp [hnew]
      | some newUri =>
        simp [hnew, insertIfValid_eq, applyAll_append]
  · rw [if_neg hstrip, if_neg hstrip, applyAll_nil]

/-- The updates of the route's transformation, if the route has one. -/
def transformUpdates : List HeaderUpdate :=
  match ctx.routeConfig.bind (fun cfg => cfg.transform) with
  | some transform => identityUpdates http ctx.userIdentity ++
      (addedUpdates http transform.addHeaders ++ removedUpdates http transform.removeHeaders)
  | none => []

theorem platformHeaders_eq (span : Option TraceContext) :
    platformHeaders http headers ctx span = applyAll (platformUpdates http ctx span) headers := by
  have hclean : removeUntrustedPlatformHeaders headers =
      applyAll (["x-app-id", "x-trace-id", "traceparent", "tracestate"].map
        (fun name => .drop ⟨name⟩)) headers := rfl
  rcases ctx with ⟨appId, routeConfig, userIdentity, stripped, matched, traceId⟩
  simp only [platformHeaders, platformUpdates, hclean, applyAll_append, insertIfValid_eq,
    injectorSet_eq]
  -- Each of the three optional stages is there or is not.
  rcases span with _ | t <;> rcases appId with _ | id <;> rcases traceId with _ | tid
  all_goals first | rfl | exact (applyAll_append _ _ _).symm

theorem upstreamRequestFilter_headers (span : Option TraceContext) :
    (upstreamRequestFilter http request ctx span).headers =
      applyAll (platformUpdates http ctx span ++
        (strippedUpdates http request.uri ctx ++ transformUpdates http ctx)) request.headers := by
  rw [applyAll_append, applyAll_append, ← platformHeaders_eq]
  unfold upstreamRequestFilter transformUpdates
  cases ctx.routeConfig.bind (fun cfg => cfg.transform) with
  | none => exact forwardStripped_headers http _ ctx
  | some transform =>
    simp [applyRequestTransform, transformIdentity_eq, addHeaders_eq, removeHeaders_eq,
      applyAll_append, forwardStripped_headers]

end Filter

/-- The headers that tell an application who calls. -/
def userHeaders : List HeaderName := [⟨"x-user-id"⟩, ⟨"x-user-email"⟩, ⟨"x-user-roles"⟩]

/-- The ones an authenticated identity accounts for. -/
def claimedHeaders : Option UserIdentity → List HeaderName
  | none => []
  | some identity =>
    ⟨"x-user-id"⟩ :: (identity.email.elim [] (fun _ => [⟨"x-user-email"⟩]) ++
      if identity.roles.isEmpty then [] else [⟨"x-user-roles"⟩])

/-- The same headers, up to what the client says about its identity. -/
def Variant (base headers : HeaderMap) : Prop :=
  MultiMap.AgreeOff {n | n ∈ userHeaders} base headers

/-- What the client puts in the identity headers changes nothing, and one the identity does not
    account for is not forwarded. -/
structure IdentityFromAuth (base : HeaderMap) (forward : HeaderMap → Option HeaderMap)
    (identity : Option UserIdentity) : Prop where
  insensitive : ∀ h h', Variant base h → Variant base h' → forward h = forward h'
  absent : ∀ h out, Variant base h → forward h = some out →
    ∀ n ∈ userHeaders, n ∉ claimedHeaders identity → out n = []

theorem insensitive_iff_touched (us : List HeaderUpdate) (base : HeaderMap) :
    (∀ h h', Variant base h → Variant base h' → applyAll us h = applyAll us h') ↔
      ∀ n ∈ userHeaders, n ∈ us.map MultiMap.Update.name := by
  constructor
  · intro hall n hn
    by_contra hus
    -- Two requests that differ on the untouched header are forwarded apart.
    have hvariant (vs : List HeaderValue) : Variant base (base.setAll n vs) :=
      base.agreeOff_setAll hn vs
    have heq := congrFun (hall _ _ (hvariant []) (hvariant [⟨[]⟩])) n
    rw [applyAll_untouched us _ hus, applyAll_untouched us _ hus] at heq
    simp only [setAll, if_true] at heq
    cases heq
  · intro htouched h h' hv hv'
    have hagree : MultiMap.AgreeOff {n | n ∈ userHeaders} h h' :=
      fun n hn => (hv n hn).symm.trans (hv' n hn)
    refine agreeOff_empty_iff.mp ((hagree.applyAll us).mono ?_)
    rintro n ⟨hn, hus⟩
    exact absurd (htouched n hn) hus

theorem identityUpdates_names (http : HttpCrate) (identity : Option UserIdentity) :
    (identityUpdates http identity).map MultiMap.Update.name = claimedHeaders identity := by
  rcases identity with _ | ⟨sub, email, roles, rawClaims⟩
  · rfl
  · cases email with
    | none | some email =>
      cases roles with
      | nil | cons role roles => rfl

/-- The propagator's two names are names to the library. -/
structure HttpCrate.TraceNames (http : HttpCrate) : Prop where
  traceparent : http.parseName "traceparent" = some ⟨"traceparent"⟩
  tracestate : http.parseName "tracestate" = some ⟨"tracestate"⟩

/-- The headers the filter sets for the platform. -/
def platformNames : List HeaderName :=
  [⟨"x-app-id"⟩, ⟨"x-trace-id"⟩, ⟨"traceparent"⟩, ⟨"tracestate"⟩, ⟨"x-forwarded-prefix"⟩,
    ⟨"x-original-uri"⟩]

variable {name value : String} {n : HeaderName} {ctx} {base : HeaderMap}
  {fwd : ForwardedRequest}

theorem userHeaders_not_platform (h : n ∈ userHeaders) : n ∉ platformNames := by
  revert h n
  decide

variable {u : HeaderUpdate} {headers} {http : HttpCrate}

theorem name_of_mem_validUpdate (h : u ∈ validUpdate http name value) : u.name = ⟨name⟩ := by
  unfold validUpdate at h
  cases hv : http.fromStr value with
  | none =>
    rw [hv] at h
    nomatch h
  | some v =>
    rw [hv] at h
    rw [mem_singleton.mp h]
    rfl

theorem name_of_mem_injectorUpdate {key : String} {name : HeaderName}
    (hname : http.parseName key = some name) (h : u ∈ injectorUpdate http key value) :
    u.name = name := by
  have hvalid : injectorUpdate http key value = validUpdate http name.text value := by
    rw [injectorUpdate, hname, validUpdate]
    cases http.fromStr value with
    | none | some v => rfl
  exact name_of_mem_validUpdate (hvalid ▸ h)

theorem name_of_mem_platformUpdates (hnames : http.TraceNames) {span : Option TraceContext}
    (h : u ∈ platformUpdates http ctx span) : u.name ∈ platformNames := by
  unfold platformUpdates at h
  -- Four drops, then the application, the trace identifier and the propagator's two.
  rcases mem_append.mp h with h | h
  · have hdropped : ∀ name ∈ ["x-app-id", "x-trace-id", "traceparent", "tracestate"],
        HeaderName.mk name ∈ platformNames := by decide
    rcases mem_map.mp h with ⟨name, hname, rfl⟩
    exact hdropped name hname
  · rcases mem_append.mp h with h | h
    · cases happ : ctx.appId with
      | none =>
        rw [happ] at h
        nomatch h
      | some id =>
        rw [happ] at h
        rw [name_of_mem_validUpdate h]
        decide
    · rcases mem_append.mp h with h | h
      · cases htid : ctx.traceId with
        | none =>
          rw [htid] at h
          nomatch h
        | some tid =>
          rw [htid] at h
          rw [name_of_mem_validUpdate h]
          decide
      · cases span with
        | none => nomatch h
        | some t =>
          rcases mem_append.mp h with h | h
          · rw [name_of_mem_injectorUpdate hnames.traceparent h]
            decide
          · rw [name_of_mem_injectorUpdate hnames.tracestate h]
            decide

theorem name_of_mem_strippedUpdates {uri : Uri} (h : u ∈ strippedUpdates http uri ctx) :
    u.name ∈ platformNames := by
  unfold strippedUpdates at h
  split at h
  · split at h
    · nomatch h
    · split at h
      · nomatch h
      · rcases mem_append.mp h with h | h
        · rw [name_of_mem_validUpdate h]
          decide
        · rw [name_of_mem_validUpdate h]
          decide
  · nomatch h

theorem upstreamRequestFilter_userHeader (hnames : http.TraceNames) (request : RequestHeader)
    (ctx : RequestCtx) (span : Option TraceContext) :
    ∃ middle : HeaderMap, (∀ n ∈ userHeaders, middle n = request.headers n) ∧
      (upstreamRequestFilter http request ctx span).headers =
        applyAll (transformUpdates http ctx) middle := by
  -- The request as it stands before the transformation.
  refine ⟨applyAll (strippedUpdates http request.uri ctx)
    (applyAll (platformUpdates http ctx span) request.headers), ?_, ?_⟩
  · intro n hn
    have hplatform : n ∉ (platformUpdates http ctx span).map MultiMap.Update.name := by
      grind [userHeaders_not_platform, name_of_mem_platformUpdates]
    have hstripped : n ∉ (strippedUpdates http request.uri ctx).map MultiMap.Update.name := by
      grind [userHeaders_not_platform, name_of_mem_strippedUpdates]
    rw [applyAll_untouched _ _ hstripped, applyAll_untouched _ _ hplatform]
  · rw [upstreamRequestFilter_headers, applyAll_append, applyAll_append]

/-- The headers the external proxy forwards, as a function of what it got. -/
def externalForward (http : HttpCrate) (request : RequestHeader) (ctx : RequestCtx)
    (span : Option TraceContext) (headers : HeaderMap) : Option HeaderMap :=
  some (upstreamRequestFilter http { request with headers := headers } ctx span).headers

/-- The names a transformation removes. -/
def removedNames (http : HttpCrate) (transform : RequestTransform) : List HeaderName :=
  transform.removeHeaders.filterMap http.parseName

theorem removedUpdates_names (http : HttpCrate) (transform : RequestTransform) :
    (removedUpdates http transform.removeHeaders).map MultiMap.Update.name =
      removedNames http transform := by
  unfold removedUpdates removedNames
  rw [map_filterMap]
  congr 1
  funext key
  cases http.parseName key with
  | none | some name => rfl

theorem removedUpdates_drops (http : HttpCrate) (removed : List String) :
    ∀ u ∈ removedUpdates http removed, ∃ n, u = .drop n := by
  intro u hu
  rcases mem_filterMap.mp hu with ⟨key, -, hkey⟩
  rcases Option.map_eq_some_iff.mp hkey with ⟨n, -, rfl⟩
  exact ⟨n, rfl⟩

theorem addedUpdates_writes (http : HttpCrate) (added : List (String × String)) :
    ∀ u ∈ addedUpdates http added, ∃ n v, u = .write n v := by
  intro u hu
  rcases mem_filterMap.mp hu with ⟨kv, -, hkv⟩
  rcases Option.map_eq_some_iff.mp hkv with ⟨n, -, rfl⟩
  exact ⟨n, _, rfl⟩

theorem identityUpdates_writes (http : HttpCrate) (identity : Option UserIdentity) :
    ∀ u ∈ identityUpdates http identity, ∃ n v, u = .write n v := by
  intro u hu
  rcases identity with _ | identity
  · nomatch hu
  · unfold identityUpdates at hu
    rcases mem_cons.mp hu with rfl | hu
    · exact ⟨_, _, rfl⟩
    · rcases mem_append.mp hu with hu | hu
      · cases hemail : identity.email with
        | none =>
          rw [hemail] at hu
          nomatch hu
        | some email =>
          rw [hemail] at hu
          rw [mem_singleton.mp hu]
          exact ⟨_, _, rfl⟩
      · split at hu
        · nomatch hu
        · rw [mem_singleton.mp hu]
          exact ⟨_, _, rfl⟩

/-- A transformation leaves nothing of an identity header if it removes it. -/
theorem transform_clears_iff (http : HttpCrate) (identity : Option UserIdentity)
    (transform : RequestTransform) (n : HeaderName) (m : HeaderMap) (hm : m n ≠ []) :
    applyAll (identityUpdates http identity ++
      (addedUpdates http transform.addHeaders ++ removedUpdates http transform.removeHeaders)) m n
        = [] ↔ n ∈ removedNames http transform := by
  rw [applyAll_append, applyAll_append, ← removedUpdates_names]
  constructor
  · intro hnil
    by_contra hremoved
    -- What is not removed survives: the other updates only write.
    rw [applyAll_untouched _ _ hremoved] at hnil
    exact applyAll_writes_ne_nil (addedUpdates_writes http _) _
      (applyAll_writes_ne_nil (identityUpdates_writes http identity) m hm) hnil
  · intro hremoved
    exact applyAll_drops_mem (removedUpdates_drops http _) _ (.inl hremoved)

theorem transformUpdates_names {transform : RequestTransform}
    (ht : ctx.routeConfig.bind (fun cfg => cfg.transform) = some transform) :
    (transformUpdates http ctx).map MultiMap.Update.name = claimedHeaders ctx.userIdentity ++
        ((addedUpdates http transform.addHeaders).map MultiMap.Update.name ++
          removedNames http transform) := by
  unfold transformUpdates
  rw [ht]
  simp [identityUpdates_names, removedUpdates_names]

theorem touched_iff_transform (hnames : http.TraceNames) (uri : Uri) (ctx : RequestCtx)
    (span : Option TraceContext) (hn : n ∈ userHeaders) :
    n ∈ (platformUpdates http ctx span ++
      (strippedUpdates http uri ctx ++ transformUpdates http ctx)).map MultiMap.Update.name ↔
      n ∈ (transformUpdates http ctx).map MultiMap.Update.name := by
  simp only [map_append, mem_append]
  constructor
  · rintro (h | h | h)
    · rcases mem_map.mp h with ⟨u, hu, rfl⟩
      exact absurd (name_of_mem_platformUpdates hnames hu) (userHeaders_not_platform hn)
    · rcases mem_map.mp h with ⟨u, hu, rfl⟩
      exact absurd (name_of_mem_strippedUpdates hu) (userHeaders_not_platform hn)
    · exact h
  · intro h
    exact .inr (.inr h)

/-- The external proxy is right exactly if the route's transformation removes each header that
    the identity does not account for. -/
theorem external_identity_iff (hnames : http.TraceNames) (request : RequestHeader)
    (ctx : RequestCtx) (span : Option TraceContext) :
    IdentityFromAuth request.headers (externalForward http request ctx span) ctx.userIdentity ↔
      ∃ transform, ctx.routeConfig.bind (fun cfg => cfg.transform) = some transform ∧
        ∀ n ∈ userHeaders, n ∈ claimedHeaders ctx.userIdentity ∨
          n ∈ removedNames http transform := by
  have hforward (h : HeaderMap) : externalForward http request ctx span h =
      some (applyAll (platformUpdates http ctx span ++
        (strippedUpdates http request.uri ctx ++ transformUpdates http ctx)) h) := by
    rw [externalForward, upstreamRequestFilter_headers]
  have hsensitive := insensitive_iff_touched (platformUpdates http ctx span ++
    (strippedUpdates http request.uri ctx ++ transformUpdates http ctx)) request.headers
  constructor
  · rintro ⟨hins, habs⟩
    have htouched : ∀ n ∈ userHeaders,
        n ∈ (transformUpdates http ctx).map MultiMap.Update.name := by
      intro n hn
      refine (touched_iff_transform hnames request.uri ctx span hn).mp
        (hsensitive.mp (fun h h' hv hv' => ?_) n hn)
      have heq := hins h h' hv hv'
      rw [hforward, hforward, Option.some.injEq] at heq
      exact heq
    cases ht : ctx.routeConfig.bind (fun cfg => cfg.transform) with
    | none =>
      -- Without a transformation nothing touches the headers.
      have hid := htouched ⟨"x-user-id"⟩ (by decide)
      simp only [transformUpdates, ht, map_nil] at hid
      nomatch hid
    | some transform =>
      refine ⟨transform, rfl, fun n hn => ?_⟩
      by_cases hclaimed : n ∈ claimedHeaders ctx.userIdentity
      · exact .inl hclaimed
      · -- The client sends the header; it must be gone afterwards.
        right
        have hv : Variant request.headers (request.headers.setAll n [⟨[]⟩]) :=
          request.headers.agreeOff_setAll hn _
        have hnil := habs _ _ hv rfl n hn hclaimed
        rcases upstreamRequestFilter_userHeader hnames
          { request with headers := request.headers.setAll n [⟨[]⟩] } ctx span
          with ⟨middle, hmiddle, hout⟩
        rw [hout] at hnil
        have hne : middle n ≠ [] := by
          rw [hmiddle n hn]
          simp only [setAll, if_true]
          exact cons_ne_nil _ _
        simp only [transformUpdates, ht] at hnil
        exact (transform_clears_iff http ctx.userIdentity transform n middle hne).mp hnil
  · rintro ⟨transform, ht, hall⟩
    refine ⟨fun h h' hv hv' => ?_, fun h out _ hout n hn hclaimed => ?_⟩
    · rw [hforward, hforward]
      refine congrArg some (hsensitive.mpr (fun n hn => ?_) h h' hv hv')
      rw [touched_iff_transform hnames request.uri ctx span hn, transformUpdates_names ht]
      grind
    · have hremoved : n ∈ removedNames http transform := (hall n hn).resolve_left hclaimed
      rw [hforward, Option.some.injEq] at hout
      rw [← hout, applyAll_append, applyAll_append]
      simp only [transformUpdates, ht, applyAll_append]
      rw [← removedUpdates_names] at hremoved
      exact applyAll_drops_mem (removedUpdates_drops http _) _ (.inl hremoved)

theorem headerStr_variant (hv : Variant base headers) (http : HttpCrate)
    (hname : HeaderName.mk name ∉ userHeaders) :
    headerStr http headers name = headerStr http base name := by
  rw [headerStr, headerStr, MultiMap.get, MultiMap.get, hv ⟨name⟩ hname]

theorem strip_variant (hv : Variant base headers) :
    Variant (stripInternalIdentityHeaders base) (stripInternalIdentityHeaders headers) := by
  have hremove {m m' : HeaderMap} (h : Variant m m') (n : HeaderName) :
      Variant (m.remove n) (m'.remove n) :=
    (MultiMap.AgreeOff.remove h n).mono Set.sdiff_subset
  exact hremove (hremove (hremove hv _) _) _

theorem proxyHandlerAuth_variant (hv : Variant base headers) (http : HttpCrate)
    (sha256 : String → String) (gw : Gateway) (appId : AppId) (cfg : Option GatewayRouteConfig)
    (rule : Option EndpointRule) (path : String) :
    proxyHandlerAuth http sha256 gw appId cfg rule headers path =
      proxyHandlerAuth http sha256 gw appId cfg rule base path := by
  have hkey := headerStr_variant hv http (by decide : HeaderName.mk "x-api-key" ∉ userHeaders)
  have htoken := headerStr_variant hv http (by decide : HeaderName.mk "authorization" ∉ userHeaders)
  simp [proxyHandlerAuth, Gateway.authenticateHeaderMapWithPolicy, hkey, htoken]

theorem admitRequest_variant (http : HttpCrate) (sha256 : String → String) (gw : InternalGateway)
    (peer : SocketAddr) (req : RequestHeader) (hv : Variant req.headers headers) :
    admitRequest http sha256 gw peer { req with headers := headers } =
      admitRequest http sha256 gw peer req := by
  have hbody : bodyTooLarge http gw.maxBodySizeBytes headers =
      bodyTooLarge http gw.maxBodySizeBytes req.headers := by
    rw [bodyTooLarge, bodyTooLarge, headerStr_variant hv http (by decide)]
  have hhost : headerStr http (stripInternalIdentityHeaders headers) "host" =
      headerStr http (stripInternalIdentityHeaders req.headers) "host" :=
    headerStr_variant (strip_variant hv) http (by decide)
  simp [admitRequest, hbody, hhost, proxyHandlerAuth_variant (strip_variant hv)]

/-- The identity headers the handler writes. -/
def handlerIdentityUpdates (http : HttpCrate) : Option UserIdentity → List HeaderUpdate
  | none => []
  | some identity =>
    validUpdate http "x-user-id" identity.sub ++
      (identity.email.elim [] (fun email => validUpdate http "x-user-email" email) ++
        if identity.roles.isEmpty then []
        else validUpdate http "x-user-roles" (String.intercalate "," identity.roles))

theorem identityHeaders_eq (http : HttpCrate) (headers : HeaderMap)
    (identity : Option UserIdentity) :
    identityHeaders http headers identity =
      applyAll (handlerIdentityUpdates http identity) headers := by
  rcases identity with _ | ⟨sub, email, roles, rawClaims⟩
  · rfl
  · simp only [identityHeaders, handlerIdentityUpdates, applyAll_append, insertIfValid_eq]
    cases email with
    | none | some email =>
      cases roles with
      | nil | cons role roles => rfl

/-- What the handler does to the headers of a request it forwards. -/
def handlerUpdates (http : HttpCrate) (identity : Option UserIdentity) (host : HeaderValue) :
    List HeaderUpdate :=
  [.drop ⟨"x-namespace"⟩, .drop ⟨"x-source-app"⟩, .drop ⟨"x-source-tid"⟩] ++
    (handlerIdentityUpdates http identity ++
      [.drop ⟨"x-source-app"⟩, .drop ⟨"host"⟩, .write ⟨"host"⟩ host])

theorem forwardRequest_ok_iff {connect : SocketAddr → ConnectOutcome}
    {endpoint : RegisteredEndpoint} {method pathAndQuery targetAppName : String} :
    forwardRequest http connect endpoint method pathAndQuery headers targetAppName = .ok fwd ↔
      connect endpoint.addr = .connected ∧ ∃ uri host, http.parseUri pathAndQuery = some uri ∧
        http.fromStr (targetAppName ++ ":" ++ toString endpoint.addr.port.toNat) = some host ∧
        fwd = ⟨endpoint, method, uri, ((headers.remove ⟨"x-source-app"⟩).remove ⟨"host"⟩).insert
          ⟨"host"⟩ host⟩ := by
  grind [forwardRequest]

/-- The headers the internal gateway forwards; `none` is a refusal. -/
def internalForward (http : HttpCrate) (sha256 : String → String) (gw : InternalGateway)
    (peer : SocketAddr) (req : RequestHeader) (headers : HeaderMap) : Option HeaderMap :=
  (proxyHandler http sha256 gw peer { req with headers := headers }).toOption.map
    (fun fwd => fwd.headers)

variable {sha256 : String → String} {gw : InternalGateway} {peer : SocketAddr} {req : RequestHeader}
  {admitted : AdmittedRequest}

/-- What the client says about its identity has no part in it. -/
theorem internalForward_eq (hadmitted : admitRequest http sha256 gw peer req = .ok admitted)
    (hfwd : proxyHandler http sha256 gw peer req = .ok fwd) :
    ∃ host, ∀ headers, Variant req.headers headers →
      internalForward http sha256 gw peer req headers =
        some (applyAll (handlerUpdates http admitted.userIdentity host) headers) := by
  rw [proxyHandler, hadmitted] at hfwd
  rcases forwardRequest_ok_iff.mp hfwd with ⟨hconnect, uri, host, huri, hhost, -⟩
  refine ⟨host, fun headers hv => ?_⟩
  -- The checks pass again, and the request is built from the new headers.
  have hsent : proxyHandler http sha256 gw peer { req with headers := headers } =
      .ok ⟨admitted.endpoint, req.method, uri,
        (((identityHeaders http (stripInternalIdentityHeaders headers)
          admitted.userIdentity).remove ⟨"x-source-app"⟩).remove ⟨"host"⟩).insert
          ⟨"host"⟩ host⟩ := by
    rw [proxyHandler, admitRequest_variant http sha256 gw peer req hv, hadmitted]
    exact forwardRequest_ok_iff.mpr ⟨hconnect, uri, host, huri, hhost, rfl⟩
  rw [internalForward, hsent, handlerUpdates, applyAll_append, applyAll_append,
    ← identityHeaders_eq]
  rfl

/-- All three headers are accounted for, with texts that can be header values. -/
def CompleteIdentity (http : HttpCrate) : Option UserIdentity → Prop
  | none => False
  | some identity =>
    (http.fromStr identity.sub).isSome = true ∧
      (∃ email, identity.email = some email ∧ (http.fromStr email).isSome = true) ∧
      identity.roles ≠ [] ∧
      (http.fromStr (String.intercalate "," identity.roles)).isSome = true

theorem mem_validUpdate_names {k : HeaderName} :
    k ∈ (validUpdate http name value).map MultiMap.Update.name ↔
      k = ⟨name⟩ ∧ (http.fromStr value).isSome = true := by
  cases hvalue : http.fromStr value <;> simp [validUpdate, MultiMap.Update.name, hvalue]

theorem touched_iff_identity (http : HttpCrate) (identity : Option UserIdentity)
    (host : HeaderValue) (hn : n ∈ userHeaders) :
    n ∈ (handlerUpdates http identity host).map MultiMap.Update.name ↔
      n ∈ (handlerIdentityUpdates http identity).map MultiMap.Update.name := by
  have hother :
      n ∉ [HeaderName.mk "x-namespace", ⟨"x-source-app"⟩, ⟨"x-source-tid"⟩, ⟨"host"⟩] := by
    revert hn n
    decide
  simp only [mem_cons, not_mem_nil, or_false, not_or] at hother
  rcases hother with ⟨hns, happ, htid, hhost⟩
  simp [handlerUpdates, MultiMap.Update.name, hns, happ, htid, hhost]

theorem handler_touches_iff (http : HttpCrate) (identity : Option UserIdentity) :
    (∀ n ∈ userHeaders, n ∈ (handlerIdentityUpdates http identity).map MultiMap.Update.name) ↔
      CompleteIdentity http identity := by
  rcases identity with _ | ⟨sub, email, roles, rawClaims⟩
  · simp only [CompleteIdentity, iff_false]
    intro h
    nomatch (h ⟨"x-user-id"⟩ (by decide))
  · -- Each part of the list is about one name, under a condition of its own.
    have hemail : ∀ k, k ∈ (email.elim [] (fun e => validUpdate http "x-user-email" e)).map
        MultiMap.Update.name ↔
        k = ⟨"x-user-email"⟩ ∧ ∃ e, email = some e ∧ (http.fromStr e).isSome = true := by
      intro k
      cases email with
      | none => simp
      | some e => simp [mem_validUpdate_names]
    have hroles : ∀ k, k ∈ (if roles.isEmpty then []
        else validUpdate http "x-user-roles" (String.intercalate "," roles)).map
          MultiMap.Update.name ↔
        k = ⟨"x-user-roles"⟩ ∧ roles ≠ [] ∧
          (http.fromStr (String.intercalate "," roles)).isSome = true := by
      grind [mem_validUpdate_names]
    simp only [userHeaders, handlerIdentityUpdates, CompleteIdentity, map_append,
      mem_append, mem_validUpdate_names, hemail, hroles, forall_mem_cons,
      HeaderName.mk.injEq, not_mem_nil, false_implies, implies_true, and_true]
    simp

theorem claimedHeaders_complete {identity : Option UserIdentity}
    (h : CompleteIdentity http identity) : ∀ n ∈ userHeaders, n ∈ claimedHeaders identity := by
  rcases identity with _ | ⟨sub, email, roles, rawClaims⟩
  · exact absurd h id
  · rcases h with ⟨-, ⟨e, he, -⟩, hroles, -⟩
    simp only at he hroles
    subst he
    cases roles with
    | nil => exact absurd rfl hroles
    | cons role roles => exact fun n hn => hn

/-- The internal gateway is right exactly for a complete identity. -/
theorem internal_identity_iff (hadmitted : admitRequest http sha256 gw peer req = .ok admitted)
    (hfwd : proxyHandler http sha256 gw peer req = .ok fwd) :
    IdentityFromAuth req.headers (internalForward http sha256 gw peer req)
      admitted.userIdentity ↔ CompleteIdentity http admitted.userIdentity := by
  rcases internalForward_eq hadmitted hfwd with ⟨host, hforward⟩
  have hsensitive :=
    insensitive_iff_touched (handlerUpdates http admitted.userIdentity host) req.headers
  rw [← handler_touches_iff]
  constructor
  · rintro ⟨hins, -⟩ n hn
    refine (touched_iff_identity http admitted.userIdentity host hn).mp
      (hsensitive.mp (fun h h' hv hv' => ?_) n hn)
    have heq := hins h h' hv hv'
    rw [hforward h hv, hforward h' hv', Option.some.injEq] at heq
    exact heq
  · intro hall
    -- All three are written, so nothing of what the client sent is left.
    have hclaimed := claimedHeaders_complete ((handler_touches_iff http _).mp hall)
    refine ⟨fun h h' hv hv' => ?_, fun _ _ _ _ n hn hnot => absurd (hclaimed n hn) hnot⟩
    rw [hforward h hv, hforward h' hv']
    refine congrArg some (hsensitive.mpr (fun n hn => ?_) h h' hv hv')
    exact (touched_iff_identity http admitted.userIdentity host hn).mpr (hall n hn)

/-- Both gateways take the identity headers from authentication only, exactly
    when the identity accounts for all three with texts that can be header
    values and the external route has a transformation. -/
theorem identity_headers_iff {http : HttpCrate} (hnames : http.TraceNames)
    {sha256 : String → String} {gw : InternalGateway} {peer : SocketAddr} {req : RequestHeader}
    {admitted : AdmittedRequest} {fwd : ForwardedRequest}
    (hadmitted : admitRequest http sha256 gw peer req = .ok admitted)
    (hfwd : proxyHandler http sha256 gw peer req = .ok fwd)
    (request : RequestHeader) (ctx : RequestCtx) (span : Option TraceContext)
    (hsame : ctx.userIdentity = admitted.userIdentity) :
    (IdentityFromAuth request.headers (externalForward http request ctx span) ctx.userIdentity ∧
      IdentityFromAuth req.headers (internalForward http sha256 gw peer req)
        admitted.userIdentity) ↔
      CompleteIdentity http ctx.userIdentity ∧
        (ctx.routeConfig.bind (fun cfg => cfg.transform)).isSome = true := by
  rw [external_identity_iff hnames, internal_identity_iff hadmitted hfwd, ← hsame]
  constructor
  · rintro ⟨⟨transform, ht, -⟩, hcomplete⟩
    exact ⟨hcomplete, by rw [ht, Option.isSome_some]⟩
  · rintro ⟨hcomplete, hsome⟩
    rcases Option.isSome_iff_exists.mp hsome with ⟨transform, ht⟩
    exact ⟨⟨transform, ht, fun n hn => .inl (claimedHeaders_complete hcomplete n hn)⟩, hcomplete⟩

def mailUser : UserIdentity :=
  { sub := "u-1", email := some "u@example.com", roles := ["user"], rawClaims := .object [] }

/-- A gateway on which one application answers and every check passes. -/
def passingGateway (config : Gateway) : InternalGateway where
  gatewayConfig := config
  resolveIdentity := some (fun _ => some ⟨"default", "default/web:v1", 7⟩)
  ebpfActive := true
  maxBodySizeBytes := 1024
  checkRequest _ _ := true
  resolveEndpoint _ _ := some ⟨⟨.v4 0x7f000001#32, 8100⟩, false⟩
  coldStart := none
  resolveAfterColdStart _ _ := none
  checkRouteRateLimit _ _ := true
  distributedLimiter _ := none
  isCircuitOpen _ := false
  connect _ := .connected

def localPeer : SocketAddr := ⟨.v4 0x7f000001#32, 40000⟩

def mailRoute : GatewayRouteConfig :=
  { GatewayRouteConfig.default with
    auth := .authenticated
    transform := some ⟨[], [], none, []⟩ }

def mailGateway : Gateway :=
  { oneTokenGateway with
    oidc := some ⟨fun token => if token = "user-token" then .ok mailUser
      else .error (.auth "JWT validation failed")⟩ }.setRouteConfig "default/api:v1" mailRoute

def mailRequest : RequestHeader :=
  { method := "GET", uri := ⟨"/users", "/users", none⟩,
    headers := (empty.insert ⟨"host"⟩ ⟨Text.utf8 "api.default.internal"⟩).insert
      ⟨"authorization"⟩ ⟨Text.utf8 "Bearer user-token"⟩ }

def mailCtx : RequestCtx :=
  { RequestCtx.routed (some ⟨"default/api:v1"⟩) (some mailRoute) with
    userIdentity := some mailUser }

/-- For that user both gateways take the headers from authentication. -/
theorem identity_headers_of_mailUser :
    IdentityFromAuth mailRequest.headers (externalForward .documented mailRequest mailCtx none)
        (some mailUser) ∧
      IdentityFromAuth mailRequest.headers
        (internalForward .documented (fun _ => "") (passingGateway mailGateway) localPeer
          mailRequest) (some mailUser) := by
  have hadmitted : admitRequest .documented (fun _ => "") (passingGateway mailGateway) localPeer
      mailRequest = .ok ⟨⟨⟨.v4 0x7f000001#32, 8100⟩, false⟩, "api", some mailUser⟩ := rfl
  have hfwd : proxyHandler .documented (fun _ => "") (passingGateway mailGateway) localPeer
      mailRequest = .ok ⟨⟨⟨.v4 0x7f000001#32, 8100⟩, false⟩, "GET", ⟨"/users", "/users", none⟩,
        (((identityHeaders .documented (stripInternalIdentityHeaders mailRequest.headers)
          (some mailUser)).remove ⟨"x-source-app"⟩).remove ⟨"host"⟩).insert ⟨"host"⟩
          ⟨Text.utf8 "api:8100"⟩⟩ := rfl
  refine (identity_headers_iff ⟨rfl, rfl⟩ hadmitted hfwd mailRequest mailCtx none rfl).mpr ⟨?_, rfl⟩
  exact ⟨rfl, ⟨"u@example.com", rfl, rfl⟩, by decide, rfl⟩

def namedRequest : RequestHeader :=
  { method := "GET", uri := ⟨"/users", "/users", none⟩,
    headers := (empty.insert ⟨"host"⟩ ⟨Text.utf8 "api.default.internal"⟩).insert
      ⟨"x-user-id"⟩ ⟨Text.utf8 "admin"⟩ }

/-- On a public route without a transformation both gateways forward the name
    the client gave itself, though nobody was authenticated. -/
theorem identity_headers_from_client : ¬ IdentityFromAuth namedRequest.headers
        (externalForward .documented namedRequest (.routed (some ⟨"default/api:v1"⟩) none) none)
        none ∧
      ¬ IdentityFromAuth namedRequest.headers
        (internalForward .documented (fun _ => "") (passingGateway oneTokenGateway) localPeer
          namedRequest) none := by
  have hself : Variant namedRequest.headers namedRequest.headers := MultiMap.AgreeOff.refl _ _
  have hadmin : [HeaderValue.mk (Text.utf8 "admin")] ≠ [] := cons_ne_nil _ _
  constructor <;> intro h <;>
    exact hadmin (h.absent namedRequest.headers _ hself rfl ⟨"x-user-id"⟩ (by decide) (by decide))

end WasmCloud
