import WasmCloud.Gateway.Forwarding
import WasmCloud.Routing.HostRouter
import WasmCloud.Routing.Steering

/-!
# What a Steered Request Becomes

A request that is handed on to another node has already been rewritten by the first, and the
second node does it all again. `LongestRoute` is the route of a path, and `Uri.below` is a URI
below a route. With these, `SteerSafe` says what it takes for the second pass to change
nothing.

The library's URI parser is a parameter. `HttpCrate.Subpaths` is what is assumed of it: what
remains of a path is a path, and no path at all is not a URI.

## Main definitions

* `routeOf`: The route of a request, if the proxy looks for one.
* `proxyForward`: What a node sends of a request it has a route for.
* `SteerSafe`: The rewritten request has a route that leaves it alone.

## Theorems

* `below_same_iff`: When a route leaves a path alone.
* `steering_transparent_iff`: When a second node treats a request as the first would have.
-/

namespace WasmCloud

open List MultiMap Text

def canonicalHost (host : String) : String :=
  match (stripPrefix host "[").bind (fun inner => splitOnce inner ']') with
  | some (name, _) => name
  | none =>
    match rsplitOnce host ':' with
    | some (name, port) =>
      if !name.toList.contains ':' && port != "" && port.toList.all Char.isDigit then name
      else host
    | none => host

/-- `extract_request_host`. The authority of a URI is the library's. -/
def extractRequestHost (http : HttpCrate) (authority : Uri → Option String) (headers : HeaderMap)
    (uri : Uri) : String :=
  canonicalHost ((((headerStr http headers "host").filter (fun v => v != "")).or
    (authority uri)).getD "")

/-- The route that `request_filter` finds. It does not look for one without a host, or if the
    node itself is asked for its health, and `upstream_peer` refuses what has none. -/
def routeOf (http : HttpCrate) (authority : Uri → Option String) (router : HostRouter)
    (request : RequestHeader) : Option ResolvedRoute :=
  let host := extractRequestHost http authority request.headers request.uri
  if host = "" ∨ request.uri.path = "/_platform/health" then none
  else router.resolve host request.uri.path

/-- `resolve_route`. The configurations are those of the gateway. -/
def resolveRoute (router : HostRouter) (configs : AppId → Option GatewayRouteConfig)
    (host path : String) (ctx : RequestCtx) : RequestCtx :=
  match router.resolve host path with
  | some r => { ctx with
      appId := some r.appId
      routeConfig := configs r.appId
      stripPrefix := r.stripPrefix
      matchedPrefix := some r.matchedPrefix }
  | none => { ctx with routeConfig := none }

/-- What is sent of a request that has a route. `learned` is what the other stages found out:
    the caller's identity and the trace. -/
def proxyForward (http : HttpCrate) (authority : Uri → Option String) (router : HostRouter)
    (configs : AppId → Option GatewayRouteConfig) (learned : RequestCtx)
    (span : Option TraceContext) (request : RequestHeader) : RequestHeader :=
  let host := extractRequestHost http authority request.headers request.uri
  upstreamRequestFilter http request (resolveRoute router configs host request.uri.path learned)
    span

def rooted (path : String) : String := if startsWith path "/" then path else "/" ++ path

def joinQuery (path : String) : Option String → String
  | some query => path ++ "?" ++ query
  | none => path

/-- A URI below a route. If there is nothing below the prefix the URI stays. -/
def Uri.below (uri : Uri) (stripPrefix : Bool) (matchedPrefix : String) : Uri :=
  match stripPrefix, Text.stripPrefix uri.path matchedPrefix with
  | true, some rest =>
    if rest = "" then uri else ⟨joinQuery (rooted rest) uri.query, rooted rest, uri.query⟩
  | _, _ => uri

/-- The URI is one the library made. -/
def HttpCrate.Parsed (http : HttpCrate) (uri : Uri) : Prop := ∃ text, http.parseUri text = some uri

/-- What remains of a path is, behind a slash and with the query, a URI; an empty path is none. -/
structure HttpCrate.Subpaths (http : HttpCrate) : Prop where
  pathless : ∀ query, http.parseUri (joinQuery "" query) = none
  rest : ∀ {uri matchedPrefix rest}, http.Parsed uri → uri.path = matchedPrefix ++ rest →
    rest ≠ "" → http.parseUri (joinQuery (rooted rest) uri.query) =
      some ⟨joinQuery (rooted rest) uri.query, rooted rest, uri.query⟩

/-- The URI part of a route's transformation, if it has one. -/
def transformedUri (http : HttpCrate) (transform : Option RequestTransform) (uri : Uri) : Uri :=
  transform.elim uri (transformUri http uri)

def sentUri (http : HttpCrate) (transform : Option RequestTransform) (uri : Uri)
    (stripPrefix : Bool) (matchedPrefix : String) : Uri :=
  transformedUri http transform (uri.below stripPrefix matchedPrefix)

/-- The headers a route's configuration writes and drops. -/
def configuredUpdates (http : HttpCrate) (transform : Option RequestTransform) :
    List HeaderUpdate :=
  transform.elim [] (fun t =>
    addedUpdates http t.addHeaders ++ removedUpdates http t.removeHeaders)

/-- Without a transformation the route strips nothing, all of the path, or a single slash. With
    one, what the route strips is what the transformation puts back. -/
def LeftAlone (http : HttpCrate) (transform : Option RequestTransform) (sent : Uri)
    (stripPrefix : Bool) (matchedPrefix : String) : Prop :=
  match transform with
  | none => stripPrefix = false ∨ sent.path = matchedPrefix ∨
      matchedPrefix = "/" ∧ startsWith sent.path "//" = false
  | some t =>
    let again := transformUri http (sent.below stripPrefix matchedPrefix) t
    again.path = sent.path ∧ again.query = sent.query

/-- The rewritten request has a host, is not for the node itself, and has a route of the same
    application that leaves it alone. -/
def SteerSafe (http : HttpCrate) (authority : Uri → Option String) (router : HostRouter)
    (configs : AppId → Option GatewayRouteConfig) (request : RequestHeader) (r : ResolvedRoute) :
    Prop :=
  let transform := (configs r.appId).bind (fun cfg => cfg.transform)
  let sent := sentUri http transform request.uri r.stripPrefix r.matchedPrefix
  let host := extractRequestHost http authority
    (applyAll (configuredUpdates http transform) request.headers) sent
  host ≠ "" ∧ sent.path ≠ "/_platform/health" ∧
    ∃ e, LongestRoute router host sent.path e ∧ e.appId = r.appId ∧
      LeftAlone http transform sent e.stripPrefix e.pathPrefix

theorem stripUriPrefix_eq (path : String) (query : Option String) (matchedPrefix : String) :
    stripUriPrefix path query matchedPrefix = (stripPrefix path matchedPrefix).map (fun rest =>
      joinQuery (if rest = "" then "" else rooted rest) query) := by
  unfold stripUriPrefix
  refine congrArg (fun f => (stripPrefix path matchedPrefix).map f) (funext fun rest => ?_)
  have hpath : (if startsWith rest "/" || rest == "" then rest else "/" ++ rest) =
      if rest = "" then "" else rooted rest := by
    grind [rooted]
  rw [hpath]
  cases query with
  | none | some q => rfl

variable {http : HttpCrate} {matchedPrefix : String} {uri : Uri} {ctx : RequestCtx}

theorem forwardStripped_uri (hsub : http.Subpaths) (request : RequestHeader)
    (hparsed : http.Parsed request.uri) (hmatched : ctx.matchedPrefix = some matchedPrefix) :
    (forwardStripped http request ctx).uri = request.uri.below ctx.stripPrefix matchedPrefix := by
  unfold forwardStripped Uri.below
  cases hstrip : ctx.stripPrefix with
  | false => rfl
  | true =>
    rw [if_pos rfl, hmatched]
    dsimp only
    rw [stripUriPrefix_eq]
    cases hrest : stripPrefix request.uri.path matchedPrefix with
    | none => rfl
    | some rest =>
      dsimp only [Option.map_some]
      by_cases hempty : rest = ""
      · -- Nothing is left of the path, and that does not parse.
        rw [if_pos hempty, if_pos hempty, reparse, hsub.pathless]
        rfl
      · have hpath := (stripPrefix_eq_some_iff _ _ _).mp hrest
        rw [if_neg hempty, if_neg hempty, reparse, hsub.rest hparsed hpath hempty]
        rfl

theorem parsed_below (hsub : http.Subpaths) (hparsed : http.Parsed uri) (stripPrefix : Bool)
    (matchedPrefix : String) : http.Parsed (uri.below stripPrefix matchedPrefix) := by
  unfold Uri.below
  cases stripPrefix with
  | false => exact hparsed
  | true =>
    cases hrest : stripPrefix uri.path matchedPrefix with
    | none => exact hparsed
    | some rest =>
      dsimp only
      by_cases hempty : rest = ""
      · rw [if_pos hempty]
        exact hparsed
      · rw [if_neg hempty]
        exact ⟨_, hsub.rest hparsed ((stripPrefix_eq_some_iff _ _ _).mp hrest) hempty⟩

theorem parsed_reparse (hparsed : http.Parsed uri) (text : String) :
    http.Parsed (reparse http uri text) := by
  unfold reparse
  cases htext : http.parseUri text with
  | none => exact hparsed
  | some new => exact ⟨text, htext⟩

theorem parsed_transformedUri (hparsed : http.Parsed uri) (transform : Option RequestTransform) :
    http.Parsed (transformedUri http transform uri) := by
  cases transform with
  | none => exact hparsed
  | some t =>
    change http.Parsed (transformUri http uri t)
    unfold transformUri
    have hprefixed : http.Parsed (match t.pathPrefix with
        | some p => reparse http uri (trimEndMatches p "/" ++ uri.text)
        | none => uri) := by
      cases t.pathPrefix with
      | none => exact hparsed
      | some p => exact parsed_reparse hparsed _
    grind [parsed_reparse]

/-- The route strips nothing, or its prefix is all of the path, or it is a single slash. -/
theorem below_same_iff (uri : Uri) (stripPrefix : Bool) (hne : matchedPrefix ≠ "")
    (hstart : Text.startsWith uri.path matchedPrefix = true) :
    ((uri.below stripPrefix matchedPrefix).path = uri.path ∧
      (uri.below stripPrefix matchedPrefix).query = uri.query) ↔
      stripPrefix = false ∨ uri.path = matchedPrefix ∨
        matchedPrefix = "/" ∧ Text.startsWith uri.path "//" = false := by
  rcases (startsWith_iff _ _).mp hstart with ⟨rest, hpath⟩
  have hstrip : Text.stripPrefix uri.path matchedPrefix = some rest := by
    rw [hpath]
    exact stripPrefix_append matchedPrefix rest
  unfold Uri.below
  cases stripPrefix with
  | false => simp
  | true =>
    rw [hstrip]
    dsimp only
    by_cases hempty : rest = ""
    · have hall : uri.path = matchedPrefix := by rw [hpath, hempty, String.append_empty]
      rw [if_pos hempty]
      simp [hall]
    · have hnotall : uri.path ≠ matchedPrefix := by
        intro hall
        rw [hall] at hpath
        exact hempty (String.append_eq_left_iff.mp hpath.symm)
      rw [if_neg hempty]
      simp only [and_true, Bool.true_eq_false, hnotall, false_or]
      by_cases hslash : Text.startsWith rest "/" = true
      · -- What is left starts with a slash itself, so the path got shorter.
        rw [rooted, if_pos hslash, hpath]
        refine iff_of_false (fun h => hne (String.append_eq_right_iff.mp h.symm)) ?_
        rintro ⟨hroot, hdouble⟩
        rcases (startsWith_iff _ _).mp hslash with ⟨t, ht⟩
        have hstarts : Text.startsWith (matchedPrefix ++ rest) "//" = true := by
          refine (startsWith_iff _ _).mpr ⟨t, ?_⟩
          rw [hroot, ht, ← String.append_assoc]
          rfl
        rw [hstarts] at hdouble
        nomatch hdouble
      · rw [rooted, if_neg hslash, hpath, String.append_left_inj]
        constructor
        · intro hroot
          refine ⟨hroot.symm, ?_⟩
          rw [← Bool.not_eq_true]
          intro hdouble
          rcases (startsWith_iff _ _).mp hdouble with ⟨t, ht⟩
          refine hslash ((startsWith_iff _ _).mpr ⟨t, ?_⟩)
          refine (String.append_right_inj "/").mp ?_
          rw [hroot, ht, ← hroot, ← String.append_assoc]
          rfl
        · rintro ⟨hroot, -⟩
          exact hroot.symm

theorem upstreamRequestFilter_uri (hsub : http.Subpaths) {request : RequestHeader}
    (hparsed : http.Parsed request.uri) (hmatched : ctx.matchedPrefix = some matchedPrefix)
    (span : Option TraceContext) :
    (upstreamRequestFilter http request ctx span).uri =
      sentUri http (ctx.routeConfig.bind (fun cfg => cfg.transform)) request.uri ctx.stripPrefix
        matchedPrefix := by
  have hmoved : (forwardStripped http
      { request with headers := platformHeaders http request.headers ctx span } ctx).uri =
        request.uri.below ctx.stripPrefix matchedPrefix :=
    forwardStripped_uri hsub
      { request with headers := platformHeaders http request.headers ctx span } hparsed hmatched
  unfold upstreamRequestFilter sentUri
  cases ctx.routeConfig.bind (fun cfg => cfg.transform) with
  | none => exact hmoved
  | some t => exact congrArg (fun uri => transformUri http uri t) hmoved

theorem hostHeader_not_claimed (identity : Option UserIdentity) :
    (⟨"host"⟩ : HeaderName) ∉ claimedHeaders identity := by
  rcases identity with _ | ⟨sub, email, roles, rawClaims⟩
  · exact not_mem_nil
  · cases email with
    | none | some email =>
      cases roles with
      | nil | cons role roles => simp [claimedHeaders]

theorem upstreamRequestFilter_hostHeader (hnames : http.TraceNames) (request : RequestHeader)
    (ctx : RequestCtx) (span : Option TraceContext) :
    (upstreamRequestFilter http request ctx span).headers ⟨"host"⟩ =
      applyAll (configuredUpdates http (ctx.routeConfig.bind (fun cfg => cfg.transform)))
        request.headers ⟨"host"⟩ := by
  have hplatform : (⟨"host"⟩ : HeaderName) ∉ platformNames := by decide
  rw [upstreamRequestFilter_headers, applyAll_append, applyAll_append]
  have hbefore : applyAll (strippedUpdates http request.uri ctx)
      (applyAll (platformUpdates http ctx span) request.headers) ⟨"host"⟩ =
        request.headers ⟨"host"⟩ := by
    rw [applyAll_untouched, applyAll_untouched]
    · intro h
      rcases mem_map.mp h with ⟨u, hu, hname⟩
      exact hplatform (hname ▸ name_of_mem_platformUpdates hnames hu)
    · intro h
      rcases mem_map.mp h with ⟨u, hu, hname⟩
      exact hplatform (hname ▸ name_of_mem_strippedUpdates hu)
  unfold transformUpdates configuredUpdates
  cases ctx.routeConfig.bind (fun cfg => cfg.transform) with
  | none => exact hbefore
  | some t =>
    dsimp only [Option.elim_some]
    rw [applyAll_append]
    -- The identity headers are others, and the rest is written and dropped alike.
    have hagree : MultiMap.AgreeOff {n | n ≠ (⟨"host"⟩ : HeaderName)}
        (applyAll (identityUpdates http ctx.userIdentity)
          (applyAll (strippedUpdates http request.uri ctx)
            (applyAll (platformUpdates http ctx span) request.headers)))
        request.headers := by
      intro n hn
      have hhost : n = ⟨"host"⟩ := not_not.mp hn
      rw [hhost, applyAll_untouched, hbefore]
      rw [identityUpdates_names]
      exact hostHeader_not_claimed ctx.userIdentity
    exact hagree.applyAll _ ⟨"host"⟩ (fun h => h.1 rfl)

section Forward

variable {http : HttpCrate} {authority : Uri → Option String} {router : HostRouter}
  (configs : AppId → Option GatewayRouteConfig) {request : RequestHeader} {r : ResolvedRoute}

theorem proxyForward_uri (hsub : http.Subpaths) (hparsed : http.Parsed request.uri)
    (hr : router.resolve (extractRequestHost http authority request.headers request.uri)
      request.uri.path = some r) (learned : RequestCtx) (span : Option TraceContext) :
    (proxyForward http authority router configs learned span request).uri =
      sentUri http ((configs r.appId).bind (fun cfg => cfg.transform)) request.uri r.stripPrefix
        r.matchedPrefix := by
  rw [proxyForward, resolveRoute, hr]
  exact upstreamRequestFilter_uri hsub hparsed rfl span

theorem proxyForward_host (hnames : http.TraceNames)
    (hr : router.resolve (extractRequestHost http authority request.headers request.uri)
      request.uri.path = some r) (learned : RequestCtx) (span : Option TraceContext) (uri : Uri) :
    extractRequestHost http authority
        (proxyForward http authority router configs learned span request).headers uri =
      extractRequestHost http authority (MultiMap.applyAll
        (configuredUpdates http ((configs r.appId).bind (fun cfg => cfg.transform)))
        request.headers) uri := by
  rw [proxyForward, resolveRoute, hr]
  have hhost := upstreamRequestFilter_hostHeader hnames request { learned with
    appId := some r.appId, routeConfig := configs r.appId, stripPrefix := r.stripPrefix,
    matchedPrefix := some r.matchedPrefix } span
  unfold extractRequestHost headerStr MultiMap.get
  exact congrArg (fun values => canonicalHost (((((List.head? values).bind http.toStr).filter
    (fun v => v != "")).or (authority uri)).getD "")) hhost

theorem routeOf_eq_some_iff : routeOf http authority router request = some r ↔
    extractRequestHost http authority request.headers request.uri ≠ "" ∧
      request.uri.path ≠ "/_platform/health" ∧
      router.resolve (extractRequestHost http authority request.headers request.uri)
        request.uri.path = some r := by
  rw [routeOf]
  split_ifs with hearly
  · refine iff_of_false nofun ?_
    rintro ⟨hhost, hpath, -⟩
    exact hearly.elim hhost hpath
  · rw [not_or] at hearly
    simp only [ne_eq, hearly, not_false_eq_true, true_and]

theorem leftAlone_iff (hrouter : RouterOk router) (transform : Option RequestTransform)
    {host : String} {sent : Uri} {e : RouteEntry} (he : LongestRoute router host sent.path e) :
    ((sentUri http transform sent e.stripPrefix e.pathPrefix).path = sent.path ∧
      (sentUri http transform sent e.stripPrefix e.pathPrefix).query = sent.query) ↔
      LeftAlone http transform sent e.stripPrefix e.pathPrefix := by
  obtain ⟨x, -, hmem, hstart, -⟩ := he
  cases transform with
  | none => exact below_same_iff sent e.stripPrefix (hrouter.nonempty x e hmem) hstart
  | some t => exact Iff.rfl

/-- A request that a node forwards to another one is resolved there to the same
    application, and forwarded with the same path and query, exactly if the condition
    holds. -/
theorem steering_transparent_iff (hnames : http.TraceNames) (hsub : http.Subpaths)
    (hrouter : RouterOk router) (hparsed : http.Parsed request.uri)
    (hr : routeOf http authority router request = some r)
    (learned learned' : RequestCtx) (span span' : Option TraceContext) {sent : RequestHeader}
    (hsent : sent = proxyForward http authority router configs learned span request) :
    (∃ r', routeOf http authority router sent = some r' ∧ r'.appId = r.appId ∧
      (proxyForward http authority router configs learned' span' sent).uri.path = sent.uri.path ∧
      (proxyForward http authority router configs learned' span' sent).uri.query = sent.uri.query) ↔
      SteerSafe http authority router configs request r := by
  obtain ⟨-, -, hr⟩ := routeOf_eq_some_iff.mp hr
  have huri : sent.uri = sentUri http ((configs r.appId).bind (fun cfg => cfg.transform))
      request.uri r.stripPrefix r.matchedPrefix := by
    rw [hsent]
    exact proxyForward_uri configs hsub hparsed hr learned span
  have hhost := proxyForward_host configs hnames hr learned span sent.uri
  rw [← hsent] at hhost
  have hparsed' : http.Parsed sent.uri := by
    rw [huri]
    exact parsed_transformedUri (parsed_below hsub hparsed _ _) _
  unfold SteerSafe
  dsimp only
  rw [← huri, ← hhost]
  constructor
  · rintro ⟨r', hr', happ, hpath, hquery⟩
    obtain ⟨hnamed, hprobe, hr'⟩ := routeOf_eq_some_iff.mp hr'
    have hforward := proxyForward_uri configs hsub hparsed' hr' learned' span'
    rcases hrouter.resolve_iff.mp hr' with ⟨e, he, rfl⟩
    rw [hforward, happ] at hpath hquery
    exact ⟨hnamed, hprobe, e, he, happ, (leftAlone_iff hrouter _ he).mp ⟨hpath, hquery⟩⟩
  · rintro ⟨hnamed, hprobe, e, he, happ, hleft⟩
    have hr' := hrouter.resolve_iff.mpr ⟨e, he, rfl⟩
    have hforward := proxyForward_uri configs hsub hparsed' hr' learned' span'
    refine ⟨_, routeOf_eq_some_iff.mpr ⟨hnamed, hprobe, hr'⟩, happ, ?_⟩
    rw [hforward, happ]
    exact (leftAlone_iff hrouter _ he).mpr hleft

end Forward

theorem documented_traceNames : HttpCrate.documented.TraceNames := ⟨rfl, rfl⟩

variable {path : String}

theorem takeWhile_path (hpath : '?' ∉ path.toList) (query : Option String) :
    (joinQuery path query).toList.takeWhile (fun c => c != '?') = path.toList ∧
      (joinQuery path query).toList.dropWhile (fun c => c != '?') =
        query.elim [] (fun q => '?' :: q.toList) := by
  have hall : ∀ c ∈ path.toList, (c != '?') = true := by
    intro c hc
    rw [bne_iff_ne]
    rintro rfl
    exact hpath hc
  cases query with
  | none => exact ⟨takeWhile_eq_self_iff.mpr hall, dropWhile_eq_nil_iff.mpr hall⟩
  | some q =>
    have htext : (joinQuery path (some q)).toList = path.toList ++ '?' :: q.toList := by
      rw [joinQuery, String.toList_append, String.toList_append, append_assoc]
      rfl
    rw [htext, takeWhile_append_of_pos hall, dropWhile_append_of_pos hall]
    simp

theorem documented_parseUri (hroot : startsWith path "/" = true) (hpath : '?' ∉ path.toList)
    (query : Option String) :
    HttpCrate.documented.parseUri (joinQuery path query) =
      some ⟨joinQuery path query, path, query⟩ := by
  have hstart : startsWith (joinQuery path query) "/" = true := by
    rcases (startsWith_iff _ _).mp hroot with ⟨t, rfl⟩
    cases query with
    | none => exact hroot
    | some q =>
      refine (startsWith_iff _ _).mpr ⟨t ++ "?" ++ q, ?_⟩
      rw [joinQuery, String.append_assoc, String.append_assoc, String.append_assoc]
  rcases takeWhile_path hpath query with ⟨htake, hdrop⟩
  unfold HttpCrate.documented
  dsimp only
  rw [if_pos hstart, htake, hdrop, String.ofList_toList]
  cases query with
  | none => rfl
  | some q => simp

theorem documented_subpaths : HttpCrate.documented.Subpaths where
  pathless := by
    intro query
    cases query with
    | none => rfl
    | some q =>
      have hstart : startsWith (joinQuery "" (some q)) "/" = false := by
        rw [startsWith, joinQuery, String.toList_append, String.toList_append]
        rfl
      unfold HttpCrate.documented
      dsimp only
      rw [if_neg (by rw [hstart]; exact Bool.false_ne_true)]
  rest := by
    rintro uri matchedPrefix rest ⟨text, htext⟩ hpath hne
    -- The path of a URI has no question mark, so what is left of it has none.
    have hmark : '?' ∉ uri.path.toList := by
      grind [String.toList_ofList, HttpCrate.documented, mem_takeWhile_imp]
    have hrest : '?' ∉ rest.toList := by
      intro hmem
      refine hmark ?_
      rw [hpath, String.toList_append]
      exact mem_append_right _ hmem
    grind [String.toList_append, rooted, documented_parseUri, startsWith_iff]

def getRequest (path : String) (query : Option String) : RequestHeader :=
  ⟨"GET", ⟨joinQuery path query, path, query⟩, empty.insert ⟨"host"⟩ ⟨utf8 "api.example.com:8080"⟩⟩

def twoPasses (router : HostRouter) (request : RequestHeader) : RequestHeader × RequestHeader :=
  let forward := proxyForward .documented (fun _ => none) router (fun _ => none)
    (.routed none none) none
  (forward request, forward (forward request))

def rootRouter : HostRouter :=
  HostRouter.addRoute OrdTable.empty "api.example.com" "/" ⟨"default/api:v1"⟩ true

def usersRequest : RequestHeader := getRequest "/users" (some "page=2")

theorem steering_transparent_rootRouter :
    let sent := twoPasses rootRouter usersRequest
    ∃ r', routeOf .documented (fun _ => none) rootRouter sent.1 = some r' ∧
      r'.appId = ⟨"default/api:v1"⟩ ∧ sent.2.uri.path = sent.1.uri.path ∧
      sent.2.uri.query = sent.1.uri.query := by
  have hrouter : RouterOk rootRouter := routerOk_empty.addRoute _ _ _ _
  have hr : routeOf .documented (fun _ => none) rootRouter usersRequest =
      some ⟨⟨"default/api:v1"⟩, true, "/"⟩ := by decide +kernel
  have hparsed : HttpCrate.documented.Parsed usersRequest.uri :=
    ⟨"/users?page=2", by decide +kernel⟩
  refine (steering_transparent_iff (fun _ => none) documented_traceNames documented_subpaths hrouter
    hparsed hr (.routed none none) (.routed none none) none none rfl).mpr ?_
  -- Below the slash there is the same path again.
  obtain ⟨hnamed, hprobe, hresolved⟩ := routeOf_eq_some_iff.mp hr
  rcases hrouter.resolve_iff.mp hresolved with ⟨e, he, heq⟩
  rw [ResolvedRoute.mk.injEq] at heq
  refine ⟨hnamed, hprobe, e, he, heq.1.symm, .inr (.inr ⟨heq.2.2.symm, ?_⟩)⟩
  decide +kernel

/-- On the second node a stripped request belongs to another application, or to none, or it is
    stripped once more. -/
theorem steering_changes_target :
    let api := HostRouter.addRoute OrdTable.empty "api.example.com" "/api" ⟨"default/api:v1"⟩ true
    let both := api.addRoute "api.example.com" "/" ⟨"default/web:v1"⟩ false
    let first := (twoPasses both (getRequest "/api/users" none)).1
    let again := twoPasses api (getRequest "/api/api/users" none)
    selectUpstream 80 0 (emptyNode [loadEntry 0 90, loadEntry 1 10]) = .remote 1 ∧
    (both.resolve "api.example.com" "/api/users" = some ⟨⟨"default/api:v1"⟩, true, "/api"⟩ ∧
      first.uri.path = "/users" ∧
      extractRequestHost .documented (fun _ => none) first.headers first.uri =
        "api.example.com" ∧
      both.resolve "api.example.com" "/users" = some ⟨⟨"default/web:v1"⟩, false, "/"⟩) ∧
    (api.resolve "api.example.com" "/api/users" = some ⟨⟨"default/api:v1"⟩, true, "/api"⟩ ∧
      api.resolve "api.example.com" "/users" = none ∧
      again.1.uri.path = "/api/users" ∧ again.2.uri.path = "/users") := by
  decide +kernel

end WasmCloud
