import WasmCloud.Routing.LongestPrefix
import WasmCloud.Routing.Steered

/-!
# Below a Stripped Prefix

A route that strips its prefix is to forward what stands below the prefix, as a path of its
own; joined to the prefix again, it should give the path that came in: `FaithfulStrip`.

The router matches texts and not segments, the stripper puts a slash in front of what has
none, and a text that does not parse leaves the URI as it was. `Uri.below` says what comes of
the three. If nothing follows the prefix, the URI stays; if something follows, one slash has
to stand between the two.
-/

namespace WasmCloud

/-- A prefix without its trailing slash. -/
def withoutSlash (pathPrefix : String) : String :=
  if Text.endsWith pathPrefix "/" then String.ofList pathPrefix.toList.dropLast else pathPrefix

def joinPath (pathPrefix path : String) : String := withoutSlash pathPrefix ++ path

/-- An absolute path with the same query, after a match of whole segments, and prefix and path
    give the original path, but for a trailing slash if the prefix is all of it. -/
structure FaithfulStrip (pathPrefix : String) (uri forwarded : Uri) : Prop where
  absolute : Text.startsWith forwarded.path "/" = true
  query : forwarded.query = uri.query
  segment : uri.path = pathPrefix ∨ Text.endsWith pathPrefix "/" = true ∨
    ∃ rest, uri.path = pathPrefix ++ "/" ++ rest
  joined : joinPath pathPrefix forwarded.path = uri.path ∨
    uri.path = pathPrefix ∧ (joinPath pathPrefix forwarded.path = uri.path ++ "/" ∨
      uri.path = joinPath pathPrefix forwarded.path ++ "/")

/-- There is one slash between prefix and rest, or nothing follows one or two slashes. -/
def StripsCleanly (pathPrefix rest : String) : Prop :=
  rest = "" ∧ (pathPrefix = "/" ∨ pathPrefix = "//") ∨
    rest ≠ "" ∧ (Text.endsWith pathPrefix "/" = true ↔ Text.startsWith rest "/" = false)

theorem withoutSlash_append (s : String) : withoutSlash (s ++ "/") = s := by
  have hends : Text.endsWith (s ++ "/") "/" = true := (Text.endsWith_iff _ _).mpr ⟨s, rfl⟩
  have hlist : (s ++ "/").toList = s.toList ++ ['/'] := String.toList_append
  rw [withoutSlash, if_pos hends, hlist, List.dropLast_concat, String.ofList_toList]

variable {pathPrefix : String}

theorem withoutSlash_eq_self (h : Text.endsWith pathPrefix "/" = false) :
    withoutSlash pathPrefix = pathPrefix := by
  rw [withoutSlash, h]
  rfl

theorem startsWith_rooted (path : String) : Text.startsWith (rooted path) "/" = true := by
  unfold rooted
  split_ifs with h
  · exact h
  · exact (Text.startsWith_iff _ _).mpr ⟨path, rfl⟩

theorem join_self_iff (hne : pathPrefix ≠ "") : (joinPath pathPrefix pathPrefix = pathPrefix ∨
      joinPath pathPrefix pathPrefix = pathPrefix ++ "/" ∨
      pathPrefix = joinPath pathPrefix pathPrefix ++ "/") ↔
      pathPrefix = "/" ∨ pathPrefix = "//" := by
  constructor
  · intro h
    -- The last equation has the longer text on its right whatever the prefix.
    have hlonger : ∀ s : String, pathPrefix ≠ s ++ pathPrefix ++ "/" := by
      intro s heq
      have hlen := congrArg String.length heq
      rw [String.length_append, String.length_append] at hlen
      have hslash : ("/" : String).length = 1 := rfl
      omega
    unfold joinPath at h
    by_cases hends : Text.endsWith pathPrefix "/" = true
    · grind [withoutSlash_append, String.append_right_inj, String.append_assoc, Text.endsWith_iff]
    · rw [Bool.not_eq_true] at hends
      grind [withoutSlash_eq_self, String.append_eq_left_iff, String.append_right_inj]
  · intro h
    rcases h with rfl | rfl
    · exact .inl (by decide)
    · exact .inr (.inl (by decide))

theorem join_rooted_iff (pathPrefix rest : String) :
    ((Text.endsWith pathPrefix "/" = true ∨ Text.startsWith rest "/" = true) ∧
      joinPath pathPrefix (rooted rest) = pathPrefix ++ rest) ↔
      (Text.endsWith pathPrefix "/" = true ↔ Text.startsWith rest "/" = false) := by
  unfold joinPath rooted
  by_cases hends : Text.endsWith pathPrefix "/" = true
  · obtain ⟨s, rfl⟩ := (Text.endsWith_iff _ _).mp hends
    by_cases hstarts : Text.startsWith rest "/" = true
    · -- Two slashes, and the one of the prefix is lost.
      rw [withoutSlash_append, if_pos hstarts, hends, hstarts, String.append_assoc,
        String.append_right_inj]
      have hlost : ¬ rest = "/" ++ rest := by
        intro heq
        have hempty := String.append_eq_right_iff.mp heq.symm
        nomatch hempty
      simp [hlost]
    · rw [Bool.not_eq_true] at hstarts
      rw [withoutSlash_append, hends, hstarts, String.append_assoc]
      simp
  · rw [Bool.not_eq_true] at hends
    by_cases hstarts : Text.startsWith rest "/" = true
    · rw [withoutSlash_eq_self hends, if_pos hstarts, hends, hstarts]
      simp
    · rw [Bool.not_eq_true] at hstarts
      rw [hends, hstarts]
      simp

variable {rest : String}

theorem segment_iff (hrest : rest ≠ "") :
    (pathPrefix ++ rest = pathPrefix ∨ Text.endsWith pathPrefix "/" = true ∨
      ∃ t, pathPrefix ++ rest = pathPrefix ++ "/" ++ t) ↔
      Text.endsWith pathPrefix "/" = true ∨ Text.startsWith rest "/" = true := by
  have hall : ¬ pathPrefix ++ rest = pathPrefix := fun h => hrest (String.append_eq_left_iff.mp h)
  have hslash : (∃ t, pathPrefix ++ rest = pathPrefix ++ "/" ++ t) ↔
      Text.startsWith rest "/" = true := by
    rw [Text.startsWith_iff]
    refine exists_congr fun t => ?_
    rw [String.append_assoc, String.append_right_inj]
  rw [hslash]
  simp [hall]

theorem below_faithful_iff (uri : Uri) (hne : pathPrefix ≠ "")
    (hpath : uri.path = pathPrefix ++ rest) :
    FaithfulStrip pathPrefix uri (uri.below true pathPrefix) ↔ StripsCleanly pathPrefix rest := by
  have hstrip : Text.stripPrefix uri.path pathPrefix = some rest := by
    rw [hpath]
    exact Text.stripPrefix_append pathPrefix rest
  by_cases hrest : rest = ""
  · -- Nothing follows the prefix, so the URI stays as it is.
    have hbelow : uri.below true pathPrefix = uri := by
      simp [Uri.below, hstrip, hrest]
    have hall : uri.path = pathPrefix := by rw [hpath, hrest, String.append_empty]
    rw [hbelow]
    simp only [StripsCleanly, hrest, true_and, ne_eq, not_true_eq_false, false_and, or_false]
    constructor
    · intro h
      have hjoined := h.joined
      rw [hall] at hjoined
      exact (join_self_iff hne).mp (hjoined.imp_right And.right)
    · intro h
      have habsolute : Text.startsWith pathPrefix "/" = true := by
        rcases h with rfl | rfl
        · decide
        · decide
      refine ⟨by rw [hall]; exact habsolute, rfl, .inl hall, ?_⟩
      rw [hall]
      exact ((join_self_iff hne).mpr h).imp_right (fun h => ⟨rfl, h⟩)
  · have hbelow : uri.below true pathPrefix =
        ⟨joinQuery (rooted rest) uri.query, rooted rest, uri.query⟩ := by
      simp [Uri.below, hstrip, hrest]
    have hnotall : ¬ uri.path = pathPrefix := by
      intro h
      rw [hpath] at h
      exact hrest (String.append_eq_left_iff.mp h)
    rw [hbelow]
    simp only [StripsCleanly, hrest, false_and, ne_eq, not_false_eq_true, true_and, false_or]
    rw [← join_rooted_iff]
    constructor
    · intro h
      have hsegment := h.segment
      have hjoined := h.joined
      grind [segment_iff]
    · intro h
      refine ⟨startsWith_rooted rest, rfl, ?_, .inl ?_⟩
      · rw [hpath]
        exact (segment_iff hrest).mpr h.1
      · rw [hpath]
        exact h.2

/-- A route's transformation that has nothing to say about the URI. -/
def KeepsUri (config : Option GatewayRouteConfig) : Prop :=
  ∀ transform ∈ config.bind (fun cfg => cfg.transform),
    transform.pathPrefix = none ∧ transform.stripQueryParams = []

theorem transformedUri_of_keepsUri (http : HttpCrate) {config : Option GatewayRouteConfig}
    (h : KeepsUri config) (uri : Uri) :
    transformedUri http (config.bind (fun cfg => cfg.transform)) uri = uri := by
  cases htransform : config.bind (fun cfg => cfg.transform) with
  | none => rfl
  | some transform =>
    obtain ⟨hadded, hparams⟩ := h transform htransform
    change transformUri http uri transform = uri
    unfold transformUri
    rw [hadded, hparams]
    rfl

/-- A node with any routes forwards a request of a route that strips its prefix
    faithfully, exactly if there is one slash between the prefix and the rest. -/
theorem strip_faithful_iff {http : HttpCrate} (hsub : http.Subpaths)
    (authority : Uri → Option String) (ops : List RouterOp)
    (configs : AppId → Option GatewayRouteConfig) (learned : RequestCtx)
    (span : Option TraceContext) {request : RequestHeader} (hparsed : http.Parsed request.uri)
    {r : ResolvedRoute} (hresolved : (runAll routerStep OrdTable.empty ops).resolve
      (extractRequestHost http authority request.headers request.uri) request.uri.path = some r)
    (hstrip : r.stripPrefix = true) (hkeeps : KeepsUri (configs r.appId)) {rest : String}
    (hrest : request.uri.path = r.matchedPrefix ++ rest) :
    FaithfulStrip r.matchedPrefix request.uri
        (proxyForward http authority (runAll routerStep OrdTable.empty ops) configs learned span
          request).uri ↔
      StripsCleanly r.matchedPrefix rest := by
  have hne : r.matchedPrefix ≠ "" := by
    obtain ⟨e, ⟨x, -, hmem, -⟩, rfl⟩ := (lists_run ops).ok.resolve_iff.mp hresolved
    exact (lists_run ops).ok.nonempty x e hmem
  rw [proxyForward_uri configs hsub hparsed hresolved learned span, sentUri,
    transformedUri_of_keepsUri http hkeeps, hstrip]
  exact below_faithful_iff request.uri hne hrest

def strippingRoute (pathPrefix : String) : List RouterOp :=
  [.addRoute "api.example.com" pathPrefix ⟨"default/api:v1"⟩ true]

def forwardedBelow (pathPrefix path : String) (query : Option String) : Uri :=
  (proxyForward .documented (fun _ => none)
    (runAll routerStep OrdTable.empty (strippingRoute pathPrefix)) (fun _ => none)
    (.routed none none) none (getRequest path query)).uri

theorem strip_faithful_users : FaithfulStrip "/api" (getRequest "/api/users" (some "page=2")).uri
      (forwardedBelow "/api" "/api/users" (some "page=2")) := by
  have hparsed : HttpCrate.documented.Parsed (getRequest "/api/users" (some "page=2")).uri :=
    ⟨"/api/users?page=2", by decide +kernel⟩
  have hresolved : (runAll routerStep OrdTable.empty (strippingRoute "/api")).resolve
      (extractRequestHost .documented (fun _ => none)
        (getRequest "/api/users" (some "page=2")).headers
        (getRequest "/api/users" (some "page=2")).uri) "/api/users" =
      some ⟨⟨"default/api:v1"⟩, true, "/api"⟩ := by decide +kernel
  have hkeeps : KeepsUri none := fun transform h => absurd h.symm (Option.some_ne_none _)
  have hrest : "/api/users" = "/api" ++ "/users" := by decide
  exact (strip_faithful_iff documented_subpaths (fun _ => none) (strippingRoute "/api")
    (fun _ => none) (.routed none none) none hparsed hresolved rfl hkeeps hrest).mpr
    (.inr ⟨by decide, by decide⟩)

/-- The prefix itself is forwarded with its prefix, one that ends inside a segment is stripped,
    and of two slashes one is lost. -/
theorem strip_unfaithful : (forwardedBelow "/api" "/api" (some "page=2")).path = "/api" ∧
      ¬ FaithfulStrip "/api" (getRequest "/api" (some "page=2")).uri
        (forwardedBelow "/api" "/api" (some "page=2")) ∧
      (forwardedBelow "/api" "/apiary" none).path = "/ary" ∧
      ¬ FaithfulStrip "/api" (getRequest "/apiary" none).uri
        (forwardedBelow "/api" "/apiary" none) ∧
      (forwardedBelow "/api/" "/api//users" none).path = "/users" ∧
      ¬ FaithfulStrip "/api/" (getRequest "/api//users" none).uri
        (forwardedBelow "/api/" "/api//users" none) := by
  have hexact : (forwardedBelow "/api" "/api" (some "page=2")).path = "/api" := by decide +kernel
  have hinside : (forwardedBelow "/api" "/apiary" none).path = "/ary" := by decide +kernel
  have hdouble : (forwardedBelow "/api/" "/api//users" none).path = "/users" := by decide +kernel
  refine ⟨hexact, fun h => ?_, hinside, fun h => ?_, hdouble, fun h => ?_⟩
  all_goals
    have hjoined := h.joined
    nomatch hjoined

end WasmCloud
