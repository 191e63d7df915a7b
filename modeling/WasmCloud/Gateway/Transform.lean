import WasmCloud.Gateway.Forwarding
import WasmCloud.Lib.UriText

/-!
# The Rewritten URI

`apply_request_transform` rewrites the URI twice: it puts a path prefix in front of it and
drops query parameters. Each time it prints the URI, changes the text and parses it again,
where a text that does not parse leaves the URI as it was. The intended result is
`RewrittenAs`.

Dropping pairs is right for every URI that fits the parser. The prefix is put in front of
the text, and the text of an absolute URI begins with its scheme; the other way to fail is
a text longer than the library takes. `HttpCrate.ReadsUris` is what is assumed of the
parser, and `HttpCrate.ofGrammar` is a library that does so.
-/

namespace WasmCloud

open List

/-- The longest text that the library parses as a URI, in bytes. -/
def maxUriLength : Nat := 65534

/-- A text is not too long for the parser. -/
def FitsUri (text : String) : Prop := (Text.utf8 text).length ≤ maxUriLength

instance (text : String) : Decidable (FitsUri text) :=
  inferInstanceAs (Decidable ((Text.utf8 text).length ≤ maxUriLength))

/-- A URI of these parts as the gateways read it. -/
def UriParts.uri (u : UriParts) : Uri := ⟨u.text, u.path, u.query⟩

/-- What is assumed of the parser of the library. -/
structure HttpCrate.ReadsUris (http : HttpCrate) (g : UriGrammar) : Prop where
  reads : ∀ {u : UriParts}, g.WellFormed u → FitsUri u.text → http.parseUri u.text = some u.uri
  long : ∀ {text : String}, ¬ FitsUri text → http.parseUri text = none
  root : ∀ {text : String} {uri : Uri}, Text.startsWith text "/" = true →
    http.parseUri text = some uri → Text.startsWith uri.text "/" = true

variable (transform : RequestTransform)

/-- The prefix of a transformation, without trailing slashes. -/
def addedPrefix : String :=
  (transform.pathPrefix.map (fun p => Text.trimEndMatches p "/")).getD ""

/-- The pairs of a query whose names are not to be dropped. -/
def keptPairs (params : List String) (query : Option String) : List String :=
  (queryPairs query).filter (fun pair => !params.contains (pairName pair))

/-- The parts a transformation asks for. -/
def rewritten (u : UriParts) : UriParts :=
  ⟨u.origin, addedPrefix transform ++ u.path,
    joinPairs (keptPairs transform.stripQueryParams u.query)⟩

/-- The prefix is in front of the path, and the kept pairs and the origin are as before. -/
def RewrittenAs (u : UriParts) (uri : Uri) : Prop :=
  ∃ v : UriParts, uri = v.uri ∧ v.origin = u.origin ∧
    v.path = addedPrefix transform ++ u.path ∧
    queryPairs v.query = keptPairs transform.stripQueryParams u.query

/-- A prefix is of path characters and starts with a slash. -/
def PrefixOk (g : UriGrammar) (transform : RequestTransform) : Prop :=
  ∀ p ∈ transform.pathPrefix, Text.startsWith p "/" = true ∧ ∀ c ∈ p.toList, g.pathChar c = true

/-- The prefix comes in front of a path, and no text is too long to be parsed again. -/
def RewritesCleanly (u : UriParts) : Prop :=
  (addedPrefix transform = "" ∨ u.origin = none ∧ FitsUri (addedPrefix transform ++ u.text)) ∧
    (keptPairs transform.stripQueryParams u.query = queryPairs u.query ∨
      FitsUri (rewritten transform u).text)

/-- The first rewrite of `apply_request_transform`. -/
def prefixedUri (http : HttpCrate) (uri : Uri) (transform : RequestTransform) : Uri :=
  match transform.pathPrefix with
  | some p => reparse http uri (Text.trimEndMatches p "/" ++ uri.text)
  | none => uri

/-- The second one. -/
def stripParams (http : HttpCrate) (uri : Uri) (params : List String) : Uri :=
  if params.isEmpty || (Text.splitOnce uri.text '?').isNone then uri
  else reparse http uri (stripQuery uri.text params)

theorem transformUri_eq (http : HttpCrate) (uri : Uri) (transform : RequestTransform) :
    transformUri http uri transform =
      stripParams http (prefixedUri http uri transform) transform.stripQueryParams := rfl

section Rewrites

variable {http : HttpCrate} {g : UriGrammar} {uri : Uri} {transform}
  {u : UriParts}

theorem reparse_text (hreads : http.ReadsUris g) (h : g.WellFormed u) (uri : Uri) :
    reparse http uri u.text = if FitsUri u.text then u.uri else uri := by
  grind [hreads.reads, hreads.long, reparse]

variable {text : String}

theorem reparse_root (hreads : http.ReadsUris g) (htext : Text.startsWith text "/" = true) :
    reparse http uri text = uri ∨ Text.startsWith (reparse http uri text).text "/" = true := by
  unfold reparse
  cases hparse : http.parseUri text with
  | none => exact Or.inl rfl
  | some new => exact Or.inr (hreads.root htext hparse)

theorem prefixedUri_of_empty (hreads : http.ReadsUris g) (h : g.WellFormed u)
    (hempty : addedPrefix transform = "") : prefixedUri http u.uri transform = u.uri := by
  unfold prefixedUri
  cases hadded : transform.pathPrefix with
  | none => rfl
  | some p =>
    have htrim : Text.trimEndMatches p "/" = "" := by
      rw [addedPrefix, hadded] at hempty
      exact hempty
    dsimp only
    rw [htrim, String.empty_append]
    change reparse http u.uri u.text = u.uri
    rw [reparse_text hreads h, ite_self]

theorem addedPrefix_ok (hok : PrefixOk g transform) (hne : addedPrefix transform ≠ "") :
    Text.startsWith (addedPrefix transform) "/" = true ∧
      ∀ c ∈ (addedPrefix transform).toList, g.pathChar c = true := by
  unfold addedPrefix at hne ⊢
  cases hadded : transform.pathPrefix with
  | none =>
    rw [hadded] at hne
    exact absurd rfl hne
  | some p =>
    rw [hadded] at hne
    change Text.trimEndMatches p "/" ≠ "" at hne
    change Text.startsWith (Text.trimEndMatches p "/") "/" = true ∧
      ∀ c ∈ (Text.trimEndMatches p "/").toList, g.pathChar c = true
    obtain ⟨hroot, hchars⟩ := hok p hadded
    obtain ⟨t, ht⟩ := Text.trimEndMatches_append p "/"
    constructor
    · obtain ⟨c, cs, hcs⟩ := exists_cons_of_ne_nil (fun hnil => hne (String.toList_inj.mp hnil))
      rw [Text.startsWith, isPrefixOf_iff_prefix] at hroot ⊢
      obtain ⟨s, hs⟩ := hroot
      rw [ht, String.toList_append, hcs, cons_append] at hs
      rw [hcs, ← (List.cons.inj hs).1]
      exact ⟨cs, rfl⟩
    · intro c hc
      refine hchars c ?_
      rw [ht, String.toList_append]
      exact mem_append_left _ hc

theorem wellFormed_prefixed (h : g.WellFormed u) (hok : PrefixOk g transform) :
    g.WellFormed { u with path := addedPrefix transform ++ u.path } := by
  by_cases hempty : addedPrefix transform = ""
  · rw [hempty, String.empty_append]
    exact h
  · obtain ⟨hroot, hchars⟩ := addedPrefix_ok hok hempty
    refine ⟨?_, ?_, h.query, h.origin⟩
    · exact Text.startsWith_append hroot u.path
    · grind [String.toList_append, h.path]

theorem prefixedUri_of_ne (hne : addedPrefix transform ≠ "") : prefixedUri http u.uri transform =
      reparse http u.uri (addedPrefix transform ++ u.text) := by
  unfold prefixedUri addedPrefix at *
  cases hadded : transform.pathPrefix with
  | none =>
    rw [hadded] at hne
    exact absurd rfl hne
  | some p => rfl

theorem prefixedUri_of_root (hreads : http.ReadsUris g) (h : g.WellFormed u)
    (hok : PrefixOk g transform) (hne : addedPrefix transform ≠ "") (horigin : u.origin = none) :
    prefixedUri http u.uri transform =
      if FitsUri (addedPrefix transform ++ u.text) then
        { u with path := addedPrefix transform ++ u.path : UriParts }.uri
      else u.uri := by
  have htext : addedPrefix transform ++ u.text =
      { u with path := addedPrefix transform ++ u.path : UriParts }.text := by
    simp only [UriParts.text, horigin, originText, String.empty_append, String.append_assoc]
  rw [prefixedUri_of_ne hne, htext, reparse_text hreads (wellFormed_prefixed h hok)]

theorem prefixedUri_of_origin (hreads : http.ReadsUris g) (hok : PrefixOk g transform)
    (hne : addedPrefix transform ≠ "") :
    prefixedUri http u.uri transform = u.uri ∨
      Text.startsWith (prefixedUri http u.uri transform).text "/" = true := by
  rw [prefixedUri_of_ne hne]
  exact reparse_root hreads (Text.startsWith_append (addedPrefix_ok hok hne).1 u.text)

theorem keptPairs_subset {params : List String} {query : Option String} {pair : String}
    (h : pair ∈ keptPairs params query) : pair ∈ queryPairs query :=
  (mem_filter.mp h).1

theorem queryPairs_kept (params : List String) (query : Option String) :
    queryPairs (joinPairs (keptPairs params query)) = keptPairs params query :=
  queryPairs_joinPairs fun _ h => and_not_mem_of_mem_queryPairs (keptPairs_subset h)

theorem wellFormed_kept (h : g.WellFormed u) (params : List String) :
    g.WellFormed { u with query := joinPairs (keptPairs params u.query) } :=
  ⟨h.root, h.path, of_mem_joinPairs g.query_and h.query (fun _ => keptPairs_subset), h.origin⟩

theorem stripQuery_text (h : g.WellFormed u) (params : List String) : stripQuery u.text params =
      { u with query := joinPairs (keptPairs params u.query) : UriParts }.text := by
  unfold stripQuery
  rw [h.splitOnce_text]
  cases hquery : u.query with
  | none =>
    change u.text = UriParts.text ⟨u.origin, u.path, none⟩
    rw [← hquery]
  | some query =>
    have hkept : (Text.split query '&').filter (fun pair =>
        !params.contains ((Text.split pair '=').headD "")) = keptPairs params (some query) := by
      unfold keptPairs queryPairs pairName
      simp only [Text.headD_split]
    dsimp only [Option.map_some]
    rw [hkept]
    unfold UriParts.text
    cases keptPairs params (some query) with
    | nil => rw [isEmpty_nil, if_pos rfl, joinPairs, queryText, String.append_empty]
    | cons pair pairs =>
      rw [isEmpty_cons, if_neg Bool.false_ne_true, joinPairs, queryText, String.append_assoc]

theorem stripParams_eq (hreads : http.ReadsUris g) (h : g.WellFormed u) (params : List String) :
    stripParams http u.uri params =
      if keptPairs params u.query = queryPairs u.query ∨
          FitsUri { u with query := joinPairs (keptPairs params u.query) : UriParts }.text then
        { u with query := joinPairs (keptPairs params u.query) : UriParts }.uri
      else u.uri := by
  -- Where nothing is dropped, the parts are the same.
  have hsame : keptPairs params u.query = queryPairs u.query →
      ({ u with query := joinPairs (keptPairs params u.query) } : UriParts) = u := by
    intro hall
    rw [hall, joinPairs_queryPairs]
  unfold stripParams
  by_cases hskip : (params.isEmpty || (Text.splitOnce u.uri.text '?').isNone) = true
  · -- There is nothing to drop, or no query to drop it from.
    have hall : keptPairs params u.query = queryPairs u.query := by
      unfold keptPairs
      rw [filter_eq_self]
      intro pair hpair
      rw [Bool.or_eq_true] at hskip
      rcases hskip with hempty | hnone
      · rw [isEmpty_iff.mp hempty]
        rfl
      · change (Text.splitOnce u.text '?').isNone = true at hnone
        rw [h.splitOnce_text, Option.isNone_map, Option.isNone_iff_eq_none] at hnone
        rw [hnone] at hpair
        nomatch hpair
    rw [if_pos hskip, if_pos (Or.inl hall), hsame hall]
  · rw [if_neg hskip]
    change reparse http u.uri (stripQuery u.text params) = _
    rw [stripQuery_text h, reparse_text hreads (wellFormed_kept h params)]
    by_cases hall : keptPairs params u.query = queryPairs u.query
    · rw [if_pos (Or.inl hall), hsame hall, ite_self]
    · simp [hall]

theorem stripQuery_root (h : Text.startsWith text "/" = true) (params : List String) :
    Text.startsWith (stripQuery text params) "/" = true := by
  unfold stripQuery
  cases hsplit : Text.splitOnce text '?' with
  | none => exact h
  | some parts =>
    have hpath : Text.startsWith parts.1 "/" = true := by
      obtain ⟨t, rfl⟩ := (Text.startsWith_iff _ _).mp h
      obtain ⟨s, hs⟩ := Text.splitOnce_append_of_ne rfl (by decide) hsplit
      exact (Text.startsWith_iff _ _).mpr ⟨s, hs⟩
    grind [Text.startsWith_append]

theorem stripParams_root (hreads : http.ReadsUris g) (h : Text.startsWith uri.text "/" = true)
    (params : List String) : Text.startsWith (stripParams http uri params).text "/" = true := by
  grind [stripParams, reparse_root, stripQuery_root]

theorem stripParams_path (hreads : http.ReadsUris g) (h : g.WellFormed u) (params : List String) :
    (stripParams http u.uri params).path = u.path := by
  rw [stripParams_eq hreads h]
  split_ifs with hdrop
  · rfl
  · rfl

theorem strip_rewritten_iff (hreads : http.ReadsUris g) (h : g.WellFormed u)
    (hok : PrefixOk g transform) :
    RewrittenAs transform u (stripParams http
        { u with path := addedPrefix transform ++ u.path : UriParts }.uri
        transform.stripQueryParams) ↔
      keptPairs transform.stripQueryParams u.query = queryPairs u.query ∨
        FitsUri (rewritten transform u).text := by
  rw [stripParams_eq hreads (wellFormed_prefixed h hok)]
  change RewrittenAs transform u (if keptPairs transform.stripQueryParams u.query =
    queryPairs u.query ∨ FitsUri (rewritten transform u).text then (rewritten transform u).uri
      else _) ↔ _
  split_ifs with hdrop
  · exact iff_of_true ⟨rewritten transform u, rfl, rfl, rfl, queryPairs_kept _ _⟩ hdrop
  · -- The URI has its query still, from which something should be gone.
    refine iff_of_false ?_ hdrop
    intro hrewritten
    obtain ⟨v, huri, -, -, hpairs⟩ := hrewritten
    have hquery : u.query = v.query := congrArg Uri.query huri
    rw [← hquery] at hpairs
    exact hdrop (Or.inl hpairs.symm)

theorem not_rewritten_of_path (hne : addedPrefix transform ≠ "") (hpath : uri.path = u.path) :
    ¬ RewrittenAs transform u uri := by
  intro h
  obtain ⟨v, huri, -, hv, -⟩ := h
  have heq : addedPrefix transform ++ u.path = u.path := by
    rw [← hv, ← hpath, huri]
    rfl
  exact hne (String.append_eq_right_iff.mp heq)

theorem not_rewritten_of_root (h : g.WellFormed u) (hu : u.origin ≠ none)
    (hroot : Text.startsWith uri.text "/" = true) : ¬ RewrittenAs transform u uri := by
  intro hrewritten
  obtain ⟨v, huri, horigin, -, -⟩ := hrewritten
  obtain ⟨o, ho⟩ := Option.ne_none_iff_exists'.mp hu
  rw [huri] at hroot
  change Text.startsWith v.text "/" = true at hroot
  rw [UriParts.text, horigin, ho, String.append_assoc] at hroot
  exact g.not_root_of_origin (h.origin o ho) _ hroot

/-- A transformation of a request with any URI gives what was asked for exactly
    if the prefix is put in front of a path and nothing gets too long. -/
theorem transform_exact_iff (hreads : http.ReadsUris g) {u : UriParts} (h : g.WellFormed u)
    {request : RequestHeader} (hrequest : request.uri = u.uri) {transform : RequestTransform}
    (hok : PrefixOk g transform) (identity : Option UserIdentity) :
    RewrittenAs transform u (applyRequestTransform http request transform identity).uri ↔
      RewritesCleanly transform u := by
  change RewrittenAs transform u (transformUri http request.uri transform) ↔ _
  rw [hrequest, transformUri_eq]
  unfold RewritesCleanly
  by_cases hempty : addedPrefix transform = ""
  · have hsame : ({ u with path := addedPrefix transform ++ u.path } : UriParts) = u := by
      rw [hempty, String.empty_append]
    have hiff := strip_rewritten_iff hreads h hok
    rw [hsame] at hiff
    rw [prefixedUri_of_empty hreads h hempty, hiff]
    simp [hempty]
  · simp only [hempty, false_or]
    cases horigin : u.origin with
    | none =>
      rw [prefixedUri_of_root hreads h hok hempty horigin]
      by_cases hfits : FitsUri (addedPrefix transform ++ u.text)
      · rw [if_pos hfits, strip_rewritten_iff hreads h hok]
        simp [hfits]
      · -- Too long, so the prefix is missing.
        rw [if_neg hfits]
        refine iff_of_false ?_ (fun hclean => hfits hclean.1.2)
        exact not_rewritten_of_path hempty (stripParams_path hreads h _)
    | some origin =>
      refine iff_of_false ?_ (fun hclean => nomatch hclean.1.1)
      have hne : u.origin ≠ none := by
        rw [horigin]
        exact Option.some_ne_none origin
      rcases prefixedUri_of_origin hreads hok hempty with heq | hroot
      · rw [heq]
        exact not_rewritten_of_path hempty (stripParams_path hreads h _)
      · exact not_rewritten_of_root h hne (stripParams_root hreads hroot _)

end Rewrites

def HttpCrate.ofGrammar (g : UriGrammar) : HttpCrate :=
  { HttpCrate.documented with
    parseUri := fun text => if FitsUri text then (g.parse text).map UriParts.uri else none }

theorem readsUris_ofGrammar (g : UriGrammar) : (HttpCrate.ofGrammar g).ReadsUris g where
  reads := by
    intro u h hfits
    change (if FitsUri u.text then (g.parse u.text).map UriParts.uri else none) = some u.uri
    rw [if_pos hfits, parse_text h]
    rfl
  long := fun hlong => if_neg hlong
  root := by
    intro text uri hroot hparse
    change (if FitsUri text then (g.parse text).map UriParts.uri else none) = some uri at hparse
    split_ifs at hparse with hfits
    obtain ⟨u, hu, rfl⟩ := Option.map_eq_some_iff.mp hparse
    obtain ⟨hwell, hcut⟩ := wellFormed_of_parse hu
    -- A text that starts with a slash is cut without an origin.
    rw [UriGrammar.cut, if_pos hroot] at hcut
    have horigin : u.origin = none := by
      grind [UriGrammar.cutQuery]
    exact hwell.startsWith_text_iff.mpr horigin

def isPathChar (c : Char) : Bool :=
  c.isAlphanum || "!\"$%&'()*+,-./:;=@[\\]^_\x7b|\x7d~".toList.contains c

def isQueryChar (c : Char) : Bool := isPathChar c || c == '?' || c.toNat == 96

def isSchemeChar (c : Char) : Bool := c.isAlphanum || "+-.".toList.contains c

def isAuthorityChar (c : Char) : Bool :=
  c.isAlphanum || "!$%&'()*+,-.:;=@[]_~".toList.contains c

/-- The characters of the parts as the library documents them. -/
def UriGrammar.documented : UriGrammar where
  pathChar := isPathChar
  queryChar := isQueryChar
  isOrigin scheme authority :=
    scheme != "" && scheme.toList.all isSchemeChar && authority.toList.all isAuthorityChar
  path_mark := by decide
  query_and := by decide
  scheme_ne := by
    intro scheme authority h
    rw [Bool.and_eq_true, Bool.and_eq_true, bne_iff_ne] at h
    exact h.1.1
  scheme_chars := by
    intro scheme authority h c hc
    rw [Bool.and_eq_true, Bool.and_eq_true] at h
    have hchar := List.all_eq_true.mp h.1.2 c hc
    refine ⟨?_, ?_, ?_⟩
    all_goals
      rintro rfl
      nomatch hchar
  authority_chars := by
    intro scheme authority h c hc
    rw [Bool.and_eq_true, Bool.and_eq_true] at h
    have hchar := List.all_eq_true.mp h.2 c hc
    constructor
    all_goals
      rintro rfl
      nomatch hchar

def trackedTransform : RequestTransform :=
  { addHeaders := [], removeHeaders := [], pathPrefix := some "/api/v2/",
    stripQueryParams := ["utm"] }

theorem prefixOk_trackedTransform : PrefixOk .documented trackedTransform := by
  intro p hp
  rw [← Option.some.inj hp]
  exact ⟨by decide, all_eq_true.mp (by decide)⟩

def pathParts : UriParts := ⟨none, "/users", some "page=2&utm=mail&sort=name"⟩

theorem transform_exact_pathParts : RewrittenAs trackedTransform pathParts
      (applyRequestTransform (.ofGrammar .documented) ⟨"GET", pathParts.uri, MultiMap.empty⟩
        trackedTransform none).uri :=
  (transform_exact_iff (readsUris_ofGrammar .documented)
    (show UriGrammar.documented.WellFormed pathParts by decide) rfl prefixOk_trackedTransform
    none).mpr ⟨Or.inr ⟨rfl, by decide⟩, Or.inr (by decide)⟩

def absoluteParts : UriParts := { pathParts with origin := some ("https", "api.example.com") }

/-- The prefix comes in front of the scheme, and the whole URI becomes a path. -/
theorem absolute_uri_becomes_path :
    let sent := applyRequestTransform (.ofGrammar .documented)
      ⟨"GET", absoluteParts.uri, MultiMap.empty⟩ trackedTransform none
    UriGrammar.documented.WellFormed absoluteParts ∧
      sent.uri.path = "/api/v2https://api.example.com/users" ∧
      ¬ RewrittenAs trackedTransform absoluteParts sent.uri := by
  intro sent
  have hpath : sent.uri.path = "/api/v2https://api.example.com/users" := by decide +kernel
  refine ⟨by decide, hpath, ?_⟩
  intro h
  obtain ⟨v, huri, -, hv, -⟩ := h
  have hprefixed : v.path = "/api/v2https://api.example.com/users" := by
    rw [← hpath, huri]
    rfl
  rw [hv] at hprefixed
  nomatch hprefixed

end WasmCloud
