import WasmCloud.Lib.Text

/-!
# URIs as Text

A URI that has a path is an origin, a path and a query, where the origin, a scheme and an
authority, is missing in a request for a path. Which characters a part may have is left to a
`UriGrammar`, which carries what makes cutting at the separators possible. `parse` is a
parser for any grammar, and `parse_text` says that it reads back what is printed.

A query is a list of pairs with `&` between them; `queryPairs` and `joinPairs` go both ways.
-/

namespace WasmCloud

open List Text

/-- Scheme and authority if the URI is absolute, the path and the query. -/
structure UriParts where
  origin : Option (String × String)
  path : String
  query : Option String
  deriving DecidableEq, Repr

def originText : Option (String × String) → String
  | none => ""
  | some (scheme, authority) => scheme ++ "://" ++ authority

def queryText : Option String → String
  | none => ""
  | some query => "?" ++ query

/-- A URI as it is printed. -/
def UriParts.text (u : UriParts) : String :=
  originText u.origin ++ u.path ++ queryText u.query

/-- The characters of the parts, and the separators that are not among them. -/
structure UriGrammar where
  pathChar : Char → Bool
  queryChar : Char → Bool
  isOrigin : String → String → Bool
  path_mark : pathChar '?' = false
  query_and : queryChar '&' = true
  scheme_ne : ∀ {scheme authority}, isOrigin scheme authority = true → scheme ≠ ""
  scheme_chars : ∀ {scheme authority}, isOrigin scheme authority = true →
    ∀ c ∈ scheme.toList, c ≠ ':' ∧ c ≠ '/' ∧ c ≠ '?'
  authority_chars : ∀ {scheme authority}, isOrigin scheme authority = true →
    ∀ c ∈ authority.toList, c ≠ '/' ∧ c ≠ '?'

namespace UriGrammar

variable (g : UriGrammar)

/-- A URI with an absolute path whose parts are of the right characters. -/
structure WellFormed (u : UriParts) : Prop where
  root : startsWith u.path "/" = true
  path : ∀ c ∈ u.path.toList, g.pathChar c = true
  query : ∀ query ∈ u.query, ∀ c ∈ query.toList, g.queryChar c = true
  origin : ∀ o ∈ u.origin, g.isOrigin o.1 o.2 = true

instance (u : UriParts) : Decidable (g.WellFormed u) :=
  decidable_of_iff
    (startsWith u.path "/" = true ∧ u.path.toList.all g.pathChar = true ∧
      u.query.all (fun query => query.toList.all g.queryChar) = true ∧
      u.origin.all (fun o => g.isOrigin o.1 o.2) = true)
    (by
      simp only [List.all_eq_true, Option.all_eq_true]
      exact ⟨fun h => ⟨h.1, h.2.1, h.2.2.1, h.2.2.2⟩, fun h => ⟨h.root, h.path, h.query, h.origin⟩⟩)

/-- A text cut at its first query mark. -/
def cutQuery (origin : Option (String × String)) (text : String) : UriParts :=
  match splitOnce text '?' with
  | none => ⟨origin, text, none⟩
  | some (path, query) => ⟨origin, path, some query⟩

/-- A text cut at the separators, as far as they are there. -/
def cut (text : String) : Option UriParts :=
  if startsWith text "/" then some (cutQuery none text)
  else
    match splitOnce text ':' with
    | none => none
    | some (scheme, rest) => (stripPrefix rest "//").map (fun below =>
      cutQuery
        (some (scheme, String.ofList (below.toList.takeWhile (fun c => c != '/' && c != '?'))))
        (String.ofList (below.toList.dropWhile (fun c => c != '/' && c != '?'))))

/-- The parts of a text, if they are of the right characters. -/
def parse (text : String) : Option UriParts :=
  (cut text).filter (fun u => decide (g.WellFormed u))

end UriGrammar

section Printed

variable {g : UriGrammar} {u : UriParts}

theorem UriGrammar.WellFormed.path_no_mark (h : g.WellFormed u) : '?' ∉ u.path.toList := by
  intro hmem
  have hchar := h.path '?' hmem
  rw [g.path_mark] at hchar
  nomatch hchar

theorem UriGrammar.WellFormed.origin_no_mark (h : g.WellFormed u) :
    '?' ∉ (originText u.origin).toList := by
  cases horigin : u.origin with
  | none => exact not_mem_nil
  | some o =>
    have ho := h.origin o horigin
    grind [originText, String.toList_append, g.scheme_chars, g.authority_chars]

/-- The first query mark of a URI is the one before its query. -/
theorem UriGrammar.WellFormed.splitOnce_text (h : g.WellFormed u) : splitOnce u.text '?' =
      u.query.map (fun query => (originText u.origin ++ u.path, query)) := by
  have hmark : '?' ∉ (originText u.origin ++ u.path).toList := by
    rw [String.toList_append, mem_append]
    exact not_or.mpr ⟨h.origin_no_mark, h.path_no_mark⟩
  unfold UriParts.text
  cases u.query with
  | none =>
    rw [queryText, String.append_empty]
    exact splitOnce_of_not_mem hmark
  | some query =>
    rw [queryText, ← String.append_assoc]
    exact splitOnce_append hmark rfl

/-- A text with an origin in front starts with its scheme, not with a slash. -/
theorem UriGrammar.not_root_of_origin {o : String × String} (ho : g.isOrigin o.1 o.2 = true)
    (rest : String) : ¬ startsWith (originText (some o) ++ rest) "/" = true := by
  intro hstart
  obtain ⟨t, ht⟩ := (startsWith_iff _ _).mp hstart
  have hne : o.1.toList ≠ [] := fun hnil => g.scheme_ne ho (String.toList_inj.mp hnil)
  obtain ⟨c, cs, hcs⟩ := exists_cons_of_ne_nil hne
  have hhead := congrArg (fun s => s.toList.head?) ht
  simp only [originText, String.toList_append, hcs, cons_append, List.head?_cons] at hhead
  have hslash : c = '/' := Option.some.inj hhead
  exact (g.scheme_chars ho c (by rw [hcs]; exact .head _)).2.1 hslash

/-- A URI starts with a slash exactly if it has no origin. -/
theorem UriGrammar.WellFormed.startsWith_text_iff (h : g.WellFormed u) :
    startsWith u.text "/" = true ↔ u.origin = none := by
  unfold UriParts.text
  cases horigin : u.origin with
  | none =>
    rw [originText, String.empty_append]
    exact iff_of_true (startsWith_append h.root _) rfl
  | some o =>
    rw [String.append_assoc]
    exact iff_of_false (g.not_root_of_origin (h.origin o horigin) _) (Option.some_ne_none o)

theorem cutQuery_text (h : g.WellFormed u) :
    UriGrammar.cutQuery u.origin (u.path ++ queryText u.query) = u := by
  unfold UriGrammar.cutQuery
  cases hquery : u.query with
  | none =>
    rw [queryText, String.append_empty, splitOnce_of_not_mem h.path_no_mark, ← hquery]
  | some query =>
    rw [queryText, ← String.append_assoc, splitOnce_append h.path_no_mark rfl]
    dsimp only
    rw [← hquery]

/-- The authority ends where the path begins. -/
theorem cut_authority {authority path : String} (hroot : startsWith path "/" = true)
    (h : ∀ c ∈ authority.toList, c ≠ '/' ∧ c ≠ '?') :
    (authority ++ path).toList.takeWhile (fun c => c != '/' && c != '?') = authority.toList ∧
      (authority ++ path).toList.dropWhile (fun c => c != '/' && c != '?') = path.toList := by
  have hall : ∀ c ∈ authority.toList, (c != '/' && c != '?') = true := by
    intro c hc
    rw [Bool.and_eq_true, bne_iff_ne, bne_iff_ne]
    exact h c hc
  obtain ⟨t, rfl⟩ := (startsWith_iff _ _).mp hroot
  have hpath : ("/" ++ t).toList = '/' :: t.toList := String.toList_append
  rw [String.toList_append, hpath, takeWhile_append_of_pos hall, dropWhile_append_of_pos hall]
  constructor
  · simp
  · simp

/-- A parser for the grammar reads back what is printed. -/
theorem parse_text (h : g.WellFormed u) : g.parse u.text = some u := by
  have hcut : UriGrammar.cut u.text = some u := by
    unfold UriGrammar.cut
    cases horigin : u.origin with
    | none =>
      rw [if_pos (h.startsWith_text_iff.mpr horigin), UriParts.text, horigin, originText,
        String.empty_append, ← horigin, cutQuery_text h]
    | some o =>
      have ho := h.origin o horigin
      have hcolon : ':' ∉ o.1.toList := fun hmem => (g.scheme_chars ho ':' hmem).1 rfl
      have hroot : startsWith (u.path ++ queryText u.query) "/" = true :=
        startsWith_append h.root _
      have htext : u.text = o.1 ++ ":" ++ ("//" ++ (o.2 ++ (u.path ++ queryText u.query))) := by
        have hsep : ("://" : String) = ":" ++ "//" := by decide
        rw [UriParts.text, horigin, originText, hsep]
        simp only [String.append_assoc]
      have hnot : ¬ startsWith u.text "/" = true := by
        rw [h.startsWith_text_iff, horigin]
        exact Option.some_ne_none o
      obtain ⟨htake, hdrop⟩ := cut_authority hroot (g.authority_chars ho)
      rw [if_neg hnot, htext, splitOnce_append hcolon rfl]
      dsimp only
      rw [stripPrefix_append, Option.map_some, htake, hdrop, String.ofList_toList,
        String.ofList_toList, ← horigin, cutQuery_text h]
  rw [UriGrammar.parse, hcut, Option.filter_some, if_pos (decide_eq_true h)]

/-- What is parsed is well formed. -/
theorem wellFormed_of_parse {text : String} (h : g.parse text = some u) :
    g.WellFormed u ∧ UriGrammar.cut text = some u := by
  obtain ⟨hcut, hwell⟩ := Option.filter_eq_some_iff.mp h
  exact ⟨of_decide_eq_true hwell, hcut⟩

end Printed

/-- The pairs of a query, none if there is no query. -/
def queryPairs : Option String → List String
  | none => []
  | some query => split query '&'

/-- The query of a list of pairs. -/
def joinPairs : List String → Option String
  | [] => none
  | pair :: pairs => some (String.intercalate "&" (pair :: pairs))

/-- The name of a pair, up to the first `=`. -/
def pairName (pair : String) : String :=
  String.ofList (pair.toList.takeWhile (fun c => c != '='))

variable {pairs : List String} {query : Option String}

theorem queryPairs_joinPairs (h : ∀ pair ∈ pairs, '&' ∉ pair.toList) :
    queryPairs (joinPairs pairs) = pairs := by
  cases pairs with
  | nil => rfl
  | cons pair pairs => exact split_intercalate rfl (cons_ne_nil _ _) h

theorem joinPairs_queryPairs (query : Option String) : joinPairs (queryPairs query) = query := by
  cases query with
  | none => rfl
  | some query =>
    have hjoin : ("&" : String).intercalate (split query '&') = query :=
      intercalate_split query rfl
    rw [queryPairs]
    cases hpairs : split query '&' with
    | nil => exact absurd hpairs (split_ne_nil query '&')
    | cons pair pairs =>
      rw [joinPairs, ← hpairs, hjoin]

theorem and_not_mem_of_mem_queryPairs {pair : String} (h : pair ∈ queryPairs query) :
    '&' ∉ pair.toList := by
  cases query with
  | none => nomatch h
  | some query => exact fun hmem => (of_mem_split h hmem).2 rfl

theorem of_mem_joinPairs {p : Char → Prop} (hand : p '&')
    (hquery : ∀ q ∈ query, ∀ c ∈ q.toList, p c) (h : ∀ pair ∈ pairs, pair ∈ queryPairs query) :
    ∀ q ∈ joinPairs pairs, ∀ c ∈ q.toList, p c := by
  intro q hq c hc
  cases pairs with
  | nil => nomatch hq
  | cons pair pairs =>
    have heq : String.intercalate "&" (pair :: pairs) = q := Option.some.inj hq
    rw [← heq] at hc
    rcases of_mem_intercalate hc with hsep | ⟨piece, hpiece, hc⟩
    · rw [mem_singleton.mp hsep]
      exact hand
    · have hpair := h piece hpiece
      cases query with
      | none => nomatch hpair
      | some whole => exact hquery whole rfl c (of_mem_split hpair hc).1

end WasmCloud
