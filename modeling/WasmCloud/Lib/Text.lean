import Mathlib.Data.List.Basic
import Mathlib.Data.List.TakeWhile
import Mathlib.Data.String.Basic

/-!
# Text Operations

The string operations a systems program leans on, written over the list of characters so
that they compute in the kernel. Each follows the documented behaviour of the standard
library function it is named after. Whitespace is the Unicode `White_Space` property.

The two results other modules rest on are round trips: `parseU64_toString`, and
`rsplitOnce_append` for a composite key whose second half does not contain the separator.
-/

namespace WasmCloud

open List

namespace Text

def startsWith (s p : String) : Bool := p.toList.isPrefixOf s.toList

def stripPrefix (s p : String) : Option String :=
  if startsWith s p then some (String.ofList (s.toList.drop p.toList.length)) else none

/-- Drop leading copies of `p`, at most `fuel` of them. -/
def trimStartFuel (p : List Char) : Nat → List Char → List Char
  | 0, cs => cs
  | fuel + 1, cs =>
    if p.isPrefixOf cs && !p.isEmpty then trimStartFuel p fuel (cs.drop p.length) else cs

/-- `str::trim_start_matches` for a string pattern. -/
def trimStartMatches (s p : String) : String :=
  String.ofList (trimStartFuel p.toList s.toList.length s.toList)

def endsWith (s p : String) : Bool := p.toList.reverse.isPrefixOf s.toList.reverse

/-- `str::trim_end_matches` for a string pattern. -/
def trimEndMatches (s p : String) : String :=
  String.ofList (trimStartFuel p.toList.reverse s.toList.length s.toList.reverse).reverse

def eqIgnoreAsciiCase (s t : String) : Bool :=
  s.toList.map Char.toLower == t.toList.map Char.toLower

/-- The Unicode `White_Space` property. -/
def isWhiteSpace (c : Char) : Bool :=
  (9 ≤ c.toNat && c.toNat ≤ 13) || c.toNat == 0x20 || c.toNat == 0x85 || c.toNat == 0xA0 ||
    c.toNat == 0x1680 || (0x2000 ≤ c.toNat && c.toNat ≤ 0x200A) || c.toNat == 0x2028 ||
    c.toNat == 0x2029 || c.toNat == 0x202F || c.toNat == 0x205F || c.toNat == 0x3000

def splitWhitespace (s : String) : List String :=
  ((s.toList.splitOnP isWhiteSpace).filter (fun w => !w.isEmpty)).map String.ofList

def trim (s : String) : String :=
  String.ofList
    ((s.toList.dropWhile isWhiteSpace).reverse.dropWhile isWhiteSpace).reverse

/-- `str::split` for a character separator: always at least one piece. -/
def split (s : String) (c : Char) : List String :=
  (s.toList.splitOnP (fun d => d == c)).map String.ofList

/-- `str::split_once` for a character separator. -/
def splitOnce (s : String) (c : Char) : Option (String × String) :=
  match s.toList.dropWhile (fun d => d != c) with
  | [] => none
  | _ :: rest => some (String.ofList (s.toList.takeWhile (fun d => d != c)), String.ofList rest)

/-- `str::rsplit_once` for a character separator. -/
def rsplitOnce (s : String) (c : Char) : Option (String × String) :=
  match s.toList.reverse.dropWhile (fun d => d != c) with
  | [] => none
  | _ :: front =>
    some (String.ofList front.reverse,
      String.ofList (s.toList.reverse.takeWhile (fun d => d != c)).reverse)

/-- Drop one leading plus sign. -/
def dropSign : List Char → List Char
  | '+' :: rest => rest
  | cs => cs

/-- `str::parse::<u64>`. -/
def parseU64 (s : String) : Option Nat :=
  let digits := dropSign s.toList
  if digits.isEmpty || !digits.all Char.isDigit then none
  else if Nat.ofDigitChars 10 digits 0 < 2 ^ 64 then some (Nat.ofDigitChars 10 digits 0)
  else none

/-- `str::as_bytes`. -/
def utf8 (s : String) : List UInt8 := s.toByteArray.data.toList

def fromUtf8 (bytes : List UInt8) : Option String := String.fromUTF8? ⟨bytes.toArray⟩

variable {t separator s : String} {c : Char}

/-- A text without whitespace is as it is. -/
theorem trim_of_no_space (h : ∀ c ∈ s.toList, isWhiteSpace c = false) : trim s = s := by
  have hkeep : ∀ {cs : List Char}, (∀ c ∈ cs, isWhiteSpace c = false) →
      cs.dropWhile isWhiteSpace = cs := by
    intro cs hcs
    cases cs with
    | nil => rfl
    | cons c cs =>
      exact dropWhile_cons_of_neg (Bool.eq_false_iff.mp (hcs c (.head _)))
  rw [trim, hkeep h, hkeep (fun c hc => h c (mem_reverse.mp hc)), reverse_reverse,
    String.ofList_toList]

theorem startsWith_iff (s p : String) : startsWith s p = true ↔ ∃ t, s = p ++ t := by
  rw [startsWith, isPrefixOf_iff_prefix]
  constructor
  · rintro ⟨t, ht⟩
    refine ⟨String.ofList t, ?_⟩
    rw [← String.toList_inj, String.toList_append, String.toList_ofList, ht]
  · rintro ⟨t, rfl⟩
    exact ⟨t.toList, String.toList_append.symm⟩

variable {p : String}

theorem startsWith_append (h : startsWith s p = true) (t : String) :
    startsWith (s ++ t) p = true := by
  obtain ⟨u, rfl⟩ := (startsWith_iff s p).mp h
  exact (startsWith_iff _ _).mpr ⟨u ++ t, String.append_assoc⟩

theorem endsWith_iff (s p : String) : endsWith s p = true ↔ ∃ t, s = t ++ p := by
  rw [endsWith, isPrefixOf_iff_prefix, reverse_prefix]
  constructor
  · intro h
    obtain ⟨t, ht⟩ := h
    refine ⟨String.ofList t, ?_⟩
    rw [← String.toList_inj, String.toList_append, String.toList_ofList, ht]
  · intro h
    obtain ⟨t, rfl⟩ := h
    exact ⟨t.toList, String.toList_append.symm⟩

/-- A string comes before its proper extensions. -/
theorem lt_append (s : String) (ht : t ≠ "") : s < s ++ t := by
  rw [String.lt_iff, String.toList_append]
  have hne : t.toList ≠ [] := by
    intro h
    exact ht (String.toList_inj.mp h)
  rcases exists_cons_of_ne_nil hne with ⟨c, cs, hcs⟩
  rw [hcs]
  induction s.toList with
  | nil => exact nil_lt_cons c cs
  | cons d ds ih => exact cons_lt_cons_self.mpr ih

theorem stripPrefix_append (p t : String) : stripPrefix (p ++ t) p = some t := by
  have hs : startsWith (p ++ t) p = true := (startsWith_iff _ _).mpr ⟨t, rfl⟩
  rw [stripPrefix, if_pos hs, String.toList_append, drop_left, String.ofList_toList]

theorem stripPrefix_eq_some_iff (s p t : String) : stripPrefix s p = some t ↔ s = p ++ t := by
  constructor
  · intro h
    have hs : startsWith s p = true := by
      by_contra hnot
      rw [stripPrefix, if_neg hnot] at h
      cases h
    obtain ⟨rest, rfl⟩ := (startsWith_iff s p).mp hs
    rw [stripPrefix_append, Option.some.injEq] at h
    rw [h]
  · rintro rfl
    exact stripPrefix_append p t

theorem toList_toString (n : Nat) : (toString n).toList = Nat.toDigits 10 n := Nat.toList_repr

variable {n : Nat} {pieces : List String} {cs : List Char} {x : Char}

theorem isDigit_of_mem_toString (h : c ∈ (toString n).toList) : c.isDigit = true := by
  rw [toList_toString] at h
  exact Nat.isDigit_of_mem_toDigits (by omega) (by omega) h

theorem toString_no_colon (n : Nat) : ':' ∉ (toString n).toList := by
  intro h
  nomatch (isDigit_of_mem_toString h)

theorem toString_inj {m : Nat} (h : toString m = toString n) : m = n := by
  have hdigits := congrArg (fun s => Nat.ofDigitChars 10 s.toList 0) h
  simp only [toList_toString, Nat.ofDigitChars_ten_toDigits] at hdigits
  exact hdigits

/-- Parsing inverts formatting for every value a 64-bit integer can hold. -/
theorem parseU64_toString (n : Nat) (hn : n < 2 ^ 64) : parseU64 (toString n) = some n := by
  -- A formatted number starts with a digit, so no sign is stripped.
  have hsign : dropSign (toString n).toList = (toString n).toList := by
    rcases hcs : (toString n).toList with _ | ⟨c, cs⟩
    · rfl
    · have hdigit : c.isDigit = true :=
        isDigit_of_mem_toString (by rw [hcs]; exact .head _)
      rw [dropSign]
      rintro rest ⟨rfl, -⟩
      nomatch hdigit
  have hne : (toString n).toList.isEmpty = false := by
    rw [toList_toString, isEmpty_eq_false_iff]
    exact Nat.toDigits_ne_nil
  have hall : (toString n).toList.all Char.isDigit = true :=
    all_eq_true.mpr (fun c hc => isDigit_of_mem_toString hc)
  have hval : Nat.ofDigitChars 10 (toString n).toList 0 = n := by
    rw [toList_toString, Nat.ofDigitChars_ten_toDigits]
  simp only [parseU64, hsign, hne, hall, hval, Bool.not_true, Bool.or_self, if_pos hn,
    Bool.false_eq_true, if_false]

theorem bne_of_not_mem {l : List Char} (h : c ∉ l) : ∀ d ∈ l, (d != c) = true :=
  fun _ hd => bne_iff_ne.mpr fun hdc => h (hdc ▸ hd)

/-- The last separator is the one put there, if the second half has none. -/
theorem rsplitOnce_append (s t : String) (c : Char) (hc : c ∉ t.toList) :
    rsplitOnce (s ++ String.singleton c ++ t) c = some (s, t) := by
  have hall := bne_of_not_mem (l := t.toList.reverse) (by rwa [mem_reverse])
  have hdrop : (t.toList.reverse ++ c :: s.toList.reverse).dropWhile (fun d => d != c)
      = c :: s.toList.reverse := by
    rw [dropWhile_append_of_pos hall]
    simp only [dropWhile_cons, bne_self_eq_false, Bool.false_eq_true, if_false]
  have htake : (t.toList.reverse ++ c :: s.toList.reverse).takeWhile (fun d => d != c)
      = t.toList.reverse := by
    rw [takeWhile_append_of_pos hall]
    simp only [takeWhile_cons, bne_self_eq_false, Bool.false_eq_true, if_false, append_nil]
  simp [rsplitOnce, hdrop, htake]

theorem split_of_not_mem (h : c ∉ s.toList) : split s c = [s] := by
  have hpieces : s.toList.splitOnP (fun d => d == c) = [s.toList] :=
    splitOnP_eq_singleton fun d hd => beq_false_of_ne fun hdc => h (hdc ▸ hd)
  rw [split, hpieces, map_singleton, String.ofList_toList]

theorem toList_cut (hseparator : separator.toList = [c]) :
    (s ++ separator ++ t).toList = s.toList ++ c :: t.toList := by
  rw [String.toList_append, String.toList_append, hseparator, append_assoc, singleton_append]

/-- A piece without the separator comes first. -/
theorem split_append (h : c ∉ s.toList) (hseparator : separator.toList = [c]) :
    split (s ++ separator ++ t) c = s :: split t c := by
  have hnot : ∀ d ∈ s.toList, (d == c) = false :=
    fun d hd => beq_false_of_ne fun hdc => h (hdc ▸ hd)
  have hpieces : (s.toList ++ c :: t.toList).splitOnP (fun d => d == c) =
      s.toList :: t.toList.splitOnP (fun d => d == c) :=
    splitOnP_append_cons_of_forall_mem hnot c (beq_self_eq_true c) _
  rw [split, toList_cut hseparator, hpieces, map_cons, String.ofList_toList, split]

/-- A string is cut at its first separator. -/
theorem split_first {before after : List Char} (heq : s.toList = before ++ c :: after)
    (hnot : c ∉ before) :
    split s c = String.ofList before :: split (String.ofList after) c ∧
      s = String.ofList before ++ String.ofList [c] ++ String.ofList after := by
  have hcut : s = String.ofList before ++ String.ofList [c] ++ String.ofList after := by
    rw [← String.toList_inj, heq]
    simp
  refine ⟨?_, hcut⟩
  rw [hcut]
  exact split_append (by rwa [String.toList_ofList]) String.toList_ofList

/-- The first piece and the separator are where the string begins. -/
theorem split_head_separator (h : c ∈ s.toList) :
    ∃ first rest t, split s c = first :: rest ∧ s = first ++ String.ofList [c] ++ t := by
  rcases eq_append_cons_of_mem h with ⟨before, after, heq, hnot⟩
  exact ⟨_, _, String.ofList after, split_first heq hnot⟩

/-- The first piece is where the string begins. -/
theorem split_head_append (h : c ∈ s.toList) :
    ∃ first rest t, split s c = first :: rest ∧ s = first ++ t := by
  rcases split_head_separator h with ⟨first, rest, t, hsplit, hcut⟩
  exact ⟨first, rest, String.ofList [c] ++ t, hsplit, by rw [← String.append_assoc]; exact hcut⟩

/-- The first piece is what comes before the first separator. -/
theorem headD_split (s : String) (c : Char) :
    (split s c).headD "" = String.ofList (s.toList.takeWhile (fun d => d != c)) := by
  by_cases h : c ∈ s.toList
  · obtain ⟨before, after, heq, hnot⟩ := eq_append_cons_of_mem h
    rw [(split_first heq hnot).1, heq, headD_cons, takeWhile_append_of_pos (bne_of_not_mem hnot)]
    simp
  · rw [split_of_not_mem h, headD_cons, takeWhile_eq_self_iff.mpr (bne_of_not_mem h),
      String.ofList_toList]

/-- Pieces without the separator are cut where they were put together. -/
theorem split_intercalate (hseparator : separator.toList = [c]) (hne : pieces ≠ [])
    (h : ∀ piece ∈ pieces, c ∉ piece.toList) : split (separator.intercalate pieces) c = pieces := by
  have hlists : ∀ l ∈ pieces.map String.toList, c ∉ l := by
    intro l hl
    obtain ⟨piece, hpiece, rfl⟩ := mem_map.mp hl
    exact h piece hpiece
  have hcut := splitOn_intercalate c hlists (by rwa [Ne, map_eq_nil_iff])
  rw [split, String.toList_intercalate, hseparator]
  change (List.splitOn c _).map String.ofList = pieces
  rw [hcut, map_map]
  simp

/-- The pieces of a string put together are the string. -/
theorem intercalate_split (s : String) (hseparator : separator.toList = [c]) :
    separator.intercalate (split s c) = s := by
  have hjoin : [c].intercalate (List.splitOn c s.toList) = s.toList := intercalate_splitOn c
  rw [← String.toList_inj, String.toList_intercalate, hseparator, split, map_map]
  simp only [Function.comp_def, String.toList_ofList, map_id']
  exact hjoin

theorem of_mem_intercalate (h : c ∈ (separator.intercalate pieces).toList) :
    c ∈ separator.toList ∨ ∃ piece ∈ pieces, c ∈ piece.toList := by
  induction pieces with
  | nil =>
    rw [String.intercalate_nil] at h
    nomatch h
  | cons first pieces ih =>
    cases pieces with
    | nil =>
      rw [String.intercalate_singleton] at h
      exact .inr ⟨first, (.head _), h⟩
    | cons second rest =>
      grind [String.intercalate_cons_cons, String.toList_append]

theorem splitOnce_of_not_mem (h : c ∉ s.toList) : splitOnce s c = none := by
  rw [splitOnce, dropWhile_eq_nil_iff.mpr (bne_of_not_mem h)]

/-- The first separator is the one put there, if the first half has none. -/
theorem splitOnce_append (h : c ∉ s.toList) (hseparator : separator.toList = [c]) :
    splitOnce (s ++ separator ++ t) c = some (s, t) := by
  have hall := bne_of_not_mem h
  have hdrop : (s.toList ++ c :: t.toList).dropWhile (fun d => d != c) = c :: t.toList := by
    rw [dropWhile_append_of_pos hall]
    simp
  have htake : (s.toList ++ c :: t.toList).takeWhile (fun d => d != c) = s.toList := by
    rw [takeWhile_append_of_pos hall]
    simp
  rw [splitOnce, toList_cut hseparator, hdrop, htake]
  simp

/-- A text that starts with another character is cut after that. -/
theorem splitOnce_append_of_ne {d : Char} (hs : s.toList = [d]) (hne : d ≠ c)
    {parts : String × String} (h : splitOnce (s ++ t) c = some parts) :
    ∃ first, parts.1 = s ++ first := by
  have hlist : (s ++ t).toList = d :: t.toList := by
    rw [String.toList_append, hs, singleton_append]
  have hkeep : (d != c) = true := bne_iff_ne.mpr hne
  rw [splitOnce, hlist] at h
  simp only [dropWhile_cons, takeWhile_cons, hkeep, if_true] at h
  split at h
  · nomatch h.symm
  · refine ⟨String.ofList (t.toList.takeWhile (fun x => x != c)), ?_⟩
    rw [← Option.some.inj h, ← String.toList_inj, String.toList_append, hs]
    simp

theorem trimStartFuel_suffix (p : List Char) (fuel : Nat) (cs : List Char) :
    trimStartFuel p fuel cs <:+ cs := by
  induction fuel generalizing cs with
  | zero => exact suffix_refl cs
  | succ fuel ih =>
    grind [trimStartFuel, drop_suffix]

/-- What is left after trimming the end is where the string begins. -/
theorem trimEndMatches_append (s p : String) : ∃ t, s = trimEndMatches s p ++ t := by
  obtain ⟨t, ht⟩ := trimStartFuel_suffix p.toList.reverse s.toList.length s.toList.reverse
  refine ⟨String.ofList t.reverse, ?_⟩
  rw [← String.toList_inj, trimEndMatches, String.toList_append, String.toList_ofList,
    String.toList_ofList, ← reverse_append, ht, reverse_reverse]

/-- The halves are what is before and after the last separator. -/
theorem rsplitOnce_some {a b : String} (h : rsplitOnce s c = some (a, b)) :
    s = a ++ String.singleton c ++ b ∧ c ∉ b.toList := by
  unfold rsplitOnce at h
  split at h
  · nomatch h
  · rename_i d front hdrop
    obtain ⟨rfl, rfl⟩ := Prod.mk.inj (Option.some.inj h)
    have hd : d = c := by
      have hhead := head_dropWhile_not (fun d => d != c) (l := s.toList.reverse)
        (by rw [hdrop]; exact cons_ne_nil d front)
      simpa [hdrop] using hhead
    have hrev : s.toList.reverse = s.toList.reverse.takeWhile (fun d => d != c) ++ c :: front := by
      rw [← hd, ← hdrop, hd, takeWhile_append_dropWhile]
    constructor
    · rw [← String.toList_inj, ← reverse_inj]
      simpa using hrev
    · intro hmem
      rw [String.toList_ofList, mem_reverse] at hmem
      simpa using mem_takeWhile_imp hmem

/-- What is split at its last separator has one. -/
theorem mem_of_rsplitOnce {pair : String × String} (h : rsplitOnce s c = some pair) :
    c ∈ s.toList := by
  rw [(rsplitOnce_some h).1]
  simp

theorem not_startsWith_trimStartFuel {p : List Char} (hp : p ≠ []) {fuel : Nat}
    (hfuel : cs.length ≤ fuel) : ¬p <+: trimStartFuel p fuel cs := by
  induction fuel generalizing cs with
  | zero =>
    rw [length_eq_zero_iff.mp (Nat.le_zero.mp hfuel)]
    exact fun h => hp (prefix_nil.mp h)
  | succ fuel ih =>
    rw [trimStartFuel]
    split_ifs with h
    · have hpos := length_pos_iff.mpr hp
      refine ih ?_
      rw [length_drop]
      omega
    · intro hmore
      simp [ isPrefixOf_iff_prefix.mpr hmore, hp] at h

theorem endsWith_trimEndMatches (s : String) (hp : p ≠ "") :
    endsWith (trimEndMatches s p) p = false := by
  have hne : p.toList.reverse ≠ [] := by simpa using hp
  have hnot := not_startsWith_trimStartFuel hne (Nat.le_refl s.toList.reverse.length)
  rw [length_reverse] at hnot
  rw [← Bool.not_eq_true, endsWith, trimEndMatches, String.toList_ofList, reverse_reverse,
    isPrefixOf_iff_prefix]
  exact hnot

theorem trimEndMatches_append_self (hp : p ≠ "") (h : endsWith t p = false) :
    trimEndMatches (t ++ p) p = t := by
  have hne : p.toList ≠ [] := by simpa using hp
  have hstop (fuel : Nat) : trimStartFuel p.toList.reverse fuel t.toList.reverse =
      t.toList.reverse := by
    cases fuel with
    | zero => rfl
    | succ fuel =>
      rw [endsWith] at h
      simp [trimStartFuel, h]
  obtain ⟨fuel, hfuel⟩ : ∃ fuel, (t ++ p).toList.length = fuel + 1 := by
    refine Nat.exists_eq_succ_of_ne_zero ?_
    simp [hne]
  rw [trimEndMatches, hfuel, trimStartFuel, String.toList_append, reverse_append, if_pos]
  · rw [drop_left, hstop, reverse_reverse, String.ofList_toList]
  · simp [ isPrefixOf_iff_prefix, hne]

theorem split_ne_nil (s : String) (c : Char) : split s c ≠ [] := by
  rw [split, Ne, map_eq_nil_iff]
  exact splitOnP_ne_nil _ _

/-- A string with the separator in it has two pieces at least. -/
theorem split_of_mem (h : c ∈ s.toList) :
    ∃ first second rest, split s c = first :: second :: rest := by
  rcases append_of_mem h with ⟨before, after, heq⟩
  have hpieces : (before ++ c :: after).splitOnP (fun d => d == c) =
      before.splitOnP (fun d => d == c) ++ after.splitOnP (fun d => d == c) :=
    splitOnP_append_cons before after (beq_self_eq_true c)
  rw [split, heq, hpieces, map_append]
  rcases hbefore : (before.splitOnP (fun d => d == c)).map String.ofList with _ | ⟨first, rest⟩
  · exact absurd (map_eq_nil_iff.mp hbefore) (splitOnP_ne_nil _ _)
  · rcases hafter : (after.splitOnP (fun d => d == c)).map String.ofList with _ | ⟨second, more⟩
    · exact absurd (map_eq_nil_iff.mp hafter) (splitOnP_ne_nil _ _)
    · cases rest with
      | nil => exact ⟨first, second, more, rfl⟩
      | cons third rest => exact ⟨first, third, rest ++ second :: more, rfl⟩

theorem of_mem_splitOnP {p : Char → Bool} {w : List Char} (hw : w ∈ cs.splitOnP p) (hx : x ∈ w) :
    x ∈ cs ∧ p x = false := by
  induction cs generalizing w with
  | nil =>
    rw [splitOnP_nil, mem_singleton] at hw
    rw [hw] at hx
    cases hx
  | cons c cs ih =>
    rw [splitOnP_cons_eq_if_modifyHead] at hw
    by_cases hc : p c = true
    · grind
    · rw [if_neg hc] at hw
      -- The character goes to the piece that begins here.
      rcases hpieces : cs.splitOnP p with _ | ⟨first, rest⟩
      · exact absurd hpieces (splitOnP_ne_nil p cs)
      · rw [hpieces, modifyHead_cons] at hw
        have hrest : ∀ v ∈ first :: rest, x ∈ v → x ∈ c :: cs ∧ p x = false := fun v hv hxv =>
          ⟨mem_cons_of_mem _ (ih (hpieces ▸ hv) hxv).1, (ih (hpieces ▸ hv) hxv).2⟩
        grind

/-- The pieces of a string are made of its other characters. -/
theorem of_mem_split {w : String} (hw : w ∈ split s c) (hx : x ∈ w.toList) :
    x ∈ s.toList ∧ x ≠ c := by
  rcases mem_map.mp hw with ⟨piece, hpiece, rfl⟩
  rw [String.toList_ofList] at hx
  rcases of_mem_splitOnP hpiece hx with ⟨hmem, hne⟩
  exact ⟨hmem, ne_of_beq_false hne⟩

theorem utf8_append (s t : String) : utf8 (s ++ t) = utf8 s ++ utf8 t := by
  rw [utf8, String.toByteArray_append, ByteArray.data_append, Array.toList_append]
  rfl

theorem utf8_injective (h : utf8 s = utf8 t) : s = t := by
  refine String.toByteArray_inj.mp (ByteArray.ext ?_)
  exact Array.toList_inj.mp h

theorem fromUtf8_utf8 (s : String) : fromUtf8 (utf8 s) = some s :=
  dif_pos s.isValidUTF8

theorem utf8_of_fromUtf8 {bytes : List UInt8} (h : fromUtf8 bytes = some s) : utf8 s = bytes := by
  unfold fromUtf8 String.fromUTF8? at h
  split_ifs at h
  rw [← Option.some_inj.mp h]
  rfl

theorem utf8_length_le_of_startsWith (h : startsWith s p = true) :
    (utf8 p).length ≤ (utf8 s).length := by
  rcases (startsWith_iff s p).mp h with ⟨t, rfl⟩
  rw [utf8_append, length_append]
  omega

/-- Two prefixes of a text that have the same length are the same. -/
theorem eq_of_startsWith {q : String} (hp : startsWith s p = true) (hq : startsWith s q = true)
    (hlen : (utf8 p).length = (utf8 q).length) : p = q := by
  rcases (startsWith_iff s p).mp hp with ⟨t, ht⟩
  rcases (startsWith_iff s q).mp hq with ⟨u, hu⟩
  have hbytes : utf8 p ++ utf8 t = utf8 q ++ utf8 u := by
    rw [← utf8_append, ← utf8_append, ← ht, hu]
  exact utf8_injective (append_inj_left hbytes hlen)

theorem startsWith_self (s : String) : startsWith s s = true :=
  (startsWith_iff s s).mpr ⟨"", String.append_empty.symm⟩

end Text

end WasmCloud
