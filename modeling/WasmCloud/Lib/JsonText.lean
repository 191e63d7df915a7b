import WasmCloud.Lib.Bytes

/-!
# JSON Texts

The text of an object whose members are strings or null, written without blanks. In a
string a quote, a backslash and the control characters are escaped, so a quote that is
not escaped ends it. What follows a string is therefore found without knowing the string,
and the text of an object determines its members.
-/

namespace WasmCloud

open List

namespace JsonText

/-- The characters with an escape of their own, and the letter of it. -/
def shortEscapes : List (Char × Char) :=
  [('\x22', '\x22'), ('\x5c', '\x5c'), ('\x08', 'b'), ('\x0c', 'f'), ('\n', 'n'), ('\r', 'r'),
    ('\t', 't')]

/-- A character inside a string. -/
def escapeChar (c : Char) : List Char :=
  match shortEscapes.find? (fun pair => pair.1 = c) with
  | some pair => ['\x5c', pair.2]
  | none =>
    if c.toNat < 32 then
      ['\x5c', 'u', '0', '0', Bytes.hexDigit (c.toNat / 16), Bytes.hexDigit (c.toNat % 16)]
    else [c]

/-- A string and its quotes. -/
def quote (s : String) : List Char := '\x22' :: (s.toList.flatMap escapeChar ++ ['\x22'])

/-- What follows the backslash of an escape. -/
def readEscape : List Char → Option (Char × List Char)
  | 'u' :: '0' :: '0' :: high :: low :: rest =>
    match Bytes.hexValue high, Bytes.hexValue low with
    | some h, some l => some (Char.ofNat (16 * h + l), rest)
    | _, _ => none
  | letter :: rest =>
    (shortEscapes.find? (fun pair => pair.2 = letter)).map (fun pair => (pair.1, rest))
  | [] => none

/-- The next character of a string, or none at its end. -/
def readChar : List Char → Option (Char × List Char)
  | [] => none
  | c :: rest =>
    if c = '\x22' then none else if c = '\x5c' then readEscape rest else some (c, rest)

theorem readEscape_short {pair : Char × Char} (h : pair ∈ shortEscapes) (rest : List Char) :
    readEscape (pair.2 :: rest) = some (pair.1, rest) := by
  simp only [shortEscapes, mem_cons, not_mem_nil, or_false] at h
  rcases h with rfl | rfl | rfl | rfl | rfl | rfl | rfl <;> rfl

/-- A character is read back, whatever follows it. -/
theorem readChar_escapeChar (c : Char) (rest : List Char) :
    readChar (escapeChar c ++ rest) = some (c, rest) := by
  unfold escapeChar
  split
  · rename_i pair hshort
    have hfound := List.find?_some hshort
    rw [decide_eq_true_eq] at hfound
    rw [← hfound]
    exact readEscape_short (mem_of_find?_eq_some hshort) rest
  · rename_i hshort
    -- Not a quote and not a backslash.
    have hother : ∀ pair ∈ shortEscapes, pair.1 ≠ c := by
      intro pair hpair heq
      exact List.find?_eq_none.mp hshort pair hpair (decide_eq_true heq)
    have hquote : c ≠ '\x22' := (hother ('\x22', '\x22') (by decide)).symm
    have hslash : c ≠ '\x5c' := (hother ('\x5c', '\x5c') (by decide)).symm
    split
    · rename_i hcontrol
      have hchar : Char.ofNat (16 * (c.toNat / 16) + c.toNat % 16) = c := by
        rw [Nat.div_add_mod, Char.ofNat_toNat]
      change readEscape ('u' :: '0' :: '0' :: Bytes.hexDigit (c.toNat / 16) ::
        Bytes.hexDigit (c.toNat % 16) :: rest) = _
      simp [readEscape, Bytes.hexValue_hexDigit (show c.toNat / 16 < 16 by omega),
        Bytes.hexValue_hexDigit (show c.toNat % 16 < 16 by omega), hchar]
    · rw [singleton_append, readChar, if_neg hquote, if_neg hslash]

variable {a b : List Char}

/-- A string ends at the first quote that is not escaped. -/
theorem escaped_append_inj {cs ds : List Char}
    (h : cs.flatMap escapeChar ++ '\x22' :: a = ds.flatMap escapeChar ++ '\x22' :: b) :
    cs = ds ∧ a = b := by
  have hend (rest : List Char) : readChar ('\x22' :: rest) = none := rfl
  induction cs generalizing ds with
  | nil =>
    cases ds with
    | nil => exact ⟨rfl, (List.cons.inj h).2⟩
    | cons d ds =>
      have hread := congrArg readChar h
      rw [flatMap_nil, nil_append, hend, flatMap_cons, append_assoc, readChar_escapeChar] at hread
      nomatch hread
  | cons c cs ih =>
    rw [flatMap_cons, append_assoc] at h
    have hread := congrArg readChar h
    rw [readChar_escapeChar] at hread
    cases ds with
    | nil =>
      rw [flatMap_nil, nil_append, hend] at hread
      nomatch hread
    | cons d ds =>
      rw [flatMap_cons, append_assoc, readChar_escapeChar, Option.some.injEq,
        Prod.mk.injEq] at hread
      rcases ih hread.2 with ⟨htail, hrest⟩
      exact ⟨by rw [hread.1, htail], hrest⟩

/-- A text that starts with a string determines it and what follows. -/
theorem quote_append_inj {s t : String} (h : quote s ++ a = quote t ++ b) : s = t ∧ a = b := by
  simp only [quote, cons_append, append_assoc, nil_append, List.cons.injEq, true_and] at h
  rcases escaped_append_inj h with ⟨hlist, hrest⟩
  exact ⟨String.toList_inj.mp hlist, hrest⟩

/-- A string or null. -/
def valueText : Option String → List Char
  | none => ['n', 'u', 'l', 'l']
  | some s => quote s

/-- A member of an object. -/
def memberText (member : String × Option String) : List Char :=
  quote member.1 ++ ':' :: valueText member.2

/-- The members that are left of an object, to its end. -/
def membersText : List (String × Option String) → List Char
  | [] => ['\x7d']
  | [member] => memberText member ++ ['\x7d']
  | member :: next :: members => memberText member ++ ',' :: membersText (next :: members)

/-- An object. -/
def objectText (members : List (String × Option String)) : List Char :=
  '\x7b' :: membersText members

theorem valueText_append_inj {v w : Option String} (h : valueText v ++ a = valueText w ++ b) :
    v = w ∧ a = b := by
  cases v with
  | none =>
    cases w with
    | none =>
      simp only [valueText, cons_append, nil_append, List.cons.injEq, true_and] at h
      exact ⟨rfl, h⟩
    | some t => exact absurd (List.cons.inj h).1 (by decide)
  | some s =>
    cases w with
    | none => exact absurd (List.cons.inj h).1 (by decide)
    | some t =>
      rcases quote_append_inj h with ⟨hst, hrest⟩
      exact ⟨congrArg some hst, hrest⟩

theorem memberText_append_inj {m n : String × Option String}
    (h : memberText m ++ a = memberText n ++ b) : m = n ∧ a = b := by
  simp only [memberText, append_assoc, cons_append] at h
  rcases quote_append_inj h with ⟨hkey, hrest⟩
  rcases valueText_append_inj (List.cons.inj hrest).2 with ⟨hvalue, hafter⟩
  exact ⟨Prod.ext hkey hvalue, hafter⟩

theorem membersText_inj {ms ns : List (String × Option String)}
    (h : membersText ms = membersText ns) : ms = ns := by
  -- A member starts with a quote, so it is not the end of an object, and what follows a
  -- member says whether it is the last.
  induction ms generalizing ns with
  | nil =>
    match ns with
    | [] => rfl
    | [n] => exact absurd (List.cons.inj h).1 (by decide)
    | n :: n' :: ns => exact absurd (List.cons.inj h).1 (by decide)
  | cons m ms ih =>
    match ms, ns with
    | [], [] => exact absurd (List.cons.inj h).1 (by decide)
    | _ :: _, [] => exact absurd (List.cons.inj h).1 (by decide)
    | [], [n] => rw [(memberText_append_inj h).1]
    | [], n :: n' :: ns =>
      exact absurd (List.cons.inj (memberText_append_inj h).2).1 (by decide)
    | m' :: ms, [n] =>
      exact absurd (List.cons.inj (memberText_append_inj h).2).1 (by decide)
    | m' :: ms, n :: n' :: ns =>
      rcases memberText_append_inj h with ⟨hmember, hrest⟩
      rw [hmember, ih (List.cons.inj hrest).2]

/-- The text of an object determines its members. -/
theorem objectText_injective : Function.Injective objectText :=
  fun _ _ h => membersText_inj (List.cons.inj h).2

end JsonText

end WasmCloud
