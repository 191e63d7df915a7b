import Mathlib.Data.Set.Basic

/-!
# Multimaps and Agreement Off a Set

A map from names to lists of values, the shape of a set of HTTP headers.

`AgreeOff S` relates two multimaps that may differ on the names in `S` and nowhere else: the
low-equivalence of a two-run argument, where an attacker chooses what is under `S`. Updates
made alike to both maps keep it, and an update that writes or drops a name takes it out of
`S`. `agreeOff_empty_iff` ends such an argument, and `agreeOff_setAll` starts the converse.
-/

namespace WasmCloud

open List

/-- A map from names to lists of values, the first value first. -/
def MultiMap (N V : Type) : Type := N → List V

namespace MultiMap

variable {N V : Type} [DecidableEq N]

/-- The map with no values. -/
def empty : MultiMap N V := fun _ => []

/-- The first value of a name. -/
def get (m : MultiMap N V) (n : N) : Option V := (m n).head?

/-- Replace all values of `n` by `v`. -/
def insert (m : MultiMap N V) (n : N) (v : V) : MultiMap N V :=
  fun k => if k = n then [v] else m k

/-- Drop all values of `n`. -/
def remove (m : MultiMap N V) (n : N) : MultiMap N V :=
  fun k => if k = n then [] else m k

/-- Set the values of `n` outright. -/
def setAll (m : MultiMap N V) (n : N) (vs : List V) : MultiMap N V :=
  fun k => if k = n then vs else m k

@[simp] theorem insert_self (m : MultiMap N V) (n : N) (v : V) : m.insert n v n = [v] :=
  if_pos rfl

variable {S : Set N} {m m' : MultiMap N V} {k : N}

theorem insert_other (m : MultiMap N V) (n : N) (v : V) (h : k ≠ n) : m.insert n v k = m k :=
  if_neg h

@[simp] theorem remove_self (m : MultiMap N V) (n : N) : m.remove n n = [] := if_pos rfl

theorem remove_other (m : MultiMap N V) (n : N) (h : k ≠ n) : m.remove n k = m k :=
  if_neg h

theorem get_remove_other (m : MultiMap N V) (n : N) (h : k ≠ n) : (m.remove n).get k = m.get k := by
  simp [get, remove_other m n h]

/-- The two maps differ at most on the names in `S`. -/
def AgreeOff (S : Set N) (m m' : MultiMap N V) : Prop :=
  ∀ n, n ∉ S → m n = m' n

omit [DecidableEq N] in
theorem AgreeOff.refl (S : Set N) (m : MultiMap N V) : AgreeOff S m m := fun _ _ => rfl

omit [DecidableEq N] in
theorem AgreeOff.mono {T : Set N} (h : AgreeOff S m m') (hST : S ⊆ T) : AgreeOff T m m' :=
  fun n hn => h n (fun hs => hn (hST hs))

theorem AgreeOff.insert (h : AgreeOff S m m') (n : N) (v : V) :
    AgreeOff (S \ {n}) (m.insert n v) (m'.insert n v) := by
  intro k hk
  by_cases hkn : k = n
  · rw [hkn, insert_self, insert_self]
  · rw [insert_other m n v hkn, insert_other m' n v hkn]
    exact h k (fun hs => hk ⟨hs, hkn⟩)

theorem AgreeOff.remove (h : AgreeOff S m m') (n : N) :
    AgreeOff (S \ {n}) (m.remove n) (m'.remove n) := by
  intro k hk
  by_cases hkn : k = n
  · rw [hkn, remove_self, remove_self]
  · rw [remove_other m n hkn, remove_other m' n hkn]
    exact h k (fun hs => hk ⟨hs, hkn⟩)

omit [DecidableEq N] in
theorem agreeOff_empty_iff : AgreeOff ∅ m m' ↔ m = m' := by
  constructor
  · intro h
    funext n
    exact h n (Set.notMem_empty n)
  · rintro rfl
    exact AgreeOff.refl ∅ m

theorem agreeOff_setAll (m : MultiMap N V) {n : N} (hn : n ∈ S) (vs : List V) :
    AgreeOff S m (m.setAll n vs) := by
  intro k hk
  have hkn : k ≠ n := fun h => hk (h ▸ hn)
  simp [setAll, if_neg hkn]

/-- One update of a map. -/
inductive Update (N V : Type) where
  | write (n : N) (v : V)
  | drop (n : N)

/-- The name an update is about. -/
def Update.name : Update N V → N
  | .write n _ => n
  | .drop n => n

/-- Carry out one update. -/
def Update.apply (m : MultiMap N V) : Update N V → MultiMap N V
  | .write n v => m.insert n v
  | .drop n => m.remove n

/-- Carry out a list of updates, the first one first. -/
def applyAll (us : List (Update N V)) (m : MultiMap N V) : MultiMap N V :=
  us.foldl Update.apply m

@[simp] theorem applyAll_nil (m : MultiMap N V) : applyAll [] m = m := rfl

@[simp] theorem applyAll_cons (u : Update N V) (us : List (Update N V)) (m : MultiMap N V) :
    applyAll (u :: us) m = applyAll us (u.apply m) := rfl

/-- A loop that makes one update or none in each round. -/
theorem foldl_eq_applyAll {α : Type} {round : MultiMap N V → α → MultiMap N V}
    {update : α → Option (Update N V)} (h : ∀ m x, round m x = applyAll (update x).toList m)
    (items : List α) (m : MultiMap N V) :
    items.foldl round m = applyAll (items.filterMap update) m := by
  induction items generalizing m with
  | nil => rfl
  | cons x items ih =>
    rw [List.foldl_cons, ih, h]
    cases hx : update x with
    | none => rw [List.filterMap_cons_none hx, Option.toList_none, applyAll_nil]
    | some u => rw [List.filterMap_cons_some hx, Option.toList_some, applyAll_cons, applyAll_nil,
        applyAll_cons]

theorem applyAll_append (us vs : List (Update N V)) (m : MultiMap N V) :
    applyAll (us ++ vs) m = applyAll vs (applyAll us m) :=
  foldl_append

/-- Both maps updated alike agree on the name as well. -/
theorem AgreeOff.apply (h : AgreeOff S m m') (u : Update N V) :
    AgreeOff (S \ {u.name}) (u.apply m) (u.apply m') := by
  cases u with
  | write n v => exact h.insert n v
  | drop n => exact h.remove n

theorem Update.apply_other (m : MultiMap N V) (u : Update N V) (h : k ≠ u.name) :
    u.apply m k = m k := by
  cases u with
  | write n v => exact insert_other m n v h
  | drop n => exact remove_other m n h

/-- A name no update is about keeps its values. -/
theorem applyAll_untouched (us : List (Update N V)) (m : MultiMap N V)
    (h : k ∉ us.map Update.name) : applyAll us m k = m k := by
  induction us generalizing m with
  | nil => rfl
  | cons u us ih =>
    rw [map_cons, mem_cons, not_or] at h
    rw [applyAll_cons, ih (u.apply m) h.2, Update.apply_other m u h.1]

variable {us : List (Update N V)}

/-- Writes never leave a name without values that had some. -/
theorem applyAll_writes_ne_nil (hus : ∀ u ∈ us, ∃ n v, u = .write n v) (m : MultiMap N V)
    (h : m k ≠ []) : applyAll us m k ≠ [] := by
  induction us generalizing m with
  | nil => exact h
  | cons u us ih =>
    rcases hus u (.head _) with ⟨n, v, rfl⟩
    refine ih (fun u hu => hus u (.tail _ hu)) _ ?_
    by_cases hkn : k = n
    · rw [hkn, Update.apply, insert_self]
      exact cons_ne_nil v []
    · rw [Update.apply, insert_other m n v hkn]
      exact h

/-- Drops leave nothing of the names they are about. -/
theorem applyAll_drops_mem (hus : ∀ u ∈ us, ∃ n, u = .drop n) (m : MultiMap N V)
    (h : k ∈ us.map Update.name ∨ m k = []) : applyAll us m k = [] := by
  induction us generalizing m with
  | nil =>
    rcases h with h | h
    · nomatch h
    · exact h
  | cons u us ih =>
    rcases hus u (.head _) with ⟨n, rfl⟩
    refine ih (fun u hu => hus u (.tail _ hu)) _ ?_
    by_cases hkn : k = n
    · right
      rw [hkn, Update.apply, remove_self]
    · rw [Update.apply, remove_other m n hkn]
      rcases h with h | h
      · left
        rcases mem_cons.mp h with heq | h
        · exact absurd heq hkn
        · exact h
      · exact .inr h

/-- The maps still differ at most on the names no update was about. -/
theorem AgreeOff.applyAll (h : AgreeOff S m m') (us : List (Update N V)) :
    AgreeOff {n | n ∈ S ∧ n ∉ us.map Update.name} (MultiMap.applyAll us m)
      (MultiMap.applyAll us m') := by
  induction us generalizing S m m' with
  | nil => exact h.mono (fun n hn => ⟨hn, not_mem_nil⟩)
  | cons u us ih =>
    -- The first update takes its name out of the set, the others theirs.
    refine (ih (h.apply u)).mono ?_
    rintro n ⟨⟨hS, hne⟩, hus⟩
    refine ⟨hS, ?_⟩
    rw [map_cons, mem_cons, not_or]
    exact ⟨hne, hus⟩

end MultiMap

end WasmCloud
