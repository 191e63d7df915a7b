import Mathlib.Data.List.Nodup
import Mathlib.Data.List.Perm.Basic

/-!
# Rosters

A list of items with distinct keys, of which one at a time is changed or taken
off. Changes keep the key, so whatever is read off the items and not changed reads
the same afterwards, as the same list and not merely the same set.

A register beside the roster lists entries of the items. While an item is on its way
into the register or out of it, its entry may be listed or not, so two conditions say
what the register is to be: the items whose entry may be there, and those whose entry
must be.
-/

namespace WasmCloud

open List

namespace Roster

variable {K V : Type} [DecidableEq K] {key : V → K}

/-- Change the item with key `k` by `f`. -/
def update (key : V → K) (k : K) (f : V → V) (xs : List V) : List V :=
  xs.map (fun x => if key x = k then f x else x)

/-- Take the item with key `k` off. -/
def drop (key : V → K) (k : K) (xs : List V) : List V :=
  xs.filter (fun x => key x ≠ k)

variable {f : V → V} {x : V} {xs : List V}

theorem map_update {W : Type} {g : V → W} (hg : ∀ x, g (f x) = g x) (k : K) (xs : List V) :
    (update key k f xs).map g = xs.map g := by
  rw [update, map_map]
  refine map_congr_left fun x _ => ?_
  rw [Function.comp_apply]
  by_cases hx : key x = k
  · rw [if_pos hx, hg]
  · rw [if_neg hx]

/-- The other items, beside which the one at an index changes. -/
theorem exists_rest {i : Nat} (h : xs[i]? = some x) :
    ∃ rest, xs ~ x :: rest ∧ ∀ y, xs.set i y ~ y :: rest := by
  obtain ⟨hlt, rfl⟩ := List.getElem?_eq_some_iff.mp h
  exact ⟨xs.eraseIdx i, (getElem_cons_eraseIdx_perm hlt).symm, set_perm_cons_eraseIdx hlt⟩

theorem countP_set {i : Nat} (h : xs[i]? = some x) (p : V → Bool) (y : V) :
    (xs.set i y).countP p + (p x).toNat = xs.countP p + (p y).toNat := by
  obtain ⟨rest, hperm, hset⟩ := exists_rest h
  rw [hperm.countP_eq, (hset y).countP_eq, countP_cons, countP_cons]
  cases p x <;> cases p y <;> simp

variable {y : V} {k : K} {p : V → Bool}

/-- The changed item and the others. -/
theorem mem_update (hxs : (xs.map key).Nodup) (hx : x ∈ xs) :
    y ∈ update key (key x) f xs ↔ y = f x ∨ y ∈ xs ∧ key y ≠ key x := by
  grind [update, inj_on_of_nodup_map]

theorem mem_drop : y ∈ drop key k xs ↔ y ∈ xs ∧ key y ≠ k := by
  rw [drop, mem_filter, decide_eq_true_eq]

theorem drop_sublist (k : K) (xs : List V) : (drop key k xs).Sublist xs :=
  filter_sublist

/-- An item and the others are all of them. -/
theorem perm_drop (hxs : (xs.map key).Nodup) (hx : x ∈ xs) :
    xs.Perm (x :: drop key (key x) xs) := by
  have hnodup : xs.Nodup := hxs.of_map key
  have hnot : x ∉ drop key (key x) xs := fun h => (mem_drop.mp h).2 rfl
  refine (perm_ext_iff_of_nodup hnodup
    (nodup_cons.mpr ⟨hnot, hnodup.sublist (drop_sublist _ _)⟩)).mpr fun y => ?_
  grind [mem_drop, inj_on_of_nodup_map]

theorem mem_of_find (h : xs.find? (fun y => key y = k) = some x) : x ∈ xs ∧ key x = k := by
  have hkey := List.find?_some h
  simp only [decide_eq_true_eq] at hkey
  exact ⟨mem_of_find?_eq_some h, hkey⟩

theorem find_of_mem (hxs : (xs.map key).Nodup) (hx : x ∈ xs) :
    xs.find? (fun y => key y = key x) = some x := by
  rcases hfind : xs.find? (fun y => key y = key x) with _ | other
  · exact absurd (decide_eq_true rfl) (List.find?_eq_none.mp hfind x hx)
  · rcases mem_of_find hfind with ⟨hother, hkey⟩
    rw [inj_on_of_nodup_map hxs hother hx hkey]

/-- A change that makes no item one of a kind makes them no more. -/
theorem countP_update_le (key : V → K) (hf : ∀ x, p (f x) = false) (k : K) (xs : List V) :
    (update key k f xs).countP p ≤ xs.countP p := by
  rw [update, countP_map]
  refine countP_mono_left fun x _ hx => ?_
  grind

/-- If the changed item was of the kind, they are fewer. -/
theorem countP_update_lt (hf : ∀ x, p (f x) = false) (hx : x ∈ xs) (hp : p x = true) :
    (update key (key x) f xs).countP p < xs.countP p := by
  obtain ⟨before, after, rfl⟩ := append_of_mem hx
  have hbefore := countP_update_le key hf (key x) before
  have hafter := countP_update_le key hf (key x) after
  simp only [update, map_append, map_cons, countP_append, countP_cons,
    if_true, hf, hp, Bool.false_eq_true, if_false] at hbefore hafter ⊢
  omega

end Roster

variable {K V E : Type} [DecidableEq K] {key : V → K} {entry : V → E} {may must : V → Prop}

/-- Entries are of items that may be listed, and items that must be listed have theirs. -/
structure Mirrors (entry : V → E) (may must : V → Prop) (items : List V) (register : List E) :
    Prop where
  sound : ∀ e ∈ register, ∃ x ∈ items, entry x = e ∧ may x
  complete : ∀ x ∈ items, must x → entry x ∈ register

namespace Mirrors

variable {items : List V} {register register' : List E} {x : V}

variable (h : Mirrors entry may must items register)
include h

/-- If no other item has the same entry, the item of a listed entry may be listed. -/
theorem may_of_mem (hentry : ∀ y ∈ items, entry y = entry x → y = x)
    (hlisted : entry x ∈ register) : may x := by
  rcases h.sound _ hlisted with ⟨y, hy, heq, hmay⟩
  exact hentry y hy heq ▸ hmay

variable {f : V → V}

/-- One item changes, and at most its entry in the register. -/
theorem update (hkeys : (items.map key).Nodup) (hx : x ∈ items) (hsame : entry (f x) = entry x)
    (hentry : ∀ y ∈ items, entry y = entry x → y = x)
    (hothers : ∀ e, e ≠ entry x → (e ∈ register' ↔ e ∈ register))
    (hmay : entry x ∈ register' → may (f x)) (hmust : must (f x) → entry x ∈ register') :
    Mirrors entry may must (Roster.update key (key x) f items) register' where
  sound := by
    intro e he
    by_cases heq : e = entry x
    · exact ⟨f x, (Roster.mem_update hkeys hx).mpr (.inl rfl), hsame.trans heq.symm,
        hmay (heq ▸ he)⟩
    · rcases h.sound e ((hothers e heq).mp he) with ⟨y, hy, rfl, hmay'⟩
      refine ⟨y, (Roster.mem_update hkeys hx).mpr (.inr ⟨hy, fun hkey => heq ?_⟩), rfl, hmay'⟩
      rw [inj_on_of_nodup_map hkeys hy hx hkey]
  complete := by
    intro y hy hmust'
    rcases (Roster.mem_update hkeys hx).mp hy with rfl | ⟨hy, hkey⟩
    · exact hsame ▸ hmust hmust'
    · have hne : entry y ≠ entry x := fun heq => hkey (congrArg key (hentry y hy heq))
      exact (hothers _ hne).mpr (h.complete y hy hmust')

/-- One item changes, and the register stays. -/
theorem keep (hkeys : (items.map key).Nodup) (hx : x ∈ items) (hsame : entry (f x) = entry x)
    (hentry : ∀ y ∈ items, entry y = entry x → y = x) (hmay : may x → may (f x))
    (hmust : must (f x) → must x) :
    Mirrors entry may must (Roster.update key (key x) f items) register :=
  h.update hkeys hx hsame hentry (fun _ _ => Iff.rfl)
    (fun hlisted => hmay (h.may_of_mem hentry hlisted))
    (fun hmust' => h.complete x hx (hmust hmust'))

/-- A new item need not be listed yet. -/
theorem cons (hx : ¬ must x) :
    Mirrors entry may must (x :: items) register where
  sound := by
    intro e he
    rcases h.sound e he with ⟨y, hy, hmay⟩
    exact ⟨y, mem_cons_of_mem _ hy, hmay⟩
  complete := by
    grind [h.complete]

/-- Items that may not be listed are taken off the roster. -/
theorem sublist {items' : List V} (hitems : items'.Sublist items)
    (hmay : ∀ x ∈ items, may x → x ∈ items') :
    Mirrors entry may must items' register where
  sound := by
    intro e he
    rcases h.sound e he with ⟨x, hx, heq, hmay'⟩
    exact ⟨x, hmay x hx hmay', heq, hmay'⟩
  complete := fun x hx hmust => h.complete x (hitems.subset hx) hmust

end Mirrors

end WasmCloud
