import Mathlib.Data.List.Basic

/-!
# Terminated Pieces

A record that is written one field to a line is a list of pieces, each followed by the
same symbol. What is written can be read back only if the pieces do not hold the symbol
themselves, and whoever reads it cannot tell whether they do.

The rules here say how far such a text determines its pieces. Two ways of cutting a
text into equally many pieces agree if neither has the symbol in a piece, and for that
it is enough to know one of them: the symbols that end pieces are as many on both
sides, so none is left over for the other's pieces. One piece that is the same on both
sides may hold anything.
-/

namespace WasmCloud

open List

variable {α : Type}

/-- Pieces, each followed by a symbol. -/
def terminated (sep : α) (pieces : List (List α)) : List α :=
  pieces.flatMap (fun piece => piece ++ [sep])

@[simp] theorem terminated_cons (sep : α) (piece : List α) (pieces : List (List α)) :
    terminated sep (piece :: pieces) = piece ++ sep :: terminated sep pieces := by
  rw [terminated, flatMap_cons, append_assoc, singleton_append, terminated]

theorem terminated_append (sep : α) (xs ys : List (List α)) :
    terminated sep (xs ++ ys) = terminated sep xs ++ terminated sep ys :=
  flatMap_append

variable {sep : α}

/-- Where the first symbol is, does not depend on how the text is cut. -/
theorem append_sep_inj {p q s t : List α} (hp : sep ∉ p) (hq : sep ∉ q)
    (h : p ++ sep :: s = q ++ sep :: t) : p = q ∧ s = t := by
  induction p generalizing q with
  | nil =>
    cases q with
    | nil => exact ⟨rfl, (List.cons.injEq _ _ _ _ ▸ h).2⟩
    | cons d ds =>
      rw [nil_append, cons_append, List.cons.injEq] at h
      exact absurd (h.1 ▸ (.head _)) hq
  | cons c cs ih =>
    cases q with
    | nil =>
      rw [nil_append, cons_append, List.cons.injEq] at h
      exact absurd (h.1 ▸ (.head _)) hp
    | cons d ds =>
      rw [cons_append, cons_append, List.cons.injEq] at h
      have hrest := ih (fun hmem => hp (.tail _ hmem)) (fun hmem => hq (.tail _ hmem)) h.2
      exact ⟨by rw [h.1, hrest.1], hrest.2⟩

/-- Pieces without the symbol at the start of a text are determined by their number. -/
theorem terminated_append_inj {xs ys : List (List α)} {s t : List α} (hxs : ∀ x ∈ xs, sep ∉ x)
    (hys : ∀ y ∈ ys, sep ∉ y) (hlen : xs.length = ys.length)
    (h : terminated sep xs ++ s = terminated sep ys ++ t) : xs = ys ∧ s = t := by
  induction xs generalizing ys with
  | nil =>
    rw [eq_nil_of_length_eq_zero hlen.symm] at h ⊢
    exact ⟨rfl, h⟩
  | cons x xs ih =>
    cases ys with
    | nil => cases hlen
    | cons y ys =>
      rw [terminated_cons, terminated_cons, append_assoc, append_assoc,
        cons_append, cons_append] at h
      have hcut := append_sep_inj (hxs x (.head _)) (hys y (.head _)) h
      have hrest := ih (fun z hz => hxs z (.tail _ hz))
        (fun z hz => hys z (.tail _ hz)) (Nat.succ.inj hlen) hcut.2
      exact ⟨by rw [hcut.1, hrest.1], hrest.2⟩

variable [DecidableEq α]

/-- One symbol for each piece, and those inside the pieces. -/
theorem count_terminated (sep : α) (pieces : List (List α)) :
    (terminated sep pieces).count sep = pieces.length + pieces.flatten.count sep := by
  induction pieces with
  | nil => rfl
  | cons piece pieces ih =>
    rw [terminated_cons, count_append, count_cons_self, ih, flatten_cons, count_append, length_cons]
    omega

theorem count_flatten_eq_zero {pieces : List (List α)} :
    pieces.flatten.count sep = 0 ↔ ∀ piece ∈ pieces, sep ∉ piece := by
  simp [count_eq_zero, mem_flatten]

/-- The pieces around a known one are determined by their numbers. -/
theorem terminated_inj_around {front front' back back' : List (List α)} {p : List α}
    (hfront : ∀ piece ∈ front, sep ∉ piece) (hback : ∀ piece ∈ back, sep ∉ piece)
    (hlen : front.length = front'.length) (hlen' : back.length = back'.length)
    (h : terminated sep (front ++ p :: back) = terminated sep (front' ++ p :: back')) :
    front = front' ∧ back = back' := by
  -- No symbol is left for the pieces of the other way.
  have hcount := congrArg (List.count sep) h
  rw [count_terminated, count_terminated, flatten_append, flatten_append,
    flatten_cons, flatten_cons, count_append, count_append,
    count_append, count_append, length_append, length_append,
    length_cons, length_cons, count_flatten_eq_zero.mpr hfront,
    count_flatten_eq_zero.mpr hback] at hcount
  have hfront' : ∀ piece ∈ front', sep ∉ piece := count_flatten_eq_zero.mp (by omega)
  have hback' : ∀ piece ∈ back', sep ∉ piece := count_flatten_eq_zero.mp (by omega)
  rw [terminated_append, terminated_append] at h
  rcases terminated_append_inj hfront hfront' hlen h with ⟨hfronts, hrest⟩
  rw [terminated_cons, terminated_cons, append_cancel_left_eq, List.cons.injEq] at hrest
  have hbacks : terminated sep back ++ [] = terminated sep back' ++ [] := by
    rw [hrest.2]
  exact ⟨hfronts, (terminated_append_inj hback hback' hlen' hbacks).1⟩

end WasmCloud
