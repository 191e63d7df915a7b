import Mathlib.Algebra.Order.BigOperators.Group.Finset
import Mathlib.Algebra.Order.Ring.Defs
import Mathlib.Data.Fintype.BigOperators

/-!
# Tallies

A quantity that many parties hold a part of is a sum over the parties. A step
of one party moves its part and leaves the others alone, so the sum moves by as
much. `sum_change` says this without subtraction: the new sum and the old part
are together the old sum and the new part. What a step has to be shown to do is
then a fact about one party and the quantity next to it.

The other tally is one over time. If every step that counts takes one away from
a potential, then a run has no more of these than the potential it starts with.
-/

namespace WasmCloud

namespace Tally

variable {ι : Type} {parties : Finset ι} {part part' : ι → Nat} {i : ι}

/-- One party changes its part, and the sum changes with it. -/
theorem sum_change [DecidableEq ι] (hi : i ∈ parties)
    (hothers : ∀ j ∈ parties, j ≠ i → part' j = part j) :
    ∑ j ∈ parties, part' j + part i = ∑ j ∈ parties, part j + part' i := by
  have hold := Finset.add_sum_erase parties part hi
  have hnew := Finset.add_sum_erase parties part' hi
  have hrest : ∑ j ∈ parties.erase i, part' j = ∑ j ∈ parties.erase i, part j :=
    Finset.sum_congr rfl fun j hj =>
      hothers j (Finset.mem_of_mem_erase hj) (Finset.ne_of_mem_erase hj)
  omega

section Update

variable {α : Type} (f : ι → α) (x : α) (part : α → Nat)

/-- One party changes what it holds. -/
theorem sum_update [DecidableEq ι] (hi : i ∈ parties) :
    ∑ j ∈ parties, part (Function.update f i x j) + part (f i) =
      ∑ j ∈ parties, part (f j) + part x := by
  have hsum := sum_change hi fun j _ hj => congrArg part (Function.update_of_ne hj x f)
  rwa [Function.update_self] at hsum

/-- One more party comes. -/
theorem sum_range_update (f : Nat → α) (n : Nat) :
    ∑ j ∈ Finset.range (n + 1), part (Function.update f n x j) =
      ∑ j ∈ Finset.range n, part (f j) + part x := by
  rw [Finset.sum_range_succ, Function.update_self]
  refine congrArg (· + part x) (Finset.sum_congr rfl fun j hj => ?_)
  rw [Function.update_of_ne (Nat.ne_of_lt (Finset.mem_range.mp hj))]

end Update

/-- A part is at most the whole. -/
theorem le_sum (hi : i ∈ parties) : part i ≤ ∑ j ∈ parties, part j :=
  Finset.single_le_sum (fun _ _ => Nat.zero_le _) hi

section Hits

variable {σ α : Type}

/-- How many steps of a run count. -/
def hits (step : σ → α → σ) (hit : σ → α → Bool) : σ → List α → Nat
  | _, [] => 0
  | s, a :: as => (hit s a).toNat + hits step hit (step s a) as

variable {K : Type} [Ring K] [PartialOrder K] [IsOrderedRing K]

/-- What counts in a run comes out of the potential it starts with. -/
theorem hits_le {step : σ → α → σ} {hit : σ → α → Bool} {inv : σ → Prop} {potential : σ → K}
    (hinv : ∀ s a, inv s → inv (step s a)) (hnonneg : ∀ s, inv s → 0 ≤ potential s)
    (hstep : ∀ s a, inv s → ((hit s a).toNat : K) + potential (step s a) ≤ potential s)
    (as : List α) {s : σ} (h : inv s) : (hits step hit s as : K) ≤ potential s := by
  induction as generalizing s with
  | nil =>
    rw [hits, Nat.cast_zero]
    exact hnonneg s h
  | cons a as ih =>
    rw [hits, Nat.cast_add]
    exact (add_le_add_right (ih (hinv s a h)) _).trans (hstep s a h)

end Hits

end Tally

end WasmCloud
