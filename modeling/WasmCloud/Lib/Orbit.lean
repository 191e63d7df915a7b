import Mathlib.Data.List.Nodup
import Mathlib.Data.List.Perm.Subperm
import Mathlib.Data.Set.Basic

/-!
# Following a Partial Function

What is handed from place to place by a rule that may also keep it where it is: a
partial function `f`, where `f a = none` means that it stays at `a`. The question is
whether it ever comes to rest.

It need not pass a finite number of places, so the answer is not a count. It is a
trap: a set of places each of which hands on to a place of the set. Whatever enters
a trap never leaves it, and a trail that does not end is one, with all the places on
it. So everything comes to rest exactly if no set but the empty one is a trap, and
then no place is passed twice, since a place that comes back to itself is on a trail
that does not end.
-/

namespace WasmCloud

open List

variable {α : Type} (f : α → Option α)

/-- The place after `k` steps. -/
def iter : Nat → α → Option α
  | 0, a => some a
  | k + 1, a => (f a).bind (iter k)

/-- The places passed in at most `k` steps, the first one first. -/
def trail : Nat → α → List α
  | 0, a => [a]
  | k + 1, a => a :: (f a).elim [] (trail k)

/-- The trail ends at a place that keeps what it gets. -/
def Rests (a : α) : Prop := ∃ k last, iter f k a = some last ∧ f last = none

/-- Every place of the set hands on within the set. -/
def Trap (S : Set α) : Prop := ∀ a ∈ S, ∃ b ∈ S, f a = some b

variable {f} {a b : α}

theorem iter_succ_of_some (h : f a = some b) (k : Nat) : iter f (k + 1) a = iter f k b := by
  rw [iter, h]
  rfl

theorem iter_add (j k : Nat) (a : α) : iter f (j + k) a = (iter f j a).bind (iter f k) := by
  induction j generalizing a with
  | zero =>
    rw [Nat.zero_add]
    rfl
  | succ j ih =>
    have hshift : j + 1 + k = j + k + 1 := by omega
    rw [hshift, iter, iter]
    cases hf : f a with
    | none => rfl
    | some b => exact ih b

theorem rests_of_iter_none {k : Nat} (h : iter f k a = none) : Rests f a := by
  induction k generalizing a with
  | zero => nomatch h
  | succ k ih =>
    cases hf : f a with
    | none => exact ⟨0, a, rfl, hf⟩
    | some b =>
      rw [iter_succ_of_some hf] at h
      rcases ih h with ⟨j, last, hj, hlast⟩
      refine ⟨j + 1, last, ?_, hlast⟩
      rw [iter_succ_of_some hf]
      exact hj

theorem Rests.iter_none (h : Rests f a) : ∃ k, iter f k a = none := by
  rcases h with ⟨k, last, hk, hlast⟩
  refine ⟨k + 1, ?_⟩
  rw [iter_add, hk]
  change (f last).bind (iter f 0) = none
  rw [hlast]
  rfl

/-- The places on a trail that does not end are a trap. -/
theorem trap_of_not_rests (h : ¬ Rests f a) : Trap f {b | ∃ k, iter f k a = some b} := by
  rintro b ⟨k, hk⟩
  cases hnext : f b with
  | none => exact absurd ⟨k, b, hk, hnext⟩ h
  | some c =>
    refine ⟨c, ⟨k + 1, ?_⟩, rfl⟩
    rw [iter_add, hk]
    change (f b).bind (iter f 0) = some c
    rw [hnext]
    rfl

theorem Trap.iter_some {S : Set α} (hS : Trap f S) (ha : a ∈ S) (k : Nat) :
    ∃ b ∈ S, iter f k a = some b := by
  induction k generalizing a with
  | zero => exact ⟨a, ha, rfl⟩
  | succ k ih =>
    rcases hS a ha with ⟨b, hb, hf⟩
    rw [iter_succ_of_some hf]
    exact ih hb

theorem Trap.not_rests {S : Set α} (hS : Trap f S) (ha : a ∈ S) : ¬ Rests f a := by
  intro h
  rcases h.iter_none with ⟨k, hk⟩
  rcases hS.iter_some ha k with ⟨b, -, hb⟩
  rw [hk] at hb
  nomatch hb.symm

theorem mem_trail {k : Nat} (h : b ∈ trail f k a) : ∃ j, iter f j a = some b := by
  induction k generalizing a with
  | zero => exact ⟨0, congrArg some (mem_singleton.mp h).symm⟩
  | succ k ih =>
    rcases mem_cons.mp h with rfl | hrest
    · exact ⟨0, rfl⟩
    · cases hf : f a with
      | none =>
        rw [hf] at hrest
        nomatch hrest
      | some c =>
        rw [hf] at hrest
        rcases ih hrest with ⟨j, hj⟩
        refine ⟨j + 1, ?_⟩
        rw [iter_succ_of_some hf]
        exact hj

/-- A place that comes back to itself is on a trail that does not end. -/
theorem not_rests_of_cycle {j : Nat} (h : iter f (j + 1) a = some a) : ¬ Rests f a := by
  -- However far the trail is followed, it can be followed on to where it began.
  have hround : ∀ k, ∃ m, iter f (k + m) a = some a := by
    intro k
    induction k with
    | zero => exact ⟨0, rfl⟩
    | succ k ih =>
      rcases ih with ⟨m, hm⟩
      refine ⟨m + j, ?_⟩
      have hshift : k + 1 + (m + j) = k + m + (j + 1) := by omega
      rw [hshift, iter_add, hm]
      exact h
  intro hrests
  rcases hrests.iter_none with ⟨k, hk⟩
  rcases hround k with ⟨m, hm⟩
  rw [iter_add, hk] at hm
  nomatch hm.symm

theorem Rests.next (h : Rests f a) (hf : f a = some b) : Rests f b := by
  rcases h.iter_none with ⟨k, hk⟩
  cases k with
  | zero => nomatch hk
  | succ k =>
    rw [iter_succ_of_some hf] at hk
    exact rests_of_iter_none hk

/-- A trail that ends passes no place twice. -/
theorem trail_nodup (h : Rests f a) (k : Nat) : (trail f k a).Nodup := by
  induction k generalizing a with
  | zero => exact nodup_singleton a
  | succ k ih =>
    rw [trail]
    cases hf : f a with
    | none => exact nodup_singleton a
    | some b =>
      refine nodup_cons.mpr ⟨fun hmem => ?_, ih (h.next hf)⟩
      rcases mem_trail hmem with ⟨j, hj⟩
      have hcycle : iter f (j + 1) a = some a := by
        rw [iter_succ_of_some hf]
        exact hj
      exact not_rests_of_cycle hcycle h

/-- With finitely many places to hand on from, a trail that passes none of them twice ends. -/
theorem rests_iff_nodup {f : Nat → Option Nat} {n : Nat} (hplaces : ∀ a b, f a = some b → a < n)
    (a : Nat) : Rests f a ↔ (trail f n a).Nodup := by
  refine ⟨fun h => trail_nodup h n, fun hnodup => ?_⟩
  by_contra hnot
  have hlength : ∀ k a, ¬ Rests f a → (trail f k a).length = k + 1 := by
    intro k
    induction k with
    | zero => exact fun _ _ => rfl
    | succ k ih =>
      intro a hnot
      cases hf : f a with
      | none => exact absurd ⟨0, a, rfl, hf⟩ hnot
      | some b =>
        have hrest : ¬ Rests f b := fun ⟨j, last, hj, hlast⟩ =>
          hnot ⟨j + 1, last, by rw [iter_succ_of_some hf, hj], hlast⟩
        rw [trail, hf, length_cons]
        exact congrArg Nat.succ (ih b hrest)
  have hsub : trail f n a ⊆ List.range n := by
    intro b hb
    obtain ⟨j, hj⟩ := mem_trail hb
    cases hf : f b with
    | none => exact absurd ⟨j, b, hj, hf⟩ hnot
    | some c => exact mem_range.mpr (hplaces b c hf)
  have hle := (hnodup.subperm hsub).length_le
  rw [hlength n a hnot, length_range] at hle
  omega

/-- Everything comes to rest, passing no place twice, exactly if there is no trap. -/
theorem rests_iff_no_trap :
    (∀ a, (∀ k, (trail f k a).Nodup) ∧ Rests f a) ↔ ¬ ∃ S : Set α, S.Nonempty ∧ Trap f S := by
  constructor
  · rintro hall ⟨S, ⟨a, ha⟩, hS⟩
    exact hS.not_rests ha (hall a).2
  · intro hnone a
    have hrests : Rests f a := by
      by_contra hnot
      exact hnone ⟨{b | ∃ k, iter f k a = some b}, ⟨a, 0, rfl⟩, trap_of_not_rests hnot⟩
    exact ⟨trail_nodup hrests, hrests⟩

end WasmCloud
