import Mathlib.Logic.Basic

/-!
# A Cell with Revisions

One key of a store that numbers its writes. A value can be created when there is none,
and replaced by whoever names the revision that is there. A value can also expire, and
then no revision is there. Revisions only grow, so one that was replaced or has expired
never comes back.
-/

namespace WasmCloud

/-- A value with its revision, or nothing. `next` is the next revision. -/
structure RevCell (V : Type) where
  entry : Option (Nat × V)
  next : Nat
  fresh : ∀ e ∈ entry, e.1 < next

namespace RevCell

variable {V : Type}

/-- Nothing was written. -/
def empty : RevCell V := ⟨none, 1, nofun⟩

/-- A write. -/
def put (c : RevCell V) (v : V) : RevCell V :=
  ⟨some (c.next, v), c.next + 1, fun e h => by cases h; exact Nat.lt_succ_self _⟩

/-- Write where there is nothing. -/
def create (c : RevCell V) (v : V) : Option (RevCell V) :=
  match c.entry with
  | none => some (c.put v)
  | some _ => none

/-- Replace the revision that is there. -/
def update (c : RevCell V) (revision : Nat) (v : V) : Option (RevCell V) :=
  match c.entry with
  | none => none
  | some (current, _) => if current = revision then some (c.put v) else none

/-- The value disappears. -/
def expire (c : RevCell V) : RevCell V := ⟨none, c.next, nofun⟩

variable {c c' : RevCell V} {v : V}

theorem create_eq_some_iff : c.create v = some c' ↔ c.entry = none ∧ c.put v = c' := by
  cases hentry : c.entry <;> simp [create, hentry]

theorem update_eq_some_iff {revision : Nat} :
    c.update revision v = some c' ↔ (∃ old, c.entry = some (revision, old)) ∧ c.put v = c' := by
  rcases hentry : c.entry with _ | ⟨current, old⟩
  · simp [update, hentry]
  · simp [update, hentry]

end RevCell

end WasmCloud
