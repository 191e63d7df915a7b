import Mathlib.Data.List.Nodup
import Mathlib.Data.List.Perm.Basic

/-!
# Exclusive Leases

Resources handed out from a free set. A lease is an owner with a resource; the
leases held are those that have not been given back.

## Main definitions

* `Exclusive`: The leases held are of distinct resources, none of them free.

## Theorems

* `Exclusive.acquire`, `Exclusive.release`: A lease is taken, and given back.
* `Exclusive.forget`: Leases are lost together with their resources.
-/

namespace WasmCloud

open List

variable {O R : Type}

/-- The leases held are of distinct resources, and none of these is free. -/
structure Exclusive (free : R → Prop) (held : List (O × R)) : Prop where
  distinct : (held.map Prod.snd).Nodup
  notFree : ∀ lease ∈ held, ¬ free lease.2

namespace Exclusive

variable {free free' : R → Prop} {held held' : List (O × R)}

/-- A lease on a free resource is taken. -/
theorem acquire (h : Exclusive free held) {o : O} {r : R} (hr : free r)
    (hfree : ∀ x, free' x ↔ free x ∧ x ≠ r) : Exclusive free' ((o, r) :: held) where
  distinct := by
    rw [map_cons, nodup_cons]
    refine ⟨fun hmem => ?_, h.distinct⟩
    rcases mem_map.mp hmem with ⟨lease, hlease, heq⟩
    have hnot := h.notFree lease hlease
    rw [heq] at hnot
    exact hnot hr
  notFree := by
    intro lease hlease hf
    rcases mem_cons.mp hlease with rfl | hlease
    · exact ((hfree _).mp hf).2 rfl
    · exact h.notFree lease hlease ((hfree _).mp hf).1

/-- A lease is given back, and its resource is free again. -/
theorem release (h : Exclusive free held) {lease : O × R} (hheld : held.Perm (lease :: held'))
    (hfree : ∀ x, free' x ↔ x = lease.2 ∨ free x) : Exclusive free' held' := by
  have hnodup := ((hheld.map Prod.snd).nodup_iff).mp h.distinct
  rw [map_cons, nodup_cons] at hnodup
  refine ⟨hnodup.2, fun other hother hf => ?_⟩
  rcases (hfree _).mp hf with heq | hf
  · exact hnodup.1 (heq ▸ mem_map_of_mem hother)
  · exact h.notFree other (hheld.mem_iff.mpr (.tail _ hother)) hf

/-- Leases are forgotten, and their resources do not become free. -/
theorem forget (h : Exclusive free held) (hheld : held'.Sublist held) : Exclusive free held' where
  distinct := h.distinct.sublist (hheld.map Prod.snd)
  notFree := fun lease hlease => h.notFree lease (hheld.subset hlease)

end Exclusive

end WasmCloud
