import Mathlib.Data.List.Nodup

/-!
# Commit Orders

Calls that overlap are serialisable when what they leave behind could also have come from
making them one after the other. The order need not be that in which they began or
returned; it is that in which they took effect.

A proof of it follows the run. As long as no call takes effect, nothing is to be shown.
When one does, its effect has to be that on the state as it is now, and it comes last in
the order: `Serial.commit`.
-/

namespace WasmCloud

variable {σ ι : Type} {apply : ι → σ → σ} {start s : σ} {finished finished' : ι → Prop}

/-- The state after calls that are made one after the other. -/
def runCalls (apply : ι → σ → σ) (start : σ) (order : List ι) : σ :=
  order.foldl (fun s i => apply i s) start

/-- Some order of the finished calls leads to the state. -/
def Serial (apply : ι → σ → σ) (start : σ) (finished : ι → Prop) (s : σ) : Prop :=
  ∃ order : List ι, order.Nodup ∧ (∀ i, i ∈ order ↔ finished i) ∧ s = runCalls apply start order

theorem serial_start (hnone : ∀ i, ¬ finished i) : Serial apply start finished start :=
  ⟨[], List.nodup_nil, fun i => iff_of_false List.not_mem_nil (hnone i), rfl⟩

theorem Serial.congr (h : Serial apply start finished s) (hsame : ∀ i, finished' i ↔ finished i) :
    Serial apply start finished' s := by
  rcases h with ⟨order, hnodup, hmem, hs⟩
  exact ⟨order, hnodup, fun i => (hmem i).trans (hsame i).symm, hs⟩

/-- A call that takes effect comes last. -/
theorem Serial.commit (h : Serial apply start finished s) {i : ι} (hi : ¬ finished i)
    (hmore : ∀ j, finished' j ↔ finished j ∨ j = i) : Serial apply start finished' (apply i s) := by
  rcases h with ⟨order, hnodup, hmem, hs⟩
  have hnew : i ∉ order := fun hin => hi ((hmem i).mp hin)
  refine ⟨order ++ [i], ?_, fun j => ?_, ?_⟩
  · rw [← List.concat_eq_append]
    exact List.Nodup.concat hnew hnodup
  · rw [List.mem_append, List.mem_singleton, hmem, hmore]
  · rw [hs, runCalls, runCalls, List.foldl_append]
    rfl

end WasmCloud
