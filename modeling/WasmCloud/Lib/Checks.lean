import Mathlib.Logic.Basic

/-!
# Chains of Fallible Checks

A function that makes one check after the other and returns at the first that
fails is a chain of `Except` computations. The rules here take a chain that
came to its end apart, check by check, so that a proof about it names the
checks and does not unfold the chain.
-/

namespace WasmCloud

variable {ε δ α β : Type}

theorem bind_ok_iff {x : Except ε α} {f : α → Except ε β} {b : β} :
    (x >>= f) = .ok b ↔ ∃ a, x = .ok a ∧ f a = .ok b := by
  rcases x with e | a
  · simp only [bind, Except.bind, reduceCtorEq, false_and, exists_false]
  · simp only [bind, Except.bind, Except.ok.injEq, exists_eq_left']

theorem bind_unit_ok_iff {x : Except ε Unit} {f : Unit → Except ε β} {b : β} :
    (x >>= f) = .ok b ↔ x = .ok () ∧ f () = .ok b := by
  rw [bind_ok_iff]
  exact ⟨fun ⟨_, h⟩ => h, fun h => ⟨(), h⟩⟩

variable {a : α}

theorem pure_ok_iff {b : α} : (pure a : Except ε α) = .ok b ↔ a = b := by
  simp only [pure, Except.pure, Except.ok.injEq]

theorem mapError_ok_iff {f : δ → ε} {x : Except δ α} : x.mapError f = .ok a ↔ x = .ok a := by
  rcases x with e | b
  · change Except.error (f e) = .ok a ↔ _
    exact iff_of_false nofun nofun
  · change Except.ok b = .ok a ↔ _
    rw [Except.ok.injEq, Except.ok.injEq]

variable {e : ε}

/-- A value that is asked for, or a refusal. -/
theorem elim_throw_ok_iff {o : Option α} :
    o.elim (throw e) pure = (.ok a : Except ε α) ↔ o = some a := by
  rcases o with _ | b
  · simp
  · simp [pure_ok_iff]

/-- A check before the rest of a chain. -/
theorem check_ok_iff {c : Bool} {rest : Except ε α} :
    (if c = true then throw e else rest) = .ok a ↔ c = false ∧ rest = .ok a := by
  cases c with
  | true => simp
  | false => simp

/-- What has to hold, or an error. -/
def ensure (c : Prop) [Decidable c] (e : ε) : Except ε Unit := if c then .ok () else .error e

variable {c : Prop}

theorem ensure_ok_iff [Decidable c] {u : Unit} : ensure c e = .ok u ↔ c := by
  by_cases hc : c <;> simp [ensure, hc]

theorem throw_bind {f : α → Except ε β} : ((throw e : Except ε α) >>= f) = throw e := rfl

/-- What follows a check does not matter to a refusal. -/
theorem refuse_bind [Decidable c] {x : Except ε α} {f : α → Except ε β} :
    ((if c then throw e else x) >>= f) = if c then throw e else x >>= f := by
  by_cases hc : c
  · rw [if_pos hc, if_pos hc, throw_bind]
  · rw [if_neg hc, if_neg hc]

end WasmCloud
