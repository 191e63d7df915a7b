import Mathlib.Order.Defs.Unbundled

/-!
# Programs That Stop at an Error

A program with effects that returns at its first error leaves behind what it did before.
Such a program is a computation that reads and writes a state and may fail; the state
after a failure is the one at the failing step. The rules here say where a sequence of
steps has failed, and in which state.

`Within` bounds what a computation can do: how the state may change, whether it fails or
not, and which errors it may end with. It is enough to know that of the steps, if the
changes that are allowed compose.
-/

namespace WasmCloud

/-- A computation on a state that may fail. -/
abbrev Attempt (σ ε α : Type) := ExceptT ε (StateM σ) α

namespace Attempt

variable {σ ε α β : Type}

/-- The result, and the state that is left. -/
def exec (x : Attempt σ ε α) (s : σ) : Except ε α × σ := x.run.run s

/-- A step that leaves the state alone. -/
def ofExcept (result : Except ε α) : Attempt σ ε α := ExceptT.mk (pure result)

/-- A step that changes the state. -/
def update (f : σ → σ) : Attempt σ ε Unit := ExceptT.mk (modifyGet fun s => (.ok (), f s))

@[simp] theorem exec_pure (a : α) (s : σ) : (pure a : Attempt σ ε α).exec s = (.ok a, s) := rfl

@[simp] theorem exec_get (s : σ) : (get : Attempt σ ε σ).exec s = (.ok s, s) := rfl

@[simp] theorem exec_ofExcept (result : Except ε α) (s : σ) :
    (ofExcept result : Attempt σ ε α).exec s = (result, s) := rfl

@[simp] theorem exec_update (f : σ → σ) (s : σ) :
    (update f : Attempt σ ε Unit).exec s = (.ok (), f s) := rfl

variable {x : Attempt σ ε α} {t s : σ}

theorem exec_bind_of_error {f : α → Attempt σ ε β} {e : ε} (h : x.exec s = (.error e, t)) :
    (x >>= f).exec s = (.error e, t) := by
  simp only [exec, ExceptT.run_bind, StateT.run_bind] at h ⊢
  rw [h]
  rfl

theorem exec_bind_of_ok {f : α → Attempt σ ε β} {a : α} (h : x.exec s = (.ok a, t)) :
    (x >>= f).exec s = (f a).exec t := by
  simp only [exec, ExceptT.run_bind, StateT.run_bind] at h ⊢
  rw [h]
  rfl

/-- A sequence fails in its first part, or in its second from where that ended. -/
theorem exec_bind_error_iff {f : α → Attempt σ ε β} {u : σ} {e : ε} :
    (x >>= f).exec s = (.error e, u) ↔ x.exec s = (.error e, u) ∨
        ∃ a t, x.exec s = (.ok a, t) ∧ (f a).exec t = (.error e, u) := by
  rcases hx : x.exec s with ⟨e' | a, t⟩
  · rw [exec_bind_of_error hx]
    simp
  · rw [exec_bind_of_ok hx]
    grind

/-- A sequence succeeds if both parts do. -/
theorem exec_bind_ok_iff {f : α → Attempt σ ε β} {u : σ} {b : β} : (x >>= f).exec s = (.ok b, u) ↔
      ∃ a t, x.exec s = (.ok a, t) ∧ (f a).exec t = (.ok b, u) := by
  rcases hx : x.exec s with ⟨e | a, t⟩
  · rw [exec_bind_of_error hx]
    simp
  · grind [exec_bind_of_ok]

/-- Whatever happens, the state changes by `S`, and the errors are among `E`. -/
def Within (S : σ → σ → Prop) (E : ε → Prop) (x : Attempt σ ε α) : Prop :=
  ∀ s r t, x.exec s = (r, t) → S s t ∧ ∀ e, r = .error e → E e

section Within

variable {S : σ → σ → Prop} {E : ε → Prop}

theorem within_bind [IsTrans σ S] {f : α → Attempt σ ε β} (hx : Within S E x)
    (hf : ∀ a, Within S E (f a)) : Within S E (x >>= f) := by
  intro s r u h
  rcases hfirst : x.exec s with ⟨e | a, t⟩
  · rw [exec_bind_of_error hfirst] at h
    cases h
    rcases hx s _ _ hfirst with ⟨hchange, herror⟩
    exact ⟨hchange, fun e' he => herror e' (by cases he; rfl)⟩
  · rw [exec_bind_of_ok hfirst] at h
    rcases hf a t _ _ h with ⟨hchange, herror⟩
    exact ⟨IsTrans.trans _ _ _ (hx s _ _ hfirst).1 hchange, herror⟩

theorem within_pure [Std.Refl S] (a : α) : Within S E (pure a : Attempt σ ε α) := by
  intro s r t h
  cases h
  exact ⟨refl s, fun e he => by cases he⟩

theorem within_get [Std.Refl S] : Within S E (get : Attempt σ ε σ) := by
  intro s r t h
  cases h
  exact ⟨refl s, fun e he => by cases he⟩

theorem within_ofExcept [Std.Refl S] {result : Except ε α}
    (hresult : ∀ e, result = .error e → E e) : Within S E (ofExcept result : Attempt σ ε α) := by
  intro s r t h
  cases h
  exact ⟨refl s, hresult⟩

theorem within_update {f : σ → σ} (hf : ∀ s, S s (f s)) :
    Within S E (update f : Attempt σ ε Unit) := by
  intro s r t h
  cases h
  exact ⟨hf s, fun e he => by cases he⟩

/-- The bounds of the rounds are the bounds of a loop. -/
theorem within_forM [Std.Refl S] [IsTrans σ S] {xs : List α} {f : α → Attempt σ ε Unit}
    (hf : ∀ a ∈ xs, Within S E (f a)) : Within S E (xs.forM f) := by
  induction xs with
  | nil => exact within_pure ()
  | cons a xs ih =>
    exact within_bind (hf a (.head _)) (fun _ => ih (fun b hb => hf b (.tail _ hb)))

/-- A loop that succeeds has done every round within the bounds. -/
theorem forM_ok_reached [Std.Refl S] [IsTrans σ S] {xs : List α} {f : α → Attempt σ ε Unit}
    (hf : ∀ a ∈ xs, Within S E (f a)) (h : (xs.forM f).exec s = (.ok (), t)) :
    ∀ a ∈ xs, ∃ u v, (f a).exec u = (.ok (), v) ∧ S v t := by
  induction xs generalizing s with
  | nil => exact fun a ha => absurd ha List.not_mem_nil
  | cons x xs ih =>
    rcases exec_bind_ok_iff.mp h with ⟨_, u, hfirst, hrest⟩
    have hbounds : ∀ a ∈ xs, Within S E (f a) := fun a ha => hf a (.tail _ ha)
    intro a ha
    rcases List.mem_cons.mp ha with rfl | ha
    · exact ⟨s, u, hfirst, (within_forM hbounds u _ t hrest).1⟩
    · exact ih hbounds hrest a ha

end Within

end Attempt

end WasmCloud
