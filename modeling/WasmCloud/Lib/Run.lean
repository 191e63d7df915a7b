import Mathlib.Data.List.Basic

/-!
# Runs of a Step Function

A component that handles one event at a time is a step function on a state, and a run of it
is a fold. The rules here turn a fact about one step into a fact about every state of a run.
Steps are total: an action that is not enabled leaves the state alone.

`Along` is a condition that each step has to meet in the state it is taken from, and
`invariant_along` asks the step lemma only for such steps. A state reached on the way is
the end of a shorter run, so a statement about the end of every run is one about every state.
-/

namespace WasmCloud

open List

variable {σ α : Type} (step : σ → α → σ)

/-- The state after a list of actions, the first one first. -/
def runAll (s : σ) (as : List α) : σ :=
  as.foldl step s

/-- Every step of the run meets `good` in the state it is taken from. -/
def Along (step : σ → α → σ) (good : σ → α → Prop) : σ → List α → Prop
  | _, [] => True
  | s, a :: as => good s a ∧ Along step good (step s a) as

/-- The actions are in the order of their times. -/
abbrev InTime {K : Type} [LE K] (time : α → K) : K → List α → Prop :=
  Along (fun _ a => time a) (fun now a => now ≤ time a)

instance Along.decidable (step : σ → α → σ) (good : σ → α → Prop)
    [∀ s a, Decidable (good s a)] : ∀ (s : σ) (as : List α), Decidable (Along step good s as)
  | _, [] => instDecidableTrue
  | s, a :: as =>
    have : Decidable (Along step good (step s a) as) := Along.decidable step good (step s a) as
    inferInstanceAs (Decidable (good s a ∧ Along step good (step s a) as))

@[simp] theorem runAll_nil (s : σ) : runAll step s [] = s := rfl

@[simp] theorem runAll_cons (s : σ) (a : α) (as : List α) :
    runAll step s (a :: as) = runAll step (step s a) as := rfl

theorem runAll_append (s : σ) (as bs : List α) :
    runAll step s (as ++ bs) = runAll step (runAll step s as) bs :=
  foldl_append

theorem along_append (good : σ → α → Prop) (s : σ) (as bs : List α) :
    Along step good s (as ++ bs) ↔
      Along step good s as ∧ Along step good (runAll step s as) bs := by
  induction as generalizing s with
  | nil => simp [Along]
  | cons a as ih => simp only [cons_append, Along, runAll_cons, ih, and_assoc]

variable {as : List α} {s : σ} {good : σ → α → Prop} {step}

theorem along_of_append {bs : List α} (h : Along step good s (as ++ bs)) : Along step good s as :=
  ((along_append step good s as bs).mp h).1

variable {inv : σ → Prop}

/-- An invariant of the steps that meet a condition is one of the runs that do. -/
theorem invariant_along (hstep : ∀ s a, good s a → inv s → inv (step s a))
    (hgood : Along step good s as) (hinit : inv s) : inv (runAll step s as) := by
  induction as generalizing s with
  | nil => exact hinit
  | cons a as ih => exact ih hgood.2 (hstep s a hgood.1 hinit)

/-- An invariant of all steps is an invariant of all runs. -/
theorem invariant_run (hstep : ∀ s a, inv s → inv (step s a)) (as : List α) (hinit : inv s) :
    inv (runAll step s as) := by
  induction as generalizing s with
  | nil => exact hinit
  | cons a as ih => exact ih (hstep s a hinit)

/-- A condition on the actions alone holds along a run of such actions. -/
theorem along_of_forall (h : ∀ a ∈ as, ∀ s, good s a) (s : σ) : Along step good s as := by
  induction as generalizing s with
  | nil => exact trivial
  | cons a as ih =>
    exact ⟨h a (.head _) s, ih (fun b hb => h b (mem_cons_of_mem a hb)) (step s a)⟩

/-- All states of a run are good exactly if all steps meet the condition. -/
theorem throughout_iff_along (hstep : ∀ s a, inv s → (inv (step s a) ↔ good s a)) (hinit : inv s) :
    (∀ done, done <+: as → inv (runAll step s done)) ↔ Along step good s as := by
  induction as generalizing s with
  | nil => simpa [prefix_nil, Along] using hinit
  | cons a as ih =>
    constructor
    · intro h
      have hnext : inv (step s a) := h [a] (cons_prefix_cons.mpr ⟨rfl, nil_prefix⟩)
      refine ⟨(hstep s a hinit).mp hnext, (ih hnext).mp fun done hdone => ?_⟩
      exact h (a :: done) (cons_prefix_cons.mpr ⟨rfl, hdone⟩)
    · rintro ⟨hgood, hrest⟩ done hdone
      cases done with
      | nil => exact hinit
      | cons b done =>
        obtain ⟨rfl, hafter⟩ := cons_prefix_cons.mp hdone
        exact (ih ((hstep s b hinit).mpr hgood)).mpr hrest done hafter

/-- Two systems that take the same actions stay related. -/
theorem simulation_along {τ : Type} {step' : τ → α → τ} {related : σ → τ → Prop}
    (hstep : ∀ s t a, good s a → related s t → related (step s a) (step' t a)) {t : τ}
    (hgood : Along step good s as) (hinit : related s t) :
    related (runAll step s as) (runAll step' t as) := by
  induction as generalizing s t with
  | nil => exact hinit
  | cons a as ih => exact ih hgood.2 (hstep s t a hgood.1 hinit)

end WasmCloud
