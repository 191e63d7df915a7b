import Mathlib.Algebra.BigOperators.Fin
import WasmCloud.Lib.Run

/-!
# The Memory Limiter

Wasmtime asks the limiter of a store before one of its linear memories grows, and names the
size it has and the size it is to get. The limiter remembers the size it last granted, to
whichever memory. For a store with one memory that is the memory in use, and the cap holds for
it. With more memories each is held to the cap on its own.

A module may have any number of memories, and a store any number of modules.
-/

namespace WasmCloud

/-- The counters of the policy that the limiter reports to. -/
structure MemoryCounters where
  memoryGrowthDeniedTotal : Nat
  currentMemoryBytes : Nat
  memoryBytesPeak : Nat
  deriving DecidableEq, Repr

/-- `MemoryLimiter`, without the tables. -/
structure MemoryLimiter where
  maxMemory : Nat
  memoryUsed : Nat
  policyCounters : Option MemoryCounters
  deriving DecidableEq, Repr

/-- `MemoryPages::to_bytes`. -/
def pagesToBytes (pages : Nat) : Nat := pages * 65536

namespace MemoryLimiter

def new (limit : Nat) (policyCounters : Option MemoryCounters) : MemoryLimiter :=
  ⟨pagesToBytes limit, 0, policyCounters⟩

def currentMemory (l : MemoryLimiter) : Nat := l.memoryUsed

def recordMemoryGrowthDenied (l : MemoryLimiter) : MemoryLimiter :=
  { l with policyCounters := l.policyCounters.map fun k =>
      { k with memoryGrowthDeniedTotal := k.memoryGrowthDeniedTotal + 1 } }

def recordMemoryGrowth (l : MemoryLimiter) (desired : Nat) : MemoryLimiter :=
  { l with policyCounters := l.policyCounters.map fun k =>
      { k with
        currentMemoryBytes := desired
        memoryBytesPeak := max k.memoryBytesPeak desired } }

/-- `memory_growing`. The current size is not looked at. -/
def memoryGrowing (l : MemoryLimiter) (_current desired : Nat) : MemoryLimiter × Bool :=
  if l.maxMemory < desired then (l.recordMemoryGrowthDenied, false)
  else (({ l with memoryUsed := desired }).recordMemoryGrowth desired, true)

end MemoryLimiter

/-- A store with `n` memories. -/
structure MemoryStore (n : Nat) where
  limiter : MemoryLimiter
  sizes : Fin n → Nat

variable {n : Nat}

/-- One of the memories is to get another size, and gets it if the limiter grants it. -/
def MemoryStore.grow (s : MemoryStore n) (call : Fin n × Nat) : MemoryStore n :=
  let (limiter, granted) := s.limiter.memoryGrowing (s.sizes call.1) call.2
  ⟨limiter, if granted then Function.update s.sizes call.1 call.2 else s.sizes⟩

def MemoryStore.new (n limit : Nat) (policyCounters : Option MemoryCounters) : MemoryStore n :=
  ⟨.new limit policyCounters, fun _ => 0⟩

/-- The memories together are within the cap, and the limiter knows how large they are. -/
def MemoryStore.Capped (s : MemoryStore n) : Prop :=
  ∑ i, s.sizes i ≤ s.limiter.maxMemory ∧ s.limiter.currentMemory = ∑ i, s.sizes i

/-- A size that is granted is one for the only memory that is not empty. -/
def MemoryStore.OnlyMemory (s : MemoryStore n) (call : Fin n × Nat) : Prop :=
  call.2 ≤ s.limiter.maxMemory → ∀ i, i ≠ call.1 → s.sizes i = 0

theorem grow_of_le {s : MemoryStore n} {call : Fin n × Nat} (h : call.2 ≤ s.limiter.maxMemory) :
    (s.grow call).sizes = Function.update s.sizes call.1 call.2 ∧
      (s.grow call).limiter.currentMemory = call.2 ∧
      (s.grow call).limiter.maxMemory = s.limiter.maxMemory := by
  simp only [MemoryStore.grow, MemoryLimiter.memoryGrowing, if_neg (Nat.not_lt.mpr h)]
  exact ⟨rfl, rfl, rfl⟩

theorem grow_of_lt {s : MemoryStore n} {call : Fin n × Nat} (h : s.limiter.maxMemory < call.2) :
    (s.grow call).sizes = s.sizes ∧ (s.grow call).limiter.currentMemory = s.limiter.currentMemory ∧
      (s.grow call).limiter.maxMemory = s.limiter.maxMemory := by
  simp only [MemoryStore.grow, MemoryLimiter.memoryGrowing, if_pos h]
  exact ⟨rfl, rfl, rfl⟩

theorem capped_grow_iff (s : MemoryStore n) (call : Fin n × Nat) (h : s.Capped) :
    (s.grow call).Capped ↔ s.OnlyMemory call := by
  unfold MemoryStore.Capped MemoryStore.OnlyMemory
  rcases Nat.lt_or_ge s.limiter.maxMemory call.2 with hlt | hle
  · obtain ⟨hsizes, hused, hmax⟩ := grow_of_lt hlt
    rw [hsizes, hused, hmax]
    exact iff_of_true h fun hle => absurd hle (Nat.not_le.mpr hlt)
  · obtain ⟨hsizes, hused, hmax⟩ := grow_of_le hle
    have hothers : ∑ i ∈ Finset.univ \ {call.1}, s.sizes i = 0 ↔
        ∀ i, i ≠ call.1 → s.sizes i = 0 := by simp
    rw [hsizes, hused, hmax, Finset.sum_update_of_mem (Finset.mem_univ call.1)]
    rw [← hothers]
    constructor
    · rintro ⟨-, hsum⟩ -
      omega
    · intro hzero
      have := hzero hle
      omega

theorem capped_new (n limit : Nat) (policyCounters : Option MemoryCounters) :
    (MemoryStore.new n limit policyCounters).Capped := by
  simp [MemoryStore.new, MemoryStore.Capped, MemoryLimiter.new, MemoryLimiter.currentMemory]

/-- The cap holds for the store, and what the limiter knows is right, after every call of a
    sequence exactly if at every call that is granted the other memories are empty. -/
theorem memory_cap_iff (n limit : Nat) (policyCounters : Option MemoryCounters)
    (calls : List (Fin n × Nat)) :
    (∀ done, done <+: calls → (runAll MemoryStore.grow (.new n limit policyCounters) done).Capped) ↔
    Along MemoryStore.grow MemoryStore.OnlyMemory (.new n limit policyCounters) calls :=
  throughout_iff_along capped_grow_iff (capped_new n limit policyCounters)

/-- Two memories of one page each, where one page is allowed. -/
theorem memory_cap_exceeded :
    let s := runAll MemoryStore.grow (.new 2 1 none) [(0, 65536), (1, 65536)]
    ∑ i, s.sizes i = 131072 ∧ s.limiter.maxMemory = 65536 ∧ s.limiter.currentMemory = 65536 ∧
      ¬s.Capped := by
  refine ⟨rfl, rfl, rfl, fun h => ?_⟩
  nomatch h.1

end WasmCloud
