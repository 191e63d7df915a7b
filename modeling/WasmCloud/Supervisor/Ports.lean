import WasmCloud.Gateway.Config
import WasmCloud.Lib.Lease
import WasmCloud.Lib.Run

/-!
# Host Ports of Instances

Every instance gets a host port of its own when it is spawned. The allocator keeps the ports
that are free and hands out the smallest.

## Main definitions

* `PortAllocator.allocate`, `PortAllocator.release`: A port is taken and given back.
* `ComponentExecutionModel`, `InstanceState`: How an artifact runs, and the states of an instance.
-/

namespace WasmCloud

open List

abbrev PortAllocator := OrdTable (fun port : Nat => port)

namespace PortAllocator

/-- The ports from `start` to `finish`. -/
def new (start finish : Nat) : PortAllocator :=
  OrdTable.empty.insertAll (List.range' start (finish + 1 - start))

/-- `allocate`: the smallest free port. -/
def allocate (free : PortAllocator) : Except String (Nat × PortAllocator) :=
  match free.entries with
  | [] => .error "port pool exhausted"
  | port :: _ => .ok (port, OrdTable.remove free port)

def release (free : PortAllocator) (port : Nat) : PortAllocator := OrdTable.insert free port

variable {free : PortAllocator} {port : Nat}

theorem mem_release (x : Nat) : x ∈ free.release port ↔ x = port ∨ x ∈ free := by
  rw [release, OrdTable.mem_insert]
  by_cases hx : x = port <;> simp [hx]

theorem allocate_ok {rest : PortAllocator} (h : free.allocate = .ok (port, rest)) :
    port ∈ free ∧ ∀ x, x ∈ rest ↔ x ∈ free ∧ x ≠ port := by
  unfold allocate at h
  split at h
  · cases h
  · rename_i first others hentries
    cases h
    have hport : port ∈ free.entries := hentries ▸ mem_cons_self
    exact ⟨hport, fun x => OrdTable.mem_remove⟩

end PortAllocator

inductive ComponentExecutionModel where
  | wasiCli
  | wasiHttpIncomingHandler
  deriving DecidableEq, Repr

/-- The states of an instance in a pool or in a shutdown. -/
inductive InstanceState where
  | ready
  | draining
  | stopping
  | exitTimedOut
  deriving DecidableEq, Repr

/-- The states in which an instance waits to be collected. -/
def InstanceState.fenced : InstanceState → Bool
  | .draining | .stopping | .exitTimedOut => true
  | .ready => false

def portApp : AppId := ⟨"default/api:v1"⟩

end WasmCloud
