import Mathlib.Algebra.Order.Ring.Nat
import WasmCloud.Lib.Roster
import WasmCloud.Lib.Run

/-!
# The Health of the NATS Connection

A probe and the kernel monitor report the connection, each from its own thread. A report swaps
the flag and, if it changed it, sends the other mode to whoever watches. Between the two another
report can swap and send, and then the mode that was sent last is not that of the flag. It stays
so, since a report that changes nothing sends nothing.
-/

namespace WasmCloud

structure NatsHealth where
  connected : Bool
  lastConnectedAt : Nat
  degradedMode : Bool
  deriving DecidableEq, Repr

/-- How far a report is. `edge` says whether it changed the flag. -/
inductive MarkPoint where
  | called
  | swapped (edge : Bool)
  | stored (edge : Bool)
  | returned
  deriving DecidableEq, Repr

/-- A call of `mark_connected` or of `mark_disconnected`. -/
structure MarkCall where
  connected : Bool
  point : MarkPoint
  deriving DecidableEq, Repr

structure NatsReports where
  health : NatsHealth
  calls : List MarkCall
  deriving DecidableEq, Repr

/-- Something happens: a call begins, or one makes its next access. -/
inductive ReportAction where
  | mark (connected : Bool)
  | advance (call now : Nat)
  deriving DecidableEq, Repr

namespace NatsHealth

/-- `NatsHealth::new`. -/
def new (now : Nat) : NatsHealth := ⟨false, now, false⟩

/-- `degraded_mode_tx.send`, if the call changed the flag. -/
def send (health : NatsHealth) (edge degraded : Bool) : NatsHealth :=
  if edge then { health with degradedMode := degraded } else health

/-- The next access of a call. Only `mark_connected` stores the time. -/
def access (health : NatsHealth) (now : Nat) (call : MarkCall) : NatsHealth × MarkPoint :=
  match call.point, call.connected with
  | .called, connected =>
    ({ health with connected }, .swapped (decide (health.connected ≠ connected)))
  | .swapped edge, true => ({ health with lastConnectedAt := now }, .stored edge)
  | .swapped edge, false => (health.send edge true, .returned)
  | .stored edge, connected => (health.send edge (!connected), .returned)
  | .returned, _ => (health, .returned)

end NatsHealth

namespace MarkCall

def hasSwapped (call : MarkCall) : Bool := decide (call.point ≠ .called)

/-- The call has changed the flag to `connected` and has still to send. -/
def toSend (connected : Bool) (call : MarkCall) : Bool :=
  decide (call.connected = connected ∧ (call.point = .swapped true ∨ call.point = .stored true))

end MarkCall

namespace NatsReports

def new (now : Nat) : NatsReports := ⟨.new now, []⟩

variable (s : NatsReports)

/-- How many calls have still to send that the flag is on, or off. -/
def sends (connected : Bool) : Nat :=
  s.calls.countP (MarkCall.toSend connected)

def swaps : Nat :=
  s.calls.countP MarkCall.hasSwapped

def step : ReportAction → NatsReports
  | .mark connected => { s with calls := s.calls ++ [⟨connected, .called⟩] }
  | .advance i now =>
    match s.calls[i]? with
    | none => s
    | some call =>
      let (health, point) := s.health.access now call
      ⟨health, s.calls.set i { call with point }⟩

/-- The first report to swap is of a connection, and a report that changes the flag swaps when
    none has still to send. -/
def Ordered : ReportAction → Prop
  | .mark _ => True
  | .advance i _ => ∀ connected, s.calls[i]? = some ⟨connected, .called⟩ →
      (connected = true ∨ 0 < s.swaps) ∧
      (connected = s.health.connected ∨ s.sends true = 0 ∧ s.sends false = 0)

instance (s : NatsReports) : DecidablePred (Ordered s)
  | .mark _ => instDecidableTrue
  | .advance i _ => inferInstanceAs (Decidable (∀ _, s.calls[i]? = some _ → _ ∧ _))

/-- What is still to be sent is what the flag is, and the mode is that of the flag or is still to
    be sent. -/
structure Agrees (health : NatsHealth) (ups downs swaps : Nat) : Prop where
  up : 0 < ups → health.connected = true
  down : 0 < downs → health.connected = false
  fresh : swaps = 0 → health.connected = false
  mode : 0 < swaps → health.degradedMode = !health.connected ∨ 0 < ups + downs

theorem agrees_access {health : NatsHealth} {ups downs swaps ups' downs' swaps' now : Nat}
    {call next : MarkCall} (h : Agrees health ups downs swaps)
    (hnext : next = { call with point := (health.access now call).2 })
    (hups : ups' + (call.toSend true).toNat = ups + (next.toSend true).toNat)
    (hdowns : downs' + (call.toSend false).toNat = downs + (next.toSend false).toNat)
    (hswaps : swaps' + call.hasSwapped.toNat = swaps + next.hasSwapped.toNat)
    (hswapped : call.hasSwapped = true → 0 < swaps)
    (hordered : call.point = .called → (call.connected = true ∨ 0 < swaps) ∧
      (call.connected = health.connected ∨ ups = 0 ∧ downs = 0)) :
    Agrees (health.access now call).1 ups' downs' swaps' := by
  obtain ⟨hup, hdown, hfresh, hmode⟩ := h
  obtain ⟨connected, point⟩ := call
  subst hnext
  cases point with
  | called =>
    constructor <;> cases connected <;>
      grind -ring -linarith [NatsHealth.access, MarkCall.toSend, MarkCall.hasSwapped]
  | swapped edge | stored edge =>
    constructor <;> cases connected <;> cases edge <;>
      grind -ring -linarith
        [NatsHealth.access, NatsHealth.send, MarkCall.toSend, MarkCall.hasSwapped]
  | returned =>
    constructor <;>
      grind -ring -linarith [NatsHealth.access, MarkCall.toSend, MarkCall.hasSwapped]

theorem agrees_step (a : ReportAction) (hordered : Ordered s a)
    (h : Agrees s.health (s.sends true) (s.sends false) s.swaps) :
    Agrees (s.step a).health ((s.step a).sends true) ((s.step a).sends false) (s.step a).swaps := by
  cases a with
  | mark connected =>
    simpa [step, sends, swaps, List.countP_append, MarkCall.toSend, MarkCall.hasSwapped] using h
  | advance i now =>
    rw [step]
    cases hcall : s.calls[i]? with
    | none => exact h
    | some call =>
      refine agrees_access h rfl (Roster.countP_set hcall _ _) (Roster.countP_set hcall _ _)
        (Roster.countP_set hcall _ _) (fun hswapped => ?_) (fun hpoint => ?_)
      · exact List.countP_pos_iff.mpr ⟨call, List.mem_of_getElem? hcall, hswapped⟩
      · exact hordered call.connected (hpoint ▸ hcall)

/-- **The mode is that of the flag** once all calls of a run have returned, if the run begins with
    a connection and no report changes the flag before the last one to do so has sent. -/
theorem degraded_iff_disconnected (start : Nat) (actions : List ReportAction)
    (hordered : Along step Ordered (new start) actions) :
    let s := runAll step (new start) actions
    s.calls ≠ [] → (∀ call ∈ s.calls, call.point = .returned) →
      (s.health.degradedMode = true ↔ s.health.connected = false) := by
  intro s hsome hall
  obtain ⟨-, -, -, hmode⟩ := invariant_along agrees_step hordered
    ⟨nofun, nofun, fun _ => rfl, nofun⟩
  obtain ⟨call, hmem⟩ := List.exists_mem_of_ne_nil _ hsome
  have hsent : ∀ connected, s.sends connected = 0 := fun connected =>
    List.countP_eq_zero.mpr fun call hmem => by simp [MarkCall.toSend, hall call hmem]
  have hswaps : 0 < s.swaps :=
    List.countP_pos_iff.mpr ⟨call, hmem, by simp [MarkCall.hasSwapped, hall call hmem]⟩
  rcases hmode hswaps with heq | hpos
  · simp [heq, s]
  · exact absurd hpos (by simp [hsent, s])

/-- The node starts connected, and the monitor finds it disconnected. -/
def lost : List ReportAction :=
  [.mark true, .advance 0 1, .advance 0 1, .advance 0 1, .mark false, .advance 1 2, .advance 1 2]

theorem degraded_when_lost :
    (runAll step (new 0) lost).health = ⟨false, 1, true⟩ ∧
      ((runAll step (new 0) lost).health.degradedMode = true ↔
        (runAll step (new 0) lost).health.connected = false) :=
  ⟨rfl, degraded_iff_disconnected 0 lost (by decide) (by decide) (by decide)⟩

/-- A probe has swapped the flag back, the monitor reports again, and the probe sends last. -/
theorem late_send :
    let s := runAll step (new 0) (lost ++ [.mark true, .advance 2 3, .mark false, .advance 3 3,
      .advance 3 3, .advance 2 3, .advance 2 3])
    (∀ call ∈ s.calls, call.point = .returned) ∧
      s.health.connected = false ∧ s.health.degradedMode = false := by
  decide

end NatsReports

end WasmCloud
