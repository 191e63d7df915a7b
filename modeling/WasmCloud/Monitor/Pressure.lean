import Mathlib.Algebra.Order.Ring.Nat
import WasmCloud.Lib.Roster
import WasmCloud.Lib.Run

/-!
# Backpressure and Degraded Mode

The dispatcher keeps its flags in atomics and in one lock, and every event, recovery thread and
worker is a task that makes one access after the other. What a task does between two accesses is
part of the first. Any number of tasks are under way.

Backpressure is released by a low level that follows a higher one, and by a recovery thread
whose event is still the last. Degraded mode is computed from its two causes and swapped
afterwards, so a task can swap in what was true before.

## Main definitions

* `MonitorRun.step`: An event comes, or a task makes its next access.
* `MonitorRun.Quiet`: The causes do not change between a load and the swap that follows it.
* `MonitorRun.Sequential`: Events come as expected, and one at a time.

## Theorems

* `MonitorRun.degraded_mode_consistent`: The mode and the worker, whenever every task rests.
* `MonitorRun.released_when_relieved`: Backpressure and the memory cause are released.
-/

namespace WasmCloud

structure SlowIoRecovery where
  active : Bool
  generation : Nat
  workerRunning : Bool
  deriving DecidableEq, Repr

structure ActionDispatcher where
  backpressureActive : Bool
  degradedMode : Bool
  memoryPressureDegraded : Bool
  slowIoRecovery : SlowIoRecovery
  lastPressureLevel : Nat
  pressureGeneration : Nat
  deriving DecidableEq, Repr

/-- The events that touch the flags, with what is read of them. -/
inductive PressureEvent where
  | processExit (signal : Nat)
  | fdLimitApproaching (currentFdCount fdSoftLimit : Nat)
  | memPressure (level : Nat)
  | diskSlowIo
  deriving DecidableEq, Repr

/-- The next access of a task. -/
inductive MonitorTask where
  | activate
  | addGeneration (level : Nat)
  | swapLevel (level generation : Nat)
  | deactivate
  | activateMedium (generation : Nat)
  | activateCritical
  | storeDegraded (degraded : Bool)
  | markSlowIo
  | loadDegraded (startWorker : Bool)
  | loadSlowIo (startWorker : Bool)
  | swapMode (degraded startWorker : Bool)
  | checkGeneration (generation : Nat)
  | checkLevel
  | storeLevel
  | recover
  | observe
  | asleep (observed : Nat)
  | loadCleared
  | swapCleared
  | done
  deriving DecidableEq, Repr

namespace MonitorTask

/-- A dispatch or an awake recovery thread. -/
@[grind] def underWay : MonitorTask → Bool
  | checkGeneration _ | observe | asleep _ | loadCleared | swapCleared | done => false
  | _ => true

/-- A recovery thread that wakes up. -/
@[grind] def wakes : MonitorTask → Bool
  | checkGeneration _ => true
  | _ => false

/-- The thread has the lock of the slow-I/O state across two accesses. -/
@[grind] def holding : MonitorTask → Bool
  | loadCleared | swapCleared => true
  | _ => false

/-- The access needs the lock. -/
@[grind] def locks : MonitorTask → Bool
  | markSlowIo | loadSlowIo _ | observe | asleep _ => true
  | _ => false

/-- Asleep or finished. -/
@[grind] def resting : MonitorTask → Bool
  | checkGeneration _ | asleep _ | done => true
  | _ => false

/-- The task swaps the mode at its end. -/
@[grind] def refreshing : MonitorTask → Bool
  | loadDegraded _ | loadSlowIo _ | swapMode .. => true
  | _ => false

/-- Between a load of the causes and the swap of the mode. -/
@[grind] def loaded : MonitorTask → Bool
  | loadSlowIo _ | swapMode .. | swapCleared => true
  | _ => false

/-- A worker, or what will start one. -/
@[grind] def working : MonitorTask → Bool
  | loadDegraded start | loadSlowIo start | swapMode _ start => start
  | observe | asleep _ => true
  | _ => false

end MonitorTask

namespace ActionDispatcher

open MonitorTask

def new : ActionDispatcher := ⟨false, false, false, ⟨false, 0, false⟩, 0, 0⟩

/-- What an access does, what the task does next, and the tasks it starts. -/
@[grind] def access (d : ActionDispatcher) :
    MonitorTask → ActionDispatcher × MonitorTask × List MonitorTask
  | activate => ({ d with backpressureActive := true }, done, [])
  | addGeneration level =>
    let generation := (d.pressureGeneration + 1) % 2 ^ 64
    ({ d with pressureGeneration := generation }, swapLevel level generation, [])
  | swapLevel level generation =>
    ({ d with lastPressureLevel := level },
      if level = 0 then if 1 ≤ d.lastPressureLevel then deactivate else storeDegraded false
      else if level = 1 then activateMedium generation
      else if level = 2 then activateCritical
      else done, [])
  | deactivate => ({ d with backpressureActive := false }, storeDegraded false, [])
  | activateMedium generation =>
    ({ d with backpressureActive := true }, done, [checkGeneration generation])
  | activateCritical => ({ d with backpressureActive := true }, storeDegraded true, [])
  | storeDegraded degraded =>
    ({ d with memoryPressureDegraded := degraded }, loadDegraded false, [])
  | markSlowIo =>
    ({ d with slowIoRecovery := ⟨true, (d.slowIoRecovery.generation + 1) % 2 ^ 64, true⟩ },
      loadDegraded !d.slowIoRecovery.workerRunning, [])
  | loadDegraded start =>
    (d, if d.memoryPressureDegraded then swapMode true start else loadSlowIo start, [])
  | loadSlowIo start => (d, swapMode d.slowIoRecovery.active start, [])
  | swapMode degraded start =>
    ({ d with degradedMode := degraded }, done, if start then [observe] else [])
  | checkGeneration generation =>
    (d, if d.pressureGeneration = generation then checkLevel else done, [])
  | checkLevel => (d, if d.lastPressureLevel = 1 then storeLevel else done, [])
  | storeLevel => ({ d with lastPressureLevel := 0 }, recover, [])
  | recover => ({ d with backpressureActive := false }, done, [])
  | observe => (d, asleep d.slowIoRecovery.generation, [])
  | asleep observed =>
    if d.slowIoRecovery.active = false then
      ({ d with slowIoRecovery.workerRunning := false }, done, [])
    else if d.slowIoRecovery.generation ≠ observed then (d, observe, [])
    else ({ d with slowIoRecovery := ⟨false, observed, false⟩ }, loadCleared, [])
  | loadCleared => (d, if d.memoryPressureDegraded then done else swapCleared, [])
  | swapCleared => ({ d with degradedMode := false }, done, [])
  | done => (d, done, [])

/-- The two causes of degraded mode. -/
@[grind] def causes (d : ActionDispatcher) : Bool × Bool :=
  (d.memoryPressureDegraded, d.slowIoRecovery.active)

end ActionDispatcher

namespace PressureEvent

/-- The first access of a dispatch. The ratio of descriptors is above 0.95. -/
def task : PressureEvent → MonitorTask
  | processExit signal => if signal = 9 then .activate else .done
  | fdLimitApproaching count limit => if 19 * limit < 20 * count then .activate else .done
  | memPressure level => .addGeneration level
  | diskSlowIo => .markSlowIo

/-- The event activates backpressure or the memory cause of degraded mode. -/
def activates : PressureEvent → Bool
  | memPressure level => decide (level = 1 ∨ level = 2)
  | event => decide (event.task = .activate)

end PressureEvent

/-- `relieved` is the history: recovery has been published or a low level dispatched, and no
    event that activates anything since. -/
structure MonitorRun where
  dispatcher : ActionDispatcher
  tasks : List MonitorTask
  relieved : Bool
  deriving DecidableEq, Repr

inductive PressureAction where
  | dispatch (event : PressureEvent)
  | advance (task : Nat)
  deriving DecidableEq, Repr

namespace MonitorRun

def new : MonitorRun := ⟨.new, [], false⟩

/-- The task waits for the lock. -/
def waits (s : MonitorRun) (task : MonitorTask) : Bool :=
  task.locks && decide (0 < s.tasks.countP MonitorTask.holding)

def access (s : MonitorRun) (i : Nat) (task : MonitorTask) : MonitorRun :=
  let after := s.dispatcher.access task
  ⟨after.1, s.tasks.set i after.2.1 ++ after.2.2,
    s.relieved || decide (task = .storeDegraded false ∨ task = .recover)⟩

def step (s : MonitorRun) : PressureAction → MonitorRun
  | .dispatch event =>
    { s with tasks := s.tasks ++ [event.task], relieved := s.relieved && !event.activates }
  | .advance i =>
    match s.tasks[i]? with
    | none => s
    | some task => if s.waits task then s else s.access i task

variable {s : MonitorRun} {i : Nat} {task : MonitorTask}

theorem advance_cases (s : MonitorRun) (i : Nat) :
    s.step (.advance i) = s ∧
      (s.tasks[i]?.isSome = true → 0 < s.tasks.countP MonitorTask.holding) ∨
    ∃ task, s.tasks[i]? = some task ∧
      (task.locks = true → s.tasks.countP MonitorTask.holding = 0) ∧
      s.step (.advance i) = s.access i task := by
  grind [step, waits]

theorem countP_access (h : s.tasks[i]? = some task) (p : MonitorTask → Bool) :
    (s.access i task).tasks.countP p + (p task).toNat =
      s.tasks.countP p + (p (s.dispatcher.access task).2.1).toNat +
        (s.dispatcher.access task).2.2.countP p := by
  have hset := Roster.countP_set h p (s.dispatcher.access task).2.1
  rw [access, List.countP_append]
  omega

/-- What holds of the workers in every run. -/
structure Worked (d : ActionDispatcher) (working holding : Nat) : Prop where
  one : working = d.slowIoRecovery.workerRunning.toNat
  running : d.slowIoRecovery.active = true → d.slowIoRecovery.workerRunning = true
  held : 0 < holding → d.slowIoRecovery.active = false

theorem worked_access {d : ActionDispatcher} {w h w' h' : Nat} (hinv : Worked d w h)
    (hw : w' + task.working.toNat = w + (d.access task).2.1.working.toNat +
      (d.access task).2.2.countP MonitorTask.working)
    (hh : h' + task.holding.toNat = h + (d.access task).2.1.holding.toNat +
      (d.access task).2.2.countP MonitorTask.holding)
    (hfree : task.locks = true → h = 0) : Worked (d.access task).1 w' h' := by
  obtain ⟨hone, hrunning, hheld⟩ := hinv
  -- The flag as a number is 0 or 1; the count of workers is compared with it.
  cases hflag : d.slowIoRecovery.workerRunning <;> cases task <;> constructor <;>
    grind -ring -linarith

def WorkedIn (s : MonitorRun) : Prop :=
  Worked s.dispatcher (s.tasks.countP MonitorTask.working) (s.tasks.countP MonitorTask.holding)

theorem worked_step (s : MonitorRun) (a : PressureAction) (h : WorkedIn s) :
    WorkedIn (s.step a) := by
  cases a with
  | dispatch event =>
    have hnone : event.task.working = false ∧ event.task.holding = false := by
      cases event <;> grind [PressureEvent.task]
    simpa [WorkedIn, step, List.countP_append, hnone] using h
  | advance i =>
    rcases advance_cases s i with ⟨heq, -⟩ | ⟨task, htask, hfree, heq⟩
    · rwa [heq]
    · rw [heq]
      exact worked_access h (countP_access htask _) (countP_access htask _) hfree

/-- Degraded mode is what its causes say, or a task is about to swap it. -/
structure Settled (d : ActionDispatcher) (refreshing holding : Nat) : Prop where
  raised : (d.memoryPressureDegraded || d.slowIoRecovery.active) = true →
    d.degradedMode = true ∨ 0 < refreshing
  lowered : d.degradedMode = true →
    (d.memoryPressureDegraded || d.slowIoRecovery.active) = true ∨ 0 < refreshing ∨ 0 < holding

variable (d : ActionDispatcher)

/-- What a task has loaded is what the causes still say. -/
@[grind] def current : MonitorTask → Bool
  | .swapMode degraded _ => degraded == (d.memoryPressureDegraded || d.slowIoRecovery.active)
  | .loadSlowIo _ | .swapCleared => !d.memoryPressureDegraded
  | _ => true

theorem current_access {d : ActionDispatcher} (h : current d task = true) :
    current (d.access task).1 (d.access task).2.1 = true ∧
      ∀ started ∈ (d.access task).2.2, current (d.access task).1 started = true := by
  cases task <;> grind -ring -linarith

theorem current_of_causes {d d' : ActionDispatcher} (hcauses : d'.causes = d.causes)
    (h : current d task = true) : current d' task = true := by
  cases task <;> grind -ring -linarith

theorem current_of_loaded (h : task.loaded = false) : current d task = true := by
  cases task <;> grind -ring -linarith

theorem settled_access {d : ActionDispatcher} {r h r' h' : Nat} (hinv : Settled d r h)
    (hr : r' + task.refreshing.toNat = r + (d.access task).2.1.refreshing.toNat +
      (d.access task).2.2.countP MonitorTask.refreshing)
    (hh : h' + task.holding.toNat = h + (d.access task).2.1.holding.toNat +
      (d.access task).2.2.countP MonitorTask.holding)
    (hheld : task.holding = true → d.slowIoRecovery.active = false)
    (hcurrent : current d task = true) : Settled (d.access task).1 r' h' := by
  obtain ⟨hraised, hlowered⟩ := hinv
  cases task <;> constructor <;> grind -ring -linarith

/-- A step changes the causes only while no task is between its load and its swap. -/
def Quiet (s : MonitorRun) (a : PressureAction) : Prop :=
  (s.step a).dispatcher.causes = s.dispatcher.causes ∨ s.tasks.countP MonitorTask.loaded = 0

instance (s : MonitorRun) : DecidablePred (Quiet s) :=
  fun _ => inferInstanceAs (Decidable (_ ∨ _))

structure SettledIn (s : MonitorRun) : Prop where
  worked : WorkedIn s
  current : ∀ task ∈ s.tasks, current s.dispatcher task = true
  settled : Settled s.dispatcher (s.tasks.countP MonitorTask.refreshing)
    (s.tasks.countP MonitorTask.holding)

/-- What a task has loaded stays current, since the causes do not change before its swap. -/
theorem current_step (hquiet : Quiet s (.advance i)) (htask : s.tasks[i]? = some task)
    (heq : s.step (.advance i) = s.access i task)
    (h : ∀ task ∈ s.tasks, current s.dispatcher task = true) :
    ∀ task ∈ (s.step (.advance i)).tasks, current (s.step (.advance i)).dispatcher task = true := by
  have hold : ∀ other ∈ s.tasks, current (s.step (.advance i)).dispatcher other = true := by
    intro other hother
    rcases hquiet with hsame | hnone
    · exact current_of_causes hsame (h other hother)
    · have hnot := List.countP_eq_zero.mp hnone other hother
      exact current_of_loaded _ (Bool.not_eq_true _ ▸ hnot)
  obtain ⟨hnext, hstarted⟩ := current_access (h task (List.mem_of_getElem? htask))
  intro other hother
  rw [heq] at hold hother ⊢
  rcases List.mem_append.mp hother with hset | hnew
  · rcases List.mem_or_eq_of_mem_set hset with hmem | rfl
    · exact hold other hmem
    · exact hnext
  · exact hstarted other hnew

theorem settled_step (s : MonitorRun) (a : PressureAction) (hquiet : Quiet s a)
    (h : SettledIn s) : SettledIn (s.step a) := by
  obtain ⟨hworked, hcurrent, hsettled⟩ := h
  have hworked' := worked_step s a hworked
  cases a with
  | dispatch event =>
    have hnone : event.task.refreshing = false ∧ event.task.holding = false ∧
        event.task.loaded = false := by
      cases event <;> grind [PressureEvent.task]
    refine ⟨hworked', fun task htask => ?_,
      by simpa [step, List.countP_append, hnone] using hsettled⟩
    rcases List.mem_append.mp htask with hold | hnew
    · exact hcurrent task hold
    · rw [List.mem_singleton.mp hnew]
      exact current_of_loaded _ hnone.2.2
  | advance i =>
    rcases advance_cases s i with ⟨heq, -⟩ | ⟨task, htask, -, heq⟩
    · rw [heq]
      exact ⟨hworked, hcurrent, hsettled⟩
    · refine ⟨hworked', current_step hquiet htask heq hcurrent, ?_⟩
      rw [heq]
      have hmem := List.mem_of_getElem? htask
      exact settled_access hsettled (countP_access htask _) (countP_access htask _)
        (fun hholding => hworked.held (List.countP_pos_iff.mpr ⟨task, hmem, hholding⟩))
        (hcurrent task hmem)

/-- The worker clears the slow-I/O cause within `n` of its accesses. -/
@[grind] def ClearsWithin (s : MonitorRun) (i n : Nat) : Prop :=
  s.dispatcher.slowIoRecovery.active = false ∨
    s.tasks[i]? = some .observe ∧ 2 ≤ n ∨
    ∃ observed, s.tasks[i]? = some (.asleep observed) ∧
      (observed = s.dispatcher.slowIoRecovery.generation ∧ 1 ≤ n ∨ 3 ≤ n)

/-- Only a slow-I/O event sets the cause and its generation. -/
theorem access_slowIo (hne : task ≠ .markSlowIo) :
    (d.access task).1.slowIoRecovery.generation = d.slowIoRecovery.generation ∧
      (d.slowIoRecovery.active = false → (d.access task).1.slowIoRecovery.active = false) := by
  cases task <;> grind -ring -linarith

theorem getElem?_access {j : Nat} {other : MonitorTask} (hne : j ≠ i)
    (h : s.tasks[i]? = some other) : (s.access j task).tasks[i]? = some other := by
  rw [access, List.getElem?_append_left, List.getElem?_set_ne hne, h]
  rw [List.length_set]
  exact (List.getElem?_eq_some_iff.mp h).1

theorem getElem?_access_self (h : s.tasks[i]? = some task) :
    (s.access i task).tasks[i]? = some (s.dispatcher.access task).2.1 := by
  have hlt := (List.getElem?_eq_some_iff.mp h).1
  rw [access, List.getElem?_append_left (by rwa [List.length_set]), List.getElem?_set_self hlt]

theorem clearsWithin_step {n : Nat} (a : PressureAction) (hw : WorkedIn s)
    (hnone : .markSlowIo ∉ s.tasks) (h : ClearsWithin s i n) :
    ClearsWithin (s.step a) i (if a = .advance i then n - 1 else n) := by
  cases a with
  | dispatch event =>
    have hsame : ∀ task, s.tasks[i]? = some task →
        (s.tasks ++ [event.task])[i]? = some task := fun task htask => by
      rw [List.getElem?_append_left (List.getElem?_eq_some_iff.mp htask).1, htask]
    grind [step]
  | advance j =>
    rcases advance_cases s j with ⟨heq, hheld⟩ | ⟨task, htask, -, heq⟩
    · -- The worker waits for the lock only when the cause has been cleared.
      have hcleared := hw.held
      grind
    · have hmark : task ≠ .markSlowIo := fun hmark => hnone (hmark ▸ List.mem_of_getElem? htask)
      obtain ⟨hgeneration, hactive⟩ := access_slowIo s.dispatcher hmark
      have hd : (s.access j task).dispatcher = (s.dispatcher.access task).1 := rfl
      rw [heq]
      by_cases hij : j = i
      · subst hij
        have hself := getElem?_access_self htask
        grind
      · have hother := fun other => @getElem?_access s i task j other hij
        grind

theorem markSlowIo_notMem_step {a : PressureAction} (ha : a ≠ .dispatch .diskSlowIo)
    (hnone : .markSlowIo ∉ s.tasks) : .markSlowIo ∉ (s.step a).tasks := by
  cases a with
  | dispatch event =>
    have hevent : event.task ≠ .markSlowIo := by cases event <;> grind [PressureEvent.task]
    grind [step]
  | advance i =>
    rcases advance_cases s i with ⟨heq, -⟩ | ⟨task, -, -, heq⟩
    · rwa [heq]
    · have hnext : (s.dispatcher.access task).2.1 ≠ .markSlowIo ∧
          .markSlowIo ∉ (s.dispatcher.access task).2.2 := by cases task <;> grind -ring -linarith
      grind [access]

/-- A worker that is scheduled often enough clears the cause, if no slow I/O comes after. -/
theorem cleared_after {n : Nat} (hw : WorkedIn s) (hnone : .markSlowIo ∉ s.tasks)
    (h : ClearsWithin s i n) (later : List PressureAction)
    (hlater : .dispatch .diskSlowIo ∉ later) (hn : n ≤ later.count (.advance i)) :
    (runAll step s later).dispatcher.slowIoRecovery.active = false := by
  induction later generalizing s n with
  | nil => grind [runAll_nil]
  | cons a later ih =>
    rw [List.mem_cons, not_or] at hlater
    refine ih (worked_step s a hw) (markSlowIo_notMem_step (Ne.symm hlater.1) hnone)
      (clearsWithin_step a hw hnone h) hlater.2 ?_
    rw [List.count_cons] at hn
    grind

/-- **Degraded mode is consistent** whenever every task rests: at most one worker is asleep, and
    while the slow-I/O cause is set one is and clears it. In a run in which the causes do not
    change between a load of them and the swap that follows it, the mode is what they say. -/
theorem degraded_mode_consistent (actions : List PressureAction) :
    let s := runAll step new actions
    s.tasks.all MonitorTask.resting = true →
    s.tasks.countP MonitorTask.working ≤ 1 ∧
    (s.dispatcher.slowIoRecovery.active = true → ∃ (i : Nat) (observed : Nat),
      s.tasks[i]? = some (.asleep observed) ∧ ∀ later, .dispatch .diskSlowIo ∉ later →
        3 ≤ later.count (.advance i) →
          (runAll step s later).dispatcher.slowIoRecovery.active = false) ∧
    (Along step Quiet new actions → s.dispatcher.degradedMode =
      (s.dispatcher.memoryPressureDegraded || s.dispatcher.slowIoRecovery.active)) := by
  intro s hrest
  rw [List.all_eq_true] at hrest
  have hnew : WorkedIn new := ⟨rfl, nofun, nofun⟩
  have hw : WorkedIn s := invariant_run worked_step actions hnew
  refine ⟨?_, fun hactive => ?_, fun hquiet => ?_⟩
  · rw [hw.one]
    exact Bool.toNat_le _
  · have hpos : 0 < s.tasks.countP MonitorTask.working := by
      rw [hw.one, hw.running hactive]
      exact Nat.one_pos
    obtain ⟨task, hmem, hworking⟩ := List.countP_pos_iff.mp hpos
    obtain ⟨i, hi⟩ := List.mem_iff_getElem?.mp hmem
    obtain ⟨observed, rfl⟩ : ∃ observed, task = MonitorTask.asleep observed := by
      have := hrest task hmem
      cases task <;> grind -ring -linarith
    refine ⟨i, observed, hi, fun later hlater hn => cleared_after hw ?_ ?_ later hlater hn⟩
    · exact fun hmark => nomatch hrest _ hmark
    · exact .inr (.inr ⟨observed, hi, .inr (Nat.le_refl 3)⟩)
  · obtain ⟨-, -, hraised, hlowered⟩ : SettledIn s := invariant_along settled_step hquiet
      ⟨hnew, nofun, nofun, nofun⟩
    have hnone : s.tasks.countP MonitorTask.refreshing = 0 ∧
        s.tasks.countP MonitorTask.holding = 0 := by
      refine ⟨List.countP_eq_zero.mpr fun task hmem => ?_,
        List.countP_eq_zero.mpr fun task hmem => ?_⟩ <;>
      · have := hrest task hmem
        cases task <;> grind -ring -linarith
    grind

def advances (task times : Nat) : List PressureAction := List.replicate times (.advance task)

/-- Slow I/O has started a worker, which is asleep. -/
def slowDisk : List PressureAction := .dispatch .diskSlowIo :: advances 0 4 ++ advances 1 1

theorem slowDisk_consistent :
    let s := runAll step new slowDisk
    s.dispatcher.slowIoRecovery.active = true ∧ s.tasks.countP MonitorTask.working ≤ 1 ∧
      s.dispatcher.degradedMode =
        (s.dispatcher.memoryPressureDegraded || s.dispatcher.slowIoRecovery.active) := by
  obtain ⟨hone, -, hmode⟩ := degraded_mode_consistent slowDisk (by decide)
  exact ⟨by decide, hone, hmode (by decide)⟩

/-- A low level has loaded both causes, a critical one sets its own and swaps, and then the low
    one swaps. -/
theorem stale_refresh :
    let s := runAll step new (.dispatch (.memPressure 0) :: advances 0 5 ++
      .dispatch (.memPressure 2) :: advances 1 6 ++ advances 0 1)
    s.tasks.all MonitorTask.resting = true ∧ s.dispatcher.memoryPressureDegraded = true ∧
      s.dispatcher.degradedMode = false := by
  decide

/-- What holds of backpressure and the level while no dispatch and no recovery is under way. -/
structure Rest (d : ActionDispatcher) (relieved : Bool) : Prop where
  known : d.lastPressureLevel ≤ 2
  pressed : d.backpressureActive = true → 1 ≤ d.lastPressureLevel
  critical : d.memoryPressureDegraded = true → d.lastPressureLevel = 2
  low : relieved = true → d.lastPressureLevel = 0

/-- What holds before the next access of the one task under way. -/
@[grind] def Before (relieved : Bool) : MonitorTask → Prop
  | .addGeneration level | .swapLevel level _ => Rest d relieved ∧ level ≤ 2 ∧
    (level = 1 → d.memoryPressureDegraded = false) ∧ (level ≠ 0 → relieved = false)
  | .activate => Rest d relieved ∧ 1 ≤ d.lastPressureLevel
  | .deactivate => d.lastPressureLevel = 0
  | .storeDegraded false => d.lastPressureLevel = 0 ∧ d.backpressureActive = false
  | .activateMedium _ =>
    d.lastPressureLevel = 1 ∧ d.memoryPressureDegraded = false ∧ relieved = false
  | .activateCritical | .storeDegraded true => d.lastPressureLevel = 2 ∧ relieved = false
  | .storeLevel => Rest d relieved ∧ d.lastPressureLevel = 1
  | .recover => d.lastPressureLevel = 0 ∧ d.memoryPressureDegraded = false
  | _ => Rest d relieved

theorem before_access {d : ActionDispatcher} {relieved : Bool} (hunder : task.underWay = true)
    (h : Before d relieved task) :
    let relieved' := relieved || decide (task = .storeDegraded false ∨ task = .recover)
    ((d.access task).2.1.underWay = true →
      Before (d.access task).1 relieved' (d.access task).2.1) ∧
    ((d.access task).2.1.underWay = false → Rest (d.access task).1 relieved') ∧
    ∀ started ∈ (d.access task).2.2, started.underWay = false := by
  cases task with
  | storeDegraded degraded =>
    cases degraded <;> refine ⟨?_, ?_, ?_⟩ <;> grind -ring -linarith [Rest]
  | _ => refine ⟨?_, ?_, ?_⟩ <;> grind -ring -linarith [Rest]

/-- The other tasks leave what a dispatch or a recovery goes by. -/
theorem idle_access (hidle : task.underWay = false) :
    (d.access task).1.backpressureActive = d.backpressureActive ∧
    (d.access task).1.memoryPressureDegraded = d.memoryPressureDegraded ∧
    (d.access task).1.lastPressureLevel = d.lastPressureLevel ∧ (d.access task).2.2 = [] ∧
    ((d.access task).2.1.underWay = true →
      task.wakes = true ∧ (d.access task).2.1 = .checkLevel) := by
  cases task <;> grind -ring -linarith

theorem before_of_eq {d d' : ActionDispatcher} {relieved : Bool}
    (hpressure : d'.backpressureActive = d.backpressureActive)
    (hmemory : d'.memoryPressureDegraded = d.memoryPressureDegraded)
    (hlevel : d'.lastPressureLevel = d.lastPressureLevel) (h : Before d relieved task) :
    Before d' relieved task := by
  have hrest : Rest d relieved → Rest d' relieved := fun ⟨hk, hp, hc, hl⟩ =>
    ⟨hlevel ▸ hk, hpressure ▸ hlevel ▸ hp, hmemory ▸ hlevel ▸ hc, hlevel ▸ hl⟩
  unfold Before at h ⊢
  rw [hpressure, hmemory, hlevel]
  split at h <;> simp_all

structure Released (s : MonitorRun) : Prop where
  few : s.tasks.countP MonitorTask.underWay ≤ 1
  before : ∀ task ∈ s.tasks, task.underWay = true → Before s.dispatcher s.relieved task
  rest : s.tasks.countP MonitorTask.underWay = 0 → Rest s.dispatcher s.relieved

/-- The levels are known, a medium one comes only when the memory cause is not set, and what else
    activates backpressure comes only while the level is raised. -/
def expected : PressureEvent → Bool
  | .memPressure level => decide (level ≤ 2 ∧ (level = 1 → d.memoryPressureDegraded = false))
  | event => decide (event.task = .activate → 1 ≤ d.lastPressureLevel)

/-- Events come as expected, and neither they nor recovery threads come while a dispatch or a
    recovery is under way. -/
def Sequential (s : MonitorRun) : PressureAction → Prop
  | .dispatch event =>
    s.tasks.countP MonitorTask.underWay = 0 ∧ expected s.dispatcher event = true
  | .advance i =>
    s.tasks[i]?.any MonitorTask.wakes = true → s.tasks.countP MonitorTask.underWay = 0

instance (s : MonitorRun) : DecidablePred (Sequential s)
  | .dispatch _ => inferInstanceAs (Decidable (_ ∧ _))
  | .advance _ => inferInstanceAs (Decidable (_ → _))

theorem released_access (h : Released s) (htask : s.tasks[i]? = some task)
    (hwakes : task.wakes = true → s.tasks.countP MonitorTask.underWay = 0) :
    Released (s.access i task) := by
  obtain ⟨rest, hperm, hset⟩ := Roster.exists_rest htask
  have hcount := countP_access htask MonitorTask.underWay
  have hmem : ∀ other, other ∈ (s.access i task).tasks ↔ other = (s.dispatcher.access task).2.1 ∨
      other ∈ rest ∨ other ∈ (s.dispatcher.access task).2.2 := fun other => by
    rw [access, List.mem_append, (hset _).mem_iff, List.mem_cons, or_assoc]
  have hold := h.before task (List.mem_of_getElem? htask)
  have hrest : ∀ other ∈ rest, other ∈ s.tasks := fun other hother =>
    hperm.mem_iff.mpr (List.mem_cons_of_mem _ hother)
  cases hunder : task.underWay with
  | true =>
    obtain ⟨hbefore, hafter, hstarted⟩ := before_access hunder (hold hunder)
    have hfew := h.few
    have hothers : ∀ other ∈ rest, ¬ other.underWay = true := by
      rw [hperm.countP_eq, List.countP_cons_of_pos hunder] at hfew
      exact List.countP_eq_zero.mp (by omega)
    have hnone : (s.dispatcher.access task).2.2.countP MonitorTask.underWay = 0 :=
      List.countP_eq_zero.mpr fun other hother => by simp [hstarted other hother]
    rw [hunder, hnone, Bool.toNat_true] at hcount
    refine ⟨?_, fun other hother hthere => ?_, fun hzero => hafter ?_⟩
    · have hone := Bool.toNat_le (s.dispatcher.access task).2.1.underWay
      omega
    · rcases (hmem other).mp hother with rfl | hother | hother
      · exact hbefore hthere
      · exact absurd hthere (hothers other hother)
      · simp [hstarted other hother] at hthere
    · have hpos := List.countP_pos_iff.mpr ⟨task, List.mem_of_getElem? htask, hunder⟩
      exact Bool.toNat_eq_zero.mp (by omega)
  | false =>
    obtain ⟨hpressure, hmemory, hlevel, hstarted, hnext⟩ := idle_access s.dispatcher hunder
    have hkeep : ∀ other, Before s.dispatcher s.relieved other →
        Before (s.access i task).dispatcher (s.access i task).relieved other := by
      have hrelieved : (s.access i task).relieved = s.relieved := by
        cases task <;> grind -ring -linarith [access]
      exact fun other hother => hrelieved ▸ before_of_eq hpressure hmemory hlevel hother
    rw [hunder, hstarted, List.countP_nil, Nat.add_zero] at hcount
    refine ⟨?_, fun other hother hthere => ?_, fun hzero => ?_⟩
    · cases hthere : (s.dispatcher.access task).2.1.underWay with
      | true =>
        have hnone := hwakes (hnext hthere).1
        simp_all
      | false =>
        have hfew := h.few
        simp_all
    · grind [h.rest, h.before]
    · exact hkeep .done (h.rest (by grind))

theorem released_step (s : MonitorRun) (a : PressureAction) (hsequential : Sequential s a)
    (h : Released s) : Released (s.step a) := by
  cases a with
  | dispatch event =>
    obtain ⟨hzero, hexpected⟩ := hsequential
    have hrest := h.rest hzero
    have hbefore : event.task.underWay = true →
        Before s.dispatcher (s.relieved && !event.activates) event.task := by
      cases event <;> grind [PressureEvent.task, PressureEvent.activates, expected, Rest]
    refine ⟨?_, fun other hother hthere => ?_, fun _ => ⟨hrest.known, hrest.pressed, hrest.critical,
      fun hrelieved => hrest.low (Bool.and_eq_true_iff.mp hrelieved).1⟩⟩
    · rw [step, List.countP_append, hzero, Nat.zero_add]
      exact List.countP_le_length
    · rcases List.mem_append.mp hother with hold | hnew
      · exact absurd hthere (List.countP_eq_zero.mp hzero other hold)
      · rw [List.mem_singleton.mp hnew] at hthere ⊢
        exact hbefore hthere
  | advance i =>
    rcases advance_cases s i with ⟨heq, -⟩ | ⟨task, htask, -, heq⟩
    · rwa [heq]
    · rw [heq]
      refine released_access h htask fun hwakes => hsequential ?_
      rwa [htask]

/-- **Backpressure and the memory cause are released** in a run in which events come as expected
    and one at a time. -/
theorem released_when_relieved (actions : List PressureAction)
    (hsequential : Along step Sequential new actions) :
    let s := runAll step new actions
    s.tasks.countP MonitorTask.underWay = 0 → s.relieved = true →
      s.dispatcher.backpressureActive = false ∧ s.dispatcher.memoryPressureDegraded = false ∧
        s.dispatcher.lastPressureLevel = 0 := by
  intro s hzero hrelieved
  obtain ⟨-, -, hrest⟩ : Released s := invariant_along released_step hsequential
    ⟨Nat.zero_le 1, nofun, fun _ => ⟨by decide, nofun, nofun, nofun⟩⟩
  have := hrest hzero
  grind [Rest]

/-- A medium level, and the recovery thread it starts. -/
def recovered : List PressureAction := .dispatch (.memPressure 1) :: advances 0 3 ++ advances 1 4

theorem released_when_recovered :
    let s := runAll step new recovered
    s.relieved = true ∧ s.dispatcher.backpressureActive = false ∧
      s.dispatcher.memoryPressureDegraded = false ∧ s.dispatcher.lastPressureLevel = 0 :=
  ⟨by decide, released_when_relieved recovered (by decide) (by decide) (by decide)⟩

/-- The level is low before the kill and after it, so nothing is recovered from. -/
theorem kill_not_released :
    let s := runAll step new (.dispatch (.processExit 9) :: advances 0 1 ++
      .dispatch (.memPressure 0) :: advances 1 6)
    s.tasks.countP MonitorTask.underWay = 0 ∧ s.relieved = true ∧
      s.dispatcher.backpressureActive = true := by
  decide

end MonitorRun

end WasmCloud
