import WasmCloud.Monitor.NamespaceMap
import WasmCloud.Supervisor.Fleet

/-!
# Instance Threads

An instance runs in a thread of its own, which is registered with the instance's identity
before it runs. Registrations end in three places that know nothing of each other: the task
that waits for the thread, `finalize_instance_exit`, and the health loop.

All three deregister a thread identifier, whoever has it by then, and the kernel may give an
identifier away as soon as its thread has exited. `Spared` asks that an instance's thread
does not get an identifier while a deregistration of it is still to come.
-/

namespace WasmCloud

open List

inductive ThreadStage where
  /-- The thread has started and waits for its registration. -/
  | reporting
  /-- A command component is instantiated. -/
  | starting
  /-- The task that waits for the thread exists; the instance is not ready. -/
  | polling
  /-- `spawn` has returned an error. -/
  | failed
  /-- The instance is in its pool, or on its way out. -/
  | pooled
  | finalized
  deriving DecidableEq

/-- `cleanup` is whether the task that waits for the thread still has to deregister it. -/
structure InstanceThread where
  id : Nat
  qualified : AppId
  model : ComponentExecutionModel
  tid : UInt32
  stage : ThreadStage
  exited : Bool
  registered : Bool
  cleanup : Bool
  deriving DecidableEq

/-- The thread has exited, and nothing is going to deregister it. -/
def InstanceThread.Settled (thread : InstanceThread) : Prop :=
  thread.exited = true ∧ thread.cleanup = false ∧
    (thread.stage = .failed ∨ thread.stage = .finalized)

instance (thread : InstanceThread) : Decidable thread.Settled :=
  inferInstanceAs (Decidable (_ ∧ _ ∧ _))

/-- `stale` are the threads the health loop has found dead and is about to deregister. -/
structure Threads where
  map : NamespaceMap
  nextId : Nat
  threads : List InstanceThread
  stale : List UInt32

/-- What happens to one instance. `refused` is the error of a kernel table. -/
inductive ThreadEvent where
  | register (nowNs : Nat) (refused : Option String)
  | started (succeeds : Bool)
  | ready (succeeds : Bool)
  | exit
  | cleanup
  | finalize
  deriving DecidableEq

/-- A launch, an event of an instance, or a step of the health loop. -/
inductive ThreadAction where
  | launch (qualified : AppId) (model : ComponentExecutionModel) (tid : UInt32)
  | happens (id : Nat) (event : ThreadEvent)
  | probe (tid : UInt32)
  | sweep (tid : UInt32)
  deriving DecidableEq

/-- The instance and the map after an event, if it can happen to it. -/
def InstanceThread.advance (thread : InstanceThread) (m : NamespaceMap) :
    ThreadEvent → Option (InstanceThread × NamespaceMap)
  | .register nowNs refused =>
    if thread.stage = .reporting then
      let identity := TidIdentity.new thread.qualified.ns thread.qualified.text
      let stage := match thread.model with
        | .wasiCli => ThreadStage.starting
        | .wasiHttpIncomingHandler => ThreadStage.polling
      some ({ thread with stage := stage, registered := refused.isNone },
        (m.registerTid thread.tid identity nowNs refused).1)
    else none
  | .started succeeds =>
    -- Without an instance `spawn` returns before it creates the task.
    if thread.stage = .starting then
      if succeeds then some ({ thread with stage := .polling, cleanup := true }, m)
      else some ({ thread with stage := .failed }, m)
    else none
  | .ready succeeds =>
    if thread.stage = .polling then
      some ({ thread with stage := if succeeds then .pooled else .failed }, m)
    else none
  | .exit =>
    -- A thread does nothing before it is registered.
    if thread.stage ≠ .reporting then some ({ thread with exited := true }, m) else none
  | .cleanup =>
    if thread.exited = true ∧ thread.cleanup = true then
      some ({ thread with cleanup := false }, m.deregisterTid thread.tid)
    else none
  | .finalize =>
    -- The task of the instance has ended, and with it the cleanup.
    if thread.stage = .pooled ∧ thread.exited = true ∧ thread.cleanup = false then
      some ({ thread with stage := .finalized }, m.deregisterTid thread.tid)
    else none

namespace Threads

def start : Threads := ⟨.new, 0, [], []⟩

def put (s : Threads) (thread : InstanceThread) : Threads :=
  { s with threads := Roster.update InstanceThread.id thread.id (fun _ => thread) s.threads }

/-- No running thread has the identifier. -/
def dead (s : Threads) (tid : UInt32) : Bool :=
  s.threads.all (fun thread => thread.tid ≠ tid || thread.exited)

end Threads

def threadStep (s : Threads) : ThreadAction → Threads
  | .launch qualified model tid =>
    -- The kernel gives no two running threads the same identifier.
    if s.dead tid then
      { s with
        nextId := s.nextId + 1
        threads := ⟨s.nextId, qualified, model, tid, .reporting, false, false, false⟩ ::
          s.threads }
    else s
  | .happens id event =>
    match s.threads.find? (fun thread => thread.id = id) with
    | none => s
    | some thread =>
      match thread.advance s.map event with
      | none => s
      | some (next, m) => { s.put next with map := m }
  | .probe tid =>
    if (s.map.lookupTid tid).isSome && s.dead tid then { s with stale := tid :: s.stale } else s
  | .sweep tid =>
    if tid ∈ s.stale then
      { s with map := s.map.deregisterTid tid, stale := s.stale.erase tid }
    else s

theorem fits_ns {id : AppId} (h : TidField.Fits id.text) : TidField.Fits id.ns := by
  rw [AppId.ns]
  by_cases hslash : id.text.toList.contains '/' = true
  · rcases Text.split_head_append (contains_iff_mem.mp hslash) with
      ⟨first, rest, t, hsplit, htext⟩
    rw [if_pos hslash, hsplit, headD_cons]
    rw [htext] at h
    exact h.of_append
  · rw [if_neg hslash]
    decide

/-- What is registered for a thread is the identity of an instance. -/
def Knows (m : NamespaceMap) (thread : InstanceThread) : Prop :=
  ∃ identity, m.lookupTid thread.tid = some identity ∧
    identity.ns.str = TidField.cut thread.qualified.ns ∧
    identity.appId.str = TidField.cut thread.qualified.text

theorem knows_registered (m : NamespaceMap) (thread : InstanceThread) (nowNs : Nat) :
    Knows (m.registerTid thread.tid
      (TidIdentity.new thread.qualified.ns thread.qualified.text) nowNs none).1 thread := by
  refine ⟨_, (NamespaceMap.lookupTid_insertIdentity _ _ _ _ _).trans (if_pos rfl), ?_, ?_⟩
  · exact TidField.str_set _ _
  · exact TidField.str_set _ _

/-- Running threads keep their registrations, under identifiers of one instance each. -/
structure ThreadInv (s : Threads) : Prop where
  nodup : (s.threads.map InstanceThread.id).Nodup
  fresh : ∀ thread ∈ s.threads, thread.id < s.nextId
  distinct : ∀ thread ∈ s.threads, ∀ other ∈ s.threads, thread.tid = other.tid →
    ¬ thread.Settled → ¬ other.Settled → thread.id = other.id
  stale : ∀ tid ∈ s.stale, ∀ thread ∈ s.threads, thread.tid = tid → thread.exited = true
  kept : ∀ thread ∈ s.threads, thread.exited = false → thread.registered = true →
    Knows s.map thread

theorem threadInv_start : ThreadInv .start where
  nodup := nodup_nil
  fresh _ h := absurd h not_mem_nil
  distinct _ h := absurd h not_mem_nil
  stale _ h := absurd h not_mem_nil
  kept _ h := absurd h not_mem_nil

structure Advances (thread next : InstanceThread) : Prop where
  id : next.id = thread.id
  tid : next.tid = thread.tid
  qualified : next.qualified = thread.qualified
  settled : thread.Settled → next.Settled
  exited : thread.exited = true → next.exited = true

variable {thread : InstanceThread}

theorem not_settled_of_running (h : thread.exited = false) : ¬ thread.Settled :=
  fun hsettled => Bool.false_ne_true (h.symm.trans hsettled.1)

theorem not_settled_of_stage {stage : ThreadStage} (hstage : thread.stage = stage)
    (hopen : stage ≠ .failed ∧ stage ≠ .finalized) : ¬ thread.Settled := by
  subst hstage
  exact fun hsettled => hsettled.2.2.elim hopen.1 hopen.2

variable {m : NamespaceMap} {tid : UInt32}

theorem Knows.deregister (h : Knows m thread) (hne : thread.tid ≠ tid) :
    Knows (m.deregisterTid tid) thread := by
  rcases h with ⟨identity, hlookup, hname⟩
  exact ⟨identity, by rw [NamespaceMap.lookupTid_deregisterTid, if_neg hne, hlookup], hname⟩

theorem Knows.register (h : Knows m thread) (hne : thread.tid ≠ tid) (identity : TidIdentity)
    (nowNs : Nat) (refused : Option String) :
    Knows (m.registerTid tid identity nowNs refused).1 thread := by
  rcases h with ⟨own, hlookup, hname⟩
  refine ⟨own, ?_, hname⟩
  cases refused with
  | none =>
    exact (NamespaceMap.lookupTid_insertIdentity _ _ _ _ _).trans ((if_neg hne).trans hlookup)
  | some e => exact hlookup

theorem advance_spec {next : InstanceThread} {m' : NamespaceMap} {event : ThreadEvent}
    (h : thread.advance m event = some (next, m')) :
    Advances thread next ∧ (m' = m ∨ ¬ thread.Settled ∧
        ∀ other : InstanceThread, other.tid ≠ thread.tid → Knows m other → Knows m' other) ∧
      (next.exited = false → next.registered = true →
        Knows m' next ∨ m' = m ∧ thread.exited = false ∧ thread.registered = true) := by
  cases event with
  | register nowNs refused =>
    simp only [InstanceThread.advance] at h
    split_ifs at h with hstage
    cases h
    have hsettled : ¬ thread.Settled := not_settled_of_stage hstage (by decide)
    refine ⟨⟨rfl, rfl, rfl, fun hs => absurd hs hsettled, id⟩,
      .inr ⟨hsettled, fun other hne hknows => hknows.register hne _ _ _⟩,
      fun _ hregistered => .inl ?_⟩
    cases refused with
    | none => exact knows_registered m thread nowNs
    | some e => cases hregistered
  | started succeeds | ready succeeds =>
    simp only [InstanceThread.advance] at h
    split_ifs at h with hstage <;> cases h
    all_goals
      have hsettled : ¬ thread.Settled := not_settled_of_stage hstage (by decide)
      exact ⟨⟨rfl, rfl, rfl, fun hs => absurd hs hsettled, id⟩, .inl rfl,
        fun hrunning hregistered => .inr ⟨rfl, hrunning, hregistered⟩⟩
  | exit =>
    simp only [InstanceThread.advance] at h
    split_ifs at h with hstage
    cases h
    exact ⟨⟨rfl, rfl, rfl, fun hs => ⟨rfl, hs.2⟩, fun _ => rfl⟩, .inl rfl, nofun⟩
  | cleanup =>
    simp only [InstanceThread.advance] at h
    split_ifs at h with hdue
    cases h
    have hsettled : ¬ thread.Settled :=
      fun hs => Bool.false_ne_true (hs.2.1.symm.trans hdue.2)
    exact ⟨⟨rfl, rfl, rfl, fun hs => absurd hs hsettled, id⟩,
      .inr ⟨hsettled, fun other hne hknows => hknows.deregister hne⟩,
      fun hrunning => absurd hdue.1 (Bool.eq_false_iff.mp hrunning)⟩
  | finalize =>
    simp only [InstanceThread.advance] at h
    split_ifs at h with hdue
    cases h
    have hsettled : ¬ thread.Settled := not_settled_of_stage hdue.1 (by decide)
    exact ⟨⟨rfl, rfl, rfl, fun hs => absurd hs hsettled, id⟩,
      .inr ⟨hsettled, fun other hne hknows => hknows.deregister hne⟩,
      fun hrunning => absurd hdue.2.1 (Bool.eq_false_iff.mp hrunning)⟩

namespace ThreadInv

variable {s : Threads}

theorem tid_ne (hinv : ThreadInv s) {thread other : InstanceThread} (hthread : thread ∈ s.threads)
    (hother : other ∈ s.threads) (hid : other.id ≠ thread.id) (hsettled : ¬ thread.Settled)
    (hrunning : other.exited = false) : other.tid ≠ thread.tid :=
  fun htid => hid (hinv.distinct other hother thread hthread htid
    (not_settled_of_running hrunning) hsettled)

theorem put (hinv : ThreadInv s) {thread next : InstanceThread} (hthread : thread ∈ s.threads)
    (hnext : Advances thread next) {m : NamespaceMap}
    (hothers : ∀ other ∈ s.threads, other.id ≠ thread.id → other.exited = false →
      Knows s.map other → Knows m other)
    (hself : next.exited = false → next.registered = true → Knows m next) :
    ThreadInv { s.put next with map := m } := by
  have hmem : ∀ y, y ∈ (s.put next).threads → y = next ∨ y ∈ s.threads ∧ y.id ≠ thread.id := by
    intro y hy
    rw [Threads.put, hnext.id] at hy
    exact (Roster.mem_update hinv.nodup hthread).mp hy
  have hids : (s.put next).threads.map InstanceThread.id = s.threads.map InstanceThread.id := by
    rw [Threads.put, Roster.update, map_map]
    refine map_congr_left fun x _ => ?_
    grind
  -- Each field holds of the instance that changed as it did of its former state.
  refine ⟨hids ▸ hinv.nodup, fun y hy => ?_, fun y hy z hz htid hys hzs => ?_,
    fun tid htid y hy hsame => ?_, fun y hy hrunning hregistered => ?_⟩
  · rcases hmem y hy with rfl | ⟨hold, -⟩
    · exact hnext.id ▸ hinv.fresh thread hthread
    · exact hinv.fresh y hold
  · grind [hinv.distinct, hnext.tid, hnext.settled]
  · rcases hmem y hy with rfl | ⟨hold, -⟩
    · exact hnext.exited (hinv.stale tid htid thread hthread (hnext.tid.symm.trans hsame))
    · exact hinv.stale tid htid y hold hsame
  · rcases hmem y hy with rfl | ⟨hold, hne⟩
    · exact hself hrunning hregistered
    · exact hothers y hold hne hrunning (hinv.kept y hold hrunning hregistered)

end ThreadInv

/-- The identifier of a new thread is not going to be deregistered for an earlier one. -/
def Spared (s : Threads) : ThreadAction → Prop
  | .launch _ _ tid =>
    (∀ thread ∈ s.threads, thread.tid = tid → thread.Settled) ∧ tid ∉ s.stale
  | .happens _ _ | .probe _ | .sweep _ => True

instance (s : Threads) (a : ThreadAction) : Decidable (Spared s a) := by
  cases a <;> unfold Spared <;> infer_instance

variable {s : Threads}

theorem threadInv_launch (hinv : ThreadInv s) {qualified : AppId}
    {model : ComponentExecutionModel} {tid : UInt32}
    (hspared : Spared s (.launch qualified model tid)) :
    ThreadInv { s with
      nextId := s.nextId + 1
      threads := ⟨s.nextId, qualified, model, tid, .reporting, false, false, false⟩ ::
        s.threads } := by
  rcases hspared with ⟨hsettled, hstale⟩
  refine ⟨nodup_cons.mpr ⟨fun hmem => ?_, hinv.nodup⟩, fun y hy => ?_,
    fun y hy z hz htid hys hzs => ?_, fun t ht y hy hsame => ?_,
    fun y hy hrunning hregistered => ?_⟩
  · rcases mem_map.mp hmem with ⟨old, hold, hid⟩
    exact absurd (hinv.fresh old hold) (by rw [hid]; exact lt_irrefl _)
  · rcases mem_cons.mp hy with rfl | hold
    · exact Nat.lt_succ_self _
    · exact Nat.lt_succ_of_lt (hinv.fresh y hold)
  · grind [hinv.distinct]
  · grind [hinv.stale]
  · rcases mem_cons.mp hy with rfl | hold
    · cases hregistered
    · exact hinv.kept y hold hrunning hregistered

theorem exited_of_dead {tid : UInt32} (hdead : s.dead tid = true) {thread : InstanceThread}
    (hthread : thread ∈ s.threads) (htid : thread.tid = tid) : thread.exited = true := by
  have h := all_eq_true.mp hdead thread hthread
  simpa only [htid, ne_eq, not_true_eq_false, decide_false, Bool.false_or] using h

theorem threadInv_happens (hinv : ThreadInv s) {thread next : InstanceThread}
    (hthread : thread ∈ s.threads) {event : ThreadEvent} {m : NamespaceMap}
    (h : thread.advance s.map event = some (next, m)) : ThreadInv { s.put next with map := m } := by
  rcases advance_spec h with ⟨hnext, hothers, hself⟩
  refine hinv.put hthread hnext (fun other hother hid hrunning hknows => ?_)
    (fun hrunning hregistered => ?_)
  · rcases hothers with rfl | ⟨hsettled, hothers⟩
    · exact hknows
    · exact hothers other (hinv.tid_ne hthread hother hid hsettled hrunning) hknows
  · rcases hself hrunning hregistered with hknows | ⟨rfl, hran, hwas⟩
    · exact hknows
    · rcases hinv.kept thread hthread hran hwas with ⟨identity, hlookup, hname⟩
      exact ⟨identity, by rw [hnext.tid, hlookup], by rw [hnext.qualified]; exact hname⟩

theorem threadInv_step (s : Threads) (a : ThreadAction) (hspared : Spared s a)
    (hinv : ThreadInv s) : ThreadInv (threadStep s a) := by
  cases a with
  | launch qualified model tid =>
    grind [threadStep, threadInv_launch]
  | happens id event =>
    grind [threadStep, threadInv_happens]
  | probe tid =>
    rw [threadStep]
    split_ifs with hprobe
    · refine { hinv with stale := fun t ht thread hthread htid => ?_ }
      rcases mem_cons.mp ht with rfl | hold
      · exact exited_of_dead (Bool.and_eq_true_iff.mp hprobe).2 hthread htid
      · exact hinv.stale t hold thread hthread htid
    · exact hinv
  | sweep tid =>
    rw [threadStep]
    split_ifs with htid
    · refine { hinv with
        stale := fun t ht => hinv.stale t (mem_of_mem_erase ht)
        kept := fun thread hthread hrunning hregistered => ?_ }
      -- A thread that is found dead does not run again.
      refine (hinv.kept thread hthread hrunning hregistered).deregister fun hsame => ?_
      exact absurd (hinv.stale tid htid thread hthread hsame) (Bool.eq_false_iff.mp hrunning)
    · exact hinv

/-- A running thread whose registration succeeded is registered as its instance, with
    names as far as the fields hold them. A name that fits is the instance's own. -/
theorem registration_kept (actions : List ThreadAction)
    (hspared : Along threadStep Spared .start actions) :
    let s := runAll threadStep .start actions
    ∀ thread ∈ s.threads, thread.exited = false → thread.registered = true →
      ∃ identity, s.map.lookupTid thread.tid = some identity ∧
        identity.ns.str = TidField.cut thread.qualified.ns ∧
        identity.appId.str = TidField.cut thread.qualified.text ∧
        (TidField.Fits thread.qualified.text → identity.ns.str = thread.qualified.ns ∧
            identity.appId.str = thread.qualified.text) := by
  intro s thread hthread hrunning hregistered
  have hinv := invariant_along threadInv_step hspared threadInv_start
  rcases hinv.kept thread hthread hrunning hregistered with ⟨identity, hlookup, hns, happ⟩
  refine ⟨identity, hlookup, hns, happ, fun hfits => ⟨?_, ?_⟩⟩
  · rw [hns, TidField.cut_of_fits (fits_ns hfits)]
  · rw [happ, TidField.cut_of_fits hfits]

def spawnedSteps (id : Nat) (qualified : AppId) (tid : UInt32) : List ThreadAction :=
  [.launch qualified .wasiCli tid, .happens id (.register 0 none), .happens id (.started true),
    .happens id (.ready true)]

def inheritedRun : List ThreadAction :=
  spawnedSteps 0 ⟨"a/api:v1"⟩ 101 ++
    [.happens 0 .exit, .probe 101, .happens 0 .cleanup, .sweep 101, .happens 0 .finalize] ++
    spawnedSteps 1 ⟨"b/web:v1"⟩ 101

theorem registration_kept_inheritedRun :
    let s := runAll threadStep .start inheritedRun
    s.threads.map (fun thread => (thread.tid, thread.exited, thread.registered)) =
        [(101, false, true), (101, true, true)] ∧
      ∀ thread ∈ s.threads, thread.exited = false → thread.registered = true →
        ∃ identity, s.map.lookupTid thread.tid = some identity ∧
          identity.ns.str = TidField.cut thread.qualified.ns ∧
          identity.appId.str = TidField.cut thread.qualified.text ∧
          (TidField.Fits thread.qualified.text → identity.ns.str = thread.qualified.ns ∧
              identity.appId.str = thread.qualified.text) :=
  ⟨by decide +kernel, registration_kept inheritedRun (by decide +kernel)⟩

/-- Finalization and cleanup deregister the thread that has got the identifier, and a long name
    is cut off. -/
theorem registration_lost :
    let run := runAll threadStep .start
    let seen := fun s : Threads =>
      s.threads.map fun thread => (thread.tid, thread.exited, thread.registered)
    (let s := run (spawnedSteps 0 ⟨"a/api:v1"⟩ 101 ++ [.happens 0 .exit, .happens 0 .cleanup] ++
          spawnedSteps 1 ⟨"b/web:v1"⟩ 101 ++ [.happens 0 .finalize]);
      seen s = [(101, false, true), (101, true, true)] ∧ s.map.lookupTid 101 = none) ∧
    (let s := run (spawnedSteps 0 ⟨"a/api:v1"⟩ 101 ++ [.happens 0 .exit] ++
          spawnedSteps 1 ⟨"b/web:v1"⟩ 101 ++ [.happens 0 .cleanup]);
      seen s = [(101, false, true), (101, true, true)] ∧ s.map.lookupTid 101 = none) ∧
    (let s := run (spawnedSteps 0
        ⟨"a/a-service-with-a-name-that-takes-more-bytes-than-a-field-has-for-it:v1"⟩ 101);
      (s.map.lookupTid 101).map (fun identity => identity.appId.str) =
        some "a/a-service-with-a-name-that-takes-more-bytes-than-a-field-has-") := by
  decide +kernel

end WasmCloud
