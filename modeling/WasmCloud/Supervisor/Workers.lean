import WasmCloud.Supervisor.Ticks

/-!
# Workers and Their Ports

An instance runs on a thread or a task of its own, its *worker*, which exits when it likes. A
shutdown waits for that; a spawn that fails does not, and then the next instance may get a port
in use. `WorkerGone` says that this does not happen, and it is all that is needed.

A port is reserved for an instance if it is not free and no other instance has it. It
stays so, whatever becomes of the instance, until the instance gives it back.

## Main definitions

* `WorkerGone`: No spawn fails while its worker runs.
* `Given`: The ports that instances had in the course of a run.
* `Fleet.Reserved`, `Fleet.Departed`: A port is kept for an instance, or the instance is no more.

## Theorems

* `keeps_step`, `keeps_run`: An instance that had a port keeps it or is gone, with its worker.
* `ports_exclusive`: The port of a worker that runs is not free, and no other worker has it.
-/

namespace WasmCloud

open List

variable {s : Fleet} {inst : Tracked} {env : SpawnEnv} {a : FleetAction}

theorem action_of_vanished (hinv : FleetInv s) (hinst : inst ∈ s.instances)
    (hphase : inst.phase = .spawning .reported ∨ inst.phase = .spawning .polling)
    (hgone : ∀ x ∈ (fleetStep env s a).instances, x.id ≠ inst.id) : a = .proceed inst.id false := by
  rcases (fleetStep_effect env s a).successor hinv hinst with ⟨phase, -, hmem, -⟩ | hleaves
  · exact (hgone _ hmem rfl).elim
  · -- A spawn that waits ends in no other way.
    grind [Leaves, Lost, Phase.timedOut, Tracked.inPool]

theorem fleetStep_launch (env : SpawnEnv) (hinv : FleetInv s) (hinst : inst ∈ s.instances)
    (hphase : inst.phase = .spawning .allocated) :
    ∃ point, (point = .started ∨ point = .polling) ∧ fleetStep env s (.proceed inst.id true) =
        { s.moveTo inst.id (.spawning point) with
          running := (inst.id, inst.appId) :: s.running } := by
  have hfind : s.find inst.id = some inst := Roster.find_of_mem hinv.ids hinst
  have hstep : fleetStep env s (.proceed inst.id true) = spawnProceed s inst true .allocated := by
    simp [fleetStep, hfind, proceed, hphase]
  grind [spawnProceed]

/-- A port is not free, and belongs to one instance at most. -/
def Fleet.Reserved (s : Fleet) (id port : Nat) : Prop :=
  port ∉ s.free ∧ ∀ inst ∈ s.instances, inst.port = port → inst.id = id

theorem FleetEffect.reserved {t : Fleet}
    (heffect : FleetEffect env s a t) (hinv : FleetInv s) {id port : Nat} (h : s.Reserved id port)
    (hgives : ∀ inst ∈ s.instances, inst.phase.ends = true →
      (∀ x ∈ t.instances, x.id ≠ inst.id) → inst.id ≠ id) : t.Reserved id port := by
  rcases h with ⟨hfree, howner⟩
  have hmoved : ∀ {x : Tracked} {phase : Phase}, x ∈ s.instances →
      ∀ inst ∈ (s.moveTo x.id phase).instances, inst.port = port → inst.id = id := by
    grind [hinv.mem_moveTo]
  cases heffect with
  | keeps running hrunning => exact ⟨hfree, howner⟩
  | allocates new available free ha hprepare hallocate hid hphase =>
    rcases PortAllocator.allocate_ok hallocate with ⟨hnew, hrest⟩
    refine ⟨fun hmem => hfree ((hrest port).mp hmem).1, fun inst hmem hport => ?_⟩
    rcases mem_cons.mp hmem with rfl | hold
    · exact absurd (hport ▸ hnew) hfree
    · exact howner inst hold hport
  | launches x hx | moves x hx | inserts x hx | bills x hx => exact ⟨hfree, hmoved hx⟩
  | gives x hx hends =>
    refine ⟨fun hmem => ?_, fun inst hmem => howner inst (Fleet.mem_discard.mp hmem).1⟩
    rcases (PortAllocator.mem_release port).mp hmem with rfl | hold
    · exact hgives x hx hends (fun y hy => (Fleet.mem_discard.mp hy).2) (howner x hx rfl)
    · exact hfree hold
  | loses x hx hlost =>
    exact ⟨hfree, fun inst hmem => howner inst (Fleet.mem_discard.mp hmem).1⟩
  | forgets appId ha hactive =>
    exact ⟨hfree, fun inst hmem => howner inst (mem_of_mem_filter hmem)⟩

theorem past_finished_step {env : SpawnEnv} {s : Fleet} {a : FleetAction} (hinv : FleetInv s)
    (h : ∀ inst ∈ s.instances, inst.phase.stage = .past → s.finished inst.id = true) :
    ∀ inst ∈ (fleetStep env s a).instances, inst.phase.stage = .past →
      (fleetStep env s a).finished inst.id = true := by
  intro inst hinst hpast
  have heffect := fleetStep_effect env s a
  rcases heffect.origin hinv hinst with ⟨-, hphase, -⟩ | ⟨old, hold, heq, hpass⟩
  · rw [hphase] at hpast
    cases hpast
  · have hexited : old.phase.stage ≠ .unlaunched ∧ s.finished old.id = true := by
      have hbefore := h old hold
      generalize inst.phase = phase at hpass hpast
      cases hpass with
      | moves phase hmoves => grind [hmoves.stage]
      | _ => grind [Phase.stage]
    rw [heq]
    refine heffect.finished hexited.2 fun other hother hid => ?_
    rw [inj_on_of_nodup_map hinv.ids hother hold hid]
    exact hexited.1

/-- A spawn that fails after its launch does so when its worker has exited. -/
def WorkerGone (s : Fleet) (a : FleetAction) : Prop :=
  ∀ inst ∈ s.instances, inst.phase = .spawning .reported ∨ inst.phase = .spawning .polling →
    a = .proceed inst.id false → s.finished inst.id = true

instance (s : Fleet) (a : FleetAction) : Decidable (WorkerGone s a) := by
  unfold WorkerGone
  infer_instance

/-- At some time of a run an instance had a port. -/
def Given (env : SpawnEnv) (s : Fleet) (run : List FleetAction) (id port : Nat) : Prop :=
  ∃ done, done <+: run ∧ ∃ inst ∈ (runAll (fleetStep env) s done).instances,
    inst.lease = (id, port)

/-- Identifiers are new, and an instance has a worker only from its launch to its exit. -/
structure WorkerInv (s : Fleet) : Prop where
  fleet : FleetInv s
  fresh : ∀ worker ∈ s.running, worker.1 < s.nextId
  unlaunched : ∀ inst ∈ s.instances, inst.phase.stage = .unlaunched → s.finished inst.id = true
  past : ∀ inst ∈ s.instances, inst.phase.stage = .past → s.finished inst.id = true

theorem Fleet.finished_iff {id : Nat} :
    s.finished id = true ↔ ∀ worker ∈ s.running, worker.1 ≠ id := by
  simp [Fleet.finished]

/-- A worker was there before, or its instance was launched just now. -/
theorem FleetEffect.worker_cases {t : Fleet} (heffect : FleetEffect env s a t) (hinv : FleetInv s)
    {worker : Nat × AppId} (hworker : worker ∈ t.running) :
    worker ∈ s.running ∨
      ∃ inst ∈ t.instances, inst.id = worker.1 ∧ inst.phase.stage = .launched := by
  cases heffect with
  | keeps running hrunning => exact .inl (hrunning.subset hworker)
  | launches inst hinst hphase point hpoint =>
    rcases mem_cons.mp hworker with rfl | hworker
    · refine .inr ⟨_, (hinv.mem_moveTo hinst).mpr (.inl rfl), rfl, ?_⟩
      rcases hpoint with rfl | rfl <;> rfl
    · exact .inl hworker
  | _ => exact .inl hworker

theorem workerInv_step (env : SpawnEnv) (s : Fleet) (a : FleetAction) (hinv : WorkerInv s) :
    WorkerInv (fleetStep env s a) := by
  have heffect := fleetStep_effect env s a
  have hfleet := fleetInv_step env s a hinv.fleet
  refine ⟨hfleet, fun worker hworker => ?_, fun inst hinst hstage => ?_,
    past_finished_step hinv.fleet hinv.past⟩
  · rcases heffect.worker_cases hinv.fleet hworker with hold | ⟨inst, hinst, hid, -⟩
    · exact (hinv.fresh worker hold).trans_le heffect.nextId_le
    · exact hid ▸ hfleet.fresh inst hinst
  · refine Fleet.finished_iff.mpr fun worker hworker hid => ?_
    rcases heffect.worker_cases hinv.fleet hworker with hran | ⟨other, hother, heq, hlaunched⟩
    · -- What is not launched now was not launched before, or was not there.
      rcases heffect.origin hinv.fleet hinst with ⟨hnew, -⟩ | ⟨old, hold, hsame, hpasses⟩
      · have hlt := hinv.fresh worker hran
        omega
      · have hrank := hpasses.rank_le
        rw [hstage] at hrank
        have hbefore : old.phase.stage = .unlaunched := by
          cases h : old.phase.stage <;> simp [h, Stage.rank] at hrank
          rfl
        refine Fleet.finished_iff.mp (hinv.unlaunched old hold hbefore) worker hran ?_
        rw [hid, hsame]
    · rw [inj_on_of_nodup_map hfleet.ids hother hinst (heq.trans hid), hstage] at hlaunched
      cases hlaunched

theorem workerInv_init (start finish : Nat) (restored : List AppId) :
    WorkerInv (.init start finish restored) :=
  ⟨fleetInv_init start finish restored, nofun, nofun, nofun⟩

/-- An instance that was there once is no more, nor is its worker. -/
structure Fleet.Departed (s : Fleet) (id : Nat) : Prop where
  old : id < s.nextId
  finished : s.finished id = true
  absent : ∀ inst ∈ s.instances, inst.id ≠ id

section Kept

variable {id port : Nat}

theorem departed_of_vanished (hinv : FleetInv s) (hold : id < s.nextId)
    (hfinished : s.finished id = true)
    (habsent : ∀ inst ∈ (fleetStep env s a).instances, inst.id ≠ id) :
    (fleetStep env s a).Departed id := by
  have heffect := fleetStep_effect env s a
  refine ⟨hold.trans_le heffect.nextId_le, Fleet.finished_iff.mpr fun worker hworker hid => ?_,
    habsent⟩
  rcases heffect.worker_cases hinv hworker with hran | ⟨inst, hinst, heq, -⟩
  · exact Fleet.finished_iff.mp hfinished worker hran hid
  · exact habsent inst hinst (heq.trans hid)

theorem departed_step (hinv : FleetInv s) (h : s.Departed id) :
    (fleetStep env s a).Departed id := by
  refine departed_of_vanished hinv h.old h.finished fun inst hinst hid => ?_
  rcases (fleetStep_effect env s a).origin hinv hinst with ⟨hnew, -⟩ | ⟨old, hold, hsame, -⟩
  · -- An identifier is not given out twice.
    have hlt := h.old
    omega
  · refine h.absent old hold ?_
    rw [hsame] at hid
    exact hid

theorem keeps_step (hinv : WorkerInv s) (hgone : WorkerGone s a) (hold : id < s.nextId)
    (h : s.Reserved id port ∨ s.Departed id) :
    (fleetStep env s a).Reserved id port ∨ (fleetStep env s a).Departed id := by
  rcases h with hreserved | h
  · by_cases hgives : ∃ inst ∈ s.instances, inst.phase.ends = true ∧ inst.id = id ∧
        ∀ x ∈ (fleetStep env s a).instances, x.id ≠ inst.id
    · -- The instance gives the port back, and its worker has exited.
      obtain ⟨inst, hinst, hends, rfl, hvanished⟩ := hgives
      refine .inr (departed_of_vanished hinv.fleet hold ?_ hvanished)
      rcases Phase.ends_iff.mp hends with hphase | hphase | hphase | ⟨killer, hphase⟩
      · exact hinv.unlaunched inst hinst (by rw [hphase]; rfl)
      · exact hgone inst hinst (.inl hphase)
          (action_of_vanished hinv.fleet hinst (.inl hphase) hvanished)
      · exact hgone inst hinst (.inr hphase)
          (action_of_vanished hinv.fleet hinst (.inr hphase) hvanished)
      · exact hinv.past inst hinst (by rw [hphase]; rfl)
    · refine .inl ((fleetStep_effect env s a).reserved hinv.fleet hreserved
        fun inst hinst hends hvanished hid => ?_)
      exact hgives ⟨inst, hinst, hends, hid, hvanished⟩
  · exact .inr (departed_step hinv.fleet h)

/-- An instance that has a port keeps it over any further run, or is gone. -/
theorem keeps_run {run : List FleetAction} (hinv : WorkerInv s)
    (hrun : Along (fleetStep env) WorkerGone s run) (hinst : inst ∈ s.instances) :
    (runAll (fleetStep env) s run).Reserved inst.id inst.port ∨
      (runAll (fleetStep env) s run).Departed inst.id := by
  have hkept : ∀ t : Fleet, ∀ a, WorkerGone t a →
      (WorkerInv t ∧ inst.id < t.nextId ∧ (t.Reserved inst.id inst.port ∨ t.Departed inst.id)) →
      WorkerInv (fleetStep env t a) ∧ inst.id < (fleetStep env t a).nextId ∧
        ((fleetStep env t a).Reserved inst.id inst.port ∨ (fleetStep env t a).Departed inst.id) :=
    fun t a hgone ⟨ht, hold, h⟩ => ⟨workerInv_step env t a ht,
      hold.trans_le (fleetStep_effect env t a).nextId_le, keeps_step ht hgone hold h⟩
  have hfirst : s.Reserved inst.id inst.port :=
    ⟨hinv.fleet.ports.notFree _ (mem_map_of_mem hinst),
      fun x hx hport => by rw [hinv.fleet.eq_of_port hx hinst hport]⟩
  exact (invariant_along hkept hrun ⟨hinv, hinv.fleet.fresh inst hinst, .inl hfirst⟩).2.2

/-- Two instances had a port, the second later than the first. If the first one's worker
    runs at the end, they are the same. -/
theorem same_of_given {run first second : List FleetAction} {x y : Tracked} (hinv : WorkerInv s)
    (hrun : Along (fleetStep env) WorkerGone s run) (hfirst : first <+: second)
    (hsecond : second <+: run) (hx : x ∈ (runAll (fleetStep env) s first).instances)
    (hy : y ∈ (runAll (fleetStep env) s second).instances) (hport : y.port = x.port)
    (hruns : (runAll (fleetStep env) s run).finished x.id = false) : y.id = x.id := by
  rcases hfirst with ⟨between, rfl⟩
  rcases hsecond with ⟨rest, rfl⟩
  have hbetween := along_of_append hrun
  rw [along_append] at hbetween
  rw [runAll_append] at hy
  rcases keeps_run (invariant_run (workerInv_step env) first hinv) hbetween.2 hx with
    hreserved | hgone
  · exact hreserved.2 y hy hport
  · have hstep : ∀ t a, FleetInv t ∧ t.Departed x.id →
        FleetInv (fleetStep env t a) ∧ (fleetStep env t a).Departed x.id :=
      fun t a ht => ⟨fleetInv_step env t a ht.1, departed_step ht.1 ht.2⟩
    rw [← runAll_append] at hgone
    have hstays := invariant_run hstep rest
      ⟨(invariant_run (workerInv_step env) (first ++ between) hinv).fleet, hgone⟩
    rw [← runAll_append] at hstays
    rw [hstays.2.finished] at hruns
    cases hruns

end Kept

/-- In a run in which spawns give ports back only without a worker, the port that an instance
    was given is not free as long as its worker runs, and no other instance with a worker
    was given it. -/
theorem ports_exclusive {start finish : Nat} {restored : List AppId} {run : List FleetAction}
    {s : Fleet} (hrun : Along (fleetStep env) WorkerGone (.init start finish restored) run)
    (hs : s = runAll (fleetStep env) (.init start finish restored) run) {id port : Nat}
    (hgiven : Given env (.init start finish restored) run id port) (hruns : s.finished id = false) :
    port ∉ s.free ∧ ∀ other, Given env (.init start finish restored) run other port →
      s.finished other = false → other = id := by
  subst hs
  have hinv := workerInv_init start finish restored
  rcases hgiven with ⟨done, hdone, x, hx, hlease⟩
  simp only [Tracked.lease, Prod.mk.injEq] at hlease
  rcases hlease with ⟨rfl, rfl⟩
  constructor
  · rcases hdone with ⟨rest, rfl⟩
    rw [along_append] at hrun
    have hkept := keeps_run (invariant_run (workerInv_step env) done hinv) hrun.2 hx
    rw [← runAll_append] at hkept
    rcases hkept with hreserved | hgone
    · exact hreserved.1
    · rw [hgone.finished] at hruns
      cases hruns
  · rintro other ⟨later, hlater, y, hy, hother⟩ hruns'
    simp only [Tracked.lease, Prod.mk.injEq] at hother
    rcases hother with ⟨rfl, hport⟩
    -- The one that had it first keeps it.
    rcases prefix_or_prefix_of_prefix hdone hlater with hle | hle
    · exact same_of_given hinv hrun hle hlater hx hy hport hruns
    · exact (same_of_given hinv hrun hle hdone hy hx hport.symm hruns').symm

/-- An instance does not stop in time, exits and is collected; the next one gets its port. -/
def reuseRun : List FleetAction :=
  spawnSteps 0 ++ signalSteps .request 0 ++ List.replicate 2 (.proceed 0 true) ++
    [.workerExits 0, .take .reap portApp 0] ++ List.replicate 5 (.proceed 0 true) ++
    [.allocate portApp [], .proceed 1 true]

theorem ports_exclusive_reuseRun :
    let s := runAll (fleetStep (oneApp "default")) (.init 9000 9001 []) reuseRun
    s.finished 0 = true ∧ s.finished 1 = false ∧ 9000 ∉ s.free := by
  intro s
  have hgiven : Given (oneApp "default") (.init 9000 9001 []) reuseRun 1 9000 :=
    ⟨reuseRun, prefix_rfl, ⟨1, portApp, portApp, 9000, .wasiCli, .spawning .started⟩,
      by decide +kernel, rfl⟩
  have hruns : s.finished 1 = false := by decide +kernel
  exact ⟨by decide +kernel, hruns, (ports_exclusive (by decide +kernel) rfl hgiven hruns).1⟩

def slowRun : List FleetAction :=
  .allocate portApp [] :: List.replicate 3 (.proceed 0 true) ++ [.proceed 0 false]

/-- The port is free while the worker runs, and the next instance gets it. -/
theorem ports_shared :
    let s := runAll (fleetStep (oneApp "default")) (.init 9000 9001 []) slowRun
    let t := runAll (fleetStep (oneApp "default")) s [.allocate portApp [], .proceed 1 true]
    (fleetStep (oneApp "default") (.init 9000 9001 []) (.allocate portApp [])).instances.map
        Tracked.lease = [(0, 9000)] ∧
      s.running.map Prod.fst = [0] ∧ s.free.entries = [9000, 9001] ∧
      t.running.map Prod.fst = [1, 0] ∧ t.instances.map Tracked.lease = [(1, 9000)] := by
  decide +kernel

end WasmCloud
