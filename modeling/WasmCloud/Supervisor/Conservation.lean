import WasmCloud.Supervisor.Fleet

/-!
# No Port Is Lost

Every port of the range is free or held by exactly one instance. Three steps break this: a spawn
whose thread does not report itself returns without giving its port back, a pool that is
forgotten takes instances along that have not stopped yet, and an instance that does not stop in
time has nowhere to return to then. `InstanceKept` and `ThreadReports` exclude them.
-/

namespace WasmCloud

open List

/-- One that timed out has a pool to return to, and a forgotten pool is empty. -/
def InstanceKept (s : Fleet) : FleetAction → Prop
  | .proceed id _ =>
    ∀ inst ∈ s.instances, inst.id = id → inst.phase.timedOut = true → inst.appId ∈ s.pools
  | .forgetApp appId =>
    s.activeCount appId ≠ 0 ∨ ∀ inst ∈ s.instances, inst.inPool appId = false
  | .allocate _ _ | .take _ _ _ | .workerExits _ => True

/-- A thread that was started reports itself. -/
def ThreadReports (s : Fleet) : FleetAction → Prop
  | .proceed id succeeds =>
    ∀ inst ∈ s.instances, inst.id = id → inst.phase = .spawning .started → succeeds = true
  | .allocate _ _ | .take _ _ _ | .forgetApp _ | .workerExits _ => True

instance (s : Fleet) : ∀ a, Decidable (InstanceKept s a)
  | .proceed _ _ => inferInstanceAs (Decidable (∀ inst ∈ s.instances, _))
  | .forgetApp _ => inferInstanceAs (Decidable (_ ∨ _))
  | .allocate _ _ | .take _ _ _ | .workerExits _ => instDecidableTrue

instance (s : Fleet) : ∀ a, Decidable (ThreadReports s a)
  | .proceed _ _ => inferInstanceAs (Decidable (∀ inst ∈ s.instances, _))
  | .allocate _ _ | .take _ _ _ | .forgetApp _ | .workerExits _ =>
    instDecidableTrue

/-- Free ports and ports of instances are those from `start` to `finish`, once each. -/
def Conserved (start finish : Nat) (s : Fleet) : Prop :=
  (s.free.entries ++ s.instances.map Tracked.port).Perm (List.range' start (finish + 1 - start))

theorem PortAllocator.allocate_perm {free rest : PortAllocator} {port : Nat}
    (h : free.allocate = .ok (port, rest)) : free.entries.Perm (port :: rest.entries) := by
  rcases allocate_ok h with ⟨hport, hrest⟩
  have hnot : port ∉ rest.entries := fun hmem => ((hrest port).mp hmem).2 rfl
  refine (perm_ext_iff_of_nodup free.nodup (nodup_cons.mpr ⟨hnot, rest.nodup⟩)).mpr ?_
  grind

variable {start finish : Nat}

theorem Conserved.gives {s : Fleet} (hinv : FleetInv s) (h : Conserved start finish s)
    {inst : Tracked} (hinst : inst ∈ s.instances) :
    Conserved start finish ((s.discard inst.id).release inst.port) := by
  have hheld : inst.lease ∈ s.instances.map Tracked.lease := mem_map_of_mem hinst
  have hfree : ∀ x ∈ s.free, x ≠ inst.port := by
    rintro x hx rfl
    exact hinv.ports.notFree inst.lease hheld hx
  have hreleased : ((s.discard inst.id).release inst.port).free.entries.Perm
      (inst.port :: s.free.entries) := OrdTable.insert_perm hfree
  have hothers := (hinv.perm_discard hinst).map Tracked.port
  calc ((s.discard inst.id).release inst.port).free.entries ++
        (s.discard inst.id).instances.map Tracked.port
      |>.Perm (inst.port :: s.free.entries ++ (s.discard inst.id).instances.map Tracked.port) :=
        hreleased.append_right _
    _ |>.Perm (s.free.entries ++ s.instances.map Tracked.port) :=
        perm_middle.symm.trans (hothers.symm.append_left _)
    _ |>.Perm _ := h

theorem filter_inPool {instances : List Tracked} {appId : AppId}
    (h : ∀ inst ∈ instances, inst.inPool appId = false) :
    instances.filter (fun inst => !inst.inPool appId) = instances :=
  filter_eq_self.mpr fun inst hinst => by rw [h inst hinst, Bool.not_false]

theorem conserved_step {env : SpawnEnv} (s : Fleet) (a : FleetAction)
    (hkept : InstanceKept s a ∧ ThreadReports s a) (hinv : FleetInv s ∧ Conserved start finish s) :
    FleetInv (fleetStep env s a) ∧ Conserved start finish (fleetStep env s a) := by
  refine ⟨fleetInv_step env s a hinv.1, ?_⟩
  have heffect := fleetStep_effect env s a
  generalize fleetStep env s a = t at heffect
  rcases hinv with ⟨hinv, htotal⟩
  -- A move changes no port, whatever else it does.
  have hmoved : ∀ (id : Nat) (phase : Phase), Conserved start finish (s.moveTo id phase) := by
    intro id phase
    rw [Conserved, Fleet.map_moveTo fun _ => rfl]
    exact htotal
  cases heffect with
  | keeps running hrunning => exact htotal
  | allocates inst available free ha hprepare hallocate hid hphase =>
    have hperm := PortAllocator.allocate_perm hallocate
    exact perm_middle.trans ((hperm.symm.append_right _).trans htotal)
  | launches inst hinst hphase point hpoint | moves inst hinst phase hmoves
  | inserts inst hinst hphase | bills inst hinst killer hphase => exact hmoved _ _
  | gives inst hinst hends => exact htotal.gives hinv hinst
  | loses inst hinst hlost =>
    rcases hlost with ⟨rfl, hphase⟩ | ⟨⟨succeeds, rfl⟩, hphase, hpool⟩
    · nomatch (hkept.2 inst hinst rfl hphase)
    · exact absurd (hkept.1 inst hinst rfl hphase) hpool
  | forgets appId ha hactive =>
    subst ha
    rw [Conserved, filter_inPool (hkept.1.resolve_left (not_not.mpr hactive))]
    exact htotal

theorem conserved_init (start finish : Nat) (restored : List AppId) :
    Conserved start finish (.init start finish restored) := by
  have hnodup : ((List.range' start (finish + 1 - start)).map (fun port => port)).Nodup := by
    rw [map_id']
    exact nodup_range'
  have hnew := OrdTable.insertAll_perm hnodup (t := OrdTable.empty)
    (fun x hx => absurd hx (OrdTable.not_mem_empty x))
  rw [Conserved]
  exact (hnew.append_right _).trans (by simp [Fleet.init, OrdTable.empty])

/-- In a run in which no step lets go of an instance and keeps its port, every port of
    the range is at any time free or held by exactly one instance: one that is being
    spawned, one in a pool, or one that is being shut down. -/
theorem ports_conserved {env : SpawnEnv} {start finish : Nat} {restored : List AppId}
    {run : List FleetAction} {s : Fleet}
    (hrun : Along (fleetStep env) (fun s a => InstanceKept s a ∧ ThreadReports s a)
      (.init start finish restored) run)
    (hs : s = runAll (fleetStep env) (.init start finish restored) run) :
    (s.free.entries ++ s.instances.map Tracked.port).Perm
      (List.range' start (finish + 1 - start)) := by
  subst hs
  exact (invariant_along conserved_step hrun
    ⟨fleetInv_init start finish restored, conserved_init start finish restored⟩).2

/-- An instance returns to its pool and is collected after its worker has exited. -/
def collectedRun : List FleetAction :=
  spawnSteps 0 ++ signalSteps .request 0 ++ [.proceed 0 true, .proceed 0 true, .workerExits 0] ++
    signalSteps .reap 0 ++ [.proceed 0 true, .proceed 0 true]

/-- Its port is free again. -/
theorem ports_conserved_collectedRun :
    let s := runAll (fleetStep (oneApp "default")) (.init 9000 9001 []) collectedRun
    s.billed = [0] ∧ s.instances = [] ∧
      (s.free.entries ++ s.instances.map Tracked.port).Perm [9000, 9001] :=
  ⟨by decide +kernel, by decide +kernel, ports_conserved (by decide +kernel) rfl⟩

/-- A thread that does not report itself, an instance forgotten with its pool, and one that comes
    back to none: the port is nobody's. -/
theorem ports_leaked :
    let run := runAll (fleetStep (oneApp "default")) (.init 9000 9001 [])
    let unreported := run [.allocate portApp [], .proceed 0 true, .proceed 0 false]
    let forgotten := run (spawnSteps 0 ++ signalSteps .request 0 ++
      [.proceed 0 true, .proceed 0 true, .forgetApp portApp])
    let homeless := run (spawnSteps 0 ++ signalSteps .request 0 ++
      [.proceed 0 true, .forgetApp portApp, .proceed 0 true])
    (unreported.free.entries = [9001] ∧ unreported.instances = []) ∧
      (forgotten.free.entries = [9001] ∧ forgotten.instances = []) ∧
      (homeless.free.entries = [9001] ∧ homeless.instances = []) := by
  decide +kernel

end WasmCloud
