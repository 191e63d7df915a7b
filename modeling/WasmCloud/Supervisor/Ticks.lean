import WasmCloud.Supervisor.Conservation

/-!
# Bills and Health Ticks

An instance is billed when its exit is confirmed. A shutdown confirms it, or gives up waiting and
puts the instance back into its pool, where a health tick collects it. No instance is billed
twice. That none is left out takes more: an instance dropped with its pool is not billed, nor is
one that cannot return to it, and a tick does not see an instance on its way back. `Accountable`
excludes these three.
-/

namespace WasmCloud

open List

/-- Whether it is collecting already, and the instances still to go through. `exited` is not its
    own knowledge: workers gone when it began. -/
structure Tick where
  reaping : Bool
  todo : List (AppId × Nat)
  exited : List Nat

/-- `swept` are the instances whose workers had exited before some complete tick. -/
structure Monitored where
  fleet : Fleet
  tick : Option Tick
  swept : List Nat

/-- A tick starts with the instances that do not answer or have been idle too long. -/
inductive MonitorAction where
  | fleet (a : FleetAction)
  | tickStart (doomed : List (AppId × Nat))
  | tickNext
  | tickReap
  | tickEnd
  deriving DecidableEq

namespace Fleet

def isReady (s : Fleet) (appId : AppId) (id : Nat) : Bool :=
  s.instances.any (fun inst => inst.id = id ∧ inst.appId = appId ∧ inst.phase = .pooled .ready)

/-- The tick waits for a shutdown of its own. -/
def tickBusy (s : Fleet) : Bool :=
  s.instances.any fun inst => match inst.phase with
    | .shutdown .health _ | .shutdown .reap _ => true
    | .shutdown _ _ | .spawning _ | .pooled _ => false

/-- The candidates of `reap_finished_shutdowns`. -/
def reapCandidates (s : Fleet) : List (AppId × Nat) :=
  (s.instances.filter fun inst => match inst.phase with
    | .pooled state => state.fenced && s.finished inst.id
    | .spawning _ | .shutdown _ _ => false).map fun inst => (inst.appId, inst.id)

end Fleet

/-- One step of a call, or of `health_tick`. There is one tick at a time. -/
def monitorStep (env : SpawnEnv) (s : Monitored) : MonitorAction → Monitored
  | .fleet a => { s with fleet := fleetStep env s.fleet a }
  | .tickStart doomed =>
    match s.tick with
    | some _ => s
    | none =>
      { s with
        tick := some
          ⟨false, doomed.filter (fun entry => s.fleet.isReady entry.1 entry.2),
            s.fleet.inserted.filter s.fleet.finished⟩ }
  | .tickNext =>
    match s.tick with
    | some ⟨reaping, (appId, id) :: todo, exited⟩ =>
      if s.fleet.tickBusy then s
      else
        let killer := if reaping then Killer.reap else Killer.health
        { s with
          fleet := fleetStep env s.fleet (.take killer appId id)
          tick := some ⟨reaping, todo, exited⟩ }
    | some ⟨_, [], _⟩ | none => s
  | .tickReap =>
    match s.tick with
    | some ⟨false, [], exited⟩ =>
      if s.fleet.tickBusy then s
      else { s with tick := some ⟨true, s.fleet.reapCandidates, exited⟩ }
    | some ⟨true, [], _⟩ | some ⟨_, _ :: _, _⟩ | none => s
  | .tickEnd =>
    match s.tick with
    | some ⟨true, [], exited⟩ =>
      if s.fleet.tickBusy then s
      else { s with tick := none, swept := exited ++ s.swept }
    | some ⟨false, [], _⟩ | some ⟨_, _ :: _, _⟩ | none => s

section Cases

variable (env : SpawnEnv) (m : Monitored)

theorem tickNext_cases : monitorStep env m .tickNext = m ∨
    ∃ reaping appId id todo exited, m.tick = some ⟨reaping, (appId, id) :: todo, exited⟩ ∧
      monitorStep env m .tickNext = { m with
          fleet := fleetStep env m.fleet (.take (if reaping then .reap else .health) appId id)
          tick := some ⟨reaping, todo, exited⟩ } := by
  rw [monitorStep]
  split
  · split
    · exact .inl rfl
    · exact .inr ⟨_, _, _, _, _, ‹_›, rfl⟩
  all_goals exact .inl rfl

theorem tickReap_cases : monitorStep env m .tickReap = m ∨
    ∃ exited, m.tick = some ⟨false, [], exited⟩ ∧ monitorStep env m .tickReap =
      { m with tick := some ⟨true, m.fleet.reapCandidates, exited⟩ } := by
  rw [monitorStep]
  split
  · split_ifs
    · exact .inl rfl
    · exact .inr ⟨_, ‹_›, rfl⟩
  all_goals exact .inl rfl

theorem tickEnd_cases : monitorStep env m .tickEnd = m ∨
    ∃ exited, m.tick = some ⟨true, [], exited⟩ ∧
      monitorStep env m .tickEnd = { m with tick := none, swept := exited ++ m.swept } := by
  rw [monitorStep]
  split
  · split_ifs
    · exact .inl rfl
    · exact .inr ⟨_, ‹_›, rfl⟩
  all_goals exact .inl rfl

end Cases

/-- The step lets go of no instance, and a tick looks for those to collect when none is on its
    way back to its pool. -/
def Accountable (s : Monitored) : MonitorAction → Prop
  | .fleet a => InstanceKept s.fleet a
  | .tickReap =>
    ∀ inst ∈ s.fleet.instances, inst.phase.timedOut = true → s.fleet.finished inst.id = false
  | .tickStart _ | .tickNext | .tickEnd => True

instance (s : Monitored) : ∀ a, Decidable (Accountable s a)
  | .fleet a => inferInstanceAs (Decidable (InstanceKept s.fleet a))
  | .tickReap => inferInstanceAs (Decidable (∀ inst ∈ s.fleet.instances, _))
  | .tickStart _ | .tickNext | .tickEnd => instDecidableTrue

/-- The bills are for different instances, all of them past their exit or gone. -/
structure BillInv (s : Fleet) : Prop extends FleetInv s where
  nodup : s.billed.Nodup
  past : ∀ id ∈ s.billed, id < s.nextId ∧
    ∀ inst ∈ s.instances, inst.id = id → inst.phase.stage = .past

variable {s t : Fleet} {id : Nat} {a : FleetAction} {env : SpawnEnv}

/-- Only new instances, and ones that come back after their exit, can spoil the bills. -/
theorem BillInv.of_instances (h : BillInv s) (hinv : FleetInv t) (hnext : s.nextId ≤ t.nextId)
    (hbilled : t.billed = s.billed)
    (hinstances : ∀ inst ∈ t.instances, inst.id ∈ s.billed → inst.phase.stage = .past) :
    BillInv t where
  toFleetInv := hinv
  nodup := hbilled ▸ h.nodup
  past := by
    intro id hid
    rw [hbilled] at hid
    refine ⟨lt_of_lt_of_le (h.past id hid).1 hnext, ?_⟩
    rintro inst hinst rfl
    exact hinstances inst hinst hid

variable {phase : Phase} {inst : Tracked}

theorem Passes.past {old : Tracked} (h : Passes s a old phase) (hpast : old.phase.stage = .past) :
    phase.stage = .past := by
  cases h with
  | moves phase hmoves => grind [hmoves.stage]
  | _ => grind [Phase.stage]

theorem billInv_step (env : SpawnEnv) (s : Fleet) (a : FleetAction) (h : BillInv s) :
    BillInv (fleetStep env s a) := by
  have hinv := fleetInv_step env s a h.toFleetInv
  have heffect := fleetStep_effect env s a
  generalize fleetStep env s a = t at heffect hinv
  have hkeep : ∀ inst ∈ t.instances, inst.id ∈ s.billed → inst.phase.stage = .past := by
    intro inst hinst hbilled
    rcases heffect.origin h.toFleetInv hinst with ⟨hid, -⟩ | ⟨old, hold, hsame, hpass⟩
    · -- The identifier is new.
      have hlt := (h.past _ hbilled).1
      omega
    · rw [hsame] at hbilled
      exact hpass.past ((h.past _ hbilled).2 old hold rfl)
  cases heffect with
  | allocates inst available free ha hprepare hallocate hid hphase =>
    exact h.of_instances hinv (Nat.le_succ _) rfl hkeep
  | bills inst hinst killer hphase =>
    -- Before its exit was confirmed, the instance was not billed.
    have hnot : inst.id ∉ s.billed := by
      intro hid
      have hpast := (h.past _ hid).2 inst hinst rfl
      rw [hphase] at hpast
      cases hpast
    refine ⟨hinv, nodup_cons.mpr ⟨hnot, h.nodup⟩, ?_⟩
    intro id hid
    rcases mem_cons.mp hid with rfl | hid
    · refine ⟨h.fresh inst hinst, fun x hx hxid => ?_⟩
      rcases (h.toFleetInv.mem_moveTo hinst).mp hx with rfl | ⟨-, hne⟩
      · rfl
      · exact absurd hxid hne
    · exact ⟨(h.past id hid).1, fun x hx hxid => hkeep x hx (hxid ▸ hid)⟩
  | _ => exact h.of_instances hinv le_rfl rfl hkeep

/-- A ready or closing instance stays, moves on or is billed. -/
theorem FleetEffect.follow (heffect : FleetEffect env s a t) (hinv : FleetInv s)
    (hkept : InstanceKept s a) {x : Tracked} (hx : x ∈ s.instances)
    (hstage : x.phase.stage = .ready ∨ x.phase.stage = .closing) :
    x ∈ t.instances ∨ (∃ phase, Moves s a x phase ∧ { x with phase := phase } ∈ t.instances) ∨
      x.id ∈ t.billed := by
  rcases heffect.successor hinv hx with ⟨phase, hpass, hmem, hbilled⟩ | hends | hlost | hforgets
  · cases hpass with
    | stays => exact .inl hmem
    | moves phase hmoves => exact .inr (.inl ⟨phase, hmoves, hmem⟩)
    | bills => exact .inr (.inr (hbilled (by grind) rfl))
    | launches | inserts => grind [Phase.stage]
  · grind [Phase.stage_of_ends hends.1]
  · rcases hlost with ⟨-, hphase⟩ | ⟨⟨succeeds, rfl⟩, htimedOut, hpool⟩
    · grind [Phase.stage]
    · exact absurd (hkept x hx rfl htimedOut) hpool
  · obtain ⟨appId, rfl, hactive, hpool⟩ := hforgets
    have hempty := hkept.resolve_left (not_not.mpr hactive) x hx
    cases hempty.symm.trans hpool

theorem FleetEffect.billed_subset (heffect : FleetEffect env s a t) (hid : id ∈ s.billed) :
    id ∈ t.billed := by
  cases heffect with
  | bills inst hinst killer hphase => exact .tail _ hid
  | _ => exact hid

theorem FleetEffect.inserted (heffect : FleetEffect env s a t) (hinv : FleetInv s) :
    (id ∈ s.inserted → id ∈ t.inserted) ∧ (id ∈ t.inserted → id ∈ s.inserted ∨
      ∃ inst ∈ t.instances, inst.id = id ∧ inst.phase.stage = .ready) := by
  cases heffect with
  | inserts inst hinst hphase =>
    refine ⟨mem_cons_of_mem _, fun hid => ?_⟩
    rcases mem_cons.mp hid with rfl | hid
    · exact .inr ⟨{ inst with phase := .pooled .ready },
        (hinv.mem_moveTo hinst).mpr (.inl rfl), rfl, rfl⟩
    · exact .inl hid
  | _ => exact ⟨fun h => h, .inl⟩

/-- A worker that has exited does not run again. -/
theorem FleetEffect.finished (heffect : FleetEffect env s a t) (hfinished : s.finished id = true)
    (hlaunched : ∀ inst ∈ s.instances, inst.id = id → inst.phase.stage ≠ .unlaunched) :
    t.finished id = true := by
  cases heffect with
  | launches inst hinst hphase point hpoint =>
    have hne : inst.id ≠ id := by
      intro hid
      refine hlaunched inst hinst hid ?_
      rw [hphase]
      rfl
    refine all_eq_true.mpr fun worker hworker => ?_
    rcases mem_cons.mp hworker with rfl | hworker
    · exact decide_eq_true hne
    · exact all_eq_true.mp hfinished worker hworker
  | keeps running hrunning =>
    exact all_eq_true.mpr fun worker hworker =>
      all_eq_true.mp hfinished worker (hrunning.subset hworker)
  | _ => exact hfinished

/-- Every instance that was put into a pool is billed, ready or closing. -/
structure PoolInv (s : Fleet) : Prop extends BillInv s where
  accounted : ∀ id ∈ s.inserted, id ∈ s.billed ∨ ∃ inst ∈ s.instances, inst.id = id ∧
    (inst.phase.stage = .ready ∨ inst.phase.stage = .closing)

theorem poolInv_step (env : SpawnEnv) (s : Fleet) (a : FleetAction) (hkept : InstanceKept s a)
    (h : PoolInv s) : PoolInv (fleetStep env s a) := by
  refine ⟨billInv_step env s a h.toBillInv, fun id hid => ?_⟩
  have heffect := fleetStep_effect env s a
  rcases (heffect.inserted h.toFleetInv).2 hid with hid | ⟨inst, hinst, heq, hready⟩
  · rcases h.accounted id hid with hbilled | ⟨inst, hinst, rfl, hstage⟩
    · exact .inl (heffect.billed_subset hbilled)
    · rcases heffect.follow h.toFleetInv hkept hinst hstage with
        hstays | ⟨phase, hmoves, hmoved⟩ | hbilled
      · exact .inr ⟨inst, hstays, rfl, hstage⟩
      · grind [hmoves.stage]
      · exact .inl hbilled
  · exact .inr ⟨inst, hinst, heq, .inl hready⟩

/-- A shutdown waits for the exit of the instance. -/
def Phase.underway : Phase → Bool
  | .shutdown _ .taken | .shutdown _ .unrouted | .shutdown _ .fenced
  | .shutdown _ .signalled => true
  | .shutdown _ _ | .spawning _ | .pooled _ => false

/-- The worker of an instance that was put into a pool has exited. -/
def Exited (s : Fleet) (id : Nat) : Prop := id ∈ s.inserted ∧ s.finished id = true

/-- Billed, ready, waited for, or among those the tick has still to go through. -/
def Settling (s : Fleet) (todo : List (AppId × Nat)) (id : Nat) : Prop :=
  id ∈ s.billed ∨ ∃ inst ∈ s.instances, inst.id = id ∧
    (inst.phase = .pooled .ready ∨ inst.phase.underway = true ∨
      inst.inPool inst.appId = true ∧ (inst.appId, id) ∈ todo)

theorem exited_step (a : FleetAction) (h : PoolInv s) (hexited : Exited s id) :
    Exited (fleetStep env s a) id := by
  have heffect := fleetStep_effect env s a
  refine ⟨(heffect.inserted h.toFleetInv).1 hexited.1, heffect.finished hexited.2 ?_⟩
  intro inst hinst hid hstage
  rcases h.accounted id hexited.1 with hbilled | ⟨other, hother, hother', hknown⟩
  · rw [(h.past id hbilled).2 inst hinst hid] at hstage
    cases hstage
  · have hsame : inst = other :=
      inj_on_of_nodup_map h.ids hinst hother (hid.trans hother'.symm)
    rw [← hsame, hstage] at hknown
    rcases hknown with hc | hc <;> cases hc

/-- After its worker's exit an instance that is taken or waited for does not time out. -/
theorem Moves.underway (h : Moves s a inst phase) (hfinished : s.finished inst.id = true)
    (hbefore : inst.inPool inst.appId = true ∨ inst.phase.underway = true) :
    phase.underway = true := by
  unfold Moves at h
  split at h <;> grind [Phase.underway, Tracked.inPool]

theorem Phase.stage_of_underway (h : phase.underway = true) : phase.stage = .closing := by
  unfold Phase.underway at h
  split at h <;> grind [Phase.stage]

variable {appId : AppId}

theorem Tracked.stage_of_inPool (h : inst.inPool appId = true) :
    inst.phase.stage = .ready ∨ inst.phase.stage = .closing := by
  rcases Tracked.inPool_iff.mp h with ⟨-, state, hphase⟩
  rw [hphase]
  cases state with
  | ready => exact .inl rfl
  | draining | stopping | exitTimedOut => exact .inr rfl

theorem settling_step (hkept : InstanceKept s a) (hinv : FleetInv s) {todo : List (AppId × Nat)}
    (hfinished : s.finished id = true) (h : Settling s todo id) :
    Settling (fleetStep env s a) todo id := by
  have heffect := fleetStep_effect env s a
  rcases h with hbilled | ⟨inst, hinst, rfl, hplace⟩
  · exact .inl (heffect.billed_subset hbilled)
  · have hbefore : inst.inPool inst.appId = true ∨ inst.phase.underway = true := by
      rcases hplace with hready | hunderway | ⟨hpool, -⟩
      · exact .inl (Tracked.inPool_iff.mpr ⟨rfl, _, hready⟩)
      · exact .inr hunderway
      · exact .inl hpool
    have hstage := hbefore.elim Tracked.stage_of_inPool
      (fun hunderway => .inr (Phase.stage_of_underway hunderway))
    rcases heffect.follow hinv hkept hinst hstage with hstays | ⟨phase, hmoves, hmoved⟩ | hbilled
    · exact .inr ⟨inst, hstays, rfl, hplace⟩
    · exact .inr ⟨_, hmoved, rfl, .inr (.inl (hmoves.underway hfinished hbefore))⟩
    · exact .inl hbilled

theorem inPool_take (env : SpawnEnv) (hinv : FleetInv s) {killer : Killer}
    (hinst : inst ∈ (fleetStep env s (.take killer appId id)).instances) (hid : inst.id = id) :
    inst.inPool appId = false := by
  rw [fleetStep] at hinst
  rcases hfind : s.findPooled appId id with _ | found
  · rw [hfind] at hinst
    have hnone := List.find?_eq_none.mp hfind inst hinst
    simpa [hid] using hnone
  · rw [hfind] at hinst
    rcases Fleet.mem_of_findPooled hfind with ⟨hfound, hfoundId, -⟩
    rcases (hinv.mem_moveTo hfound).mp hinst with rfl | ⟨-, hne⟩
    · rfl
    · exact absurd (hid.trans hfoundId.symm) hne

/-- Instances are accounted for, and settling if they had exited in time. -/
structure MonitorInv (s : Monitored) : Prop extends PoolInv s.fleet where
  exited : ∀ tick, s.tick = some tick → ∀ id ∈ tick.exited, Exited s.fleet id
  reaped : ∀ tick, s.tick = some tick → tick.reaping = true →
    ∀ id ∈ tick.exited, Settling s.fleet tick.todo id
  swept : ∀ id ∈ s.swept, Exited s.fleet id ∧ Settling s.fleet [] id

theorem MonitorInv.fleetStep {s : Monitored} (hkept : InstanceKept s.fleet a) (h : MonitorInv s) :
    MonitorInv { s with fleet := fleetStep env s.fleet a } where
  toPoolInv := poolInv_step env s.fleet a hkept h.toPoolInv
  exited := fun tick htick id hid => exited_step a h.toPoolInv (h.exited tick htick id hid)
  reaped := fun tick htick hreaping id hid =>
    settling_step hkept h.toFleetInv (h.exited tick htick id hid).2
      (h.reaped tick htick hreaping id hid)
  swept := fun id hid =>
    ⟨exited_step a h.toPoolInv (h.swept id hid).1,
      settling_step hkept h.toFleetInv (h.swept id hid).1.2 (h.swept id hid).2⟩

theorem settling_reapCandidates (h : PoolInv s)
    (hback : ∀ inst ∈ s.instances, inst.phase.timedOut = true → s.finished inst.id = false)
    (hexited : Exited s id) : Settling s s.reapCandidates id := by
  rcases h.accounted id hexited.1 with hbilled | ⟨inst, hinst, rfl, hstage⟩
  · exact .inl hbilled
  · refine .inr ⟨inst, hinst, rfl, ?_⟩
    have hrunning := hback inst hinst
    cases hphase : inst.phase with
    | spawning point => cases point <;> grind [Phase.stage]
    | pooled state =>
      by_cases hready : state = .ready
      · exact .inl (hready ▸ rfl)
      · have hfenced : state.fenced = true := by
          cases state with
          | ready => exact absurd rfl hready
          | draining | stopping | exitTimedOut => rfl
        refine .inr (.inr ⟨Tracked.inPool_iff.mpr ⟨rfl, state, hphase⟩, ?_⟩)
        refine mem_map.mpr ⟨inst, mem_filter.mpr ⟨hinst, ?_⟩, rfl⟩
        rw [hphase]
        exact Bool.and_eq_true_iff.mpr ⟨hfenced, hexited.2⟩
    | shutdown killer point =>
      have hfinished := hexited.2
      cases point <;> grind [Phase.stage, Phase.timedOut, Phase.underway]

theorem monitorInv_step (s : Monitored) (a : MonitorAction) (haccountable : Accountable s a)
    (h : MonitorInv s) : MonitorInv (monitorStep env s a) := by
  cases a with
  | fleet a => exact h.fleetStep haccountable
  | tickStart doomed =>
    rw [monitorStep]
    rcases htick : s.tick with _ | tick
    · refine ⟨h.toPoolInv, ?_, ?_, h.swept⟩
      · rintro tick ⟨⟩ id hid
        exact mem_filter.mp hid
      · rintro tick ⟨⟩ hreaping
        cases hreaping
    · exact h
  | tickNext =>
    rcases tickNext_cases env s with hsame | ⟨reaping, appId, id, todo, exited, htick, heq⟩
    · rwa [hsame]
    · have hnext : MonitorInv { s with
          fleet := fleetStep env s.fleet
            (.take (if reaping then .reap else .health) appId id) } := h.fleetStep trivial
      rw [heq]
      refine ⟨hnext.toPoolInv, ?_, ?_, hnext.swept⟩
      · rintro tick ⟨⟩ x hx
        exact hnext.exited _ htick x hx
      · rintro tick ⟨⟩ hreaping x hx
        -- The instance the tick was at is in no pool any more.
        rcases hnext.reaped _ htick hreaping x hx with hbilled | ⟨inst, hinst, hid, hplace⟩
        · exact .inl hbilled
        · refine .inr ⟨inst, hinst, hid, hplace.imp_right (Or.imp_right ?_)⟩
          rintro ⟨hpool, htodo⟩
          refine ⟨hpool, (mem_cons.mp htodo).resolve_left fun hentry => ?_⟩
          obtain ⟨happ, hxid⟩ := Prod.mk.injEq .. ▸ hentry
          have hgone := inPool_take env h.toFleetInv hinst (hid.trans hxid)
          rw [← happ, hpool] at hgone
          cases hgone
  | tickReap =>
    rcases tickReap_cases env s with hsame | ⟨exited, htick, heq⟩
    · rwa [hsame]
    · rw [heq]
      refine ⟨h.toPoolInv, ?_, ?_, h.swept⟩
      · rintro tick ⟨⟩ id hid
        exact h.exited _ htick id hid
      · rintro tick ⟨⟩ - id hid
        exact settling_reapCandidates h.toPoolInv haccountable (h.exited _ htick id hid)
  | tickEnd =>
    rcases tickEnd_cases env s with hsame | ⟨exited, htick, heq⟩
    · rwa [hsame]
    · rw [heq]
      refine ⟨h.toPoolInv, nofun, nofun, fun id hid => ?_⟩
      rcases mem_append.mp hid with hid | hid
      · exact ⟨h.exited _ htick id hid, h.reaped _ htick rfl id hid⟩
      · exact h.swept id hid

/-- A supervisor with nothing but the pools it restored, before its first tick. -/
def Monitored.init (start finish : Nat) (restored : List AppId) : Monitored :=
  ⟨.init start finish restored, none, []⟩

theorem monitorInv_init (start finish : Nat) (restored : List AppId) :
    MonitorInv (.init start finish restored) where
  toFleetInv := fleetInv_init start finish restored
  nodup := nodup_nil
  past := nofun
  accounted := nofun
  exited := nofun
  reaped := nofun
  swept := nofun

/-- In runs of accountable steps no instance is billed twice, and when no shutdown is
    in progress, each one whose worker had exited before some tick that is complete is
    ready or has been billed once. -/
theorem billed_exactly_once {env : SpawnEnv} {start finish : Nat} {restored : List AppId}
    {run : List MonitorAction} {s : Monitored}
    (hrun : Along (monitorStep env) Accountable (.init start finish restored) run)
    (hs : s = runAll (monitorStep env) (.init start finish restored) run) :
    (∀ id ∈ s.fleet.inserted, s.fleet.billed.count id ≤ 1) ∧
      ((∀ inst ∈ s.fleet.instances, ∀ killer point, inst.phase ≠ .shutdown killer point) →
        ∀ id ∈ s.swept, (∃ inst ∈ s.fleet.instances, inst.id = id ∧ inst.phase = .pooled .ready) ∨
          s.fleet.billed.count id = 1) := by
  subst hs
  have h := invariant_along monitorInv_step hrun (monitorInv_init start finish restored)
  refine ⟨fun id _ => nodup_iff_count_le_one.mp h.nodup id, fun hquiet id hid => ?_⟩
  rcases (h.swept id hid).2 with hbilled | ⟨inst, hinst, heq, hready | hunderway | ⟨-, htodo⟩⟩
  · exact .inr (count_eq_one_of_mem h.nodup hbilled)
  · exact .inl ⟨inst, hinst, heq, hready⟩
  · cases hphase : inst.phase with
    | spawning point | pooled state => rw [hphase] at hunderway; cases hunderway
    | shutdown killer point => exact absurd hphase (hquiet inst hinst killer point)
  · nomatch htodo

def stuckSteps : List MonitorAction :=
  (spawnSteps 0 ++ signalSteps .request 0 ++ [FleetAction.proceed 0 true]).map .fleet

def quietTick (collected : List MonitorAction) : List MonitorAction :=
  [.tickStart [], .tickReap] ++ collected ++ [.tickEnd]

def sweptRun : List MonitorAction :=
  stuckSteps ++ [.fleet (.proceed 0 true), .fleet (.workerExits 0)] ++
    quietTick (.tickNext :: List.replicate 5 (.fleet (.proceed 0 true)))

theorem billed_exactly_once_sweptRun :
    let s := runAll (monitorStep (oneApp "default")) (.init 9000 9001 []) sweptRun
    s.swept = [0] ∧ ((∃ inst ∈ s.fleet.instances, inst.id = 0 ∧ inst.phase = .pooled .ready) ∨
      s.fleet.billed.count 0 = 1) := by
  have hrun : Along (monitorStep (oneApp "default")) Accountable (.init 9000 9001 []) sweptRun := by
    decide +kernel
  have hgone : (runAll (monitorStep (oneApp "default")) (.init 9000 9001 [])
      sweptRun).fleet.instances = [] := by decide +kernel
  have hswept : (runAll (monitorStep (oneApp "default")) (.init 9000 9001 [])
      sweptRun).swept = [0] := by decide +kernel
  refine ⟨hswept, (billed_exactly_once hrun rfl).2 ?_ 0 ?_⟩
  · rw [hgone]
    exact nofun
  · rw [hswept]
    exact mem_singleton_self 0

/-- The instance is forgotten with its pool, or its pool before it returns, or it returns while
    the tick is at work: neither ready nor billed. -/
theorem exit_not_billed :
    let run := runAll (monitorStep (oneApp "default")) (.init 9000 9001 [])
    let forgotten := run (stuckSteps ++ [.fleet (.proceed 0 true), .fleet (.forgetApp portApp),
        .fleet (.workerExits 0)] ++ quietTick [])
    let homeless := run (stuckSteps ++ [.fleet (.forgetApp portApp), .fleet (.proceed 0 true),
        .fleet (.workerExits 0)] ++ quietTick [])
    let late := run (stuckSteps ++ [.fleet (.workerExits 0)] ++
      quietTick [.fleet (.proceed 0 true)])
    (forgotten.swept = [0] ∧ forgotten.fleet.billed = [] ∧ forgotten.fleet.instances = []) ∧
      (homeless.swept = [0] ∧ homeless.fleet.billed = [] ∧ homeless.fleet.instances = []) ∧
      (late.swept = [0] ∧ late.fleet.billed = [] ∧
        late.fleet.instances.map Tracked.phase = [.pooled .exitTimedOut]) := by
  decide +kernel

end WasmCloud
