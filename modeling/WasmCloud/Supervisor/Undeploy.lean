import WasmCloud.Supervisor.Demand
import WasmCloud.Supervisor.Discovery

/-!
# Removing a Running Application

A removal kills the instances in the application's pool, marks the application as undeployed and
drops the pool. A spawn looks at the marker once, when it begins, and makes a pool if there is none
later. So a spawn that began before the marker was set can finish after the removal has.
`SpawnsDone` asks that no spawn of the application is under way when its pool is dropped.

At any time at most one removal of an application is in progress.
-/

namespace WasmCloud

open List

inductive Holder where
  | spawn
  | pool
  | shutdown (killer : Killer)
  deriving DecidableEq, Repr

def Phase.holder : Phase → Holder
  | .spawning _ => .spawn
  | .pooled _ => .pool
  | .shutdown killer _ => .shutdown killer

/-- It waits for the pools, for an instance to stop, or, marked, to drop the pool. -/
inductive RemovalPoint where
  | killing (id : Nat) (rest : List Nat)
  | stopping (id : Nat) (rest : List Nat)
  | marked
  deriving DecidableEq, Repr

structure Removal where
  appId : AppId
  point : RemovalPoint
  deriving DecidableEq

/-- The calls, the removals in progress, and the applications a removal has returned for. -/
structure Undeploy where
  demand : Demand
  removals : List Removal
  removed : List AppId

/-- `ids` is the order of the pool, and `stored` whether the marker can be written. -/
inductive UndeployAction where
  | demand (a : DemandAction)
  | remove (appId : AppId) (ids : List Nat) (stored : Bool)
  | proceed (appId : AppId) (stored : Bool)

/-- The steps that are a removal's own. -/
def DemandAction.ofRemoval : DemandAction → Bool
  | .fleet (.take .removal _ _) | .fleet (.forgetApp _) => true
  | .fleet _ | .call _ _ | .enter _ _ => false

namespace Undeploy

def find (s : Undeploy) (appId : AppId) : Option Removal :=
  s.removals.find? (fun removal => removal.appId = appId)

/-- The removal of an application ends. -/
def finish (s : Undeploy) (appId : AppId) : Undeploy :=
  { s with removals := Roster.drop Removal.appId appId s.removals }

/-- The removal of an application gets to a point. -/
def reach (s : Undeploy) (appId : AppId) (point : RemovalPoint) : Undeploy :=
  { s with removals := ⟨appId, point⟩ :: (s.finish appId).removals }

/-- The next round of `kill_all_instances`, or what comes after the last. -/
def killNext (s : Undeploy) (appId : AppId) (stored : Bool) : List Nat → Undeploy
  | id :: rest => s.reach appId (.killing id rest)
  | [] =>
    if stored then
      { s.reach appId .marked with demand.undeployed := appId :: s.demand.undeployed }
    else s.finish appId

end Undeploy

/-- The instance is being shut down by a removal. -/
def Fleet.stopping (s : Fleet) (id : Nat) : Bool :=
  s.instances.any (fun inst => inst.id = id ∧ inst.phase.holder = .shutdown .removal)

/-- The routes, which `handle_remove` removes first, are not the supervisor's. -/
def undeployStep (env : SpawnEnv) (s : Undeploy) : UndeployAction → Undeploy
  | .demand a => if a.ofRemoval then s else { s with demand := demandStep env s.demand a }
  | .remove appId ids stored =>
    if s.find appId = none ∧ ids.Perm ((s.demand.fleet.instances.filter
        (fun inst => inst.inPool appId)).map Tracked.id) then
      s.killNext appId stored ids
    else s
  | .proceed appId stored =>
    match s.find appId with
    | none => s
    | some removal =>
      match removal.point with
      | .killing id rest =>
        -- Somebody else may have taken the instance. Then there is nothing to wait for.
        { s.reach appId (.stopping id rest) with
          demand.fleet := fleetStep env s.demand.fleet (.take .removal appId id) }
      | .stopping id rest =>
        -- An instance that does not stop in time goes back to the pool.
        if s.demand.fleet.stopping id then s else s.killNext appId stored rest
      | .marked =>
        -- An error of `forget_app` is that of the removal, and the marker stays.
        { s.finish appId with
          demand.fleet := (forgetApp s.demand.fleet appId).1
          removed :=
            if (forgetApp s.demand.fleet appId).2 then appId :: s.removed else s.removed }

/-- When a removal drops a pool, no spawn of the application is under way. -/
def SpawnsDone (s : Undeploy) : UndeployAction → Prop
  | .proceed appId _ =>
    s.find appId = some ⟨appId, .marked⟩ → s.demand.fleet.activeCount appId = 0 →
      appId ∉ s.demand.calls ∧
        ∀ inst ∈ s.demand.fleet.instances, inst.appId = appId → inst.phase.holder ≠ .spawn
  | .demand _ | .remove _ _ _ => True

instance (s : Undeploy) : ∀ a, Decidable (SpawnsDone s a)
  | .proceed _ _ => inferInstanceAs (Decidable (_ → _ → _ ∧ _))
  | .demand _ | .remove _ _ _ => instDecidableTrue

/-- Who can have an instance after an action. -/
def HandedOver (s : Fleet) (a : FleetAction) (old : Tracked) (holder : Holder) : Prop :=
  holder = old.phase.holder ∨
    match old.phase.holder with
    | .spawn => holder = .pool
    | .pool => ∃ killer, holder = .shutdown killer ∧ a = .take killer old.appId old.id
    | .shutdown _ => holder = .pool ∧ old.appId ∈ s.pools

variable {s : Fleet} {a : FleetAction} {phase : Phase} {env : SpawnEnv} {t : Fleet} {appId : AppId}

theorem Moves.holder {inst : Tracked} (h : Moves s a inst phase) :
    HandedOver s a inst phase.holder := by
  unfold Moves at h
  split at h <;> grind [HandedOver, Phase.holder]

theorem Passes.holder {old : Tracked} (h : Passes s a old phase) :
    HandedOver s a old phase.holder := by
  cases h with
  | moves phase hmoves => exact hmoves.holder
  | _ => grind [HandedOver, Phase.holder]

theorem FleetEffect.mem_pools (heffect : FleetEffect env s a t) (hpool : appId ∈ t.pools) :
    appId ∈ s.pools ∨ ∃ inst ∈ s.instances, inst.appId = appId ∧ inst.phase.holder = .spawn := by
  cases heffect with
  | inserts inst hinst hphase => grind [Phase.holder]
  | forgets app ha hactive => exact .inl (mem_of_mem_filter hpool)
  | _ => exact .inl hpool

/-- No pool, and instances are only being shut down by calls that are not removals. -/
def Fleet.Gone (s : Fleet) (appId : AppId) : Prop :=
  appId ∉ s.pools ∧ ∀ inst ∈ s.instances, inst.appId = appId →
    ∃ killer, killer ≠ .removal ∧ inst.phase.holder = .shutdown killer

theorem Fleet.Gone.step (hgone : s.Gone appId) (heffect : FleetEffect env s a t)
    (hinv : FleetInv s) (ha : ∀ available, a ≠ .allocate appId available) : t.Gone appId := by
  constructor
  · -- Only a spawn that ends makes a pool, and there is none.
    intro hpool
    rcases heffect.mem_pools hpool with hold | ⟨inst, hinst, happ, hholder⟩
    · exact hgone.1 hold
    · rcases hgone.2 inst hinst happ with ⟨killer, -, hkiller⟩
      rw [hholder] at hkiller
      cases hkiller
  · intro inst hinst happ
    rcases heffect.origin hinv hinst with ⟨-, -, available, hnew, -⟩ | ⟨old, hold, hsame, hpass⟩
    · exact absurd hnew (happ ▸ ha available)
    · have holdApp : old.appId = appId := by
        rw [← happ, hsame]
      rcases hgone.2 old hold holdApp with ⟨killer, hne, hkiller⟩
      have hover := hpass.holder
      rw [HandedOver, hkiller] at hover
      rcases hover with hstays | ⟨-, hpool⟩
      · exact ⟨killer, hne, hstays⟩
      · exact absurd hpool (holdApp ▸ hgone.1)

/-- A removal shuts down what it waits for; marked applications stay marked, and removed ones are
    gone. -/
structure UndeployInv (s : Undeploy) : Prop where
  fleet : FleetInv s.demand.fleet
  routed : routedListing.Shows s.demand.fleet
  single : (s.removals.map Removal.appId).Nodup
  stops : ∀ inst ∈ s.demand.fleet.instances, inst.phase.holder = .shutdown .removal →
    ∃ rest, ⟨inst.appId, .stopping inst.id rest⟩ ∈ s.removals
  marks : ∀ removal ∈ s.removals, removal.point = .marked → removal.appId ∈ s.demand.undeployed
  gone : ∀ appId ∈ s.removed, appId ∈ s.demand.undeployed ∧ appId ∉ s.demand.calls ∧
    s.demand.fleet.Gone appId

/-- No instance of an application is being shut down by a removal. -/
def Undeploy.Idle (s : Undeploy) (appId : AppId) : Prop :=
  ∀ inst ∈ s.demand.fleet.instances, inst.appId = appId →
    inst.phase.holder ≠ .shutdown .removal

section Removals

variable {s : Undeploy} (hinv : UndeployInv s)
include hinv

variable {appId : AppId}

/-- Without a removal that waits, no instance is being shut down by one. -/
theorem UndeployInv.idle
    (h : ∀ removal, s.find appId = some removal → ∀ id rest, removal.point = .stopping id rest →
      s.demand.fleet.stopping id = false) : s.Idle appId := by
  rintro inst hinst rfl hholder
  rcases hinv.stops inst hinst hholder with ⟨rest, hmem⟩
  have hnot := h _ (Roster.find_of_mem hinv.single hmem) inst.id rest rfl
  have hstopping : s.demand.fleet.stopping inst.id = true :=
    any_eq_true.mpr ⟨inst, hinst, decide_eq_true ⟨rfl, hholder⟩⟩
  nomatch (hnot.symm.trans hstopping)

theorem UndeployInv.finish (hidle : s.Idle appId) : UndeployInv (s.finish appId) where
  fleet := hinv.fleet
  routed := hinv.routed
  single := hinv.single.sublist ((Roster.drop_sublist _ _).map _)
  stops := by
    intro inst hinst hholder
    rcases hinv.stops inst hinst hholder with ⟨rest, hmem⟩
    exact ⟨rest, Roster.mem_drop.mpr ⟨hmem, fun happ => hidle inst hinst happ hholder⟩⟩
  marks := fun removal hmem => hinv.marks removal (Roster.mem_drop.mp hmem).1
  gone := hinv.gone

/-- A removal that waits for nothing can go on to any point, if marked where required. -/
theorem UndeployInv.reach (hidle : s.Idle appId) {point : RemovalPoint}
    (hmark : point = .marked → appId ∈ s.demand.undeployed) :
    UndeployInv (s.reach appId point) where
  fleet := hinv.fleet
  routed := hinv.routed
  single := by
    refine nodup_cons.mpr ⟨fun hmem => ?_, (hinv.finish hidle).single⟩
    rcases mem_map.mp hmem with ⟨removal, hremoval, happ⟩
    exact (Roster.mem_drop.mp hremoval).2 happ
  stops := by
    intro inst hinst hholder
    rcases (hinv.finish hidle).stops inst hinst hholder with ⟨rest, hmem⟩
    exact ⟨rest, mem_cons_of_mem _ hmem⟩
  marks := by
    intro removal hremoval hpoint
    rcases mem_cons.mp hremoval with rfl | hold
    · exact hmark hpoint
    · exact (hinv.finish hidle).marks removal hold hpoint
  gone := hinv.gone

theorem UndeployInv.mark (appId : AppId) :
    UndeployInv { s with demand.undeployed := appId :: s.demand.undeployed } :=
  { hinv with
    marks := fun removal hmem hpoint => mem_cons_of_mem _ (hinv.marks removal hmem hpoint)
    gone := by
      intro app happ
      rcases hinv.gone app happ with ⟨hmarked, hgone⟩
      exact ⟨mem_cons_of_mem _ hmarked, hgone⟩ }

theorem UndeployInv.killNext (hidle : s.Idle appId) (stored : Bool) (ids : List Nat) :
    UndeployInv (s.killNext appId stored ids) := by
  cases ids with
  | cons id rest => exact hinv.reach hidle nofun
  | nil =>
    cases stored with
    | true => exact (hinv.mark appId).reach hidle (fun _ => (.head _))
    | false => exact hinv.finish hidle

/-- No spawn of a removed application, and no kill by a removal that does not wait. -/
theorem UndeployInv.fleetStep (env : SpawnEnv) {a : FleetAction}
    (hnew : ∀ appId ∈ s.removed, ∀ available, a ≠ .allocate appId available)
    (htake : ∀ appId id, a = .take .removal appId id →
      ∃ rest, ⟨appId, .stopping id rest⟩ ∈ s.removals) :
    UndeployInv { s with demand.fleet := fleetStep env s.demand.fleet a } where
  fleet := fleetInv_step env s.demand.fleet a hinv.fleet
  routed := routedListing_step env s.demand.fleet a hinv.fleet hinv.routed
  single := hinv.single
  stops := by
    intro inst hinst hholder
    rcases (fleetStep_effect env s.demand.fleet a).origin hinv.fleet hinst with
      ⟨-, hspawn, -⟩ | ⟨old, hold, hsame, hpass⟩
    · rw [hspawn] at hholder
      cases hholder
    · -- Either a removal had it before, or this one has just taken it from the pool.
      rw [hsame]
      have hover := hpass.holder
      have hstops := hinv.stops old hold
      have htaken := htake old.appId old.id
      grind [HandedOver]
  marks := hinv.marks
  gone := by
    intro appId happ
    rcases hinv.gone appId happ with ⟨hmarked, hcalls, hgone⟩
    exact ⟨hmarked, hcalls, hgone.step (fleetStep_effect env s.demand.fleet a) hinv.fleet
      (hnew appId happ)⟩

theorem UndeployInv.forget (env : SpawnEnv) (hmarked : appId ∈ s.demand.undeployed)
    (hcalls : appId ∉ s.demand.calls)
    (hspawns : ∀ inst ∈ s.demand.fleet.instances, inst.appId = appId → inst.phase.holder ≠ .spawn)
    (hidle : s.Idle appId) (hactive : s.demand.fleet.activeCount appId = 0) :
    UndeployInv { s with
        demand.fleet := (forgetApp s.demand.fleet appId).1
        removed := appId :: s.removed } := by
  have hforgot : UndeployInv { s with demand.fleet := (forgetApp s.demand.fleet appId).1 } :=
    hinv.fleetStep env (a := .forgetApp appId) (fun _ _ _ => nofun) (fun _ _ => nofun)
  refine { hforgot with gone := fun app happ => ?_ }
  rcases mem_cons.mp happ with rfl | hold
  · refine ⟨hmarked, hcalls, ?_⟩
    simp only [forgetApp, hactive, ne_eq, not_true_eq_false, if_false]
    refine ⟨fun hpool => of_decide_eq_true (mem_filter.mp hpool).2 rfl, ?_⟩
    intro inst hinst hof
    rcases mem_filter.mp hinst with ⟨hmem, hnot⟩
    cases hphase : inst.phase with
    | spawning point => exact absurd (by rw [hphase]; rfl) (hspawns inst hmem hof)
    | pooled state =>
      rw [Tracked.inPool_iff.mpr ⟨hof, state, hphase⟩] at hnot
      cases hnot
    | shutdown killer point =>
      refine ⟨killer, fun hkiller => hidle inst hmem hof ?_, rfl⟩
      rw [hphase, hkiller]
      rfl
  · exact hforgot.gone app hold

end Removals

theorem UndeployInv.calls {s : Undeploy} {d : Demand}
    (hinv : UndeployInv { s with demand.fleet := d.fleet })
    (hundeployed : d.undeployed = s.demand.undeployed)
    (hcalls : ∀ appId ∈ d.calls, appId ∈ s.demand.calls ∨ appId ∉ s.demand.undeployed) :
    UndeployInv { s with demand := d } where
  fleet := hinv.fleet
  routed := hinv.routed
  single := hinv.single
  stops := hinv.stops
  marks := hundeployed ▸ hinv.marks
  gone := by
    grind [hinv.gone]

theorem undeployInv_demand {env : SpawnEnv} {s : Undeploy} {a : DemandAction}
    (ha : a.ofRemoval = false) (hinv : UndeployInv s) :
    UndeployInv { s with demand := demandStep env s.demand a } := by
  refine UndeployInv.calls ?_ (undeployed_demandStep env s.demand a)
    (fun appId => mem_calls_demandStep)
  rcases demandStep_fleet env s.demand a with hsame | ⟨b, hstep, hb⟩
  · rw [hsame]
    exact hinv
  · rw [hstep]
    refine hinv.fleetStep env ?_ ?_
    · -- Whoever enters was on the way, so it is no application that was removed.
      rintro appId happ available rfl
      rcases hb with ⟨-, hnot⟩ | ⟨app, _, happ', hcall⟩
      · exact hnot appId available rfl
      · cases happ'
        exact (hinv.gone appId happ).2.1 hcall
    · rintro appId id rfl
      rcases hb with ⟨rfl, -⟩ | ⟨_, _, hc, -⟩
      · cases ha
      · cases hc

theorem undeployInv_step {env : SpawnEnv} (s : Undeploy) (a : UndeployAction)
    (hdone : SpawnsDone s a) (hinv : UndeployInv s) : UndeployInv (undeployStep env s a) := by
  cases a with
  | demand a =>
    rw [undeployStep]
    -- What is a removal's own does not happen by itself.
    by_cases ha : a.ofRemoval = true
    · rw [if_pos ha]
      exact hinv
    · rw [if_neg ha]
      exact undeployInv_demand (Bool.not_eq_true _ ▸ ha) hinv
  | remove appId ids stored =>
    rw [undeployStep]
    split
    · rename_i hfree
      refine hinv.killNext (hinv.idle fun removal hfind => ?_) stored ids
      rw [hfree.1] at hfind
      cases hfind
    · exact hinv
  | proceed appId stored =>
    rw [undeployStep]
    rcases hfind : s.find appId with _ | ⟨app, point⟩
    · exact hinv
    · rcases Roster.mem_of_find hfind with ⟨hmem, rfl⟩
      -- What it waits for, if that is not an instance that stops.
      have hidle : (∀ id rest, point = .stopping id rest →
          s.demand.fleet.stopping id = false) → s.Idle app := by
        grind [hinv.idle]
      cases point with
      | killing id rest =>
        -- The removal is said to wait for the instance before it takes it.
        have hreach : UndeployInv (s.reach app (.stopping id rest)) :=
          hinv.reach (hidle fun _ _ h => by cases h) (fun h => by cases h)
        refine hreach.fleetStep env (fun _ _ _ h => by cases h) ?_
        rintro appId id' ⟨⟩
        exact ⟨rest, (.head _)⟩
      | stopping id rest =>
        dsimp only
        split
        · exact hinv
        · rename_i hstopped
          refine hinv.killNext (hidle ?_) stored rest
          rintro _ _ ⟨⟩
          exact Bool.not_eq_true _ ▸ hstopped
      | marked =>
        have hquiet := hidle fun _ _ h => by cases h
        have hfinish := hinv.finish hquiet
        by_cases hactive : s.demand.fleet.activeCount app = 0
        · rcases hdone hfind hactive with ⟨hcalls, hspawns⟩
          have hok : (forgetApp s.demand.fleet app).2 = true := by simp [forgetApp, hactive]
          dsimp only
          rw [if_pos hok]
          exact hfinish.forget env (hinv.marks _ hmem rfl) hcalls hspawns hquiet hactive
        · -- The removal returns an error.
          have hrefused : ¬(forgetApp s.demand.fleet app).2 = true := by
            simp [forgetApp, hactive]
          dsimp only
          rw [if_neg hrefused]
          exact hfinish.fleetStep env (a := .forgetApp app) (fun _ _ _ h => by cases h)
            (fun _ _ h => by cases h)

/-- A supervisor before the first call. -/
def Undeploy.init (start finish : Nat) (restored undeployed : List AppId) : Undeploy :=
  ⟨.init start finish restored undeployed, [], []⟩

theorem undeployInv_init (start finish : Nat) (restored undeployed : List AppId) :
    UndeployInv (.init start finish restored undeployed) where
  fleet := fleetInv_init start finish restored
  routed := ⟨nofun, nofun⟩
  single := nodup_nil
  stops := nofun
  marks := nofun
  gone := nofun

/-- In a run in which pools are dropped only when no spawn of their application is under
    way, an application that was removed has no instance in a pool. It has no address
    among the upstreams either, once every other call that has taken an instance of it
    from its pool has removed the address. -/
theorem removed_never_runs {env : SpawnEnv} {start finish : Nat}
    {restored undeployed : List AppId} {run : List UndeployAction} {s : Undeploy}
    (hrun : Along (undeployStep env) SpawnsDone (.init start finish restored undeployed) run)
    (hs : s = runAll (undeployStep env) (.init start finish restored undeployed) run)
    (appId : AppId) (hremoved : appId ∈ s.removed)
    (hquiet : ∀ inst ∈ s.demand.fleet.instances, inst.appId = appId →
      ∀ killer, inst.phase = .shutdown killer .taken → killer = .removal) :
    (∀ inst ∈ s.demand.fleet.instances, inst.inPool appId = false) ∧
      ∀ port, (appId, port) ∉ s.demand.fleet.registries.upstreams := by
  have hinv : UndeployInv s :=
    hs ▸ invariant_along undeployInv_step hrun (undeployInv_init start finish restored undeployed)
  have hgone := (hinv.gone appId hremoved).2.2.2
  constructor
  · intro inst hinst
    rw [← Bool.not_eq_true]
    intro hpool
    rcases Tracked.inPool_iff.mp hpool with ⟨happ, state, hphase⟩
    rcases hgone inst hinst happ with ⟨killer, -, hkiller⟩
    rw [hphase] at hkiller
    cases hkiller
  · intro port hmem
    rcases hinv.routed.sound _ hmem with ⟨inst, hinst, hentry, hmay⟩
    have happ : inst.appId = appId := congrArg Prod.fst hentry
    rcases hgone inst hinst happ with ⟨killer, hne, hkiller⟩
    -- Of the phases of a shutdown, the first is the only one that is routed.
    cases hphase : inst.phase with
    | spawning point | pooled state => rw [hphase] at hkiller; cases hkiller
    | shutdown killer' point =>
      rw [hphase] at hkiller hmay
      cases hkiller
      cases point with
      | taken => exact hne (hquiet inst hinst happ killer hphase)
      | _ => cases hmay

/-- An instance is killed by the removal. Then a gateway asks for one. -/
def undeployedRun : List UndeployAction :=
  (coldStart 0).map .demand ++ [.remove portApp [0] true, .proceed portApp true] ++
    (List.replicate 3 (DemandAction.fleet (.proceed 0 true))).map .demand ++
    [.demand (.fleet (.workerExits 0))] ++
    (List.replicate 3 (DemandAction.fleet (.proceed 0 true))).map .demand ++
    [.proceed portApp true, .proceed portApp true] ++ (coldStart 1).map .demand

theorem removed_never_runs_undeployedRun :
    let s := runAll (undeployStep (oneApp "default")) (.init 9000 9001 [] []) undeployedRun
    portApp ∈ s.removed ∧ (∀ inst ∈ s.demand.fleet.instances, inst.inPool portApp = false) ∧
      ∀ port, (portApp, port) ∉ s.demand.fleet.registries.upstreams := by
  have hnone : (runAll (undeployStep (oneApp "default")) (.init 9000 9001 [] [])
      undeployedRun).demand.fleet.instances = [] := by decide +kernel
  refine ⟨by decide +kernel, @removed_never_runs (oneApp "default") 9000 9001 [] [] undeployedRun _
    (by decide +kernel) rfl portApp (by decide +kernel) ?_⟩
  intro inst hinst
  rw [hnone] at hinst
  cases hinst

/-- A spawn waits for its worker while the application is removed, and in the end there is an
    instance in its pool and an address among the upstreams. -/
theorem removed_runs :
    let s := runAll (undeployStep (oneApp "default")) (.init 9000 9001 [] [])
      ([.demand (.call .ensureInstance portApp), .demand (.enter portApp [])] ++
        (List.replicate 3 (DemandAction.fleet (.proceed 0 true))).map .demand ++
        [.remove portApp [] true, .proceed portApp true] ++
        (List.replicate 5 (DemandAction.fleet (.proceed 0 true))).map .demand)
    s.removed = [portApp] ∧ s.demand.undeployed = [portApp] ∧ s.removals = [] ∧
      s.demand.calls = [] ∧
      s.demand.fleet.instances.map (fun inst => (inst.appId, inst.phase)) =
        [(portApp, .pooled .ready)] ∧
      s.demand.fleet.registries.upstreams = [(portApp, 9000)] := by
  decide +kernel

end WasmCloud
