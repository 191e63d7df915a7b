import WasmCloud.Supervisor.Ticks
import WasmCloud.Supervisor.Undeploy

/-!
# Rotating Secrets

An instance gets its environment when it is spawned. A node that receives a new secret, or is
told that one is revoked, writes it to its provider and then kills the instances it finds in
the pool at one moment. A spawn that resolved its environment before the write and puts its
instance into the pool after that moment is not found.

Versions count the writes of an application's secrets, and each instance has the version its
environment was resolved at. `SpawnsResolved` asks that, when a rotation looks at the pool, no
spawn is under way whose environment is older than its write.
-/

namespace WasmCloud

open List

/-- A secret to store, for one node or for all, or to delete on one. -/
inductive SecretOp where
  | update (targetNodeId : Option String)
  | delete (targetNodeId : String)
  deriving DecidableEq, Repr

/-- The event is meant for this node. The handler of one that is not returns at once. -/
def SecretOp.meant (nodeId : String) : SecretOp → Bool
  | .update none => true
  | .update (some target) => target = nodeId
  | .delete target => target = nodeId

/-- A handler has written, waits for the shutdown of an instance, or has returned. -/
inductive RotationPoint where
  | written
  | killing (current : Option Nat) (rest : List Nat)
  | returned
  deriving DecidableEq, Repr

/-- `version` is the number of writes of the application's secrets up to this one. -/
structure Rotation where
  appId : AppId
  version : Nat
  point : RotationPoint
  deriving DecidableEq

/-- One entry in `writes` for each write, the version each instance's environment was resolved
    at, and the handlers. -/
structure Vault where
  fleet : Fleet
  writes : List AppId
  resolved : List (Nat × Nat)
  rotations : List Rotation

/-- `stored` is whether the provider accepts, `ids` the order of the pool. -/
inductive VaultAction where
  | fleet (a : FleetAction)
  | secret (op : SecretOp) (appId : AppId) (stored : Bool)
  | listPool (index : Nat) (ids : List Nat)
  | killNext (index : Nat)
  deriving DecidableEq

namespace Vault

/-- The writes of an application's secrets up to now. -/
def version (s : Vault) (appId : AppId) : Nat := s.writes.count appId

def versionOf (s : Vault) (id : Nat) : Option Nat :=
  (s.resolved.find? (fun entry => entry.1 = id)).map Prod.snd

/-- The instances of an application's pool. -/
def pooled (s : Vault) (appId : AppId) : List Nat :=
  (s.fleet.instances.filter (fun inst => inst.inPool appId)).map Tracked.id

def reach (s : Vault) (index : Nat) (rotation : Rotation) (point : RotationPoint) : Vault :=
  { s with rotations := s.rotations.set index { rotation with point := point } }

end Vault

/-- The instance is being shut down by a handler. -/
def Fleet.closing (s : Fleet) (id : Nat) : Bool :=
  s.instances.any (fun inst => inst.id = id ∧ inst.phase.holder = .shutdown .request)

/-- A spawn that allocates a port resolves its environment. -/
def vaultStep (nodeId : String) (env : SpawnEnv) (s : Vault) : VaultAction → Vault
  | .fleet a =>
    let fleet := fleetStep env s.fleet a
    { s with
      fleet := fleet
      resolved := match a with
        | .allocate appId _ =>
          if fleet.nextId = s.fleet.nextId then s.resolved
          else (s.fleet.nextId, s.version appId) :: s.resolved
        | .proceed _ _ | .take _ _ _ | .forgetApp _ | .workerExits _ => s.resolved }
  | .secret op appId stored =>
    if op.meant nodeId && stored then
      { s with
        writes := appId :: s.writes
        rotations := ⟨appId, s.version appId + 1, .written⟩ :: s.rotations }
    else s
  | .listPool index ids =>
    match s.rotations[index]? with
    | some ⟨appId, version, .written⟩ =>
      if ids.Perm (s.pooled appId) then
        s.reach index ⟨appId, version, .written⟩ (.killing none ids)
      else s
    | some ⟨_, _, .killing _ _⟩ | some ⟨_, _, .returned⟩ | none => s
  | .killNext index =>
    match s.rotations[index]? with
    | some ⟨appId, version, .killing current rest⟩ =>
      -- An instance that does not stop in time goes back to the pool, and the
      -- handler goes on.
      if current.any s.fleet.closing then s
      else match rest with
        | [] => s.reach index ⟨appId, version, .killing current []⟩ .returned
        | id :: rest =>
          -- Somebody else may have taken the instance. Then there is nothing to wait for.
          { s.reach index ⟨appId, version, .killing current (id :: rest)⟩
              (.killing ((s.fleet.findPooled appId id).map Tracked.id) rest) with
            fleet := fleetStep env s.fleet (.take .request appId id) }
    | some ⟨_, _, .written⟩ | some ⟨_, _, .returned⟩ | none => s

/-- When a handler looks at the pool, no spawn of the application is under way with an older
    environment. -/
def SpawnsResolved (s : Vault) : VaultAction → Prop
  | .listPool index _ =>
    ∀ rotation ∈ s.rotations[index]?, ∀ inst ∈ s.fleet.instances,
      inst.appId = rotation.appId → ∀ version ∈ s.versionOf inst.id,
        version < rotation.version → inst.phase.holder ≠ .spawn
  | .fleet _ | .secret _ _ _ | .killNext _ => True

instance (s : Vault) : (a : VaultAction) → Decidable (SpawnsResolved s a)
  | .listPool index _ => inferInstanceAs (Decidable
      (∀ rotation ∈ s.rotations[index]?, ∀ inst ∈ s.fleet.instances,
        inst.appId = rotation.appId → ∀ version ∈ s.versionOf inst.id,
          version < rotation.version → inst.phase.holder ≠ .spawn))
  | .fleet _ | .secret _ _ _ | .killNext _ => instDecidableTrue

/-- Its environment is not older, its shutdown has begun, or the handler has still to kill it. -/
def Overtaken (s : Vault) (rotation : Rotation) (inst : Tracked) : Prop :=
  (∀ version ∈ s.versionOf inst.id, rotation.version ≤ version) ∨
    (inst.phase.stage = .closing ∨ inst.phase.stage = .past) ∨
    ∃ current rest, rotation.point = .killing current rest ∧ inst.id ∈ rest ∧
      inst.phase = .pooled .ready

structure VaultInv (s : Vault) : Prop where
  fleet : FleetInv s.fleet
  resolved : ∀ inst ∈ s.fleet.instances, (s.versionOf inst.id).isSome = true
  written : ∀ rotation ∈ s.rotations, rotation.version ≤ s.version rotation.appId
  overtaken : ∀ rotation ∈ s.rotations, rotation.point ≠ .written → ∀ inst ∈ s.fleet.instances,
    inst.appId = rotation.appId → Overtaken s rotation inst

variable {a : FleetAction} {inst : Tracked} {index : Nat}

theorem Passes.of_ready {s : Fleet} {old : Tracked} {phase : Phase} (h : Passes s a old phase)
    (hready : old.phase = .pooled .ready) : phase = .pooled .ready ∨ phase.stage = .closing := by
  cases h with
  | stays => exact .inl hready
  | launches point hpoint hphase => rw [hready] at hphase; cases hphase
  | moves phase hmoves =>
    simp only [Moves, hready] at hmoves
    rcases hmoves with ⟨killer, rfl, -⟩
    exact .inr rfl
  | inserts hphase | bills killer hphase => rw [hready] at hphase; cases hphase

theorem versionOf_fleet_old (nodeId : String) (env : SpawnEnv) (s : Vault) (a : FleetAction)
    {id : Nat} (hid : id < s.fleet.nextId) :
    (vaultStep nodeId env s (.fleet a)).versionOf id = s.versionOf id := by
  cases a with
  | allocate appId available =>
    grind [Vault.versionOf, vaultStep]
  | proceed id succeeds | take killer appId id | forgetApp appId | workerExits id => rfl

theorem versionOf_fleet_new (nodeId : String) (env : SpawnEnv) (s : Vault) (appId : AppId)
    (available : List AppId)
    (hnew : (fleetStep env s.fleet (.allocate appId available)).nextId ≠ s.fleet.nextId) :
    (vaultStep nodeId env s (.fleet (.allocate appId available))).versionOf s.fleet.nextId =
      some (s.version appId) := by
  grind [Vault.versionOf, vaultStep]

variable {s : Vault} {nodeId : String} {env : SpawnEnv} {rotation : Rotation}

theorem Overtaken.fleet (h : VaultInv s) (hrotation : rotation ∈ s.rotations)
    (hpoint : rotation.point ≠ .written) (hinst : inst ∈ (fleetStep env s.fleet a).instances)
    (happ : inst.appId = rotation.appId) :
    Overtaken (vaultStep nodeId env s (.fleet a)) rotation inst := by
  have hfresh := (fleetInv_step env s.fleet a h.fleet).fresh inst hinst
  rcases (fleetStep_effect env s.fleet a).origin h.fleet hinst with
    ⟨hid, -, available, rfl, -⟩ | ⟨old, hold, heq, hpass⟩
  · -- Its environment was resolved just now.
    refine .inl (fun version hversion => ?_)
    rw [hid, versionOf_fleet_new nodeId env s inst.appId available (by omega)] at hversion
    rw [← Option.some.inj hversion, happ]
    exact h.written rotation hrotation
  · have hkept := versionOf_fleet_old nodeId env s a (h.fleet.fresh old hold)
    rw [heq] at happ ⊢
    rcases h.overtaken rotation hrotation hpoint old hold happ with
      hversion | hclosed | ⟨current, rest, hkilling, hrest, hready⟩
    · exact .inl (hkept ▸ hversion)
    · exact .inr (.inl (hpass.closed hclosed))
    · rcases hpass.of_ready hready with hready | hclosing
      · exact .inr (.inr ⟨current, rest, hkilling, hrest, hready⟩)
      · exact .inr (.inl (.inl hclosing))

theorem VaultInv.fleetStep (h : VaultInv s) (a : FleetAction) :
    VaultInv (vaultStep nodeId env s (.fleet a)) where
  fleet := fleetInv_step env s.fleet a h.fleet
  resolved := by
    intro inst hinst
    have hfresh := (fleetInv_step env s.fleet a h.fleet).fresh inst hinst
    rcases (fleetStep_effect env s.fleet a).origin h.fleet hinst with
      ⟨hid, -, available, rfl, -⟩ | ⟨old, hold, heq, -⟩
    · rw [hid, versionOf_fleet_new nodeId env s inst.appId available (by omega)]
      rfl
    · rw [heq, versionOf_fleet_old nodeId env s a (h.fleet.fresh old hold)]
      exact h.resolved old hold
  written := h.written
  overtaken := fun rotation hrotation hpoint inst hinst happ =>
    Overtaken.fleet h hrotation hpoint hinst happ

theorem VaultInv.reach (h : VaultInv s) (hrotation : s.rotations[index]? = some rotation)
    {point : RotationPoint} (hovertaken : ∀ inst ∈ s.fleet.instances, inst.appId = rotation.appId →
      Overtaken s { rotation with point := point } inst) :
    VaultInv (s.reach index rotation point) where
  fleet := h.fleet
  resolved := h.resolved
  written := by
    intro other hother
    rcases mem_or_eq_of_mem_set hother with hold | rfl
    · exact h.written other hold
    · exact h.written rotation (mem_of_getElem? hrotation)
  overtaken := by
    intro other hother hpoint inst hinst happ
    rcases mem_or_eq_of_mem_set hother with hold | rfl
    · exact h.overtaken other hold hpoint inst hinst happ
    · exact hovertaken inst hinst happ

theorem overtaken_listPool (h : VaultInv s) {ids : List Nat}
    (hrotation : s.rotations[index]? = some rotation)
    (hspawns : SpawnsResolved s (.listPool index ids)) (hids : ids.Perm (s.pooled rotation.appId))
    (hinst : inst ∈ s.fleet.instances) (happ : inst.appId = rotation.appId) :
    Overtaken s { rotation with point := .killing none ids } inst := by
  rcases Option.isSome_iff_exists.mp (h.resolved inst hinst) with ⟨version, hversion⟩
  by_cases hold : version < rotation.version
  · refine .inr ?_
    have hholder := hspawns rotation hrotation inst hinst happ version hversion hold
    cases hphase : inst.phase with
    | spawning point => rw [hphase] at hholder; exact absurd rfl hholder
    | shutdown killer point =>
      cases point <;> first | exact .inl (.inl rfl) | exact .inl (.inr rfl)
    | pooled state =>
      cases state with
      | ready =>
        refine .inr ⟨none, ids, rfl, hids.mem_iff.mpr (mem_map.mpr ⟨inst, ?_, rfl⟩), rfl⟩
        exact mem_filter.mpr ⟨hinst, Tracked.inPool_iff.mpr ⟨happ, _, hphase⟩⟩
      | draining | stopping | exitTimedOut => exact .inl (.inl rfl)
  · refine .inl (fun other hother => ?_)
    rw [← Option.some.inj (hversion.symm.trans hother)]
    exact not_lt.mp hold

theorem vaultInv_step (s : Vault) (a : VaultAction) (hspawns : SpawnsResolved s a)
    (h : VaultInv s) : VaultInv (vaultStep nodeId env s a) := by
  cases a with
  | fleet a => exact h.fleetStep a
  | secret op appId stored =>
    rw [vaultStep]
    split
    · refine ⟨h.fleet, h.resolved, fun rotation hrotation => ?_, fun rotation hrotation => ?_⟩
      · rcases mem_cons.mp hrotation with rfl | hrotation
        · have hcount : (appId :: s.writes).count appId = s.writes.count appId + 1 :=
            count_cons_self
          exact le_of_eq hcount.symm
        · exact (h.written rotation hrotation).trans count_le_count_cons
      · rcases mem_cons.mp hrotation with rfl | hrotation
        · exact fun hpoint => absurd rfl hpoint
        · exact h.overtaken rotation hrotation
    · exact h
  | listPool index ids =>
    rw [vaultStep]
    rcases hrotation : s.rotations[index]? with _ | ⟨appId, version, _ | ⟨current, rest⟩ | _⟩
    · exact h
    · dsimp only
      by_cases hids : ids.Perm (s.pooled appId)
      · rw [if_pos hids]
        exact h.reach hrotation (fun inst hinst happ =>
          overtaken_listPool h hrotation hspawns hids hinst happ)
      · rw [if_neg hids]
        exact h
    · exact h
    · exact h
  | killNext index =>
    rw [vaultStep]
    rcases hrotation : s.rotations[index]? with _ | ⟨appId, version, _ | ⟨current, rest⟩ | _⟩
    · exact h
    · exact h
    · dsimp only
      have hmem := mem_of_getElem? hrotation
      split
      · exact h
      · cases rest with
        | nil =>
          refine h.reach hrotation (fun inst hinst happ => ?_)
          rcases h.overtaken _ hmem RotationPoint.noConfusion inst hinst happ with
            hversion | hclosed | ⟨_, _, hkilling, hrest, -⟩
          · exact .inl hversion
          · exact .inr (.inl hclosed)
          · cases hkilling
            exact absurd hrest not_mem_nil
        | cons id rest =>
          have htaken : VaultInv (vaultStep nodeId env s (.fleet (.take .request appId id))) :=
            h.fleetStep _
          refine htaken.reach hrotation (fun inst hinst happ => ?_)
          rcases htaken.overtaken _ hmem RotationPoint.noConfusion inst hinst happ with
            hversion | hclosed | ⟨_, _, hkilling, hrest, hready⟩
          · exact .inl hversion
          · exact .inr (.inl hclosed)
          · cases hkilling
            refine .inr (.inr ⟨_, rest, rfl, ?_, hready⟩)
            -- The one just taken is in no pool.
            refine (mem_cons.mp hrest).resolve_left (fun hid => ?_)
            have hout := inPool_take env h.fleet hinst hid
            rw [Tracked.inPool, hready, happ] at hout
            exact absurd hout (by simp)
    · exact h

def Vault.init (start finish : Nat) (restored : List AppId) : Vault :=
  ⟨.init start finish restored, [], [], []⟩

theorem vaultInv_init (start finish : Nat) (restored : List AppId) :
    VaultInv (.init start finish restored) where
  fleet := fleetInv_init start finish restored
  resolved := nofun
  written := nofun
  overtaken := nofun

/-- In a run in which no handler looks at the pool while an older spawn is under way,
    every ready instance has an environment no older than the write of any handler that
    has returned. -/
theorem rotated_secret_unused {nodeId : String} {env : SpawnEnv} {start finish : Nat}
    {restored : List AppId} {run : List VaultAction} {s : Vault}
    (hrun : Along (vaultStep nodeId env) SpawnsResolved (.init start finish restored) run)
    (hs : s = runAll (vaultStep nodeId env) (.init start finish restored) run)
    {rotation : Rotation} (hrotation : rotation ∈ s.rotations)
    (hreturned : rotation.point = .returned) {inst : Tracked} (hinst : inst ∈ s.fleet.instances)
    (happ : inst.appId = rotation.appId) (hready : inst.phase = .pooled .ready) :
    ∃ version, s.versionOf inst.id = some version ∧ rotation.version ≤ version := by
  have hinv : VaultInv s :=
    hs ▸ invariant_along vaultInv_step hrun (vaultInv_init start finish restored)
  rcases Option.isSome_iff_exists.mp (hinv.resolved inst hinst) with ⟨version, hversion⟩
  refine ⟨version, hversion, ?_⟩
  rcases hinv.overtaken rotation hrotation (by rw [hreturned]; exact RotationPoint.noConfusion)
    inst hinst happ with hnewer | hclosed | ⟨_, _, hkilling, -⟩
  · exact hnewer version hversion
  · rw [hready] at hclosed
    rcases hclosed with hc | hc <;> cases hc
  · rw [hreturned] at hkilling
    cases hkilling

def rotate (ids : List Nat) (kills : List VaultAction) : List VaultAction :=
  [.secret (.update none) portApp true, .listPool 0 ids] ++ kills ++ [.killNext 0]

def rotatedRun : List VaultAction :=
  (spawnSteps 0).map .fleet ++
    rotate [0] (.killNext 0 :: .fleet (.workerExits 0) ::
      (List.replicate 6 (FleetAction.proceed 0 true)).map .fleet) ++
    (spawnSteps 1).map .fleet

theorem rotated_secret_unused_rotatedRun :
    let s := runAll (vaultStep "n1" (oneApp "default")) (.init 9000 9001 []) rotatedRun
    ∃ version, s.versionOf 1 = some version ∧ 1 ≤ version := by
  have hrotation : (⟨portApp, 1, .returned⟩ : Rotation) ∈
      (runAll (vaultStep "n1" (oneApp "default")) (.init 9000 9001 []) rotatedRun).rotations := by
    decide +kernel
  have hinst : (⟨1, portApp, portApp, 9000, .wasiCli, .pooled .ready⟩ : Tracked) ∈
      (runAll (vaultStep "n1" (oneApp "default")) (.init 9000 9001 [])
        rotatedRun).fleet.instances := by
    decide +kernel
  exact rotated_secret_unused (by decide +kernel) rfl hrotation rfl hinst rfl rfl

/-- The handler finds an empty pool and returns, and then a spawn puts its instance there, ready
    and with the old secret. -/
theorem rotated_secret_used :
    let s := runAll (vaultStep "n1" (oneApp "default")) (.init 9000 9001 [])
      (.fleet (.allocate portApp []) :: rotate [] [] ++
        (List.replicate 8 (FleetAction.proceed 0 true)).map .fleet)
    s.rotations = [⟨portApp, 1, .returned⟩] ∧ s.versionOf 0 = some 0 ∧
      s.fleet.instances = [⟨0, portApp, portApp, 9000, .wasiCli, .pooled .ready⟩] := by
  decide +kernel

end WasmCloud
