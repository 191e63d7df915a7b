import WasmCloud.Supervisor.SocketCheck
import WasmCloud.Supervisor.Workers

/-!
# Sockets

Guests that bind ports and connect to them while the fleet changes. The check of a guest is made
when its instance is launched and stays as it is. An instance listens for longer than it is among
the services, so a port in a guest's set may belong to an instance of another namespace.
`Announced` asks that whoever listens on such a port is among the services.

A bind is checked against the same set. `Contained` asks that guests are launched under
`OwnPortOnly`, and that a spawn fails only when its worker has exited.
-/

namespace WasmCloud

open List

/-- Applications, their network policies, which may depend on the port, and addresses. -/
structure SocketEnv where
  spawn : SpawnEnv
  policy : AppId → Nat → NetworkPolicy
  gatewayPort : Nat
  bindIp : IpAddr

structure Guest where
  check : InstanceCheck
  policy : NetworkPolicy
  model : ComponentExecutionModel
  deriving DecidableEq

/-- The guest an instance is launched as. -/
def guestOf (env : SocketEnv) (s : Fleet) (inst : Tracked) : Guest where
  check := ⟨inst.id, inst.qualified, inst.port, env.gatewayPort, env.bindIp,
    allowedPorts env.gatewayPort s.registries.services inst.qualified.ns inst.port⟩
  policy := env.policy inst.appId inst.port
  model := inst.model

/-- The guest that is launched in a step of the fleet. -/
def launched (env : SocketEnv) (s : Fleet) : FleetAction → Option Guest
  | .proceed id true =>
    (s.find id).bind fun inst =>
      if inst.phase = .spawning .allocated then some (guestOf env s inst) else none
  | .proceed _ false | .allocate _ _ | .take _ _ _ | .forgetApp _ | .workerExits _ => none

/-- A guest that listens on a port, or has bound it. -/
structure Listener where
  guest : Guest
  port : Nat
  deriving DecidableEq

/-- A connection that was allowed, and who listened at that moment. -/
structure Grant where
  guest : Guest
  port : Nat
  listening : List Listener
  deriving DecidableEq

/-- The fleet, all guests there have been, who listens, and what was allowed. -/
structure Sockets where
  fleet : Fleet
  guests : List Guest
  listening : List Listener
  binds : List (Guest × SocketAddr)
  grants : List Grant

/-- The server of a `wasi:http` component listens by itself; what a guest binds is checked.
    `scan` is the order of the services. -/
inductive SocketAction where
  | fleet (a : FleetAction)
  | serve (guest : Guest)
  | bind (guest : Guest) (k : PolicyCounters) (use : SocketAddrUse) (addr : SocketAddr)
  | connect (guest : Guest) (use : SocketAddrUse) (dest : SocketAddr) (scan : NamespaceRegistry)
  | close (listener : Listener)
  deriving DecidableEq

def Sockets.init (start finish : Nat) (restored : List AppId) : Sockets :=
  ⟨.init start finish restored, [], [], [], []⟩

def Sockets.Runs (s : Sockets) (guest : Guest) : Prop :=
  guest ∈ s.guests ∧ s.fleet.finished guest.check.id = false

instance (s : Sockets) (guest : Guest) : Decidable (s.Runs guest) :=
  inferInstanceAs (Decidable (_ ∧ _))

/-- A connection to a loopback port that is not the gateway's is asked for and allowed. -/
def Allows (s : Sockets) (guest : Guest) (use : SocketAddrUse) (dest : SocketAddr)
    (scan : NamespaceRegistry) : Prop :=
  s.Runs guest ∧ scan.Perm s.fleet.registries.services ∧
    (use = .tcpConnect ∨ use = .udpSend) ∧ dest.ip.isLoopback = true ∧
    dest.port.toNat ≠ guest.check.gatewayPort ∧
    socketAddrCheck guest.check scan dest use = some true

instance (s : Sockets) (guest : Guest) (use : SocketAddrUse) (dest : SocketAddr)
    (scan : NamespaceRegistry) : Decidable (Allows s guest use dest scan) :=
  inferInstanceAs (Decidable (_ ∧ _ ∧ _ ∧ _ ∧ _ ∧ _))

def socketStep (env : SocketEnv) (s : Sockets) : SocketAction → Sockets
  | .fleet a =>
    let fleet := fleetStep env.spawn s.fleet a
    { s with
      fleet := fleet
      guests := (launched env s.fleet a).toList ++ s.guests
      -- The sockets of a worker are closed when it exits.
      listening := s.listening.filter fun l => !fleet.finished l.guest.check.id }
  | .serve guest =>
    if s.Runs guest ∧ guest.model = .wasiHttpIncomingHandler then
      { s with listening := ⟨guest, guest.check.hostPort⟩ :: s.listening }
    else s
  | .bind guest k use addr =>
    if s.Runs guest ∧ use.binds = true ∧
        (composeSocketAddrCheck guest.policy k
          (some (socketAddrCheck guest.check s.fleet.registries.services)) addr use).2 =
          some true then
      { s with
        listening := ⟨guest, addr.port.toNat⟩ :: s.listening
        binds := (guest, addr) :: s.binds }
    else s
  | .connect guest use dest scan =>
    if Allows s guest use dest scan then
      { s with grants := ⟨guest, dest.port.toNat, s.listening⟩ :: s.grants }
    else s
  | .close listener => { s with listening := s.listening.erase listener }

variable {s : Fleet} {a : FleetAction}

theorem launched_eq {env : SocketEnv} {guest : Guest} (h : launched env s a = some guest) :
    ∃ inst ∈ s.instances, inst.phase = .spawning .allocated ∧ a = .proceed inst.id true ∧
      guest = guestOf env s inst := by
  cases a with
  | proceed id succeeds =>
    cases succeeds with
    | false => cases h
    | true =>
      rcases Option.bind_eq_some_iff.mp h with ⟨inst, hfind, hguest⟩
      grind [Fleet.mem_of_find]
  | allocate | take | forgetApp | workerExits => cases h

/-- A guest knows its instance's name and port, and whoever listens has a running worker. -/
structure SocketInv (s : Sockets) : Prop where
  fleet : FleetInv s.fleet
  fresh : ∀ guest ∈ s.guests, guest.check.id < s.fleet.nextId
  own : ∀ guest ∈ s.guests, ∀ inst ∈ s.fleet.instances, inst.id = guest.check.id →
    inst.qualified = guest.check.source ∧ inst.port = guest.check.hostPort ∧
      inst.phase.stage ≠ .unlaunched
  listeners : ∀ l ∈ s.listening, s.Runs l.guest

theorem socketInv_init (start finish : Nat) (restored : List AppId) :
    SocketInv (.init start finish restored) where
  fleet := fleetInv_init start finish restored
  fresh _ h := absurd h not_mem_nil
  own _ h := absurd h not_mem_nil
  listeners _ h := absurd h not_mem_nil

theorem Passes.launched {old : Tracked} {phase : Phase} (h : Passes s a old phase)
    (hold : old.phase.stage ≠ .unlaunched) : phase.stage ≠ .unlaunched := by
  cases h with
  | moves phase hmoves => exact hmoves.stage.1
  | _ => grind [Phase.stage]

section Fleet

variable {env : SocketEnv} {s : Sockets} {guest : Guest}

theorem mem_guests_step {a : FleetAction} (h : guest ∈ (socketStep env s (.fleet a)).guests) :
    launched env s.fleet a = some guest ∨ guest ∈ s.guests :=
  (mem_append.mp h).imp_left Option.mem_toList.mp

theorem own_launched (hinv : FleetInv s.fleet) {a : FleetAction}
    (h : launched env s.fleet a = some guest) :
    ∀ inst ∈ (fleetStep env.spawn s.fleet a).instances, inst.id = guest.check.id →
      inst.qualified = guest.check.source ∧ inst.port = guest.check.hostPort ∧
        inst.phase.stage ≠ .unlaunched := by
  rcases launched_eq h with ⟨old, hold, hphase, rfl, rfl⟩
  rcases fleetStep_launch env.spawn hinv hold hphase with ⟨point, hpoint, hstep⟩
  intro inst hinst hid
  rw [hstep] at hinst
  rcases (hinv.mem_moveTo hold).mp hinst with rfl | ⟨-, hne⟩
  · refine ⟨rfl, rfl, ?_⟩
    rcases hpoint with rfl | rfl <;> exact Stage.noConfusion
  · exact absurd hid hne

theorem socketInv_fleet (hinv : SocketInv s) (a : FleetAction) :
    SocketInv (socketStep env s (.fleet a)) := by
  have heffect := fleetStep_effect env.spawn s.fleet a
  refine ⟨heffect.inv hinv.fleet, fun guest hguest => ?_, fun guest hguest inst hinst hid => ?_,
    fun l hl => ?_⟩
  · refine lt_of_lt_of_le ?_ heffect.nextId_le
    rcases mem_guests_step hguest with hnew | hold
    · rcases launched_eq hnew with ⟨inst, hinst, -, -, rfl⟩
      exact hinv.fleet.fresh inst hinst
    · exact hinv.fresh guest hold
  · rcases mem_guests_step hguest with hnew | hguest
    · exact own_launched hinv.fleet hnew inst hinst hid
    · rcases heffect.origin hinv.fleet hinst with ⟨hnew, -⟩ | ⟨old, hold, hsame, hpass⟩
      · exact absurd (hinv.fresh guest hguest) (by omega)
      · have hold_id : old.id = guest.check.id := by rw [hsame] at hid; exact hid
        rcases hinv.own guest hguest old hold hold_id with ⟨hqualified, hport, hstage⟩
        rw [hsame]
        exact ⟨hqualified, hport, hpass.launched hstage⟩
  · rcases mem_filter.mp hl with ⟨hold, hrunning⟩
    rw [Bool.not_eq_true'] at hrunning
    exact ⟨mem_append_right _ (hinv.listeners l hold).1, hrunning⟩

variable (env) in
theorem socketInv_step (hinv : SocketInv s) (a : SocketAction) :
    SocketInv (socketStep env s a) := by
  cases a with
  | fleet a => exact socketInv_fleet hinv a
  | serve guest | bind guest k use addr =>
    rw [socketStep]
    split_ifs with hopens
    · refine { hinv with listeners := fun l hl => ?_ }
      rcases mem_cons.mp hl with rfl | hold
      · exact hopens.1
      · exact hinv.listeners l hold
    · exact hinv
  | connect guest use dest scan =>
    rw [socketStep]
    split_ifs
    · exact { hinv with }
    · exact hinv
  | close listener =>
    exact { hinv with listeners := fun l hl => hinv.listeners l (mem_of_mem_erase hl) }

end Fleet

/-- Others who listen on a port of the guest's set do so on their own, while registered. -/
def Announced (s : Sockets) : SocketAction → Prop
  | .connect guest _ dest _ => dest.port.toNat ∈ guest.check.allowed →
      ∀ l ∈ s.listening, l.port = dest.port.toNat →
        l.guest.check.source.ns ≠ guest.check.source.ns →
        ∃ inst ∈ s.fleet.instances, inst.id = l.guest.check.id ∧ inst.port = l.port ∧
          serviceListing.must inst.phase = true
  | .fleet _ | .serve _ | .bind _ _ _ _ | .close _ => True

instance (s : Sockets) (a : SocketAction) : Decidable (Announced s a) := by
  cases a <;> unfold Announced <;> infer_instance

/-- The services show the fleet, and allowed connections met nobody of another namespace. -/
structure ConnectInv (s : Sockets) : Prop extends SocketInv s where
  keys : ∀ inst ∈ s.fleet.instances, inst.qualified.serviceKey = inst.appId.serviceKey
  listed : serviceListing.Shows s.fleet
  within : ∀ grant ∈ s.grants, ∀ l ∈ grant.listening, l.port = grant.port →
    l.guest.check.source.ns = grant.guest.check.source.ns

variable {inst : Tracked} {guest : Guest}

theorem entry_of_port {s : Fleet} (hinv : FleetInv s) (hlisted : serviceListing.Shows s)
    (hinst : inst ∈ s.instances) :
    ∀ entry ∈ s.registries.services, entry.2 = inst.port →
      entry = (inst.qualified.serviceKey, inst.port) := by
  intro entry hentry hport
  rcases hlisted.sound entry hentry with ⟨other, hother, rfl, -⟩
  rw [hinv.eq_of_port hother hinst hport]
  rfl

variable {s : Sockets}

theorem within_of_allows (hinv : ConnectInv s) {use : SocketAddrUse} {dest : SocketAddr}
    {scan : NamespaceRegistry} (hannounced : Announced s (.connect guest use dest scan))
    (hallows : Allows s guest use dest scan) :
    ∀ l ∈ s.listening, l.port = dest.port.toNat →
      l.guest.check.source.ns = guest.check.source.ns := by
  rcases hallows with ⟨-, hscan, huse, hloopback, hgateway, hcheck⟩
  intro l hl hport
  by_contra hns
  have hallowed := mem_allowed_of_check huse hloopback hcheck
  rcases hannounced hallowed l hl hport hns with ⟨inst, hinst, hid, hown, hmust⟩
  have hsource : inst.qualified = l.guest.check.source :=
    (hinv.own l.guest (hinv.listeners l hl).1 inst hinst hid).1
  have hdest : dest.port.toNat = inst.port := by rw [hown, hport]
  -- The listener is found among the services, and nobody else with its port.
  refine check_denies_foreign huse hloopback hgateway
    ⟨_, hscan.mem_iff.mpr (hinv.listed.complete inst hinst hmust), hdest.symm⟩ ?_ hcheck
  intro entry hentry hentryPort
  rw [entry_of_port hinv.fleet hinv.listed hinst entry (hscan.mem_iff.mp hentry)
    (hentryPort.trans hdest)]
  refine ⟨inst.qualified.slash_not_mem_ns, ?_⟩
  rw [hsource]
  exact hns

variable {env : SocketEnv}

theorem connectInv_step (hkeys : KeysAgree env.spawn) (s : Sockets) (a : SocketAction)
    (hannounced : Announced s a) (hinv : ConnectInv s) : ConnectInv (socketStep env s a) := by
  have hbase := socketInv_step env hinv.toSocketInv a
  cases a with
  | fleet a =>
    have heffect := fleetStep_effect env.spawn s.fleet a
    refine { hbase with
      keys := heffect.forall_instances hinv.fleet (fun _ _ h => h) ?_ hinv.keys
      listed := serviceListing.step heffect hinv.fleet hinv.listed
        (serviceListing_moves hinv.fleet hinv.listed hinv.keys)
      within := hinv.within }
    intro inst available hprepare
    rcases prepareSpawn_ok hprepare with ⟨config, hconfig, -, hqualified⟩
    exact hkeys inst.appId config inst.qualified hconfig hqualified
  | serve guest | bind guest k use addr =>
    rw [socketStep] at hbase ⊢
    split_ifs at hbase ⊢
    · exact { hbase with keys := hinv.keys, listed := hinv.listed, within := hinv.within }
    · exact hinv
  | connect guest use dest scan =>
    rw [socketStep] at hbase ⊢
    split_ifs at hbase ⊢ with hallows
    · refine { hbase with keys := hinv.keys, listed := hinv.listed, within := fun grant h => ?_ }
      rcases mem_cons.mp h with rfl | hold
      · exact within_of_allows hinv hannounced hallows
      · exact hinv.within grant hold
    · exact hinv
  | close listener =>
    exact { hbase with keys := hinv.keys, listed := hinv.listed, within := hinv.within }

/-- When the check of an instance allows a connection to a loopback port that is not the
    gateway's, nobody of another namespace listens there. -/
theorem connect_within_namespace {env : SocketEnv} (hkeys : KeysAgree env.spawn)
    (start finish : Nat) (restored : List AppId) (run : List SocketAction)
    (hannounced : Along (socketStep env) Announced (.init start finish restored) run) :
    ∀ grant ∈ (runAll (socketStep env) (.init start finish restored) run).grants,
      ∀ l ∈ grant.listening, l.port = grant.port →
        l.guest.check.source.ns = grant.guest.check.source.ns := by
  refine (invariant_along (connectInv_step hkeys) hannounced ?_).within
  exact { socketInv_init start finish restored with
    keys := nofun
    listed := ⟨nofun, nofun⟩
    within := nofun }

variable (policy : AppId → Nat → NetworkPolicy)

def tenantEnv : SocketEnv where
  spawn :=
    { budget := 2 ^ 30
      config := fun appId => some ⟨⟨appId, appId.ns, []⟩, 1000000, 256, 1⟩
      prepare := fun _ => some .wasiHttpIncomingHandler }
  policy := policy
  gatewayPort := 8080
  bindIp := .v4 0x7f000001

def ownPortPolicy (_ : AppId) (port : Nat) : NetworkPolicy :=
  ⟨true, true, false, [UInt16.ofNat port], [], [], 100⟩

theorem keysAgree_tenantEnv : KeysAgree (tenantEnv policy).spawn :=
  keysAgree_of_ns fun appId config h => by cases h; rfl

def tenantGuest (id : Nat) (appId : AppId) (services : List Nat) (port : Nat) : Guest :=
  ⟨⟨id, appId, port, 8080, .v4 0x7f000001, 8080 :: services ++ [port]⟩, policy appId port,
    .wasiHttpIncomingHandler⟩

def serverSteps (id : Nat) (appId : AppId) : List SocketAction :=
  .fleet (.allocate appId []) :: List.replicate 6 (.fleet (.proceed id true))

def stopSteps (id : Nat) (appId : AppId) : List SocketAction :=
  .fleet (.take .request appId id) :: List.replicate 3 (.fleet (.proceed id true)) ++
    [.fleet (.workerExits id)] ++ List.replicate 3 (.fleet (.proceed id true))

def neighbourRun : List SocketAction :=
  serverSteps 0 ⟨"a/api:v1"⟩ ++ [.serve (tenantGuest ownPortPolicy 0 ⟨"a/api:v1"⟩ [] 9000)] ++
    serverSteps 1 ⟨"a/web:v1"⟩ ++ serverSteps 2 ⟨"b/job:v1"⟩ ++
    [.serve (tenantGuest ownPortPolicy 2 ⟨"b/job:v1"⟩ [] 9002),
      .connect (tenantGuest ownPortPolicy 1 ⟨"a/web:v1"⟩ [9000] 9001) .tcpConnect
        ⟨.v4 0x7f000001, 9000⟩ [(("b", "job"), 9002), (("a", "web"), 9001), (("a", "api"), 9000)],
      .connect (tenantGuest ownPortPolicy 1 ⟨"a/web:v1"⟩ [9000] 9001) .tcpConnect
        ⟨.v4 0x7f000001, 9002⟩ [(("b", "job"), 9002), (("a", "web"), 9001), (("a", "api"), 9000)]]

theorem connect_within_namespace_neighbourRun :
    let s := runAll (socketStep (tenantEnv ownPortPolicy)) (.init 9000 9010 []) neighbourRun
    s.grants.map Grant.port = [9000] ∧ s.listening.map Listener.port = [9002, 9000] ∧
      ∀ grant ∈ s.grants, ∀ l ∈ grant.listening, l.port = grant.port →
        l.guest.check.source.ns = grant.guest.check.source.ns :=
  ⟨by decide +kernel, by decide +kernel,
    connect_within_namespace (keysAgree_tenantEnv ownPortPolicy) 9000 9010 [] neighbourRun
      (by decide +kernel)⟩

/-- A neighbour's former port belongs to an instance of another namespace that is not among the
    services yet. -/
theorem connect_across_namespaces :
    let web := tenantGuest ownPortPolicy 1 ⟨"a/web:v1"⟩ [9000] 9001
    let job := tenantGuest ownPortPolicy 2 ⟨"b/job:v1"⟩ [] 9000
    let s := runAll (socketStep (tenantEnv ownPortPolicy)) (.init 9000 9010 [])
      (serverSteps 0 ⟨"a/api:v1"⟩ ++ serverSteps 1 ⟨"a/web:v1"⟩ ++ stopSteps 0 ⟨"a/api:v1"⟩ ++
        [.fleet (.allocate ⟨"b/job:v1"⟩ []), .fleet (.proceed 2 true), .serve job,
          .connect web .tcpConnect ⟨.v4 0x7f000001, 9000⟩ [(("a", "web"), 9001)]])
    s.grants = [⟨web, 9000, [⟨job, 9000⟩]⟩] := by
  decide +kernel

/-- A guest is left its own port only, and a spawn does not fail while its worker runs. -/
def Contained (env : SocketEnv) (s : Sockets) : SocketAction → Prop
  | .fleet a =>
    (∀ guest ∈ launched env s.fleet a, OwnPortOnly guest.policy guest.check) ∧
      ∀ inst ∈ s.fleet.instances,
        inst.phase = .spawning .reported ∨ inst.phase = .spawning .polling →
          a = .proceed inst.id false → s.fleet.finished inst.id = true
  | .serve _ | .bind _ _ _ _ | .connect _ _ _ _ | .close _ => True

instance (env : SocketEnv) (s : Sockets) (a : SocketAction) : Decidable (Contained env s a) := by
  cases a <;> unfold Contained <;> infer_instance

/-- The port of a guest whose worker runs is its own, and guests bind nothing else. -/
structure BindInv (s : Sockets) : Prop extends SocketInv s where
  past : ∀ inst ∈ s.fleet.instances, inst.phase.stage = .past → s.fleet.finished inst.id = true
  reserved : ∀ guest, s.Runs guest → s.fleet.Reserved guest.check.id guest.check.hostPort
  contained : ∀ guest ∈ s.guests, OwnPortOnly guest.policy guest.check
  bound : ∀ l ∈ s.listening, l.port = l.guest.check.hostPort
  granted : ∀ bind ∈ s.binds,
    bind.2.ip = bind.1.check.bindIp ∧ bind.2.port.toNat = bind.1.check.hostPort

theorem finished_of_gives (hinv : BindInv s) {a : FleetAction}
    (hcontained : Contained env s (.fleet a)) (hguest : guest ∈ s.guests)
    (hinst : inst ∈ s.fleet.instances) (hid : inst.id = guest.check.id)
    (hends : inst.phase.ends = true)
    (hgone : ∀ x ∈ (fleetStep env.spawn s.fleet a).instances, x.id ≠ inst.id) :
    s.fleet.finished inst.id = true := by
  have hwaits : inst.phase = .spawning .reported ∨ inst.phase = .spawning .polling →
      s.fleet.finished inst.id = true :=
    fun hphase => hcontained.2 inst hinst hphase (action_of_vanished hinv.fleet hinst hphase hgone)
  rcases Phase.ends_iff.mp hends with hphase | hphase | hphase | ⟨killer, hphase⟩
  · exact absurd (by rw [hphase]; rfl) (hinv.own guest hguest inst hinst hid).2.2
  · exact hwaits (.inl hphase)
  · exact hwaits (.inr hphase)
  · exact hinv.past inst hinst (by rw [hphase]; rfl)

theorem bindInv_fleet (hinv : BindInv s) {a : FleetAction}
    (hcontained : Contained env s (.fleet a)) : BindInv (socketStep env s (.fleet a)) := by
  have heffect := fleetStep_effect env.spawn s.fleet a
  have hbase := socketInv_step env hinv.toSocketInv (.fleet a)
  refine { hbase with
    past := past_finished_step hinv.fleet hinv.past
    reserved := fun guest hruns => ?_
    contained := fun guest hguest => ?_
    bound := fun l hl => hinv.bound l (mem_filter.mp hl).1
    granted := hinv.granted }
  · rcases mem_guests_step hruns.1 with hnew | hold
    · -- The port of a new guest is that of the instance that was launched.
      rcases launched_eq hnew with ⟨inst, hinst, hphase, rfl, rfl⟩
      rcases fleetStep_launch env.spawn hinv.fleet hinst hphase with ⟨point, -, hstep⟩
      have hmoved : { inst with phase := .spawning point } ∈
          (fleetStep env.spawn s.fleet (.proceed inst.id true)).instances := by
        rw [hstep]
        exact (hinv.fleet.mem_moveTo hinst).mpr (.inl rfl)
      refine ⟨hbase.fleet.ports.notFree _ (mem_map_of_mem hmoved), fun x hx hport => ?_⟩
      rw [hbase.fleet.eq_of_port hx hmoved hport]
      rfl
    · have hran : s.fleet.finished guest.check.id = false := by
        rw [← Bool.not_eq_true]
        intro hfinished
        have hstill := heffect.finished hfinished fun inst hinst hid =>
          (hinv.own guest hold inst hinst hid).2.2
        exact Bool.false_ne_true (hruns.2.symm.trans hstill)
      refine heffect.reserved hinv.fleet (hinv.reserved guest ⟨hold, hran⟩) ?_
      intro inst hinst hends hgone hid
      have hfinished := finished_of_gives hinv hcontained hold hinst hid hends hgone
      exact Bool.false_ne_true (hran.symm.trans (hid ▸ hfinished))
  · rcases mem_guests_step hguest with hnew | hold
    · exact hcontained.1 guest hnew
    · exact hinv.contained guest hold

theorem bindInv_step (s : Sockets) (a : SocketAction) (hcontained : Contained env s a)
    (hinv : BindInv s) : BindInv (socketStep env s a) := by
  have hbase := socketInv_step env hinv.toSocketInv a
  cases a with
  | fleet a => exact bindInv_fleet hinv hcontained
  | serve guest =>
    rw [socketStep] at hbase ⊢
    split_ifs at hbase ⊢
    · refine { hinv with listeners := hbase.listeners, bound := fun l hl => ?_ }
      rcases mem_cons.mp hl with rfl | hold
      · rfl
      · exact hinv.bound l hold
    · exact hinv
  | bind guest k use addr =>
    rw [socketStep] at hbase ⊢
    split_ifs at hbase ⊢ with hbinds
    · rcases hbinds with ⟨hruns, huse, hallowed⟩
      have hown := (ownPortOnly_iff guest.policy guest.check).mp
        (hinv.contained guest hruns.1) k s.fleet.registries.services addr use huse hallowed
      refine { hinv with
        listeners := hbase.listeners
        bound := fun l hl => ?_
        granted := fun bind hb => ?_ }
      · rcases mem_cons.mp hl with rfl | hold
        · exact hown.2
        · exact hinv.bound l hold
      · rcases mem_cons.mp hb with rfl | hold
        · exact hown
        · exact hinv.granted bind hold
    · exact hinv
  | connect guest use dest scan =>
    rw [socketStep] at hbase ⊢
    split_ifs at hbase ⊢
    · exact { hinv with }
    · exact hinv
  | close listener =>
    exact { hinv with
      listeners := hbase.listeners
      bound := fun l hl => hinv.bound l (mem_of_mem_erase hl) }

/-- What a guest binds is its own port on its own address, and a port on which somebody
    listens is not free and not another instance's. -/
theorem bind_own_port {env : SocketEnv} (start finish : Nat) (restored : List AppId)
    (run : List SocketAction)
    (hcontained : Along (socketStep env) (Contained env) (.init start finish restored) run) :
    let s := runAll (socketStep env) (.init start finish restored) run
    (∀ bind ∈ s.binds,
        bind.2.ip = bind.1.check.bindIp ∧ bind.2.port.toNat = bind.1.check.hostPort) ∧
      ∀ l ∈ s.listening, l.port ∉ s.fleet.free ∧
        ∀ inst ∈ s.fleet.instances, inst.port = l.port → inst.id = l.guest.check.id := by
  have hinit : BindInv (.init start finish restored) :=
    { socketInv_init start finish restored with
      past := nofun
      reserved := fun _ h => absurd h.1 not_mem_nil
      contained := nofun
      bound := nofun
      granted := nofun }
  have hinv := invariant_along bindInv_step hcontained hinit
  refine ⟨hinv.granted, fun l hl => ?_⟩
  rw [hinv.bound l hl]
  exact hinv.reserved l.guest (hinv.listeners l hl)

/-- Two neighbours. The second is refused the other's port, and fails after its worker exited. -/
def containedRun : List SocketAction :=
  serverSteps 0 ⟨"a/api:v1"⟩ ++
    [.fleet (.allocate ⟨"a/web:v1"⟩ []), .fleet (.proceed 1 true),
      .bind (tenantGuest ownPortPolicy 1 ⟨"a/web:v1"⟩ [9000] 9001) ⟨0, 0, 0, 0, 0⟩ .tcpBind
        ⟨.v4 0x7f000001, 9001⟩,
      .bind (tenantGuest ownPortPolicy 1 ⟨"a/web:v1"⟩ [9000] 9001) ⟨0, 0, 0, 0, 0⟩ .tcpBind
        ⟨.v4 0x7f000001, 9000⟩,
      .fleet (.workerExits 1), .fleet (.proceed 1 false)]

theorem bind_own_port_containedRun :
    let s := runAll (socketStep (tenantEnv ownPortPolicy)) (.init 9000 9010 []) containedRun
    s.binds.map (fun bind => bind.2.port) = [9001] ∧ (∀ bind ∈ s.binds,
        bind.2.ip = bind.1.check.bindIp ∧ bind.2.port.toNat = bind.1.check.hostPort) ∧
      ∀ l ∈ s.listening, l.port ∉ s.fleet.free ∧
        ∀ inst ∈ s.fleet.instances, inst.port = l.port → inst.id = l.guest.check.id :=
  ⟨by decide +kernel, bind_own_port 9000 9010 [] containedRun (by decide +kernel)⟩

def datagramPolicy (_ : AppId) (port : Nat) : NetworkPolicy :=
  ⟨true, true, true, [UInt16.ofNat port], [], [], 100⟩

/-- A guest has a neighbour's port for UDP when it is given to another namespace, and a spawn
    gives a port back while its worker listens. -/
theorem bind_other_port : (let web := tenantGuest datagramPolicy 1 ⟨"a/web:v1"⟩ [9000] 9001
      let s := runAll (socketStep (tenantEnv datagramPolicy)) (.init 9000 9010 [])
        (serverSteps 0 ⟨"a/api:v1"⟩ ++ serverSteps 1 ⟨"a/web:v1"⟩ ++
          [.bind web ⟨0, 0, 0, 0, 0⟩ .udpBind ⟨.v4 0x7f000001, 9000⟩] ++
          stopSteps 0 ⟨"a/api:v1"⟩ ++ serverSteps 2 ⟨"b/job:v1"⟩);
      s.listening = [⟨web, 9000⟩] ∧ s.fleet.instances.map Tracked.lease = [(2, 9000), (1, 9001)]) ∧
    (let api := tenantGuest ownPortPolicy 0 ⟨"a/api:v1"⟩ [] 9000
      let s := runAll (socketStep (tenantEnv ownPortPolicy)) (.init 9000 9010 [])
        [.fleet (.allocate ⟨"a/api:v1"⟩ []), .fleet (.proceed 0 true),
          .fleet (.proceed 0 false), .serve api];
      s.listening = [⟨api, 9000⟩] ∧ 9000 ∈ s.fleet.free.entries) := by
  decide +kernel

end WasmCloud
