import WasmCloud.Lib.Checks
import WasmCloud.Lib.Roster
import WasmCloud.Storage.Lifecycle
import WasmCloud.Supervisor.Ports

/-!
# The Fleet of Instances

The supervisor's calls interleave at the points where they wait. At any time an instance is in
the hands of one spawn, of one pool or of one shutdown. Its `Phase` says which, and how far the
call is, so that the fleet is one list and a step moves one instance from a phase to the next.
`fleetStep_effect` says once what a step can do, and the results about ports, bills, registries
and counts start from it.

A pool's configuration is the stored one, since nothing is deployed while the fleet runs. A
registry of lists by key is the list of all its entries with their keys.
-/

namespace WasmCloud

open List

def AppId.bareName (id : AppId) : String :=
  if id.text.toList.contains '/' then (Text.split id.text '/').getD 1 id.text else id.text

def AppId.bareAppName (id : AppId) : String :=
  (Text.split id.bareName ':').headD id.bareName

/-- Where the registry of services keeps an application. -/
def AppId.serviceKey (id : AppId) : String × String := (id.ns, id.bareAppName)

/-- An application's configuration, as far as the supervisor reads it. -/
structure PoolConfig extends AppConfig where
  fuelQuota : Nat
  memoryLimit : Nat
  maxInstances : Nat
  deriving DecidableEq

/-- `MemoryPages::to_bytes` of the configured limit. -/
def PoolConfig.memoryBytes (config : PoolConfig) : Nat := config.memoryLimit * 65536

/-- `check_resource_limits` on a node with a memory budget. -/
def checkResourceLimits (budget : Nat) (config : PoolConfig) : Except String Unit :=
  if config.fuelQuota > 10000000000 then
    .error "fuel_quota exceeds maximum allowed (10B units)"
  else if config.memoryLimit > 8192 then
    .error "memory_limit exceeds maximum allowed (512 MB)"
  else if config.maxInstances > 100 then
    .error "max_instances exceeds node limit (100)"
  else
    let declared := config.memoryBytes * config.maxInstances
    if 2 ^ 64 ≤ declared then .error "declared application memory pool overflows"
    else if declared > budget then
      .error ("declared application memory pool (" ++ toString declared ++
        " bytes) exceeds node budget (" ++ toString budget ++ " bytes)")
    else .ok ()

/-- The budget, the configuration of each application, and how its artifact runs. -/
structure SpawnEnv where
  budget : Nat
  config : AppId → Option PoolConfig
  prepare : AppId → Option ComponentExecutionModel

/-- The identifier a spawn registers under. The source panics where this is `none`. -/
def qualifiedId (config : PoolConfig) (appId : AppId) : Option AppId :=
  AppId.newNamespaced config.ns appId.bareAppName ((Text.split appId.bareName ':').getD 1 "v1")

/-- `available` are the applications that can be relied on at the moment. -/
def checkDependencies (available : List AppId) (appId : AppId) (config : PoolConfig) :
    Except String Unit :=
  match config.localDependencies.find? (fun dependency => dependency ∉ available) with
  | some dependency =>
    .error ("required node-local dependency " ++ dependency.text ++ " for " ++ appId.text ++
      " is unavailable")
  | none => .ok ()

/-- `spawn`, up to the allocation of the port. -/
def prepareSpawn (env : SpawnEnv) (available : List AppId) (appId : AppId) :
    Except String (AppId × ComponentExecutionModel) := do
  let config ← (env.config appId).elim (throw appId.text) pure
  let model ← (env.prepare appId).elim (throw ("no artifact for " ++ appId.text)) pure
  checkResourceLimits env.budget config
  checkDependencies available appId config
  let qualified ← (qualifiedId config appId).elim (throw ("Invalid AppId: namespace, name and " ++
    "version must be non-empty and contain no whitespace or NATS-invalid characters " ++
    "(> * . newline)")) pure
  return (qualified, model)

theorem prepareSpawn_ok {env : SpawnEnv} {available : List AppId} {appId qualified : AppId}
    {model : ComponentExecutionModel}
    (h : prepareSpawn env available appId = .ok (qualified, model)) :
    ∃ config, env.config appId = some config ∧ checkResourceLimits env.budget config = .ok () ∧
      qualifiedId config appId = some qualified := by
  simp only [prepareSpawn, bind_ok_iff, elim_throw_ok_iff, pure_ok_iff, Prod.mk.injEq] at h
  rcases h with ⟨config, hconfig, _, -, _, hlimits, _, -, _, hqualified, rfl, -⟩
  exact ⟨config, hconfig, hlimits, hqualified⟩

/-- The points at which a spawn waits, named after what it has done. -/
inductive SpawnPoint where
  | allocated
  | started
  | reported
  | polling
  | connected
  | routed
  | listed
  | bound
  deriving DecidableEq, Repr

/-- A request, the removal of the application, or a health tick with its reason. -/
inductive Killer where
  | request
  | removal
  | health
  | reap
  deriving DecidableEq, Repr

inductive ShutdownPoint where
  | taken
  | unrouted
  | fenced
  | signalled
  | timedOut
  | exited
  | unlisted
  deriving DecidableEq, Repr

/-- Who has an instance: a spawn, a pool or a shutdown. -/
inductive Phase where
  | spawning (point : SpawnPoint)
  | pooled (state : InstanceState)
  | shutdown (killer : Killer) (point : ShutdownPoint)
  deriving DecidableEq, Repr

/-- An instance. The bind address is the same for all, so the port is the address. -/
structure Tracked where
  id : Nat
  appId : AppId
  qualified : AppId
  port : Nat
  model : ComponentExecutionModel
  phase : Phase
  deriving DecidableEq

def Tracked.lease (inst : Tracked) : Nat × Nat := (inst.id, inst.port)

/-- An instance in an application's pool. -/
def Tracked.inPool (inst : Tracked) (appId : AppId) : Bool :=
  match inst.phase with
  | .pooled _ => inst.appId = appId
  | .spawning _ | .shutdown _ _ => false

abbrev UpstreamRegistry := List (AppId × Nat)

def UpstreamRegistry.add (upstreams : UpstreamRegistry) (appId : AppId) (port : Nat) :
    UpstreamRegistry :=
  if (appId, port) ∈ upstreams then upstreams else upstreams ++ [(appId, port)]

def UpstreamRegistry.remove (upstreams : UpstreamRegistry) (appId : AppId) (port : Nat) :
    UpstreamRegistry :=
  upstreams.filter (fun entry => entry ≠ (appId, port))

/-- Addresses by namespace and bare name. -/
abbrev NamespaceRegistry := List ((String × String) × Nat)

def NamespaceRegistry.registerEndpoint (services : NamespaceRegistry) (appId : AppId)
    (port : Nat) : NamespaceRegistry :=
  services ++ [(appId.serviceKey, port)]

def NamespaceRegistry.deregister (services : NamespaceRegistry) (appId : AppId) (port : Nat) :
    NamespaceRegistry :=
  services.filter (fun entry => entry ≠ (appId.serviceKey, port))

/-- `port_to_app`. -/
abbrev SourcePorts := List (Nat × AppId)

/-- `release_source_port`. -/
def SourcePorts.release (sources : SourcePorts) (port : Nat) : SourcePorts :=
  sources.filter (fun binding => binding.1 ≠ port)

/-- `bind_source_port`. -/
def SourcePorts.bind (sources : SourcePorts) (port : Nat) (appId : AppId) : SourcePorts :=
  (port, appId) :: sources.release port

/-- What the supervisor publishes of its instances. -/
structure Registries where
  upstreams : UpstreamRegistry
  services : NamespaceRegistry
  sources : SourcePorts

/-- `pools` are the keys of the pool map. The last three fields are not the supervisor's
    knowledge: running workers, instances put in a pool, and instances billed. -/
structure Fleet where
  free : PortAllocator
  nextId : Nat
  instances : List Tracked
  pools : List AppId
  registries : Registries
  running : List (Nat × AppId)
  inserted : List Nat
  billed : List Nat

/-- `proceed` is the next step of an instance's call, `succeeds` what its surroundings answer. -/
inductive FleetAction where
  | allocate (appId : AppId) (available : List AppId)
  | proceed (id : Nat) (succeeds : Bool)
  | take (killer : Killer) (appId : AppId) (id : Nat)
  | forgetApp (appId : AppId)
  | workerExits (id : Nat)
  deriving DecidableEq

namespace Fleet

/-- A supervisor with nothing but the pools it restored. -/
def init (start finish : Nat) (restored : List AppId) : Fleet :=
  ⟨.new start finish, 0, [], restored, ⟨[], [], []⟩, [], [], []⟩

/-- The worker of an instance has exited. -/
def finished (s : Fleet) (id : Nat) : Bool := s.running.all (fun worker => worker.1 ≠ id)

def find (s : Fleet) (id : Nat) : Option Tracked := s.instances.find? (fun inst => inst.id = id)

/-- The instance with an identifier, if it is in an application's pool. -/
def findPooled (s : Fleet) (appId : AppId) (id : Nat) : Option Tracked :=
  s.instances.find? (fun inst => inst.id = id ∧ inst.inPool appId)

/-- An instance passes to another phase. -/
def moveTo (s : Fleet) (id : Nat) (phase : Phase) : Fleet :=
  { s with
    instances :=
      Roster.update Tracked.id id (fun inst => { inst with phase := phase }) s.instances }

def discard (s : Fleet) (id : Nat) : Fleet :=
  { s with instances := Roster.drop Tracked.id id s.instances }

def release (s : Fleet) (port : Nat) : Fleet := { s with free := s.free.release port }

/-- `active_count` of an application's pool. -/
def activeCount (s : Fleet) (appId : AppId) : Nat :=
  s.instances.countP (fun inst => inst.appId = appId ∧ inst.phase = .pooled .ready)

end Fleet

/-- The next step of `spawn`, from the allocation of the port on. -/
def spawnProceed (s : Fleet) (inst : Tracked) (succeeds : Bool) : SpawnPoint → Fleet
  | .allocated =>
    -- The thread or the server is created.
    if succeeds then
      let point := match inst.model with
        | .wasiCli => SpawnPoint.started
        | .wasiHttpIncomingHandler => SpawnPoint.polling
      { s.moveTo inst.id (.spawning point) with running := (inst.id, inst.appId) :: s.running }
    else (s.discard inst.id).release inst.port
  | .started =>
    -- The thread reports itself. Without a report the call returns and keeps the port.
    if succeeds then s.moveTo inst.id (.spawning .reported) else s.discard inst.id
  | .reported =>
    if succeeds then s.moveTo inst.id (.spawning .polling)
    else (s.discard inst.id).release inst.port
  | .polling =>
    -- `wait_for_ready`.
    if succeeds then s.moveTo inst.id (.spawning .connected)
    else (s.discard inst.id).release inst.port
  | .connected =>
    { s.moveTo inst.id (.spawning .routed) with
      registries.upstreams := s.registries.upstreams.add inst.appId inst.port }
  | .routed =>
    { s.moveTo inst.id (.spawning .listed) with
      registries.services := s.registries.services.registerEndpoint inst.qualified inst.port }
  | .listed =>
    { s.moveTo inst.id (.spawning .bound) with
      registries.sources := s.registries.sources.bind inst.port inst.qualified }
  | .bound =>
    -- The pool is created if there is none.
    { s.moveTo inst.id (.pooled .ready) with
      pools := if inst.appId ∈ s.pools then s.pools else inst.appId :: s.pools
      inserted := inst.id :: s.inserted }

/-- The rest of `take_instance_for_shutdown`, `begin_shutdown`, `await_exit` and
    `handle_shutdown_outcome`. -/
def shutdownProceed (s : Fleet) (inst : Tracked) (killer : Killer) : ShutdownPoint → Fleet
  | .taken =>
    { s.moveTo inst.id (.shutdown killer .unrouted) with
      registries.upstreams := s.registries.upstreams.remove inst.appId inst.port }
  | .unrouted =>
    -- An instance that is collected was told to stop before.
    let point := match killer with
      | .reap => ShutdownPoint.signalled
      | .request | .removal | .health => ShutdownPoint.fenced
    { s.moveTo inst.id (.shutdown killer point) with
      registries.services := s.registries.services.deregister inst.appId inst.port }
  | .fenced => s.moveTo inst.id (.shutdown killer .signalled)
  | .signalled =>
    -- The bill is sent before anything else is given up.
    if s.finished inst.id then
      { s.moveTo inst.id (.shutdown killer .exited) with billed := inst.id :: s.billed }
    else s.moveTo inst.id (.shutdown killer .timedOut)
  | .timedOut =>
    -- `reinsert_fenced_instance`. Without a pool the instance is dropped.
    if inst.appId ∈ s.pools then s.moveTo inst.id (.pooled .exitTimedOut)
    else s.discard inst.id
  | .exited =>
    { s.moveTo inst.id (.shutdown killer .unlisted) with
      registries.services := s.registries.services.deregister inst.appId inst.port }
  | .unlisted =>
    { (s.discard inst.id).release inst.port with
      registries.sources := s.registries.sources.release inst.port }

/-- The next step of the call that has an instance. -/
def proceed (s : Fleet) (inst : Tracked) (succeeds : Bool) : Fleet :=
  match inst.phase with
  | .spawning point => spawnProceed s inst succeeds point
  | .pooled _ => s
  | .shutdown killer point => shutdownProceed s inst killer point

/-- `forget_app`: refused while instances are ready. The others go with the pool. -/
def forgetApp (s : Fleet) (appId : AppId) : Fleet × Bool :=
  if s.activeCount appId ≠ 0 then (s, false)
  else
    ({ s with
      pools := s.pools.filter (fun pool => pool ≠ appId)
      instances := s.instances.filter (fun inst => !inst.inPool appId) }, true)

/-- One step of one call, or of a worker. -/
def fleetStep (env : SpawnEnv) (s : Fleet) : FleetAction → Fleet
  | .allocate appId available =>
    match prepareSpawn env available appId with
    | .error _ => s
    | .ok (qualified, model) =>
      match s.free.allocate with
      | .error _ => s
      | .ok (port, free) =>
        { s with
          free := free
          nextId := s.nextId + 1
          instances :=
            ⟨s.nextId, appId, qualified, port, model, .spawning .allocated⟩ :: s.instances }
  | .proceed id succeeds =>
    match s.find id with
    | none => s
    | some inst => proceed s inst succeeds
  | .take killer appId id =>
    match s.findPooled appId id with
    | none => s
    | some inst => s.moveTo inst.id (.shutdown killer .taken)
  | .forgetApp appId => (forgetApp s appId).1
  | .workerExits id => { s with running := s.running.filter (fun worker => worker.1 ≠ id) }

/-- How far an instance is, as far as ports, pools and bills are concerned. -/
inductive Stage where
  | unlaunched
  | launched
  | ready
  | closing
  | past
  deriving DecidableEq, Repr

/-- Closing lasts from being taken from the pool until being billed. -/
def Phase.stage : Phase → Stage
  | .spawning .allocated => .unlaunched
  | .spawning _ => .launched
  | .pooled .ready => .ready
  | .pooled _ => .closing
  | .shutdown _ .exited | .shutdown _ .unlisted => .past
  | .shutdown _ _ => .closing

/-- The phases an action can lead to without changing more than the registries. -/
def Moves (s : Fleet) (a : FleetAction) (inst : Tracked) (phase : Phase) : Prop :=
  match inst.phase with
  | .spawning .started => phase = .spawning .reported
  | .spawning .reported => phase = .spawning .polling
  | .spawning .polling => phase = .spawning .connected
  | .spawning .connected => phase = .spawning .routed
  | .spawning .routed => phase = .spawning .listed
  | .spawning .listed => phase = .spawning .bound
  | .pooled _ => ∃ killer, phase = .shutdown killer .taken ∧ a = .take killer inst.appId inst.id
  | .shutdown killer .taken => phase = .shutdown killer .unrouted
  | .shutdown killer .unrouted =>
    phase = .shutdown killer .fenced ∨ phase = .shutdown killer .signalled
  | .shutdown killer .fenced => phase = .shutdown killer .signalled
  | .shutdown killer .signalled =>
    phase = .shutdown killer .timedOut ∧ s.finished inst.id = false
  | .shutdown _ .timedOut => phase = .pooled .exitTimedOut ∧ inst.appId ∈ s.pools
  | .shutdown killer .exited => phase = .shutdown killer .unlisted
  | .spawning .allocated | .spawning .bound | .shutdown _ .unlisted => False

/-- What the next step of an instance's call publishes or takes back. -/
def Registries.publish (r : Registries) (inst : Tracked) : Registries :=
  match inst.phase with
  | .spawning .connected => { r with upstreams := r.upstreams.add inst.appId inst.port }
  | .spawning .routed => { r with services := r.services.registerEndpoint inst.qualified inst.port }
  | .spawning .listed => { r with sources := r.sources.bind inst.port inst.qualified }
  | .shutdown _ .taken => { r with upstreams := r.upstreams.remove inst.appId inst.port }
  | .shutdown _ .unrouted | .shutdown _ .exited =>
    { r with services := r.services.deregister inst.appId inst.port }
  | .shutdown _ .unlisted => { r with sources := r.sources.release inst.port }
  | .spawning _ | .pooled _ | .shutdown _ _ => r

/-- The call may end here and give the port back. -/
def Phase.ends : Phase → Bool
  | .spawning .allocated | .spawning .reported | .spawning .polling | .shutdown _ .unlisted => true
  | .spawning _ | .pooled _ | .shutdown _ _ => false

/-- The instance did not stop in time, and is on its way back to its pool. -/
def Phase.timedOut : Phase → Bool
  | .shutdown _ .timedOut => true
  | .spawning _ | .pooled _ | .shutdown _ _ => false

/-- An instance is let go of with its port kept. -/
def Lost (s : Fleet) (a : FleetAction) (inst : Tracked) : Prop :=
  (a = .proceed inst.id false ∧ inst.phase = .spawning .started) ∨
    ((∃ succeeds, a = .proceed inst.id succeeds) ∧ inst.phase.timedOut = true ∧
      inst.appId ∉ s.pools)

inductive FleetEffect (env : SpawnEnv) (s : Fleet) (a : FleetAction) : Fleet → Prop where
  | keeps (running : List (Nat × AppId)) (hrunning : running.Sublist s.running) :
      FleetEffect env s a { s with running := running }
  | allocates (inst : Tracked) (available : List AppId) (free : PortAllocator)
      (ha : a = .allocate inst.appId available)
      (hprepare : prepareSpawn env available inst.appId = .ok (inst.qualified, inst.model))
      (hallocate : s.free.allocate = .ok (inst.port, free)) (hid : inst.id = s.nextId)
      (hphase : inst.phase = .spawning .allocated) :
      FleetEffect env s a
        { s with free := free, nextId := s.nextId + 1, instances := inst :: s.instances }
  | launches (inst : Tracked) (hinst : inst ∈ s.instances)
      (hphase : inst.phase = .spawning .allocated) (point : SpawnPoint)
      (hpoint : point = .started ∨ point = .polling) :
      FleetEffect env s a
        { s.moveTo inst.id (.spawning point) with running := (inst.id, inst.appId) :: s.running }
  | moves (inst : Tracked) (hinst : inst ∈ s.instances) (phase : Phase)
      (hmoves : Moves s a inst phase) :
      FleetEffect env s a
        { s.moveTo inst.id phase with registries := s.registries.publish inst }
  | inserts (inst : Tracked) (hinst : inst ∈ s.instances)
      (hphase : inst.phase = .spawning .bound) :
      FleetEffect env s a
        { s.moveTo inst.id (.pooled .ready) with
          pools := if inst.appId ∈ s.pools then s.pools else inst.appId :: s.pools
          inserted := inst.id :: s.inserted }
  | bills (inst : Tracked) (hinst : inst ∈ s.instances) (killer : Killer)
      (hphase : inst.phase = .shutdown killer .signalled) (hfinished : s.finished inst.id = true) :
      FleetEffect env s a
        { s.moveTo inst.id (.shutdown killer .exited) with billed := inst.id :: s.billed }
  | gives (inst : Tracked) (hinst : inst ∈ s.instances)
      (hends : inst.phase.ends = true)
      (hfails : a = .proceed inst.id false ∨ ∃ killer, inst.phase = .shutdown killer .unlisted) :
      FleetEffect env s a
        { (s.discard inst.id).release inst.port with registries := s.registries.publish inst }
  | loses (inst : Tracked) (hinst : inst ∈ s.instances) (hlost : Lost s a inst) :
      FleetEffect env s a (s.discard inst.id)
  | forgets (appId : AppId) (ha : a = .forgetApp appId) (hactive : s.activeCount appId = 0) :
      FleetEffect env s a
        { s with
          pools := s.pools.filter (fun pool => pool ≠ appId)
          instances := s.instances.filter (fun inst => !inst.inPool appId) }

variable {t s : Fleet} {env : SpawnEnv} {a : FleetAction} {phase : Phase} {inst : Tracked}
  {appId : AppId} {x : Tracked}

theorem Tracked.inPool_iff :
    inst.inPool appId = true ↔ inst.appId = appId ∧ ∃ state, inst.phase = .pooled state := by
  rw [Tracked.inPool]
  cases hphase : inst.phase with
  | spawning point | pooled state | shutdown killer point => simp

variable {id : Nat}

theorem Fleet.mem_of_find (h : s.find id = some inst) : inst ∈ s.instances ∧ inst.id = id :=
  Roster.mem_of_find h

theorem Fleet.mem_of_findPooled (h : s.findPooled appId id = some inst) :
    inst ∈ s.instances ∧ inst.id = id ∧ inst.appId = appId ∧
      ∃ state, inst.phase = .pooled state := by
  have hmatch := List.find?_some h
  simp only [decide_eq_true_eq] at hmatch
  exact ⟨mem_of_find?_eq_some h, hmatch.1, Tracked.inPool_iff.mp hmatch.2⟩

theorem FleetEffect.idle (env : SpawnEnv) (s : Fleet) (a : FleetAction) : FleetEffect env s a s :=
  .keeps s.running (List.Sublist.refl _)

/-- Once the phase is known, what comes next is a matter of computation. -/
theorem FleetEffect.moved {before : Phase} (hinst : inst ∈ s.instances)
    (hphase : inst.phase = before) (h : Moves s a { inst with phase := before } phase) :
    FleetEffect env s a { s.moveTo inst.id phase with
      registries := s.registries.publish { inst with phase := before } } := by
  subst hphase
  exact .moves inst hinst phase h

theorem FleetEffect.given {before : Phase} (hinst : inst ∈ s.instances)
    (hphase : inst.phase = before) (hends : before.ends = true)
    (hfails : a = .proceed inst.id false ∨ ∃ killer, before = .shutdown killer .unlisted) :
    FleetEffect env s a { (s.discard inst.id).release inst.port with
      registries := s.registries.publish { inst with phase := before } } := by
  subst hphase
  exact .gives inst hinst hends hfails

theorem spawnProceed_effect (hinst : inst ∈ s.instances) (succeeds : Bool) {point : SpawnPoint}
    (hphase : inst.phase = .spawning point) :
    FleetEffect env s (.proceed inst.id succeeds) (spawnProceed s inst succeeds point) := by
  cases point with
  | allocated =>
    cases succeeds with
    | true => exact .launches inst hinst hphase _ (by cases inst.model <;> decide)
    | false => exact .given hinst hphase rfl (.inl rfl)
  | started =>
    cases succeeds with
    | true => exact .moved hinst hphase rfl
    | false => exact .loses inst hinst (.inl ⟨rfl, hphase⟩)
  | reported | polling =>
    cases succeeds with
    | true => exact .moved hinst hphase rfl
    | false => exact .given hinst hphase rfl (.inl rfl)
  | connected | routed | listed => exact .moved hinst hphase rfl
  | bound => exact .inserts inst hinst hphase

theorem shutdownProceed_effect (hinst : inst ∈ s.instances) (succeeds : Bool) {killer : Killer}
    {point : ShutdownPoint} (hphase : inst.phase = .shutdown killer point) :
    FleetEffect env s (.proceed inst.id succeeds) (shutdownProceed s inst killer point) := by
  cases point with
  | taken | fenced | exited => exact .moved hinst hphase rfl
  | unrouted =>
    cases killer with
    | reap => exact .moved hinst hphase (.inr rfl)
    | request | removal | health => exact .moved hinst hphase (.inl rfl)
  | signalled =>
    rw [shutdownProceed]
    by_cases hfinished : s.finished inst.id = true
    · rw [if_pos hfinished]
      exact .bills inst hinst killer hphase hfinished
    · rw [if_neg hfinished]
      exact .moved hinst hphase ⟨rfl, Bool.not_eq_true _ ▸ hfinished⟩
  | timedOut =>
    rw [shutdownProceed]
    by_cases hpool : inst.appId ∈ s.pools
    · rw [if_pos hpool]
      exact .moved hinst hphase ⟨rfl, hpool⟩
    · rw [if_neg hpool]
      exact .loses inst hinst (.inr ⟨⟨succeeds, rfl⟩, by rw [hphase]; rfl, hpool⟩)
  | unlisted => exact .given hinst hphase rfl (.inr ⟨killer, rfl⟩)

/-- Whatever the action, the step is one of the kinds above. -/
theorem fleetStep_effect (env : SpawnEnv) (s : Fleet) (a : FleetAction) :
    FleetEffect env s a (fleetStep env s a) := by
  cases a with
  | allocate appId available =>
    rw [fleetStep]
    rcases hprepare : prepareSpawn env available appId with e | ⟨qualified, model⟩
    · exact .idle env s _
    · rcases hallocate : s.free.allocate with e | ⟨port, free⟩
      · exact .idle env s _
      · exact .allocates ⟨s.nextId, appId, qualified, port, model, .spawning .allocated⟩
          available free rfl hprepare hallocate rfl rfl
  | proceed id succeeds =>
    rw [fleetStep]
    rcases hfind : s.find id with _ | inst
    · exact .idle env s _
    · rcases Fleet.mem_of_find hfind with ⟨hinst, rfl⟩
      dsimp only
      unfold proceed
      cases hphase : inst.phase with
      | spawning point => exact spawnProceed_effect hinst succeeds hphase
      | pooled state => exact .idle env s _
      | shutdown killer point => exact shutdownProceed_effect hinst succeeds hphase
  | take killer appId id =>
    rw [fleetStep]
    rcases hfind : s.findPooled appId id with _ | inst
    · exact .idle env s _
    · rcases Fleet.mem_of_findPooled hfind with ⟨hinst, hid, happ, state, hphase⟩
      exact .moved hinst hphase ⟨killer, rfl, by rw [hid, happ]⟩
  | forgetApp appId =>
    rw [fleetStep, forgetApp]
    by_cases hactive : s.activeCount appId ≠ 0
    · rw [if_pos hactive]
      exact .idle env s _
    · rw [if_neg hactive]
      exact .forgets appId rfl (not_not.mp hactive)
  | workerExits id => exact .keeps _ filter_sublist

/-- A move leaves the stage alone, except that a ready instance may be taken. -/
theorem Moves.stage (h : Moves s a inst phase) :
    phase.stage ≠ .unlaunched ∧ (phase.stage = inst.phase.stage ∨
      inst.phase.stage = .ready ∧ phase.stage = .closing) := by
  unfold Moves at h
  split at h <;> grind [Phase.stage]

theorem Phase.ends_iff : phase.ends = true ↔
    phase = .spawning .allocated ∨ phase = .spawning .reported ∨ phase = .spawning .polling ∨
      ∃ killer, phase = .shutdown killer .unlisted := by
  unfold Phase.ends
  split <;> grind

theorem Phase.timedOut_iff :
    phase.timedOut = true ↔ ∃ killer, phase = .shutdown killer .timedOut := by
  unfold Phase.timedOut
  split <;> grind

theorem Phase.stage_of_ends (h : phase.ends = true) :
    phase.stage ≠ .ready ∧ phase.stage ≠ .closing := by
  rcases Phase.ends_iff.mp h with rfl | rfl | rfl | ⟨killer, rfl⟩
  all_goals exact ⟨Stage.noConfusion, Stage.noConfusion⟩

theorem Phase.stage_of_timedOut (h : phase.timedOut = true) : phase.stage = .closing := by
  rcases Phase.timedOut_iff.mp h with ⟨killer, rfl⟩
  rfl

/-- Instances have distinct identifiers and distinct ports, which are not free. -/
structure FleetInv (s : Fleet) : Prop where
  ids : (s.instances.map Tracked.id).Nodup
  fresh : ∀ inst ∈ s.instances, inst.id < s.nextId
  ports : Exclusive (· ∈ s.free) (s.instances.map Tracked.lease)

theorem fleetInv_init (start finish : Nat) (restored : List AppId) :
    FleetInv (.init start finish restored) where
  ids := nodup_nil
  fresh := nofun
  ports := ⟨nodup_nil, nofun⟩

theorem Fleet.map_moveTo {W : Type} {g : Tracked → W}
    (hg : ∀ inst : Tracked, g { inst with phase := phase } = g inst) (s : Fleet) (id : Nat) :
    (s.moveTo id phase).instances.map g = s.instances.map g :=
  Roster.map_update hg id s.instances

theorem FleetInv.moveTo (hinv : FleetInv s) (id : Nat) (phase : Phase) :
    FleetInv (s.moveTo id phase) where
  ids := by
    rw [Fleet.map_moveTo fun _ => rfl]
    exact hinv.ids
  fresh := by
    intro inst hinst
    rcases mem_map.mp hinst with ⟨old, hold, rfl⟩
    split <;> exact hinv.fresh old hold
  ports := by
    rw [Fleet.map_moveTo fun _ => rfl]
    exact hinv.ports

theorem FleetInv.of_sublist (hinv : FleetInv s) (hnext : t.nextId = s.nextId)
    (hinstances : t.instances.Sublist s.instances) (hfree : t.free = s.free) : FleetInv t where
  ids := hinv.ids.sublist (hinstances.map _)
  fresh := fun inst hinst => hnext ▸ hinv.fresh inst (hinstances.subset hinst)
  ports := by
    rw [hfree]
    exact hinv.ports.forget (hinstances.map _)

theorem FleetInv.mem_moveTo (hinv : FleetInv s) (hinst : inst ∈ s.instances) :
    x ∈ (s.moveTo inst.id phase).instances ↔
      x = { inst with phase := phase } ∨ x ∈ s.instances ∧ x.id ≠ inst.id :=
  Roster.mem_update hinv.ids hinst

theorem Fleet.mem_discard : x ∈ (s.discard id).instances ↔ x ∈ s.instances ∧ x.id ≠ id :=
  Roster.mem_drop

theorem FleetInv.perm_discard (hinv : FleetInv s) (hinst : inst ∈ s.instances) :
    s.instances.Perm (inst :: (s.discard inst.id).instances) :=
  Roster.perm_drop hinv.ids hinst

theorem FleetEffect.inv (heffect : FleetEffect env s a t) (hinv : FleetInv s) : FleetInv t := by
  cases heffect with
  | keeps running hrunning => exact ⟨hinv.ids, hinv.fresh, hinv.ports⟩
  | allocates inst available free ha hprepare hallocate hid hphase =>
    rcases PortAllocator.allocate_ok hallocate with ⟨hfree, hrest⟩
    refine ⟨?_, ?_, hinv.ports.acquire hfree hrest⟩
    · refine nodup_cons.mpr ⟨fun hmem => ?_, hinv.ids⟩
      rcases mem_map.mp hmem with ⟨other, hother, heq⟩
      have hlt := hinv.fresh other hother
      omega
    · intro x hx
      rcases mem_cons.mp hx with rfl | hx
      · exact hid ▸ Nat.lt_succ_self _
      · exact Nat.lt_succ_of_lt (hinv.fresh x hx)
  | launches inst hinst | moves inst hinst | inserts inst hinst | bills inst hinst =>
    have hmoved := hinv.moveTo inst.id
    exact ⟨(hmoved _).ids, (hmoved _).fresh, (hmoved _).ports⟩
  | gives inst hinst hends =>
    have hkept : FleetInv (s.discard inst.id) :=
      hinv.of_sublist rfl (Roster.drop_sublist _ _) rfl
    have hheld := (hinv.perm_discard hinst).map Tracked.lease
    exact ⟨hkept.ids, hkept.fresh, hinv.ports.release hheld PortAllocator.mem_release⟩
  | loses inst hinst hlost => exact hinv.of_sublist rfl (Roster.drop_sublist _ _) rfl
  | forgets appId ha hactive => exact hinv.of_sublist rfl filter_sublist rfl

theorem fleetInv_step (env : SpawnEnv) (s : Fleet) (a : FleetAction) (hinv : FleetInv s) :
    FleetInv (fleetStep env s a) :=
  (fleetStep_effect env s a).inv hinv

theorem FleetInv.eq_of_port {s : Fleet} (hinv : FleetInv s) {x y : Tracked}
    (hx : x ∈ s.instances) (hy : y ∈ s.instances) (h : x.port = y.port) : x = y := by
  have hports : (s.instances.map Tracked.port).Nodup := by
    have hdistinct := hinv.ports.distinct
    rw [map_map] at hdistinct
    exact hdistinct
  exact inj_on_of_nodup_map hports hx hy h

/-- How the phase of an instance changes in an action. -/
inductive Passes (s : Fleet) (a : FleetAction) (old : Tracked) : Phase → Prop where
  | stays : Passes s a old old.phase
  | launches (point : SpawnPoint) (hpoint : point = .started ∨ point = .polling)
      (hphase : old.phase = .spawning .allocated) : Passes s a old (.spawning point)
  | moves (phase : Phase) (hmoves : Moves s a old phase) : Passes s a old phase
  | inserts (hphase : old.phase = .spawning .bound) : Passes s a old (.pooled .ready)
  | bills (killer : Killer) (hphase : old.phase = .shutdown killer .signalled)
      (hfinished : s.finished old.id = true) : Passes s a old (.shutdown killer .exited)

/-- An instance is a new one, or was there before in a preceding phase. -/
theorem FleetEffect.origin (heffect : FleetEffect env s a t) (hinv : FleetInv s)
    (hinst : inst ∈ t.instances) :
    (inst.id = s.nextId ∧ inst.phase = .spawning .allocated ∧
      ∃ available, a = .allocate inst.appId available ∧
        prepareSpawn env available inst.appId = .ok (inst.qualified, inst.model)) ∨
      ∃ old ∈ s.instances, inst = { old with phase := inst.phase } ∧ Passes s a old inst.phase := by
  have hstays : inst ∈ s.instances → ∃ old ∈ s.instances,
      inst = { old with phase := inst.phase } ∧ Passes s a old inst.phase :=
    fun h => ⟨inst, h, rfl, .stays⟩
  have hmoved : ∀ {x : Tracked} {phase : Phase}, x ∈ s.instances → Passes s a x phase →
      inst ∈ (s.moveTo x.id phase).instances → ∃ old ∈ s.instances,
        inst = { old with phase := inst.phase } ∧ Passes s a old inst.phase := by
    grind [hinv.mem_moveTo]
  cases heffect with
  | keeps running hrunning => exact .inr (hstays hinst)
  | allocates new available free ha hprepare hallocate hid hphase =>
    rcases mem_cons.mp hinst with rfl | hold
    · exact .inl ⟨hid, hphase, available, ha, hprepare⟩
    · exact .inr (hstays hold)
  | launches x hx hphase point hpoint =>
    exact .inr (hmoved hx (.launches point hpoint hphase) hinst)
  | moves x hx phase hmoves => exact .inr (hmoved hx (.moves phase hmoves) hinst)
  | inserts x hx hphase => exact .inr (hmoved hx (.inserts hphase) hinst)
  | bills x hx killer hphase hfinished =>
    exact .inr (hmoved hx (.bills killer hphase hfinished) hinst)
  | gives x hx hends | loses x hx hlost => exact .inr (hstays (Fleet.mem_discard.mp hinst).1)
  | forgets appId ha hactive => exact .inr (hstays (mem_of_mem_filter hinst))

/-- An instance leaves the fleet: its call ends, or it is let go of, or goes with its pool. -/
def Leaves (s : Fleet) (a : FleetAction) (inst : Tracked) : Prop :=
  inst.phase.ends = true ∧
      (a = .proceed inst.id false ∨ ∃ killer, inst.phase = .shutdown killer .unlisted) ∨
    Lost s a inst ∨
    ∃ appId, a = .forgetApp appId ∧ s.activeCount appId = 0 ∧ inst.inPool appId = true

/-- An instance passes to a phase, and is billed if that is after its exit. -/
def Continues (s : Fleet) (a : FleetAction) (inst : Tracked) (t : Fleet) : Prop :=
  ∃ phase, Passes s a inst phase ∧ { inst with phase := phase } ∈ t.instances ∧
    (inst.phase.stage ≠ .past → phase.stage = .past → inst.id ∈ t.billed)

theorem FleetEffect.successor (heffect : FleetEffect env s a t) (hinv : FleetInv s)
    (hx : x ∈ s.instances) : Continues s a x t ∨ Leaves s a x := by
  have hstays : x ∈ t.instances → Continues s a x t :=
    fun hmem => ⟨x.phase, .stays, hmem, fun hne hpast => absurd hpast hne⟩
  have hmoved : ∀ inst ∈ s.instances, ∀ phase, t.instances = (s.moveTo inst.id phase).instances →
      Passes s a inst phase → (inst.phase.stage ≠ .past → phase.stage = .past →
        inst.id ∈ t.billed) → Continues s a x t := by
    intro inst hinst phase heq hpass hbilled
    by_cases hid : x.id = inst.id
    · obtain rfl := inj_on_of_nodup_map hinv.ids hx hinst hid
      exact ⟨phase, hpass, heq ▸ (hinv.mem_moveTo hx).mpr (.inl rfl), hbilled⟩
    · exact hstays (heq ▸ (hinv.mem_moveTo hinst).mpr (.inr ⟨hx, hid⟩))
  have hgone : ∀ inst ∈ s.instances, t.instances = (s.discard inst.id).instances →
      Leaves s a inst → Continues s a x t ∨ Leaves s a x := by
    grind [inj_on_of_nodup_map, Fleet.mem_discard, hinv.ids]
  cases heffect with
  | keeps => exact .inl (hstays hx)
  | allocates => exact .inl (hstays (.tail _ hx))
  | launches inst hinst hphase point hpoint =>
    refine .inl (hmoved inst hinst _ rfl (.launches point hpoint hphase) fun _ hpast => ?_)
    rcases hpoint with rfl | rfl <;> cases hpast
  | moves inst hinst phase hmoves =>
    exact .inl (hmoved inst hinst _ rfl (.moves phase hmoves) (by grind [hmoves.stage]))
  | inserts inst hinst hphase =>
    exact .inl (hmoved inst hinst _ rfl (.inserts hphase) fun _ => nofun)
  | bills inst hinst killer hphase hfinished =>
    exact .inl (hmoved inst hinst _ rfl (.bills killer hphase hfinished) fun _ _ => .head _)
  | gives inst hinst hends hfails => exact hgone inst hinst rfl (.inl ⟨hends, hfails⟩)
  | loses inst hinst hlost => exact hgone inst hinst rfl (.inr (.inl hlost))
  | forgets appId ha hactive =>
    by_cases hpool : x.inPool appId = true
    · exact .inr (.inr (.inr ⟨appId, ha, hactive, hpool⟩))
    · exact .inl (hstays (mem_filter.mpr ⟨hx, by simpa using hpool⟩))

theorem Passes.closed {old : Tracked} (h : Passes s a old phase)
    (hclosed : old.phase.stage = .closing ∨ old.phase.stage = .past) :
    phase.stage = .closing ∨ phase.stage = .past := by
  cases h with
  | moves phase hmoves => grind [hmoves.stage]
  | _ => grind [Phase.stage]

theorem FleetEffect.nextId_le (heffect : FleetEffect env s a t) : s.nextId ≤ t.nextId := by
  cases heffect with
  | allocates => exact Nat.le_succ _
  | _ => exact le_rfl

/-- The order in which an instance reaches the stages. -/
def Stage.rank : Stage → Nat
  | .unlaunched => 0
  | .launched => 1
  | .ready => 2
  | .closing => 3
  | .past => 4

theorem Passes.rank_le {old : Tracked} (h : Passes s a old phase) :
    old.phase.stage.rank ≤ phase.stage.rank := by
  cases h with
  | stays => exact le_rfl
  | launches point hpoint hphase =>
    rw [hphase]
    exact Nat.zero_le _
  | moves phase hmoves =>
    rcases hmoves.stage.2 with heq | ⟨hready, hclosing⟩
    · rw [heq]
    · rw [hready, hclosing]
      decide
  | inserts hphase =>
    rw [hphase]
    decide
  | bills killer hphase hfinished =>
    rw [hphase]
    exact Nat.le_succ 3

/-- What a run has of the instances it started from, it has at the same or a later stage. -/
theorem FleetInv.run_descends (hinv : FleetInv s) (as : List FleetAction)
    (hinst : inst ∈ (runAll (fleetStep env) s as).instances) (hold : inst.id < s.nextId) :
    ∃ old ∈ s.instances, inst = { old with phase := inst.phase } ∧
      old.phase.stage.rank ≤ inst.phase.stage.rank := by
  -- The first action is undone last: an id below the next one is not allocated again.
  induction as generalizing s with
  | nil => exact ⟨inst, hinst, rfl, le_rfl⟩
  | cons a as ih =>
    have heffect := fleetStep_effect env s a
    rcases ih (fleetInv_step env s a hinv) hinst (hold.trans_le heffect.nextId_le) with
      ⟨mid, hmid, heq, hrank⟩
    have hid : inst.id = mid.id := by rw [heq]
    rcases heffect.origin hinv hmid with ⟨hnew, -⟩ | ⟨old, hmem, hsame, hpasses⟩
    · omega
    · refine ⟨old, hmem, ?_, hpasses.rank_le.trans hrank⟩
      rw [heq, hsame]

/-- In every run, whatever has an id that was given out at some time before is the instance that
    had it then: with its application, port and model, and no earlier in its life. One that was
    gone by then stays gone. -/
theorem instances_never_go_back (env : SpawnEnv) (start finish : Nat) (restored : List AppId)
    (as bs : List FleetAction)
    (hinst : inst ∈ (runAll (fleetStep env) (.init start finish restored) (as ++ bs)).instances)
    (hold : inst.id < (runAll (fleetStep env) (.init start finish restored) as).nextId) :
    ∃ old ∈ (runAll (fleetStep env) (.init start finish restored) as).instances,
      inst = { old with phase := inst.phase } ∧
        old.phase.stage.rank ≤ inst.phase.stage.rank := by
  have hinv := invariant_run (fleetInv_step env) as (fleetInv_init start finish restored)
  rw [runAll_append] at hinst
  exact hinv.run_descends bs hinst hold

def oneApp (ns : String) : SpawnEnv where
  budget := 2 ^ 30
  config := fun appId =>
    if appId = portApp then
      some ⟨⟨portApp, ns, []⟩, 1000000, 256, 1⟩
    else none
  prepare := fun _ => some .wasiCli

def spawnSteps (id : Nat) : List FleetAction :=
  .allocate portApp [] :: List.replicate 8 (.proceed id true)

def signalSteps (killer : Killer) (id : Nat) : List FleetAction :=
  .take killer portApp id :: List.replicate 3 (.proceed id true)

theorem taken_was_ready :
    ∃ old ∈ (runAll (fleetStep (oneApp "default")) (.init 8000 8010 []) (spawnSteps 0)).instances,
      (⟨0, portApp, portApp, 8000, .wasiCli, .shutdown .removal .taken⟩ : Tracked) =
          { old with phase := .shutdown .removal .taken } ∧
        old.phase.stage.rank ≤ 3 :=
  instances_never_go_back (oneApp "default") 8000 8010 [] (spawnSteps 0)
    [.take .removal portApp 0] (by decide) (by decide)

end WasmCloud
