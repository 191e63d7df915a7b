import WasmCloud.Lib.Run
import WasmCloud.Monitor.NamespaceMap

/-!
# Callers

The gateway asks the namespace map who is behind a connection. The kernel reports the
connections a registered thread makes and closes, the monitor binds and unbinds their
source ports, and the supervisor registers and deregisters threads. Ports and thread
identifiers are used again, and reports wait as long as they like.

A step is what one call does under one lock, a change of a socket's state, or one report;
`runAll_registerSteps`, `runAll_deregisterSteps` and `runAll_cleanupSteps` say which steps a
call is. `Orderly` asks that no late report binds a closed connection's port and that no
identifier is registered again while a connection made under it is open.
-/

namespace WasmCloud

open OrdTable

/-- The states of a socket the kernel program looks at. -/
inductive TcpState where
  | established
  | close
  deriving DecidableEq

inductive MonitorEvent where
  | tidConnection (tid : UInt32) (sourcePort : UInt16)
  | tidDisconnection (tid : UInt32) (sourcePort : UInt16)
  | unregisteredTidConnection (tid : UInt32)
  deriving DecidableEq

/-- `try_ns_inet_sock_set_state`, for a socket of these ports and peers. -/
def nsInetSockSetState (gatewayPort : UInt16) (inner : List UInt32) (tid : UInt32)
    (sport dport : UInt16) (newState : TcpState) : Option MonitorEvent :=
  if sport = gatewayPort ∨ dport = gatewayPort then
    match newState with
    | .established =>
      if tid ∈ inner then some (.tidConnection tid sport)
      else some (.unregisteredTidConnection tid)
    | .close => if tid ∈ inner then some (.tidDisconnection tid sport) else none
  else none

/-- `dispatch`, as far as it concerns the map. -/
def dispatch (m : NamespaceMap) (now : Nat) : MonitorEvent → NamespaceMap
  | .tidConnection tid sourcePort => m.bindPort now sourcePort tid
  | .tidDisconnection _ sourcePort => m.unbindPort sourcePort
  | .unregisteredTidConnection _ => m

/-- Its source port, the thread that made it, and what was registered for the thread then. -/
structure Connection where
  port : UInt16
  tid : UInt32
  identity : Option TidIdentity
  deriving DecidableEq

/-- A `resolve_identity` for a connection that has read a binding. -/
structure Lookup where
  connection : Connection
  tid : UInt32
  deriving DecidableEq

/-- The map, the reports, the open connections, the lookups and the answers given. -/
structure Callers where
  map : NamespaceMap
  now : Nat
  events : List MonitorEvent
  live : List Connection
  lookups : List Lookup
  answers : List (Connection × Option CallerIdentity)

/-- A step. `room` is whether the ring buffer takes the report. -/
inductive CallerAction where
  | insertInner (tid : UInt32)
  | insertIdentity (tid : UInt32) (identity : TidIdentity)
  | removeInner (tid : UInt32)
  | removeIdentity (tid : UInt32)
  | retainPorts (tid : UInt32)
  | connect (tid : UInt32) (port : UInt16) (room : Bool)
  | close (tid : UInt32) (connection : Connection) (room : Bool)
  | serverEnd (tid : UInt32) (port : UInt16) (newState : TcpState) (room : Bool)
  | dispatch
  | resolve (connection : Connection)
  | answer (lookup : Lookup)
  | wait (duration : Nat)
  deriving DecidableEq

namespace Callers

def start : Callers := ⟨.new, 0, [], [], [], []⟩

/-- A report waits, if there is one and room for it. -/
def report (s : Callers) (event : Option MonitorEvent) (room : Bool) : Callers :=
  if room then { s with events := s.events ++ event.toList } else s

end Callers

def callerStep (gatewayPort : UInt16) (s : Callers) : CallerAction → Callers
  | .insertInner tid => { s with map := s.map.insertInner tid }
  | .insertIdentity tid identity => { s with map := s.map.insertIdentity tid identity s.now }
  | .removeInner tid => { s with map := s.map.removeInner tid }
  | .removeIdentity tid => { s with map := s.map.removeIdentity tid }
  | .retainPorts tid => { s with map := s.map.retainPorts tid }
  | .connect tid port room =>
    ({ s with live := ⟨port, tid, s.map.lookupTid tid⟩ :: s.live }).report
      (nsInetSockSetState gatewayPort s.map.inner tid port gatewayPort .established) room
  | .close tid connection room =>
    -- Any thread may close a connection.
    if connection ∈ s.live then
      ({ s with live := s.live.erase connection }).report
        (nsInetSockSetState gatewayPort s.map.inner tid connection.port gatewayPort .close) room
    else s
  | .serverEnd tid port newState room =>
    -- The program sees the gateway's own sockets too, with the ports the other way.
    s.report (nsInetSockSetState gatewayPort s.map.inner tid gatewayPort port newState) room
  | .dispatch =>
    match s.events with
    | [] => s
    | event :: rest => { s with map := WasmCloud.dispatch s.map s.now event, events := rest }
  | .resolve connection =>
    if connection ∈ s.live then
      match s.map.readBinding s.now connection.port with
      | (m, some tid) => { s with map := m, lookups := ⟨connection, tid⟩ :: s.lookups }
      | (m, none) => { s with map := m, answers := (connection, none) :: s.answers }
    else s
  | .answer lookup =>
    if lookup ∈ s.lookups then
      { s with
        lookups := s.lookups.erase lookup
        answers := (lookup.connection, s.map.readIdentity lookup.tid) :: s.answers }
    else s
  | .wait duration => { s with now := s.now + duration }

def registerSteps (tid : UInt32) (identity : TidIdentity) : List CallerAction :=
  [.insertInner tid, .insertIdentity tid identity]

def deregisterSteps (tid : UInt32) : List CallerAction :=
  [.removeInner tid, .removeIdentity tid, .retainPorts tid]

section Calls

variable (gatewayPort : UInt16) (s : Callers)

theorem runAll_registerSteps (tid : UInt32) (identity : TidIdentity) :
    (runAll (callerStep gatewayPort) s (registerSteps tid identity)).map =
      (s.map.registerTid tid identity s.now none).1 := rfl

theorem runAll_deregisterSteps (tid : UInt32) :
    runAll (callerStep gatewayPort) s (deregisterSteps tid) =
      { s with map := s.map.deregisterTid tid } := rfl

theorem runAll_cleanupSteps (alive : UInt32 → Bool) :
    runAll (callerStep gatewayPort) s ((s.map.staleTids alive).flatMap deregisterSteps) =
      { s with map := (s.map.cleanupStaleTids alive).1 } := by
  rw [NamespaceMap.cleanupStaleTids]
  generalize s.map.staleTids alive = tids
  induction tids generalizing s with
  | nil => rfl
  | cons tid tids ih =>
    rw [List.flatMap_cons, runAll_append, runAll_deregisterSteps, ih]
    rfl

/-- A lookup and its answer in one go are `resolve_identity`. -/
theorem runAll_resolveSteps {connection : Connection} (hlive : connection ∈ s.live) {tid : UInt32}
    (hbinding : (s.map.readBinding s.now connection.port).2 = some tid) :
    (runAll (callerStep gatewayPort) s
        [.resolve connection, .answer ⟨connection, tid⟩]).answers.head? =
      some (connection, (s.map.resolveIdentity s.now connection.port).2) := by
  rcases hread : s.map.readBinding s.now connection.port with ⟨m, found⟩
  rw [hread] at hbinding
  cases hbinding
  simp [callerStep, if_pos hlive, hread, NamespaceMap.resolveIdentity]

end Calls

/-- The port a report is going to bind, and to which thread. -/
def MonitorEvent.binding : MonitorEvent → Option (UInt16 × UInt32)
  | .tidConnection tid sourcePort => some (sourcePort, tid)
  | .tidDisconnection _ _ => none
  | .unregisteredTidConnection _ => none

theorem binding_of_set {gatewayPort : UInt16} {inner : List UInt32} {tid : UInt32}
    {sport dport : UInt16} {newState : TcpState} {event : MonitorEvent}
    (hevent : nsInetSockSetState gatewayPort inner tid sport dport newState = some event)
    {bound : UInt16 × UInt32} (hbound : bound ∈ event.binding) :
    newState = .established ∧ bound = (sport, tid) := by
  cases newState with
  | established =>
    simp only [nsInetSockSetState] at hevent
    split_ifs at hevent
    · cases hevent
      exact ⟨rfl, (Option.mem_some_iff.mp hbound).symm⟩
    · cases hevent
      nomatch hbound
  | close =>
    simp only [nsInetSockSetState] at hevent
    split_ifs at hevent
    cases hevent
    nomatch hbound

/-- Bindings, reports and registrations belong to the open connections, and answers name their
    own identity. -/
structure CallerInv (gatewayPort : UInt16) (s : Callers) : Prop where
  source : ∀ c ∈ s.live, c.port ≠ gatewayPort
  bound : ∀ binding ∈ s.map.portToTid, ∀ c ∈ s.live, binding.sourcePort = c.port →
    binding.tid = c.tid
  reported : ∀ event ∈ s.events, ∀ bound ∈ event.binding, ∀ c ∈ s.live, bound.1 = c.port →
    bound.2 = c.tid
  registered : ∀ entry ∈ s.map.tidToIdentity, ∀ c ∈ s.live, entry.tid = c.tid →
    c.identity = some entry.identity
  looked : ∀ lookup ∈ s.lookups, lookup.tid = lookup.connection.tid ∧
    ∀ entry ∈ s.map.tidToIdentity, entry.tid = lookup.tid →
      lookup.connection.identity = some entry.identity
  answered : ∀ entry ∈ s.answers, ∀ caller ∈ entry.2,
    ∃ identity, entry.1.identity = some identity ∧ caller = identity.caller entry.1.tid

theorem callerInv_start (gatewayPort : UInt16) : CallerInv gatewayPort .start where
  source _ hc := absurd hc List.not_mem_nil
  bound _ _ _ hc := absurd hc List.not_mem_nil
  reported _ hevent := absurd hevent List.not_mem_nil
  registered _ _ _ hc := absurd hc List.not_mem_nil
  looked _ hlookup := absurd hlookup List.not_mem_nil
  answered _ hentry := absurd hentry List.not_mem_nil

/-- A state with nothing new in it but answers that name nobody. -/
structure Narrows (s t : Callers) : Prop where
  ports : ∀ binding ∈ t.map.portToTid, binding ∈ s.map.portToTid
  identities : ∀ entry ∈ t.map.tidToIdentity, entry ∈ s.map.tidToIdentity
  events : ∀ event ∈ t.events, event ∈ s.events
  live : ∀ c ∈ t.live, c ∈ s.live
  lookups : ∀ lookup ∈ t.lookups, lookup ∈ s.lookups
  answers : ∀ entry ∈ t.answers, entry ∈ s.answers ∨ entry.2 = none

theorem Narrows.refl (s : Callers) : Narrows s s :=
  ⟨fun _ h => h, fun _ h => h, fun _ h => h, fun _ h => h, fun _ h => h, fun _ h => .inl h⟩

namespace CallerInv

variable {gatewayPort : UInt16} {s t : Callers}

variable (hinv : CallerInv gatewayPort s)
include hinv

theorem narrow (h : Narrows s t) : CallerInv gatewayPort t where
  source c hc := hinv.source c (h.live c hc)
  bound binding hbinding c hc := hinv.bound binding (h.ports _ hbinding) c (h.live c hc)
  reported event hevent bound hbound c hc :=
    hinv.reported event (h.events _ hevent) bound hbound c (h.live c hc)
  registered entry hentry c hc := hinv.registered entry (h.identities _ hentry) c (h.live c hc)
  looked lookup hlookup :=
    ⟨(hinv.looked lookup (h.lookups _ hlookup)).1, fun entry hentry =>
      (hinv.looked lookup (h.lookups _ hlookup)).2 entry (h.identities _ hentry)⟩
  answered entry hentry caller hcaller := by
    rcases h.answers _ hentry with hold | hnone
    · exact hinv.answered entry hold caller hcaller
    · rw [hnone] at hcaller
      nomatch hcaller

theorem report {event : Option MonitorEvent} (room : Bool)
    (hevent : ∀ e ∈ event, ∀ bound ∈ e.binding, ∀ c ∈ s.live, bound.1 = c.port →
      bound.2 = c.tid) : CallerInv gatewayPort (s.report event room) := by
  unfold Callers.report
  split_ifs with hroom
  · refine ⟨hinv.source, hinv.bound, fun e he => ?_, hinv.registered, hinv.looked, hinv.answered⟩
    rcases List.mem_append.mp he with hold | hnew
    · exact hinv.reported e hold
    · exact hevent e (Option.mem_toList.mp hnew)
  · exact hinv

variable {tid : UInt32} {port : UInt16}

theorem connect (hsource : port ≠ gatewayPort)
    (hbound : ∀ binding ∈ s.map.portToTid, binding.sourcePort = port → binding.tid = tid)
    (hreported : ∀ event ∈ s.events, ∀ bound ∈ event.binding, bound.1 = port → bound.2 = tid) :
    CallerInv gatewayPort { s with live := ⟨port, tid, s.map.lookupTid tid⟩ :: s.live } where
  source c hc := by
    rcases List.mem_cons.mp hc with rfl | hc
    · exact hsource
    · exact hinv.source c hc
  bound binding hbinding c hc := by
    rcases List.mem_cons.mp hc with rfl | hc
    · exact hbound binding hbinding
    · exact hinv.bound binding hbinding c hc
  reported event hevent bound hb c hc := by
    rcases List.mem_cons.mp hc with rfl | hc
    · exact hreported event hevent bound hb
    · exact hinv.reported event hevent bound hb c hc
  registered entry hentry c hc htid := by
    rcases List.mem_cons.mp hc with rfl | hc
    · have hget : s.map.tidToIdentity.get? tid.toNat = some entry :=
        get?_eq_some_iff.mpr ⟨hentry, congrArg UInt32.toNat htid⟩
      exact congrArg (Option.map Registration.identity) hget
    · exact hinv.registered entry hentry c hc htid
  looked := hinv.looked
  answered := hinv.answered

theorem bindPort (hport : ∀ c ∈ s.live, port = c.port → tid = c.tid) :
    CallerInv gatewayPort { s with map := s.map.bindPort s.now port tid } where
  source := hinv.source
  bound binding hbinding c hc hsame := by
    rcases mem_insert.mp hbinding with rfl | ⟨hold, -⟩
    · exact hport c hc hsame
    · exact hinv.bound binding hold c hc hsame
  reported := hinv.reported
  registered := hinv.registered
  looked := hinv.looked
  answered := hinv.answered

theorem insertIdentity (identity : TidIdentity)
    (hlive : ∀ c ∈ s.live, c.tid ≠ tid) (hlookups : ∀ l ∈ s.lookups, l.connection.tid ≠ tid) :
    CallerInv gatewayPort { s with map := s.map.insertIdentity tid identity s.now } where
  source := hinv.source
  bound := hinv.bound
  reported := hinv.reported
  registered entry hentry c hc htid := by
    rcases mem_insert.mp hentry with rfl | ⟨hold, -⟩
    · exact absurd htid.symm (hlive c hc)
    · exact hinv.registered entry hold c hc htid
  looked lookup hlookup := by
    rcases hinv.looked lookup hlookup with ⟨hsame, hentries⟩
    refine ⟨hsame, fun entry hentry htid => ?_⟩
    rcases mem_insert.mp hentry with rfl | ⟨hold, -⟩
    · exact absurd (hsame.symm.trans htid.symm) (hlookups lookup hlookup)
    · exact hentries entry hold htid
  answered := hinv.answered

theorem lookup {connection : Connection}
    (hlive : connection ∈ s.live) {binding : PortBinding} (hbinding : binding ∈ s.map.portToTid)
    (hport : binding.sourcePort = connection.port) :
    CallerInv gatewayPort { s with lookups := ⟨connection, binding.tid⟩ :: s.lookups } where
  source := hinv.source
  bound := hinv.bound
  reported := hinv.reported
  registered := hinv.registered
  looked l hl := by
    have hsame := hinv.bound binding hbinding connection hlive hport
    grind [hinv.registered, hinv.looked]
  answered := hinv.answered

theorem answer {l : Lookup} (hl : l ∈ s.lookups) :
    CallerInv gatewayPort { s with
      lookups := s.lookups.erase l
      answers := (l.connection, s.map.readIdentity l.tid) :: s.answers } where
  source := hinv.source
  bound := hinv.bound
  reported := hinv.reported
  registered := hinv.registered
  looked other hother := hinv.looked other (List.mem_of_mem_erase hother)
  answered entry hentry caller hcaller := by
    rcases List.mem_cons.mp hentry with rfl | hold
    · rcases hinv.looked l hl with ⟨hsame, hentries⟩
      rcases Option.map_eq_some_iff.mp hcaller with ⟨identity, hidentity, rfl⟩
      rcases Option.map_eq_some_iff.mp hidentity with ⟨registered, hget, rfl⟩
      rcases get?_eq_some_iff.mp hget with ⟨hregistered, htid⟩
      exact ⟨registered.identity, hentries registered hregistered (UInt32.toNat_inj.mp htid),
        by rw [hsame]⟩
    · exact hinv.answered entry hold caller hcaller

end CallerInv

/-- A connection has a port of its own that is bound to no other thread, and threads are
    registered while no connection is open under their identifier. -/
def Orderly (gatewayPort : UInt16) (s : Callers) : CallerAction → Prop
  | .connect tid port _ =>
    port ≠ gatewayPort ∧ (∀ c ∈ s.live, c.port ≠ port) ∧
    (∀ binding ∈ s.map.portToTid.entries, binding.sourcePort = port → binding.tid = tid) ∧
    ∀ event ∈ s.events, ∀ bound ∈ event.binding, bound.1 = port → bound.2 = tid
  | .insertIdentity tid _ =>
    (∀ c ∈ s.live, c.tid ≠ tid) ∧ ∀ lookup ∈ s.lookups, lookup.connection.tid ≠ tid
  | .insertInner _ | .removeInner _ | .removeIdentity _ | .retainPorts _ | .close _ _ _
  | .serverEnd _ _ _ _ | .dispatch | .resolve _ | .answer _ | .wait _ => True

instance (gatewayPort : UInt16) (s : Callers) (a : CallerAction) :
    Decidable (Orderly gatewayPort s a) := by
  -- An event binds one port at most, and only that one is tried.
  have (event : MonitorEvent) (port : UInt16) (tid : UInt32) :
      Decidable (∀ bound ∈ event.binding, bound.1 = port → bound.2 = tid) :=
    Option.decidableForallMem event.binding
  cases a <;> unfold Orderly <;> infer_instance

/-- The first half of `resolve_identity` reads a binding or takes an old one off. -/
theorem readBinding_cases (m : NamespaceMap) (now : Nat) (port : UInt16) :
    (∃ binding ∈ m.portToTid, binding.sourcePort = port ∧
        m.readBinding now port = (m, some binding.tid)) ∨
      m.readBinding now port = (m, none) ∨ m.readBinding now port = (m.unbindPort port, none) := by
  unfold NamespaceMap.readBinding
  rcases hget : m.portToTid.get? port.toNat with _ | binding
  · exact .inr (.inl rfl)
  · rcases get?_eq_some_iff.mp hget with ⟨hbinding, hport⟩
    grind [UInt16.toNat_inj]

theorem callerInv_step {gatewayPort : UInt16} (s : Callers) (a : CallerAction)
    (ha : Orderly gatewayPort s a) (hinv : CallerInv gatewayPort s) :
    CallerInv gatewayPort (callerStep gatewayPort s a) := by
  cases a with
  | insertInner tid | removeInner tid | wait duration => exact hinv.narrow { Narrows.refl s with }
  | insertIdentity tid identity => exact hinv.insertIdentity identity ha.1 ha.2
  | removeIdentity tid =>
    exact hinv.narrow { Narrows.refl s with
      identities := fun _ h => (mem_remove.mp h).1 }
  | retainPorts tid =>
    exact hinv.narrow { Narrows.refl s with ports := fun _ h => (mem_filter.mp h).1 }
  | connect tid port room =>
    rcases ha with ⟨hsource, hfree, hbound, hreported⟩
    refine (hinv.connect hsource hbound hreported).report room fun e he bound hb c hc hport => ?_
    rcases binding_of_set he hb with ⟨-, rfl⟩
    rcases List.mem_cons.mp hc with rfl | hc
    · rfl
    · exact absurd hport.symm (hfree c hc)
  | close tid connection room =>
    simp only [callerStep]
    split_ifs with hlive
    · have hclosed : CallerInv gatewayPort { s with live := s.live.erase connection } :=
        hinv.narrow { Narrows.refl s with live := fun _ h => List.mem_of_mem_erase h }
      refine hclosed.report room fun e he bound hb => ?_
      cases (binding_of_set he hb).1
    · exact hinv
  | serverEnd tid port newState room =>
    refine hinv.report room fun e he bound hb c hc hport => ?_
    rcases binding_of_set he hb with ⟨-, rfl⟩
    exact absurd hport.symm (hinv.source c hc)
  | dispatch =>
    simp only [callerStep]
    rcases hevents : s.events with _ | ⟨event, rest⟩
    · exact hinv
    · -- The report leaves the queue before it takes effect.
      have hrest : CallerInv gatewayPort { s with events := rest } :=
        hinv.narrow { Narrows.refl s with
          events := fun _ h => hevents ▸ List.mem_cons_of_mem event h }
      cases event with
      | tidConnection tid port =>
        exact hrest.bindPort (hinv.reported _ (hevents ▸ List.mem_cons_self) (port, tid) rfl)
      | tidDisconnection tid port =>
        exact hrest.narrow { Narrows.refl { s with events := rest } with
          ports := fun _ h => (mem_remove.mp h).1 }
      | unregisteredTidConnection tid => exact hrest
  | resolve connection =>
    simp only [callerStep]
    split_ifs with hlive
    · rcases readBinding_cases s.map s.now connection.port with
        ⟨binding, hbinding, hport, hread⟩ | hread | hread
      · rw [hread]
        exact hinv.lookup hlive hbinding hport
      · rw [hread]
        exact hinv.narrow { Narrows.refl s with
          answers := fun _ h => (List.mem_cons.mp h).symm.imp_right (congrArg Prod.snd) }
      · rw [hread]
        exact hinv.narrow { Narrows.refl s with
          ports := fun _ h => (mem_remove.mp h).1
          answers := fun _ h => (List.mem_cons.mp h).symm.imp_right (congrArg Prod.snd) }
    · exact hinv
  | answer lookup =>
    simp only [callerStep]
    split_ifs with hlookup
    · exact hinv.answer hlookup
    · exact hinv

/-- The identity the map answers with for an open connection is the one that was
    registered for the thread that made it, when it was made. -/
theorem caller_identity_sound (gatewayPort : UInt16) (actions : List CallerAction)
    (horderly : Along (callerStep gatewayPort) (Orderly gatewayPort) .start actions) :
    ∀ entry ∈ (runAll (callerStep gatewayPort) .start actions).answers, ∀ caller ∈ entry.2,
      ∃ identity, entry.1.identity = some identity ∧ caller = identity.caller entry.1.tid :=
  (invariant_along callerInv_step horderly (callerInv_start gatewayPort)).answered

def tenantA : TidIdentity := TidIdentity.new "a" "a/api:v1"

def tenantB : TidIdentity := TidIdentity.new "b" "b/web:v1"

def askSteps (connection : Connection) (tid : UInt32) : List CallerAction :=
  [.resolve connection, .answer ⟨connection, tid⟩]

def handedOnRun : List CallerAction :=
  registerSteps 101 tenantA ++ registerSteps 202 tenantB ++
    [.connect 101 40000 true, .dispatch] ++ askSteps ⟨40000, 101, some tenantA⟩ 101 ++
    [.close 101 ⟨40000, 101, some tenantA⟩ true, .dispatch] ++
    [.connect 202 40000 true, .dispatch] ++ askSteps ⟨40000, 202, some tenantB⟩ 202

theorem caller_identity_sound_handedOnRun :
    let s := runAll (callerStep 9080) .start handedOnRun
    s.answers.map (fun entry => entry.2.isSome) = [true, true] ∧
      ∀ entry ∈ s.answers, ∀ caller ∈ entry.2,
        ∃ identity, entry.1.identity = some identity ∧ caller = identity.caller entry.1.tid :=
  ⟨by decide +kernel, caller_identity_sound 9080 handedOnRun (by decide +kernel)⟩

/-- A late report binds a port to the first tenant's thread, and a reused thread identifier gives
    the second tenant's identity to a connection of the first. -/
theorem caller_identity_confused : (runAll (callerStep 9080) .start
        (registerSteps 101 tenantA ++ registerSteps 202 tenantB ++
          [.connect 101 40000 true, .close 101 ⟨40000, 101, some tenantA⟩ true,
            .connect 202 40000 true, .dispatch] ++
          askSteps ⟨40000, 202, some tenantB⟩ 101)).answers =
      [(⟨40000, 202, some tenantB⟩, some ⟨"a", "a/api:v1", 101⟩)] ∧
    (runAll (callerStep 9080) .start
        (registerSteps 101 tenantA ++ [.connect 101 40000 true] ++ deregisterSteps 101 ++
          registerSteps 101 tenantB ++ [.dispatch] ++
          askSteps ⟨40000, 101, some tenantA⟩ 101)).answers =
      [(⟨40000, 101, some tenantA⟩, some ⟨"b", "b/web:v1", 101⟩)] := by
  decide +kernel

end WasmCloud
