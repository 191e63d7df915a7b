import WasmCloud.Lib.Tally
import WasmCloud.Supervisor.SocketCheck

/-!
# Outbound Connections

A guest may have so many outbound connections at a time. The runtime takes a slot when the
guest asks for the address, and gives it back if the other check refuses. A slot also comes
back at the end of its store, and when the kernel's report of the connection's end reaches the
supervisor. So a connection counts while it is open or being opened, and after its end until
the report of it has been handled or its store is gone.

The check is two steps here, and between them anything may happen. A store counts its own
slots in 32 bits; `Narrow` leaves out the connection that would turn that count over.
-/

namespace WasmCloud

open Function

namespace OpenConnections

/-- One is returned when its slot is given back without a report. -/
inductive Phase where
  | checking
  | opening
  | established
  | ended
  | returned
  deriving DecidableEq, Repr

/-- An outbound connection that the policy has let through. -/
structure Connection where
  store : Nat
  phase : Phase
  reported : Bool
  deriving DecidableEq, Repr

namespace Connection

/-- An index that no connection has yet. -/
def vacant : Connection := ⟨0, .returned, false⟩

def isOpen (c : Connection) : Bool :=
  match c.phase with
  | .checking | .opening | .established => true
  | .ended | .returned => false

/-- At its end, with the report of it not handled and its store still there. -/
def isUnreported (c : Connection) : Bool := c.phase = .ended && !c.reported

/-- Whether a slot is still taken for it, as far as anybody can know. -/
def takes (c : Connection) : Nat := if c.phase ≠ .returned ∧ c.reported = false then 1 else 0

/-- Whether a store has it in its own count. -/
def ownedBy (store : Nat) (c : Connection) : Nat :=
  if c.phase ≠ .returned ∧ c.store = store then 1 else 0

def moveTo (c : Connection) (phase : Phase) : Connection := ⟨c.store, phase, c.reported⟩

def report (c : Connection) : Connection := ⟨c.store, c.phase, true⟩

end Connection

/-- The shared counters, the count of each store, the connections so far, and the thread and port
    under which the supervisor finds the instance, if it does. -/
structure State where
  counters : PolicyCounters
  locals : Nat → Nat
  issued : Nat
  connections : Nat → Connection
  managed : Option (UInt32 × UInt16)

def State.initial : State :=
  ⟨⟨0, 0, 0, 0, 0⟩, fun _ => 0, 0, fun _ => Connection.vacant, none⟩

variable (s : State)

/-- The counters as the enforcer of a store sees them. -/
def State.enforcer (store : Nat) : PolicyCounters :=
  { s.counters with localOutboundConnectionsActive := s.locals store }

/-- The counters as the enforcer of a store leaves them. -/
def State.put (store : Nat) (k : PolicyCounters) : State :=
  { s with
    counters := k
    locals := update s.locals store (k.localOutboundConnectionsActive % UInt32.size) }

def State.setConnection (i : Nat) (c : Connection) : State :=
  { s with connections := update s.connections i c }

/-- How many connections are of a kind. -/
def State.count (kind : Connection → Bool) : Nat :=
  ((Finset.range s.issued).filter (fun i => kind (s.connections i))).card

/-- A report is about one of the connections, or about something else. -/
inductive Action where
  | connect (store : Nat) (ip : IpAddr)
  | settle (i : Nat) (allowed : Bool)
  | establish (i : Nat)
  | fail (i : Nat)
  | close (i : Nat)
  | manage (managed : Option (UInt32 × UInt16))
  | tcpConnectionClosed (tid : UInt32) (srcPort : UInt16) (about : Option Nat)
  | dropStore (store : Nat)
  | dropRunningInstance (store : Nat)

/-- The connections of a store end with it. -/
def State.endStore (store active : Nat) : State :=
  { s with
    counters := { s.counters with outboundConnectionsActive := active }
    locals := update s.locals store 0
    connections := fun i =>
      if (s.connections i).store = store then (s.connections i).moveTo .returned
      else s.connections i }

/-- The thread is the instance's and the port is not the one it listens on. -/
def State.releaseOutboundConnection (tid : UInt32) (srcPort : UInt16)
    (about : Option Nat) : State :=
  match s.managed with
  | none => s
  | some (ownTid, ownPort) =>
    if ownTid = tid ∧ srcPort ≠ ownPort then
      { s with
        counters := { s.counters with
          outboundConnectionsActive := s.counters.outboundConnectionsActive - 1 }
        connections :=
          match about with
          | none => s.connections
          | some i => update s.connections i (s.connections i).report }
    else s

def step (policy : NetworkPolicy) (s : State) : Action → State
  | .connect store ip =>
    match policy.checkOutboundTcpConnect (s.enforcer store) ip with
    | (k, .error _) => s.put store k
    | (k, .ok ()) =>
      { (s.put store k).setConnection s.issued ⟨store, .checking, false⟩ with
        issued := s.issued + 1 }
  | .settle i allowed =>
    -- One step: the value between the `fetch_sub` that goes below zero and the `store` that
    -- corrects it is left out.
    let c := s.connections i
    if c.phase ≠ .checking then s
    else if allowed then
      (s.put c.store (s.enforcer c.store).recordOutboundConnect).setConnection i
        (c.moveTo .opening)
    else
      (s.put c.store (s.enforcer c.store).recordOutboundDisconnect).setConnection i
        (c.moveTo .returned)
  | .establish i =>
    let c := s.connections i
    if c.phase = .opening then s.setConnection i (c.moveTo .established) else s
  | .fail i =>
    -- The future of the check is dropped, or the connection cannot be made.
    let c := s.connections i
    if c.phase = .checking ∨ c.phase = .opening then s.setConnection i (c.moveTo .ended)
    else s
  | .close i =>
    let c := s.connections i
    if c.phase = .established then s.setConnection i (c.moveTo .ended) else s
  | .manage managed => { s with managed := managed }
  | .tcpConnectionClosed tid srcPort about => s.releaseOutboundConnection tid srcPort about
  | .dropStore store =>
    s.endStore store (s.counters.outboundConnectionsActive - s.locals store)
  | .dropRunningInstance store => s.endStore store 0

/-- What the count of a store would be after a connection. -/
def Action.demand : Action → Nat
  | .connect store _ => s.locals store + 1
  | _ => 0

/-- A connection is not asked for when it would turn over the count of its store. -/
def Narrow (a : Action) : Prop := a.demand s < UInt32.size

instance (s : State) (a : Action) : Decidable (Narrow s a) :=
  inferInstanceAs (Decidable (a.demand s < UInt32.size))

theorem checkOutboundTcpConnect_cases (policy : NetworkPolicy) (k : PolicyCounters) (ip : IpAddr) :
    (∃ denied, policy.checkOutboundTcpConnect k ip =
      ({ k with connectionDeniedTotal := k.connectionDeniedTotal + 1 }, .error denied)) ∨
    policy.checkOutboundTcpConnect k ip = ({ k with
        outboundConnectionsActive := k.outboundConnectionsActive + 1
        localOutboundConnectionsActive := k.localOutboundConnectionsActive + 1 }, .ok ()) := by
  grind [NetworkPolicy.checkOutboundTcpConnect]

variable {store i : Nat} {k : PolicyCounters} {s} {policy : NetworkPolicy} {ip : IpAddr}

theorem max_le_of_connectionLimitExceeded {current limit : Nat}
    (h : (policy.checkOutboundTcpConnect k ip).2 =
      .error (.connectionLimitExceeded current limit)) :
    policy.maxOutboundConnections ≤ k.outboundConnectionsActive := by
  grind [NetworkPolicy.checkOutboundTcpConnect]

theorem step_connect_ok (h : policy.checkOutboundTcpConnect (s.enforcer store) ip = (k, .ok ())) :
    step policy s (.connect store ip) =
      { (s.put store k).setConnection s.issued ⟨store, .checking, false⟩ with
        issued := s.issued + 1 } := by
  simp [step, h]

theorem step_connect_error {denied : PolicyDenied}
    (h : policy.checkOutboundTcpConnect (s.enforcer store) ip = (k, .error denied)) :
    step policy s (.connect store ip) = s.put store k := by
  simp [step, h]

/-- There is a connection for every slot taken, and a store counts all of its own. -/
structure Accounted (s : State) : Prop where
  active : s.counters.outboundConnectionsActive ≤
    ∑ i ∈ Finset.range s.issued, (s.connections i).takes
  owned : ∀ store, ∑ i ∈ Finset.range s.issued, (s.connections i).ownedBy store ≤ s.locals store
  narrow : ∀ store, s.locals store < UInt32.size
  vacant : ∀ i, s.issued ≤ i → (s.connections i).phase = .returned

theorem accounted_initial : Accounted State.initial where
  active := Nat.le_refl 0
  owned := fun _ => Nat.le_refl 0
  narrow := fun _ => Nat.zero_lt_succ _
  vacant := fun _ _ => rfl

theorem Accounted.lt_issued (h : Accounted s) (hphase : (s.connections i).phase ≠ .returned) :
    i ∈ Finset.range s.issued := by
  rw [Finset.mem_range]
  by_contra hle
  exact hphase (h.vacant i (Nat.le_of_not_lt hle))

theorem Accounted.move (h : Accounted s) {phase : Phase}
    (hold : (s.connections i).phase ≠ .returned) (hnew : phase ≠ .returned) :
    Accounted (s.setConnection i ((s.connections i).moveTo phase)) := by
  have hi := h.lt_issued hold
  have htakes : ((s.connections i).moveTo phase).takes = (s.connections i).takes := by
    simp [Connection.takes, Connection.moveTo, hold, hnew]
  have howned : ∀ store, ((s.connections i).moveTo phase).ownedBy store =
      (s.connections i).ownedBy store := by
    intro store
    simp [Connection.ownedBy, Connection.moveTo, hold, hnew]
  have hsum (part) := Tally.sum_update s.connections ((s.connections i).moveTo phase) part hi
  unfold State.setConnection
  constructor
  · have htotal := hsum Connection.takes
    have hactive := h.active
    grind
  · intro store
    have htotal := hsum (Connection.ownedBy store)
    have hstore := h.owned store
    grind
  · exact h.narrow
  · grind [h.vacant]

theorem Accounted.put (h : Accounted s)
    (hactive : k.outboundConnectionsActive = s.counters.outboundConnectionsActive)
    (hlocal : k.localOutboundConnectionsActive = s.locals store) : Accounted (s.put store k) := by
  have hlocals : update s.locals store
      (k.localOutboundConnectionsActive % UInt32.size) = s.locals := by
    rw [hlocal, Nat.mod_eq_of_lt (h.narrow store), update_eq_self]
  rw [State.put, hlocals]
  exact ⟨hactive.trans_le h.active, h.owned, h.narrow, h.vacant⟩

theorem Accounted.reserve (h : Accounted s)
    (hactive : k.outboundConnectionsActive = s.counters.outboundConnectionsActive + 1)
    (hlocal : k.localOutboundConnectionsActive = s.locals store + 1)
    (hnarrow : s.locals store + 1 < UInt32.size) :
    Accounted { (s.put store k).setConnection s.issued ⟨store, .checking, false⟩ with
      issued := s.issued + 1 } := by
  have hmod : k.localOutboundConnectionsActive % UInt32.size = s.locals store + 1 := by
    rw [hlocal, Nat.mod_eq_of_lt hnarrow]
  have hsum (part) := Tally.sum_range_update (⟨store, .checking, false⟩ : Connection) part
    s.connections s.issued
  rw [State.put, State.setConnection, hmod]
  constructor
  · dsimp only
    rw [hsum, hactive]
    exact Nat.succ_le_succ h.active
  · intro other
    have htotal := hsum (Connection.ownedBy other)
    have howned := h.owned other
    grind [Connection.ownedBy]
  · have hstays := h.narrow
    grind
  · have hstays := h.vacant
    grind

theorem Connection.takes_le_one (c : Connection) : c.takes ≤ 1 := by
  unfold takes
  split <;> decide

theorem Connection.takes_le_ownedBy (c : Connection) : c.takes ≤ c.ownedBy c.store := by
  simp only [Connection.takes, Connection.ownedBy]
  split_ifs <;> simp_all

theorem Accounted.giveBack (h : Accounted s) (hphase : (s.connections i).phase = .checking) :
    Accounted ((s.put (s.connections i).store
      (s.enforcer (s.connections i).store).recordOutboundDisconnect).setConnection i
        ((s.connections i).moveTo .returned)) := by
  generalize hstore : (s.connections i).store = store
  have hold : (s.connections i).phase ≠ .returned := by
    rw [hphase]
    exact Phase.noConfusion
  have hi := h.lt_issued hold
  have hone : (s.connections i).ownedBy store = 1 := by
    simp [Connection.ownedBy, hold, hstore]
  have hgone : ∀ other, ((s.connections i).moveTo .returned).ownedBy other = 0 := by
    intro other
    simp [Connection.ownedBy, Connection.moveTo]
  have hfree : ((s.connections i).moveTo .returned).takes = 0 := by
    simp [Connection.takes, Connection.moveTo]
  have htakes := (s.connections i).takes_le_one
  -- The store has at least this connection in its count.
  have hlocal : 1 ≤ s.locals store :=
    hone.symm.trans_le ((Tally.le_sum hi).trans (h.owned store))
  have hcounters : (s.enforcer store).recordOutboundDisconnect = { s.enforcer store with
        localOutboundConnectionsActive := s.locals store - 1
        outboundConnectionsActive := s.counters.outboundConnectionsActive - 1 } :=
    if_neg (Nat.ne_of_gt hlocal)
  have hmod : (s.locals store - 1) % UInt32.size = s.locals store - 1 :=
    Nat.mod_eq_of_lt (Nat.lt_of_le_of_lt (Nat.sub_le _ _) (h.narrow store))
  have hsum (part) := Tally.sum_update s.connections ((s.connections i).moveTo .returned) part hi
  rw [hcounters, State.put, State.setConnection, hmod]
  constructor
  · have htotal := hsum Connection.takes
    have hactive := h.active
    grind
  · intro other
    have htotal := hsum (Connection.ownedBy other)
    have howned := h.owned other
    grind
  · have hstays := h.narrow
    grind
  · have hstays := h.vacant
    grind [Connection.moveTo]

theorem sum_takes_report (s : State) (i : Nat) :
    ∑ j ∈ Finset.range s.issued, (s.connections j).takes ≤ ∑ j ∈ Finset.range s.issued,
        (update s.connections i (s.connections i).report j).takes + 1 := by
  by_cases hi : i ∈ Finset.range s.issued
  · have hsum := Tally.sum_update s.connections (s.connections i).report Connection.takes hi
    have htakes := (s.connections i).takes_le_one
    omega
  · have hsame : ∑ j ∈ Finset.range s.issued,
        (update s.connections i (s.connections i).report j).takes =
          ∑ j ∈ Finset.range s.issued, (s.connections j).takes := by
      refine Finset.sum_congr rfl fun j hj => ?_
      grind
    omega

theorem Accounted.release (h : Accounted s) (tid : UInt32) (srcPort : UInt16) (about : Option Nat) :
    Accounted (s.releaseOutboundConnection tid srcPort about) := by
  have hactive := h.active
  cases hmanaged : s.managed with
  | none =>
    simp only [State.releaseOutboundConnection, hmanaged]
    exact h
  | some own =>
    obtain ⟨ownTid, ownPort⟩ := own
    simp only [State.releaseOutboundConnection, hmanaged]
    split_ifs with hours
    · cases about with
      | none => exact ⟨(Nat.sub_le _ _).trans hactive, h.owned, h.narrow, h.vacant⟩
      | some i =>
        have htakes := sum_takes_report s i
        have howned : ∀ store j, (update s.connections i (s.connections i).report j).ownedBy store =
              (s.connections j).ownedBy store := by
          grind [Connection.ownedBy, Connection.report]
        refine ⟨by dsimp only; omega, fun store => ?_, h.narrow, ?_⟩
        · simp only [howned]
          exact h.owned store
        · grind [h.vacant, Connection.report]
    · exact h

/-- The end of a store gives back its count, which covers its connections. -/
theorem Accounted.endStore (h : Accounted s) (store : Nat) {active : Nat}
    (hactive : active ≤ s.counters.outboundConnectionsActive - s.locals store) :
    Accounted (s.endStore store active) := by
  have hsplit : ∑ i ∈ Finset.range s.issued, (s.connections i).takes ≤
      ∑ i ∈ Finset.range s.issued, ((s.endStore store active).connections i).takes +
        ∑ i ∈ Finset.range s.issued, (s.connections i).ownedBy store := by
    rw [← Finset.sum_add_distrib]
    refine Finset.sum_le_sum fun i _ => ?_
    have hle := (s.connections i).takes_le_ownedBy
    grind [State.endStore]
  have howned := h.owned store
  have hall := h.active
  constructor
  · change active ≤ _
    refine le_trans ?_ (Nat.sub_le_of_le_add hsplit)
    omega
  · intro other
    dsimp only [State.endStore]
    by_cases hother : other = store
    · rw [hother, update_self, Nat.le_zero, Finset.sum_eq_zero_iff]
      grind [Connection.ownedBy, Connection.moveTo]
    · rw [update_of_ne hother]
      refine le_trans (Finset.sum_le_sum fun i _ => ?_) (h.owned other)
      grind [Connection.ownedBy, Connection.moveTo]
  · intro other
    have hstays := h.narrow other
    dsimp only [State.endStore]
    grind
  · have hstays := h.vacant
    grind [State.endStore, Connection.moveTo]

theorem accounted_step (policy : NetworkPolicy) (s : State) (a : Action) (hnarrow : Narrow s a)
    (h : Accounted s) : Accounted (step policy s a) := by
  cases a with
  | connect store ip =>
    rcases checkOutboundTcpConnect_cases policy (s.enforcer store) ip with ⟨denied, heq⟩ | heq
    · rw [step_connect_error heq]
      exact h.put rfl rfl
    · rw [step_connect_ok heq]
      exact h.reserve rfl rfl hnarrow
  | settle i allowed =>
    simp only [step]
    split_ifs with hphase hallowed
    · exact h
    · have hput : Accounted (s.put (s.connections i).store
          (s.enforcer (s.connections i).store).recordOutboundConnect) := h.put rfl rfl
      exact hput.move (i := i) (by grind [State.put]) Phase.noConfusion
    · exact h.giveBack (not_not.mp hphase)
  | establish i | fail i | close i =>
    grind [step, h.move]
  | manage managed => exact ⟨h.active, h.owned, h.narrow, h.vacant⟩
  | tcpConnectionClosed tid srcPort about => exact h.release tid srcPort about
  | dropStore store => exact h.endStore store le_rfl
  | dropRunningInstance store => exact h.endStore store (Nat.zero_le _)

theorem sum_takes_le_count (s : State) : ∑ i ∈ Finset.range s.issued, (s.connections i).takes ≤
      s.count (fun c => c.isOpen || c.isUnreported) := by
  rw [State.count, Finset.card_filter]
  refine Finset.sum_le_sum fun i _ => ?_
  grind [Connection.takes, Connection.isOpen, Connection.isUnreported]

/-- In every state of every run, a connection is refused for the limit only if
    as many connections as the limit says are open, being opened, or at their end
    without a report of it. -/
theorem limit_counts_unreported (policy : NetworkPolicy) (as : List Action)
    (hnarrow : Along (step policy) Narrow State.initial as) (store : Nat) (ip : IpAddr)
    (current limit : Nat) (hrefused : (policy.checkOutboundTcpConnect
      ((runAll (step policy) State.initial as).enforcer store) ip).2 =
        .error (.connectionLimitExceeded current limit)) :
    policy.maxOutboundConnections ≤
      (runAll (step policy) State.initial as).count (fun c => c.isOpen || c.isUnreported) := by
  have haccounted := invariant_along (accounted_step policy) hnarrow accounted_initial
  have hfull := max_le_of_connectionLimitExceeded hrefused
  exact hfull.trans (haccounted.active.trans (sum_takes_le_count _))

def oneConnection : NetworkPolicy := ⟨false, true, false, [], [], [], 1⟩

/-- A guest connects while its connection is open. -/
theorem limit_counts_open : 1 ≤ (runAll (step oneConnection) State.initial
      [.connect 0 (.v4 1), .settle 0 true, .establish 0]).count
        (fun c => c.isOpen || c.isUnreported) :=
  limit_counts_unreported oneConnection [.connect 0 (.v4 1), .settle 0 true, .establish 0]
    (by decide) 0 (.v4 1) 1 1 (by decide)

/-- A guest connects when its only connection is closed and that was not reported. -/
theorem ended_connection_counts :
    let s := runAll (step oneConnection) State.initial
      [.connect 0 (.v4 1), .settle 0 true, .establish 0, .close 0]
    (oneConnection.checkOutboundTcpConnect (s.enforcer 0) (.v4 1)).2 =
        .error (.connectionLimitExceeded 1 1) ∧
      s.count Connection.isOpen < oneConnection.maxOutboundConnections := by
  decide

end OpenConnections

end WasmCloud
