import WasmCloud.Lib.Tally
import WasmCloud.Supervisor.SocketCheck

/-!
# Reservations at Atomic Steps

The stores of an instance share its counters. A connection is reserved in the shared counter
by a compare-and-swap loop and then mirrored in a counter of the store, and given back in the
other order. The end of a store subtracts what the store's counter holds in a second loop, and
bytes that are sent are added in a loop of the same kind.

Between any two accesses everybody else may go on. `Point.transit` is by how much an operation
makes the shared counter differ from the stores' counters. The corrections of the source for a
counter that would go below zero are in the model, and no operation gets there. Counters wrap
as machine integers do, and a teardown waits for the operations of its store.
-/

namespace WasmCloud

open Function

namespace Reservations

/-- `max_outbound_connections` and `max_egress_bytes` of the policy. -/
structure Limits where
  maxOutboundConnections : UInt32
  maxEgressBytes : UInt64

/-- The shared `PolicyCounters`. Those that only count are not bounded. -/
structure Counters where
  outboundConnectionsActive : Nat
  egressBytes : Nat
  outboundConnectionsTotal : Nat
  connectionDeniedTotal : Nat
  egressDeniedTotal : Nat
  deriving DecidableEq, Repr

/-- Where an operation is, by the access to a counter that comes next. -/
inductive Point where
  -- `check_outbound_tcp_connect`
  | countConnectionDenied
  | loadActive
  | reserve (current : Nat)
  | mirror
  -- the rest of the composed check
  | awaiting
  | countConnect
  | releaseLocal
  | clearLocal
  | releaseActive
  | clearActive
  -- `check_and_record_egress`
  | addEgress (bytes : Nat)
  | loadEgress (bytes : Nat)
  | spend (bytes current : Nat)
  | countEgressDenied
  -- `release_tracked_outbound_connections`
  | loadOwned (owned : Nat)
  | releaseOwned (owned current : Nat)
  | finished (result : Bool)
  deriving DecidableEq, Repr

/-- `fetch_sub(1)` of 32 bits. -/
def fetchSub (n : Nat) : Nat := (n + UInt32.size - 1) % UInt32.size

/-- One access: the shared counters, the store's counter, and where the operation is then. -/
def advance (limits : Limits) (k : Counters) (tracked : Nat) : Point → Counters × Nat × Point
  | .countConnectionDenied =>
    ({ k with connectionDeniedTotal := k.connectionDeniedTotal + 1 }, tracked, .finished false)
  | .loadActive =>
    if k.outboundConnectionsActive ≥ limits.maxOutboundConnections.toNat then
      (k, tracked, .countConnectionDenied)
    else (k, tracked, .reserve k.outboundConnectionsActive)
  | .reserve current =>
    if k.outboundConnectionsActive = current then
      ({ k with outboundConnectionsActive := (current + 1) % UInt32.size }, tracked, .mirror)
    else (k, tracked, .loadActive)
  | .mirror => (k, (tracked + 1) % UInt32.size, .awaiting)
  | .awaiting => (k, tracked, .awaiting)
  | .countConnect =>
    ({ k with outboundConnectionsTotal := k.outboundConnectionsTotal + 1 }, tracked, .finished true)
  | .releaseLocal =>
    (k, fetchSub tracked, if tracked = 0 then .clearLocal else .releaseActive)
  | .clearLocal => (k, 0, .finished false)
  | .releaseActive =>
    ({ k with outboundConnectionsActive := fetchSub k.outboundConnectionsActive }, tracked,
      if k.outboundConnectionsActive = 0 then .clearActive else .finished false)
  | .clearActive => ({ k with outboundConnectionsActive := 0 }, tracked, .finished false)
  | .addEgress bytes =>
    ({ k with egressBytes := (k.egressBytes + bytes) % UInt64.size }, tracked, .finished true)
  | .loadEgress bytes =>
    if (k.egressBytes + bytes) % UInt64.size > limits.maxEgressBytes.toNat then
      (k, tracked, .countEgressDenied)
    else (k, tracked, .spend bytes k.egressBytes)
  | .spend bytes current =>
    if k.egressBytes = current then
      ({ k with egressBytes := (current + bytes) % UInt64.size }, tracked, .finished true)
    else (k, tracked, .loadEgress bytes)
  | .countEgressDenied =>
    ({ k with egressDeniedTotal := k.egressDeniedTotal + 1 }, tracked, .finished false)
  | .loadOwned owned => (k, tracked, .releaseOwned owned k.outboundConnectionsActive)
  | .releaseOwned owned current =>
    if k.outboundConnectionsActive = current then
      ({ k with outboundConnectionsActive := current - owned }, tracked, .finished true)
    else (k, tracked, .releaseOwned owned k.outboundConnectionsActive)
  | .finished result => (k, tracked, .finished result)

structure Store where
  tracked : Nat
  live : Bool
  deriving DecidableEq, Repr

structure Op where
  store : Nat
  point : Point
  deriving DecidableEq, Repr

/-- Stores and operations are known by how many were made before them. -/
structure State where
  counters : Counters
  opened : Nat
  stores : Nat → Store
  begun : Nat
  ops : Nat → Op

def State.initial : State :=
  ⟨⟨0, 0, 0, 0, 0⟩, 0, fun _ => ⟨0, false⟩, 0, fun _ => ⟨0, .finished true⟩⟩

/-- Whether the rules about addresses admit a connection does not depend on any counter. -/
inductive Action where
  | openStore
  | connect (store : Nat) (admitted : Bool)
  | egress (store : Nat) (bytes : UInt64)
  | teardown (store : Nat)
  | access (i : Nat)
  | answer (i : Nat) (allowed : Bool)
  | abandon (i : Nat)

def State.begin (s : State) (store : Nat) (point : Point) : State :=
  { s with begun := s.begun + 1, ops := update s.ops s.begun ⟨store, point⟩ }

def State.put (s : State) (i : Nat) (k : Counters) (tracked : Nat) (point : Point) : State :=
  { s with
    counters := k
    stores := update s.stores (s.ops i).store
      { s.stores (s.ops i).store with tracked := tracked }
    ops := update s.ops i { s.ops i with point := point } }

def Point.isFinished : Point → Bool
  | .finished _ => true
  | _ => false

/-- No operation of a store is in progress. -/
def State.quiet (s : State) (store : Nat) : Bool :=
  (List.range s.begun).all (fun i => (s.ops i).store ≠ store || (s.ops i).point.isFinished)

def step (limits : Limits) (s : State) : Action → State
  | .openStore =>
    { s with opened := s.opened + 1, stores := update s.stores s.opened ⟨0, true⟩ }
  | .connect store admitted =>
    if (s.stores store).live then
      s.begin store (if admitted then .loadActive else .countConnectionDenied)
    else s
  | .egress store bytes =>
    if (s.stores store).live then
      s.begin store (if limits.maxEgressBytes = 0 then .addEgress bytes.toNat
        else .loadEgress bytes.toNat)
    else s
  | .teardown store =>
    -- The swap is the first access of a teardown.
    if (s.stores store).live && s.quiet store then
      { s with stores := update s.stores store ⟨0, false⟩ }.begin store
        (if (s.stores store).tracked = 0 then .finished true
          else .loadOwned (s.stores store).tracked)
    else s
  | .access i =>
    let (k, tracked, point) :=
      advance limits s.counters (s.stores (s.ops i).store).tracked (s.ops i).point
    s.put i k tracked point
  | .answer i allowed =>
    if (s.ops i).point = .awaiting then
      s.put i s.counters (s.stores (s.ops i).store).tracked
        (if allowed then .countConnect else .releaseLocal)
    else s
  | .abandon i =>
    if (s.ops i).point = .awaiting then
      s.put i s.counters (s.stores (s.ops i).store).tracked (.finished false)
    else s

/-- The bytes that are asked for in a run. -/
def Action.bytes : Action → Nat
  | .egress _ bytes => bytes.toNat
  | _ => 0

def requestedBytes : List Action → Nat
  | [] => 0
  | a :: as => a.bytes + requestedBytes as

namespace Point

/-- By how much the shared counter is ahead of the store's for an operation. -/
def transit : Point → Nat
  | .mirror | .releaseActive => 1
  | .loadOwned owned | .releaseOwned owned _ => owned
  | _ => 0

/-- How much of the store's counter an operation may still take back. -/
def holds : Point → Nat
  | .awaiting | .releaseLocal => 1
  | _ => 0

/-- The bytes an operation may still add. -/
def pending : Point → Nat
  | .addEgress bytes | .loadEgress bytes | .spend bytes _ => bytes
  | _ => 0

/-- All that an operation of a store that is gone can be at. -/
def isTeardown : Point → Bool
  | .loadOwned _ | .releaseOwned _ _ | .finished _ => true
  | _ => false

/-- What an operation knows from what it has read. -/
def Ok (limits : Limits) : Point → Prop
  | .reserve current => current < limits.maxOutboundConnections.toNat
  | .clearLocal | .clearActive => False
  | .addEgress _ => limits.maxEgressBytes = 0
  | .spend bytes current => (current + bytes) % UInt64.size ≤ limits.maxEgressBytes.toNat
  | _ => True

end Point

/-- What an operation may rely on when it makes an access. -/
structure Ready (limits : Limits) (k : Counters) (tracked : Nat) (p : Point) : Prop where
  limited : k.outboundConnectionsActive ≤ limits.maxOutboundConnections.toNat
  below : tracked + p.transit ≤ k.outboundConnectionsActive
  held : p.holds ≤ tracked
  ok : p.Ok limits
  spent : k.egressBytes + p.pending < UInt64.size
  egress : limits.maxEgressBytes ≠ 0 → k.egressBytes ≤ limits.maxEgressBytes.toNat

/-- What an access may do, as far as the others can see. -/
structure Advanced (limits : Limits) (k : Counters) (tracked : Nat) (p : Point) (k' : Counters)
    (tracked' : Nat) (p' : Point) : Prop where
  active : k'.outboundConnectionsActive + tracked + p.transit =
    k.outboundConnectionsActive + tracked' + p'.transit
  limited : k'.outboundConnectionsActive ≤ limits.maxOutboundConnections.toNat
  held : tracked + p'.holds ≤ tracked' + p.holds
  ok : p'.Ok limits
  spent : k'.egressBytes + p'.pending ≤ k.egressBytes + p.pending
  egress : limits.maxEgressBytes ≠ 0 → k'.egressBytes ≤ limits.maxEgressBytes.toNat
  teardown : p.isTeardown → tracked' = tracked ∧ p'.isTeardown

variable {limits : Limits} {k k' : Counters} {tracked : Nat} {p p' : Point}

theorem Ready.reads (h : Ready limits k tracked p)
    (hactive : k'.outboundConnectionsActive = k.outboundConnectionsActive)
    (hegress : k'.egressBytes = k.egressBytes) (htransit : p'.transit = p.transit)
    (hholds : p'.holds ≤ p.holds) (hok : p'.Ok limits) (hpending : p'.pending ≤ p.pending)
    (hteardown : p.isTeardown → p'.isTeardown) :
    Advanced limits k tracked p k' tracked p' where
  active := by rw [hactive, htransit]
  limited := hactive.trans_le h.limited
  held := Nat.add_le_add_left hholds tracked
  ok := hok
  spent := by
    rw [hegress]
    exact Nat.add_le_add_left hpending _
  egress := fun hlimit => hegress.trans_le (h.egress hlimit)
  teardown := fun hp => ⟨rfl, hteardown hp⟩

variable {tracked' : Nat}

theorem Ready.counts (h : Ready limits k tracked p) {active : Nat}
    (hactive : active + tracked + p.transit = k.outboundConnectionsActive + tracked' + p'.transit)
    (hlimited : active ≤ limits.maxOutboundConnections.toNat)
    (hheld : tracked + p'.holds ≤ tracked' + p.holds) (hok : p'.Ok limits)
    (hpending : p'.pending ≤ p.pending)
    (hteardown : p.isTeardown → tracked' = tracked ∧ p'.isTeardown) :
    Advanced limits k tracked p { k with outboundConnectionsActive := active } tracked' p' :=
  ⟨hactive, hlimited, hheld, hok, Nat.add_le_add_left hpending _, h.egress, hteardown⟩

theorem Ready.spends (h : Ready limits k tracked p) {bytes : Nat} (hbytes : p.pending = bytes)
    (htransit : p.transit = 0) (hteardown : p.isTeardown = false) {result : Bool}
    (hlimit : limits.maxEgressBytes ≠ 0 →
      (k.egressBytes + bytes) % UInt64.size ≤ limits.maxEgressBytes.toNat) :
    Advanced limits k tracked p
      { k with egressBytes := (k.egressBytes + bytes) % UInt64.size } tracked
        (.finished result) where
  active := by rw [htransit]; rfl
  limited := h.limited
  held := Nat.add_le_add_left (Nat.zero_le _) tracked
  ok := trivial
  spent := by
    have hspent := h.spent
    rw [hbytes] at hspent ⊢
    dsimp only
    rw [Nat.mod_eq_of_lt hspent]
    exact le_rfl
  egress := hlimit
  teardown := fun hp => absurd hp (by rw [hteardown]; exact Bool.false_ne_true)

theorem fetchSub_of_pos {n : Nat} (hpos : 1 ≤ n) (hn : n < UInt32.size) : fetchSub n = n - 1 := by
  have hshift : n + UInt32.size - 1 = n - 1 + UInt32.size := by omega
  rw [fetchSub, hshift, Nat.add_mod_right]
  exact Nat.mod_eq_of_lt (Nat.lt_of_le_of_lt (Nat.sub_le n 1) hn)

theorem advanced_advance (h : Ready limits k tracked p) :
    Advanced limits k tracked p (advance limits k tracked p).1 (advance limits k tracked p).2.1
      (advance limits k tracked p).2.2 := by
  have hmax : limits.maxOutboundConnections.toNat < UInt32.size :=
    limits.maxOutboundConnections.toNat_lt
  have hlimited := h.limited
  have hbelow := h.below
  cases p with
  | countConnectionDenied | awaiting | countConnect | countEgressDenied =>
    exact h.reads rfl rfl rfl le_rfl trivial le_rfl nofun
  | loadOwned owned | finished result =>
    exact h.reads rfl rfl rfl le_rfl trivial le_rfl (fun _ => rfl)
  | clearLocal | clearActive => exact h.ok.elim
  | loadActive =>
    rw [advance]
    split_ifs with hfull
    · exact h.reads rfl rfl rfl le_rfl trivial le_rfl nofun
    · exact h.reads rfl rfl rfl le_rfl (Nat.lt_of_not_le hfull) le_rfl nofun
  | reserve current =>
    have hcurrent : current < limits.maxOutboundConnections.toNat := h.ok
    rw [advance]
    split_ifs with hsame
    · -- Nobody has been faster, and the value read leaves room for one.
      rw [Nat.mod_eq_of_lt (Nat.lt_of_le_of_lt hcurrent hmax)]
      exact h.counts (by grind [Point.transit]) hcurrent le_rfl trivial le_rfl nofun
    · exact h.reads rfl rfl rfl le_rfl trivial le_rfl nofun
  | mirror =>
    simp only [Point.transit] at hbelow
    have hwrap : (tracked + 1) % UInt32.size = tracked + 1 := Nat.mod_eq_of_lt (by omega)
    rw [advance, hwrap]
    exact h.counts (by grind [Point.transit]) hlimited (by grind [Point.holds]) trivial le_rfl nofun
  | releaseLocal =>
    -- The operation is in the count of its store, so that is not zero.
    have hheld : 1 ≤ tracked := h.held
    simp only [Point.transit] at hbelow
    rw [advance, if_neg (Nat.ne_of_gt hheld), fetchSub_of_pos hheld (by omega)]
    exact h.counts (by grind [Point.transit]) hlimited (by grind [Point.holds]) trivial le_rfl nofun
  | releaseActive =>
    simp only [Point.transit] at hbelow
    have hpos : 1 ≤ k.outboundConnectionsActive := by omega
    rw [advance, if_neg (Nat.ne_of_gt hpos), fetchSub_of_pos hpos (by omega)]
    exact h.counts (by grind [Point.transit]) (by omega) le_rfl trivial le_rfl nofun
  | addEgress bytes =>
    have hnone : limits.maxEgressBytes = 0 := h.ok
    exact h.spends rfl rfl rfl (fun hlimit => absurd hnone hlimit)
  | loadEgress bytes =>
    rw [advance]
    split_ifs with hover
    · exact h.reads rfl rfl rfl le_rfl trivial (Nat.zero_le _) nofun
    · exact h.reads rfl rfl rfl le_rfl (Nat.le_of_not_lt hover) le_rfl nofun
  | spend bytes current =>
    have hfits : (current + bytes) % UInt64.size ≤ limits.maxEgressBytes.toNat := h.ok
    rw [advance]
    split_ifs with hsame
    · subst hsame
      exact h.spends rfl rfl rfl (fun _ => hfits)
    · exact h.reads rfl rfl rfl le_rfl trivial le_rfl nofun
  | releaseOwned owned current =>
    rw [advance]
    split_ifs with hsame
    · simp only [Point.transit] at hbelow
      exact h.counts (by grind [Point.transit]) (by omega) le_rfl trivial le_rfl
        (fun _ => ⟨rfl, rfl⟩)
    · exact h.reads rfl rfl rfl le_rfl trivial le_rfl (fun _ => rfl)

/-- What an operation may still take back from the counter of a store. -/
def Op.holdsOf (store : Nat) (op : Op) : Nat := if op.store = store then op.point.holds else 0

/-- What holds of every state, if no more than these bytes were asked for. -/
structure Inv (limits : Limits) (requested : Nat) (s : State) : Prop where
  active : s.counters.outboundConnectionsActive =
    ∑ j ∈ Finset.range s.opened, (s.stores j).tracked +
      ∑ i ∈ Finset.range s.begun, (s.ops i).point.transit
  limited : s.counters.outboundConnectionsActive ≤ limits.maxOutboundConnections.toNat
  held : ∀ store, ∑ i ∈ Finset.range s.begun, (s.ops i).holdsOf store ≤ (s.stores store).tracked
  ok : ∀ i, (s.ops i).point.Ok limits
  spent : s.counters.egressBytes + ∑ i ∈ Finset.range s.begun, (s.ops i).point.pending ≤ requested
  egress : limits.maxEgressBytes ≠ 0 →
    s.counters.egressBytes ≤ limits.maxEgressBytes.toNat
  placed : ∀ i, i < s.begun → (s.ops i).store < s.opened
  future : ∀ i, s.begun ≤ i → (s.ops i).point.isFinished
  unopened : ∀ store, s.opened ≤ store → (s.stores store).live = false
  gone : ∀ store, (s.stores store).live = false → (s.stores store).tracked = 0 ∧
    ∀ i, (s.ops i).store = store → (s.ops i).point.isTeardown

theorem inv_initial (limits : Limits) : Inv limits 0 State.initial where
  active := rfl
  limited := Nat.zero_le _
  held := fun _ => Nat.le_refl 0
  ok := fun _ => trivial
  spent := Nat.le_refl 0
  egress := fun _ => Nat.zero_le _
  placed := fun i hi => absurd hi (Nat.not_lt_zero i)
  future := fun _ _ => rfl
  unopened := fun _ _ => rfl
  gone := fun _ _ => ⟨rfl, fun _ _ => rfl⟩

variable {requested : Nat} {s : State} {store i : Nat}

theorem quiet_iff : s.quiet store = true ↔
      ∀ i, i < s.begun → (s.ops i).store = store → (s.ops i).point.isFinished = true := by
  simp [State.quiet, or_iff_not_imp_left]

theorem Point.of_isFinished {p : Point} (h : p.isFinished = true) :
    p.isTeardown = true ∧ p.holds = 0 ∧ p.transit = 0 := by
  cases p with
  | finished result => exact ⟨rfl, rfl, rfl⟩
  | _ => nomatch h

section Keeps

variable (h : Inv limits requested s)
include h

theorem Inv.ready (hrequested : requested < UInt64.size) (hi : i < s.begun) :
    Ready limits s.counters (s.stores (s.ops i).store).tracked (s.ops i).point where
  limited := h.limited
  below := by
    have hstore : (s.stores (s.ops i).store).tracked ≤
        ∑ j ∈ Finset.range s.opened, (s.stores j).tracked :=
      @Tally.le_sum _ _ (fun j => (s.stores j).tracked) _ (Finset.mem_range.mpr (h.placed i hi))
    have htransit : (s.ops i).point.transit ≤ ∑ j ∈ Finset.range s.begun, (s.ops j).point.transit :=
      @Tally.le_sum _ _ (fun j => (s.ops j).point.transit) _ (Finset.mem_range.mpr hi)
    have hactive := h.active
    omega
  held := by
    have hsum : (s.ops i).holdsOf (s.ops i).store ≤
        ∑ j ∈ Finset.range s.begun, (s.ops j).holdsOf (s.ops i).store :=
      @Tally.le_sum _ _ (fun j => (s.ops j).holdsOf (s.ops i).store) _ (Finset.mem_range.mpr hi)
    rw [Op.holdsOf, if_pos rfl] at hsum
    exact hsum.trans (h.held _)
  ok := h.ok i
  spent := by
    have hpending : (s.ops i).point.pending ≤ ∑ j ∈ Finset.range s.begun, (s.ops j).point.pending :=
      @Tally.le_sum _ _ (fun j => (s.ops j).point.pending) _ (Finset.mem_range.mpr hi)
    have hspent := h.spent
    omega
  egress := h.egress

theorem Inv.put (hi : i < s.begun)
    (hadvanced : Advanced limits s.counters (s.stores (s.ops i).store).tracked (s.ops i).point k'
      tracked' p') : Inv limits requested (s.put i k' tracked' p') := by
  have hplaced := h.placed i hi
  generalize hstore : (s.ops i).store = store at hadvanced hplaced
  have hop : ({ s.ops i with point := p' } : Op) = ⟨store, p'⟩ := by rw [← hstore]
  have hput : s.put i k' tracked' p' = { s with
        counters := k'
        stores := update s.stores store { s.stores store with tracked := tracked' }
        ops := update s.ops i ⟨store, p'⟩ } := by
    rw [State.put, hop, hstore]
  rw [hput]
  have hcount := Tally.sum_update s.stores { s.stores store with tracked := tracked' }
    Store.tracked (Finset.mem_range.mpr hplaced)
  have hsum (part) := Tally.sum_update s.ops ⟨store, p'⟩ part (Finset.mem_range.mpr hi)
  constructor
  · have htransit := hsum (fun op => op.point.transit)
    have hactive := h.active
    have hmoved := hadvanced.active
    dsimp only at hcount htransit ⊢
    omega
  · exact hadvanced.limited
  · intro other
    have hholds := hsum (Op.holdsOf other)
    have hheld := h.held other
    dsimp only
    by_cases hother : other = store
    · rw [hother] at hholds hheld ⊢
      rw [update_self]
      have hmoved := hadvanced.held
      rw [Op.holdsOf, if_pos hstore, Op.holdsOf, if_pos rfl] at hholds
      dsimp only at hholds ⊢
      omega
    · grind [Op.holdsOf]
  · grind [h.ok, hadvanced.ok]
  · have hpending := hsum (fun op => op.point.pending)
    have hspent := h.spent
    have hmoved := hadvanced.spent
    dsimp only at hpending ⊢
    omega
  · exact hadvanced.egress
  · intro j
    have hstays := h.placed j
    grind
  · grind [h.future]
  · grind [h.unopened]
  · -- Of a store that is gone only a teardown can be in progress.
    have hgone := h.gone
    have hteardown := hadvanced.teardown
    grind

theorem Inv.lt_opened (hlive : (s.stores store).live = true) : store < s.opened := by
  by_contra hle
  rw [h.unopened store (Nat.le_of_not_lt hle)] at hlive
  exact Bool.false_ne_true hlive

theorem Inv.begins {store : Nat} {x : Store}
    (hopened : store < s.opened) (hcount : x.tracked + p.transit = (s.stores store).tracked)
    (hheld : ∑ i ∈ Finset.range s.begun, (s.ops i).holdsOf store ≤ x.tracked)
    (hholds : p.holds = 0) (hok : p.Ok limits)
    (hgone : x.live = false → x.tracked = 0 ∧ p.isTeardown ∧
      ∀ i, (s.ops i).store = store → (s.ops i).point.isTeardown) :
    Inv limits (requested + p.pending)
      ({ s with stores := update s.stores store x }.begin store p) := by
  have hstores := Tally.sum_update s.stores x Store.tracked (Finset.mem_range.mpr hopened)
  have hsum (part) := Tally.sum_range_update ⟨store, p⟩ part s.ops s.begun
  unfold State.begin
  constructor
  · have htransits := hsum (fun op => op.point.transit)
    have hactive := h.active
    dsimp only at hstores htransits ⊢
    omega
  · exact h.limited
  · intro other
    have hsums := hsum (Op.holdsOf other)
    have hnone : Op.holdsOf other ⟨store, p⟩ = 0 := by
      rw [Op.holdsOf, hholds, ite_self]
    rw [hnone] at hsums
    have hstays := h.held other
    grind
  · have hops := h.ok
    grind
  · have hpendings := hsum (fun op => op.point.pending)
    have hspent := h.spent
    dsimp only at hpendings ⊢
    omega
  · exact h.egress
  · intro j
    have hstays := h.placed j
    grind
  · grind [h.future]
  · grind [h.unopened]
  · have hstays := h.gone
    grind

theorem Inv.begin {store : Nat}
    (hlive : (s.stores store).live = true) (htransit : p.transit = 0) (hholds : p.holds = 0)
    (hok : p.Ok limits) : Inv limits (requested + p.pending) (s.begin store p) := by
  have hbegun := @Inv.begins _ p _ s h store (s.stores store) (h.lt_opened hlive)
    (by rw [htransit, Nat.add_zero]) (h.held store) hholds hok
    (fun hgone => absurd (hlive.symm.trans hgone) Bool.noConfusion)
  rw [update_eq_self] at hbegun
  exact hbegun

theorem Inv.openStore : Inv limits requested { s with
      opened := s.opened + 1
      stores := update s.stores s.opened ⟨0, true⟩ } where
  active := by
    dsimp only
    rw [Tally.sum_range_update ⟨0, true⟩ Store.tracked]
    exact h.active
  limited := h.limited
  held := by
    -- The index was not in use, so nothing was tracked there before either.
    have hheld := h.held s.opened
    rw [(h.gone s.opened (h.unopened s.opened le_rfl)).1] at hheld
    intro j
    have hstays := h.held j
    grind
  ok := h.ok
  spent := h.spent
  egress := h.egress
  placed := fun i hi => Nat.lt_succ_of_lt (h.placed i hi)
  future := h.future
  unopened := by grind [h.unopened]
  gone := by grind [h.gone]

theorem Inv.teardown {store : Nat}
    (hlive : (s.stores store).live = true) (hquiet : s.quiet store = true)
    (htransit : p.transit = (s.stores store).tracked) (hholds : p.holds = 0)
    (hok : p.Ok limits) (hpending : p.pending = 0) (hteardown : p.isTeardown = true) :
    Inv limits requested ({ s with stores := update s.stores store ⟨0, false⟩ }.begin store p) := by
  have hfinished : ∀ i, (s.ops i).store = store → (s.ops i).point.isFinished = true := by
    grind [quiet_iff, h.future]
  have hnone : ∑ i ∈ Finset.range s.begun, (s.ops i).holdsOf store = 0 := by
    grind [Op.holdsOf, Finset.sum_eq_zero, → Point.of_isFinished]
  have hbegun := @Inv.begins _ p _ s h store ⟨0, false⟩ (h.lt_opened hlive)
    (by rw [htransit, Nat.zero_add]) hnone.le hholds hok
    (fun _ => ⟨rfl, hteardown, fun i hi => (Point.of_isFinished (hfinished i hi)).1⟩)
  rw [hpending] at hbegun
  exact hbegun

theorem Inv.mono {requested' : Nat} (hle : requested ≤ requested') : Inv limits requested' s :=
  ⟨h.active, h.limited, h.held, h.ok, h.spent.trans hle, h.egress, h.placed, h.future,
    h.unopened, h.gone⟩

theorem Inv.lt_begun (hpoint : (s.ops i).point = .awaiting) : i < s.begun := by
  by_contra hle
  have hfinished := h.future i (Nat.le_of_not_lt hle)
  rw [hpoint] at hfinished
  nomatch hfinished

theorem Inv.answered (hrequested : requested < UInt64.size)
    (hpoint : (s.ops i).point = .awaiting) (htransit : p'.transit = 0) (hholds : p'.holds ≤ 1)
    (hok : p'.Ok limits) (hpending : p'.pending = 0) :
    Inv limits requested (s.put i s.counters (s.stores (s.ops i).store).tracked p') := by
  have hi := h.lt_begun hpoint
  have hready := h.ready hrequested hi
  refine h.put hi (hready.reads rfl rfl ?_ ?_ hok ?_ ?_)
  all_goals grind [Point.transit, Point.holds, Point.isTeardown]

end Keeps

theorem inv_step (h : Inv limits requested s) (a : Action)
    (hrequested : requested + a.bytes < UInt64.size) :
    Inv limits (requested + a.bytes) (step limits s a) := by
  cases a with
  | openStore => exact h.openStore
  | connect store admitted =>
    simp only [step]
    split_ifs with hlive hadmitted
    · exact h.begin (p := .loadActive) hlive rfl rfl trivial
    · exact h.begin (p := .countConnectionDenied) hlive rfl rfl trivial
    · exact h
  | egress store bytes =>
    simp only [step]
    split_ifs with hlive hnone
    · exact h.begin (p := .addEgress bytes.toNat) hlive rfl rfl hnone
    · exact h.begin (p := .loadEgress bytes.toNat) hlive rfl rfl trivial
    · exact h.mono (Nat.le_add_right _ _)
  | teardown store =>
    simp only [step]
    split_ifs with hguard hzero
    · rw [Bool.and_eq_true] at hguard
      exact h.teardown hguard.1 hguard.2 hzero.symm rfl trivial rfl rfl
    · rw [Bool.and_eq_true] at hguard
      exact h.teardown hguard.1 hguard.2 rfl rfl trivial rfl rfl
    · exact h
  | access i =>
    simp only [step]
    by_cases hi : i < s.begun
    · exact h.put hi (advanced_advance (h.ready hrequested hi))
    · -- An index without an operation is one that has finished.
      have hfinished := h.future i (Nat.le_of_not_lt hi)
      cases hpoint : (s.ops i).point with
      | finished result =>
        have hop : ({ s.ops i with point := .finished result } : Op) = s.ops i := by
          rw [← hpoint]
        simp only [advance, State.put, hop, update_eq_self]
        exact h
      | _ =>
        rw [hpoint] at hfinished
        nomatch hfinished
  | answer i allowed =>
    simp only [step]
    split_ifs with hpoint hallowed
    · exact h.answered hrequested hpoint rfl (Nat.zero_le _) trivial rfl
    · exact h.answered hrequested hpoint rfl le_rfl trivial rfl
    · exact h
  | abandon i =>
    simp only [step]
    split_ifs with hpoint
    · exact h.answered hrequested hpoint rfl (Nat.zero_le _) trivial rfl
    · exact h

theorem inv_run (as : List Action) (h : Inv limits requested s)
    (hrequested : requested + requestedBytes as < UInt64.size) :
    Inv limits (requested + requestedBytes as) (runAll (step limits) s as) := by
  induction as generalizing s requested with
  | nil => exact h
  | cons a as ih =>
    rw [requestedBytes, ← Nat.add_assoc] at hrequested ⊢
    rw [runAll_cons]
    exact ih (inv_step h a (Nat.lt_of_le_of_lt (Nat.le_add_right _ _) hrequested)) hrequested

/-- In every state of every run no limit is exceeded, and if no operation is in
    progress the shared counter is the sum over the stores that are there. -/
theorem counters_respect_limits (limits : Limits) (as : List Action)
    (hbytes : requestedBytes as < UInt64.size) :
    let s := runAll (step limits) State.initial as
    s.counters.outboundConnectionsActive ≤ limits.maxOutboundConnections.toNat ∧
    (limits.maxEgressBytes ≠ 0 → s.counters.egressBytes ≤ limits.maxEgressBytes.toNat) ∧
    ((∀ i, (s.ops i).point.isFinished = true) → s.counters.outboundConnectionsActive =
      ∑ j ∈ (Finset.range s.opened).filter (fun j => (s.stores j).live = true),
        (s.stores j).tracked) := by
  intro s
  have hinv := inv_run as (inv_initial limits) (by rw [Nat.zero_add]; exact hbytes)
  refine ⟨hinv.limited, hinv.egress, ?_⟩
  intro hfinished
  have htransit : ∑ i ∈ Finset.range s.begun, (s.ops i).point.transit = 0 :=
    Finset.sum_eq_zero fun i _ => (Point.of_isFinished (hfinished i)).2.2
  rw [hinv.active, htransit, Nat.add_zero]
  symm
  refine Finset.sum_filter_of_ne fun j _ hne => ?_
  -- Nothing is left in the count of a store that is gone.
  by_contra hlive
  exact hne (hinv.gone j (Bool.eq_false_iff.mpr hlive)).1

/-- Two stores ask for the last connection; one tries again and finds it taken, the other is
    refused by the second check. Then bytes are sent, and a store is torn down. -/
def contended : List Action :=
  [.openStore, .openStore, .connect 0 true, .connect 1 true, .access 0, .access 1, .access 0,
    .access 1, .access 0, .access 1, .access 1, .answer 0 false, .access 0, .access 0,
    .connect 1 true, .access 2, .access 2, .access 2, .answer 2 true, .access 2,
    .egress 0 7, .egress 1 7, .access 3, .access 4, .access 3, .access 4, .access 4, .access 4,
    .teardown 1, .access 5, .access 5]

theorem counters_respect_contended :
    let k := (runAll (step ⟨1, 10⟩) State.initial contended).counters
    k.outboundConnectionsActive ≤ 1 ∧ k.egressBytes ≤ 10 := by
  obtain ⟨hactive, hegress, -⟩ := counters_respect_limits ⟨1, 10⟩ contended (by decide)
  exact ⟨hactive, hegress (by decide)⟩

example : (runAll (step ⟨1, 10⟩) State.initial contended).counters = ⟨0, 7, 1, 1, 1⟩ := by
  decide +kernel

end Reservations

end WasmCloud
