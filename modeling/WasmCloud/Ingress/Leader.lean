import Mathlib.Logic.Function.Basic
import WasmCloud.Lib.RevCell
import WasmCloud.Lib.Run

/-!
# The Leader Lease

Ingresses elect a leader through a lease in a shared key-value store. Each of them runs
rounds: it renews the lease if it has it, tries to create it otherwise, and if there is one
looks whose it is. It admits writes as long as a flag with the outcome is set.

Rounds interleave at their requests to the store, a request may be lost or be carried out
without an answer, and the lease expires at any time. `SafeLease` rules out that another
ingress creates the lease while the flag of the last holder is still set.
-/

namespace WasmCloud

structure LeaderLeaseRecord where
  ingressId : String
  artifactServerUrl : String
  updatedAtUnixSecs : Nat
  deriving DecidableEq, Repr

structure LeaderState where
  isLeader : Bool
  leaderIngressId : Option String
  leaderArtifactServerUrl : Option String
  deriving DecidableEq, Repr

/-- `settling` is a round that knows the leader, if there is one, and whether it is this ingress. -/
inductive RoundPoint where
  | idle
  | updating (record : LeaderLeaseRecord) (revision : Nat)
  | creating (record : LeaderLeaseRecord)
  | reading
  | settling (leader : Option LeaderLeaseRecord) (isLeader : Bool)
  deriving DecidableEq, Repr

structure LeaderInstance where
  lastRevision : Option Nat
  leaderState : LeaderState
  point : RoundPoint
  deriving DecidableEq, Repr

/-- The lease and the ingresses, by their names. -/
structure LeaseState where
  kv : RevCell LeaderLeaseRecord
  instances : String → LeaderInstance

/-- `reached` is whether a request gets to the store, `answered` whether the answer gets back. -/
inductive LeaseAction where
  | begin (id : String) (nowUnixSecs : Nat)
  | update (id : String) (reached answered : Bool)
  | create (id : String) (reached answered : Bool)
  | entry (id : String) (answered : Bool)
  | settle (id : String)
  | expire

variable (i : LeaderInstance) (record : LeaderLeaseRecord)

/-- The start of `renew_or_observe_leader`. -/
def LeaderInstance.begin : LeaderInstance :=
  match i.lastRevision with
  | some revision => { i with point := .updating record revision }
  | none => { i with point := .creating record }

/-- After a write that the ingress knows of. -/
def LeaderInstance.written (revision : Nat) : LeaderInstance :=
  { i with lastRevision := some revision, point := .settling (some record) true }

/-- After the lease could not be renewed. -/
def LeaderInstance.renewLost : LeaderInstance :=
  { i with lastRevision := none, point := .creating record }

/-- After the lease could not be created. -/
def LeaderInstance.observe : LeaderInstance := { i with point := .reading }

/-- What the ingress `id` makes of the entry it reads. -/
def LeaderInstance.observed (id : String) :
    Option (Nat × LeaderLeaseRecord) → LeaderInstance
  | some (revision, leader) =>
    if leader.ingressId = id then i.written leader revision
    else { i with lastRevision := none, point := .settling (some leader) false }
  | none => { i with point := .settling none false }

/-- `set_leader_state` and `set_unknown_leader_state`. -/
def LeaderInstance.settle (leader : Option LeaderLeaseRecord) (isLeader : Bool) : LeaderInstance :=
  { i with
    leaderState := ⟨isLeader, leader.map LeaderLeaseRecord.ingressId,
      leader.map LeaderLeaseRecord.artifactServerUrl⟩
    point := .idle }

/-- The state with one ingress and the lease changed. -/
def LeaseState.set (s : LeaseState) (kv : RevCell LeaderLeaseRecord) (id : String)
    (i : LeaderInstance) : LeaseState :=
  ⟨kv, Function.update s.instances id i⟩

section Steps

variable (url : String → String)

/-- One step. `url` has the artifact servers of the ingresses. -/
def leaseStep (s : LeaseState) : LeaseAction → LeaseState
  | .begin id now =>
    match (s.instances id).point with
    | .idle => s.set s.kv id ((s.instances id).begin ⟨id, url id, now⟩)
    | _ => s
  | .update id reached answered =>
    match (s.instances id).point with
    | .updating record revision =>
      match (if reached then s.kv.update revision record else none) with
      | some kv =>
        if answered then s.set kv id ((s.instances id).written record s.kv.next)
        else s.set kv id ((s.instances id).renewLost record)
      | none => s.set s.kv id ((s.instances id).renewLost record)
    | _ => s
  | .create id reached answered =>
    match (s.instances id).point with
    | .creating record =>
      match (if reached then s.kv.create record else none) with
      | some kv =>
        if answered then s.set kv id ((s.instances id).written record s.kv.next)
        else s.set kv id (s.instances id).observe
      | none => s.set s.kv id (s.instances id).observe
    | _ => s
  | .entry id answered =>
    match (s.instances id).point with
    | .reading =>
      if answered then s.set s.kv id ((s.instances id).observed id s.kv.entry)
      -- The error ends the round and leaves the flag.
      else s.set s.kv id { s.instances id with point := .idle }
    | _ => s
  | .settle id =>
    match (s.instances id).point with
    | .settling leader isLeader => s.set s.kv id ((s.instances id).settle leader isLeader)
    | _ => s
  | .expire => { s with kv := s.kv.expire }

end Steps

def LeaseAction.ingress : LeaseAction → Option String
  | .begin id _ => some id
  | .update id _ _ => some id
  | .create id _ _ => some id
  | .entry id _ => some id
  | .settle id => some id
  | .expire => none

variable {other : String} {i} {s : LeaseState}

theorem LeaseState.set_other {kv : RevCell LeaderLeaseRecord} {id : String}
    (h : some id ≠ some other) : (s.set kv id i).instances other = s.instances other :=
  Function.update_of_ne (fun heq => h (congrArg some heq.symm)) ..

theorem leaseStep_other (url : String → String) (s : LeaseState) {a : LeaseAction}
    (h : a.ingress ≠ some other) : (leaseStep url s a).instances other = s.instances other := by
  cases a with
  | expire => rfl
  | _ =>
    rw [leaseStep]
    repeat' split
    all_goals first | exact LeaseState.set_other h | rfl

theorem runAll_other (url : String → String) (s : LeaseState) {actions : List LeaseAction}
    (h : ∀ a ∈ actions, a.ingress ≠ some other) :
    (runAll (leaseStep url) s actions).instances other = s.instances other := by
  induction actions generalizing s with
  | nil => rfl
  | cons a actions ih =>
    rw [List.forall_mem_cons] at h
    rw [runAll_cons, ih _ h.2, leaseStep_other url s h.1]

def LeaseState.start : LeaseState :=
  ⟨RevCell.empty, fun _ => ⟨none, ⟨false, none, none⟩, .idle⟩⟩

/-- The flag is set, or about to be. -/
def LeaderInstance.Claims (i : LeaderInstance) : Prop :=
  i.leaderState.isLeader = true ∨ ∃ leader, i.point = .settling leader true

/-- A lease that is created is not claimed by another ingress. -/
def SafeLease (s : LeaseState) : LeaseAction → Prop
  | .create id reached _ =>
    reached = true → s.kv.entry = none → (∃ record, (s.instances id).point = .creating record) →
      ∀ other, other ≠ id → ¬ (s.instances other).Claims
  | _ => True

/-- The revisions an ingress knows are of its own writes, and what it writes is its own. -/
structure OwnRound (kv : RevCell LeaderLeaseRecord) (id : String) (i : LeaderInstance) : Prop where
  revision : ∀ revision, i.lastRevision = some revision → revision < kv.next ∧
    ∀ leader, kv.entry = some (revision, leader) → leader.ingressId = id
  updating : ∀ record revision, i.point = .updating record revision →
    record.ingressId = id ∧ i.lastRevision = some revision
  creating : ∀ record, i.point = .creating record → record.ingressId = id

/-- A claim rests on the lease that is there, if there is one, and there is no other. -/
structure LeaseInv (s : LeaseState) : Prop where
  own : ∀ id, OwnRound s.kv id (s.instances id)
  owner : ∀ id, (s.instances id).Claims → ∀ e, s.kv.entry = some e → e.2.ingressId = id
  unique : ∀ id other, (s.instances id).Claims → (s.instances other).Claims → other = id

theorem LeaderInstance.Claims.flag (h : i.Claims)
    (hpoint : ∀ leader, i.point ≠ .settling leader true) : i.leaderState.isLeader = true := by
  rcases h with hflag | ⟨leader, hp⟩
  · exact hflag
  · exact absurd hp (hpoint leader)

theorem LeaseInv.of_claims (h : LeaseInv s) {id : String} (hclaims : (s.instances id).Claims) :
    (∀ e, s.kv.entry = some e → e.2.ingressId = id) ∧
      ∀ other, other ≠ id → ¬ (s.instances other).Claims :=
  ⟨h.owner id hclaims, fun other hne hother => hne (h.unique id other hclaims hother)⟩

/-- The lease stays, or expires, or is written while no other ingress claims it. -/
theorem leaseInv_set (h : LeaseInv s) {kv : RevCell LeaderLeaseRecord}
    {id : String} (hnext : s.kv.next ≤ kv.next)
    (hentry : ∀ e, kv.entry = some e → s.kv.entry = some e ∨
      s.kv.next ≤ e.1 ∧ ∀ other, other ≠ id → ¬ (s.instances other).Claims)
    (hown : OwnRound kv id i) (hclaims : i.Claims → (∀ e, kv.entry = some e → e.2.ingressId = id) ∧
      ∀ other, other ≠ id → ¬ (s.instances other).Claims) : LeaseInv (s.set kv id i) := by
  have hself : (s.set kv id i).instances id = i := Function.update_self ..
  have hother {other : String} (hne : other ≠ id) :
      (s.set kv id i).instances other = s.instances other := Function.update_of_ne hne ..
  refine ⟨fun other => ?_, fun other hclaim e he => ?_, fun x y hx hy => ?_⟩
  · by_cases hid : other = id
    · rw [hid, hself]
      exact hown
    · rw [hother hid]
      have hold := h.own other
      refine ⟨fun revision hlast => ?_, hold.updating, hold.creating⟩
      rcases hold.revision revision hlast with ⟨hlt, hleader⟩
      refine ⟨Nat.lt_of_lt_of_le hlt hnext, fun leader he => ?_⟩
      -- A new entry has a revision nobody knows.
      rcases hentry _ he with hsame | ⟨hnew, -⟩
      · exact hleader leader hsame
      · exact absurd hlt (Nat.not_lt.mpr hnew)
  · by_cases hid : other = id
    · rw [hid, hself] at hclaim
      rw [hid]
      exact (hclaims hclaim).1 e he
    · rw [hother hid] at hclaim
      rcases hentry e he with hsame | ⟨-, hnone⟩
      · exact h.owner other hclaim e hsame
      · exact absurd hclaim (hnone other hid)
  · by_cases hxid : x = id
    · grind
    · rw [hother hxid] at hx
      by_cases hyid : y = id
      · rw [hyid, hself] at hy
        exact absurd hx ((hclaims hy).2 x hxid)
      · rw [hother hyid] at hy
        exact h.unique x y hx hy

theorem leaseInv_local (h : LeaseInv s) {id : String} (hown : OwnRound s.kv id i)
    (hclaims : i.Claims → (s.instances id).Claims ∨ ∃ e, s.kv.entry = some e ∧ e.2.ingressId = id) :
    LeaseInv (s.set s.kv id i) := by
  refine leaseInv_set h (Nat.le_refl _) (fun e he => Or.inl he) hown fun hclaim => ?_
  rcases hclaims hclaim with hold | ⟨e, he, hid⟩
  · exact h.of_claims hold
  · grind [h.owner]

variable {record}

theorem leaseInv_put (h : LeaseInv s) {id : String} (hrecord : record.ingressId = id)
    (hnone : ∀ other, other ≠ id → ¬ (s.instances other).Claims)
    (hlast : ∀ revision, i.lastRevision = some revision → revision ≤ s.kv.next)
    (hpoint : ∀ record' revision, i.point ≠ .updating record' revision)
    (hcreating : ∀ record', i.point = .creating record' → record'.ingressId = id) :
    LeaseInv (s.set (s.kv.put record) id i) := by
  have hentry : (s.kv.put record).entry = some (s.kv.next, record) := rfl
  refine leaseInv_set h (Nat.le_succ _) (fun e he => Or.inr ⟨?_, hnone⟩) ?_ fun _ => ⟨?_, hnone⟩
  · rw [hentry] at he
    cases he
    exact Nat.le_refl _
  · refine ⟨fun revision hrevision => ?_, fun record' revision hp => absurd hp (hpoint _ _),
      hcreating⟩
    refine ⟨Nat.lt_succ_of_le (hlast revision hrevision), fun leader he => ?_⟩
    rw [hentry] at he
    cases he
    exact hrecord
  · grind

/-- The revision an ingress knows is its own lease, so nobody else claims it. -/
theorem LeaseInv.not_claims_of_own (h : LeaseInv s) {id : String} {revision : Nat}
    (hlast : (s.instances id).lastRevision = some revision) {old : LeaderLeaseRecord}
    (he : s.kv.entry = some (revision, old)) :
    ∀ other, other ≠ id → ¬ (s.instances other).Claims := by
  intro other hne hclaims
  have howner := h.owner other hclaims _ he
  exact hne (howner.symm.trans (((h.own id).revision revision hlast).2 old he))

theorem leaseInv_move (h : LeaseInv s) {id : String} (hown : OwnRound s.kv id i)
    (hflag : i.leaderState = (s.instances id).leaderState)
    (hpoint : ∀ leader, i.point ≠ .settling leader true) : LeaseInv (s.set s.kv id i) := by
  refine leaseInv_local h hown fun hclaims => Or.inl (Or.inl ?_)
  rw [← hflag]
  exact hclaims.flag hpoint

theorem leaseInv_begin (h : LeaseInv s) {id : String} (record : LeaderLeaseRecord)
    (hrecord : record.ingressId = id) :
    LeaseInv (s.set s.kv id ((s.instances id).begin record)) := by
  have hold := h.own id
  unfold LeaderInstance.begin
  split
  · rename_i revision hlast
    refine leaseInv_move h ⟨hold.revision, fun record' revision' hp => ?_, fun record' hp => ?_⟩ rfl
      (fun leader hp => by cases hp)
    · cases hp
      exact ⟨hrecord, hlast⟩
    · cases hp
  · refine leaseInv_move h ⟨hold.revision, fun record' revision' hp => ?_, fun record' hp => ?_⟩ rfl
      (fun leader hp => by cases hp)
    · cases hp
    · cases hp
      exact hrecord

theorem leaseInv_renewLost (h : LeaseInv s) {id : String} (hrecord : record.ingressId = id) :
    LeaseInv (s.set s.kv id ((s.instances id).renewLost record)) := by
  refine leaseInv_move h ⟨fun revision hlast => ?_, fun record' revision hp => ?_,
    fun record' hp => ?_⟩ rfl (fun leader hp => by cases hp)
  · cases hlast
  · cases hp
  · cases hp
    exact hrecord

theorem leaseInv_observe (h : LeaseInv s) (id : String) :
    LeaseInv (s.set s.kv id (s.instances id).observe) :=
  leaseInv_move h ⟨(h.own id).revision, nofun, nofun⟩ rfl nofun

theorem leaseInv_written (h : LeaseInv s) {id : String} (hrecord : record.ingressId = id)
    (hnone : ∀ other, other ≠ id → ¬ (s.instances other).Claims) :
    LeaseInv (s.set (s.kv.put record) id ((s.instances id).written record s.kv.next)) :=
  leaseInv_put h hrecord hnone (fun revision hlast => by cases hlast; exact Nat.le_refl _)
    nofun nofun

theorem leaseInv_update (h : LeaseInv s) (url : String → String) (id : String)
    (reached answered : Bool) : LeaseInv (leaseStep url s (.update id reached answered)) := by
  rw [leaseStep]
  split
  · rename_i record revision hpoint
    rcases (h.own id).updating record revision hpoint with ⟨hrecord, hlast⟩
    split
    · rename_i kv hkv
      cases reached with
      | false => cases hkv
      | true =>
        rw [if_pos rfl, RevCell.update_eq_some_iff] at hkv
        rcases hkv with ⟨⟨old, he⟩, rfl⟩
        have hnone := h.not_claims_of_own hlast he
        split
        · exact leaseInv_written h hrecord hnone
        · -- The ingress does not know of its write.
          refine leaseInv_put h hrecord hnone nofun nofun (fun record' hp => ?_)
          cases hp
          exact hrecord
    · exact leaseInv_renewLost h hrecord
  · exact h

theorem leaseInv_create (h : LeaseInv s) (url : String → String) (id : String)
    (reached answered : Bool) (hsafe : SafeLease s (.create id reached answered)) :
    LeaseInv (leaseStep url s (.create id reached answered)) := by
  rw [leaseStep]
  split
  · rename_i record hpoint
    have hrecord := (h.own id).creating record hpoint
    split
    · rename_i kv hkv
      cases reached with
      | false => cases hkv
      | true =>
        rw [if_pos rfl, RevCell.create_eq_some_iff] at hkv
        rcases hkv with ⟨he, rfl⟩
        have hnone := hsafe rfl he ⟨record, hpoint⟩
        split
        · exact leaseInv_written h hrecord hnone
        · exact leaseInv_put h hrecord hnone
            (fun revision hlast => Nat.le_of_lt ((h.own id).revision revision hlast).1)
            nofun nofun
    · exact leaseInv_observe h id
  · exact h

theorem leaseInv_observed (h : LeaseInv s) (id : String) :
    LeaseInv (s.set s.kv id ((s.instances id).observed id s.kv.entry)) := by
  rcases hentry : s.kv.entry with _ | ⟨revision, leader⟩
  · exact leaseInv_move h ⟨(h.own id).revision, nofun, nofun⟩ rfl nofun
  · rw [LeaderInstance.observed]
    split
    · rename_i hid
      refine leaseInv_local h ⟨fun revision' hlast => ?_, nofun,
        nofun⟩ (fun _ => Or.inr ⟨_, hentry, hid⟩)
      cases hlast
      refine ⟨s.kv.fresh _ hentry, fun leader' he => ?_⟩
      rw [hentry] at he
      cases he
      exact hid
    · exact leaseInv_move h ⟨nofun, nofun, nofun⟩ rfl nofun

theorem leaseInv_settle (h : LeaseInv s) {id : String} {leader : Option LeaderLeaseRecord}
    {isLeader : Bool} (hpoint : (s.instances id).point = .settling leader isLeader) :
    LeaseInv (s.set s.kv id ((s.instances id).settle leader isLeader)) := by
  refine leaseInv_local h ⟨(h.own id).revision, nofun,
    nofun⟩ (fun hclaims => Or.inl (Or.inr ⟨leader, ?_⟩))
  have hflag : isLeader = true := hclaims.flag nofun
  rw [hpoint, hflag]

theorem leaseInv_step (url : String → String) (s : LeaseState) (a : LeaseAction)
    (hsafe : SafeLease s a) (h : LeaseInv s) : LeaseInv (leaseStep url s a) := by
  cases a with
  | begin id now =>
    grind [leaseStep, leaseInv_begin]
  | update id reached answered => exact leaseInv_update h url id reached answered
  | create id reached answered => exact leaseInv_create h url id reached answered hsafe
  | entry id answered =>
    rw [leaseStep]
    split
    · split
      · exact leaseInv_observed h id
      · exact leaseInv_move h ⟨(h.own id).revision, nofun, nofun⟩ rfl nofun
    · exact h
  | settle id =>
    rw [leaseStep]
    split
    · rename_i leader isLeader hpoint
      exact leaseInv_settle h hpoint
    · exact h
  | expire =>
    refine ⟨fun id => ⟨fun revision hlast => ⟨((h.own id).revision revision hlast).1,
      fun leader he => ?_⟩, (h.own id).updating, (h.own id).creating⟩, fun id _ e he => ?_,
      h.unique⟩
    · cases he
    · cases he

theorem leaseInv_start : LeaseInv LeaseState.start := by
  have hidle : ∀ id, ¬ (LeaseState.start.instances id).Claims := by
    rintro id (hflag | ⟨leader, hp⟩)
    · cases hflag
    · cases hp
  exact ⟨fun id => ⟨nofun, nofun, nofun⟩, fun id hclaims => absurd hclaims (hidle id),
    fun id other hclaims => absurd hclaims (hidle id)⟩

/-- In a run in which no lease is created while another ingress claims it, at most one
    ingress is leader. -/
theorem one_leader (url : String → String) (actions : List LeaseAction)
    (hsafe : Along (leaseStep url) SafeLease LeaseState.start actions) (id other : String)
    (hid : ((runAll (leaseStep url) LeaseState.start actions).instances id).leaderState.isLeader =
      true) (hother : ((runAll (leaseStep url) LeaseState.start actions).instances
      other).leaderState.isLeader = true) : id = other := by
  have hinv := invariant_along (leaseInv_step url) hsafe leaseInv_start
  exact hinv.unique other id (Or.inl hother) (Or.inl hid)

def creatingRound (id : String) : List LeaseAction :=
  [.begin id 0, .create id true true, .settle id]

/-- The first ingress does not reach the store to create its expired lease; the second does. -/
def failoverRun : List LeaseAction :=
  creatingRound "a" ++ [.expire, .begin "a" 20, .update "a" true true, .create "a" false false,
    .entry "a" true, .settle "a"] ++ creatingRound "b"

/-- Only the second ingress is leader then. -/
theorem one_leader_failover :
    let s := runAll (leaseStep id) LeaseState.start failoverRun
    (s.instances "b").leaderState.isLeader = true ∧
      (s.instances "a").leaderState.isLeader ≠ true := by
  have hidle (other : String) (actions : List LeaseAction)
      (h : ∀ a ∈ actions, a.ingress ≠ some other) :
      ¬ ((runAll (leaseStep id) LeaseState.start actions).instances other).Claims := by
    rw [runAll_other id LeaseState.start h]
    rintro (hflag | ⟨leader, hpoint⟩)
    · cases hflag
    · cases hpoint
  have hsafe : Along (leaseStep id) SafeLease LeaseState.start failoverRun := by
    refine ⟨trivial, fun _ _ _ other hne => ?_, trivial, trivial, trivial, trivial,
      nofun, trivial, trivial, trivial, fun _ _ _ other hne => ?_,
      trivial, trivial⟩
    · refine hidle other [.begin "a" 0] fun a ha hother => hne ?_
      rw [List.mem_singleton.mp ha] at hother
      exact (Option.some.inj hother).symm
    · by_cases hother : other = "a"
      · rw [hother]
        rintro (hflag | ⟨leader, hpoint⟩)
        · cases hflag
        · cases hpoint
      · refine hidle other (failoverRun.take 10) fun a ha hingress => ?_
        have hnames : ∀ a ∈ failoverRun, ∀ name ∈ a.ingress, name = "a" ∨ name = "b" := by decide
        rcases hnames a (List.mem_of_mem_take ha) other hingress with h | h
        · exact hother h
        · exact hne h
  refine ⟨rfl, fun hleader => ?_⟩
  nomatch (one_leader id failoverRun hsafe "a" "b" hleader rfl)

def expiredRun : List LeaseAction := creatingRound "a" ++ .expire :: creatingRound "b"

/-- Both are leaders then. -/
theorem two_leaders :
    let s := runAll (leaseStep id) LeaseState.start expiredRun
    (s.instances "a").leaderState.isLeader = true ∧
      (s.instances "b").leaderState.isLeader = true :=
  ⟨rfl, rfl⟩

end WasmCloud
