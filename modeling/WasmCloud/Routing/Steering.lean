import Mathlib.Algebra.Group.Nat.Defs
import Mathlib.Order.Basic
import WasmCloud.Lib.Orbit

/-!
# Steering Requests to Other Nodes

A node that has no instance of an application and is overloaded hands a request on to the node
it takes for the least loaded, which decides in the same way from a table of its own. Requests
come to rest exactly if no set of nodes is such that each of them is overloaded, has no
instance, and takes a node of the set for the least loaded.

Loads are floating point numbers. `L` is their order and `none` a load that is not a number,
which compares as equal to every other. `minBy_iff` says which entry the table then finds.
-/

namespace WasmCloud

open List

inductive NodeHealthStatus where
  | healthy
  | degraded
  | unhealthy
  deriving DecidableEq, Repr

variable {N L : Type} [DecidableEq N] [LinearOrder L]

/-- What a table has of a node. The load is `none` if it is not a number. -/
structure NodeEntry (N L : Type) where
  nodeId : N
  proxyAddress : String
  fuelUsedPercent : Option L
  lastSeen : Nat
  healthStatus : NodeHealthStatus
  deriving DecidableEq

/-- `is_stale`; `none` is a clock without a time. The difference wraps as in a release build. -/
def NodeEntry.isStale (now : Option Nat) (e : NodeEntry N L) : Bool :=
  match now with
  | some t => decide (30 < (t + 2 ^ 64 - e.lastSeen) % 2 ^ 64)
  | none => false

/-- Entries in the order the map iterates them, and the nodes marked unhealthy. -/
structure NodeLoadTable (N L : Type) where
  nodes : List (NodeEntry N L)
  unhealthy : List N

/-- A load is less than another, both being numbers. -/
def loadLt : Option L → Option L → Bool
  | some a, some b => decide (a < b)
  | _, _ => false

/-- `Iterator::min_by` for a comparison by load: a later entry has to be less. -/
def minBy : List (NodeEntry N L) → Option (NodeEntry N L)
  | [] => none
  | e :: es => some (es.foldl
      (fun best x => if loadLt x.fuelUsedPercent best.fuelUsedPercent then x else best) e)

/-- An entry a request may be steered to. -/
def NodeEntry.eligible (now : Option Nat) (localNode : N) (table : NodeLoadTable N L)
    (e : NodeEntry N L) : Bool :=
  decide (e.nodeId ≠ localNode) && !e.isStale now && !table.unhealthy.contains e.nodeId &&
    decide (e.healthStatus ≠ .unhealthy)

def leastLoadedOtherNode (now : Option Nat) (localNode : N) (table : NodeLoadTable N L) :
    Option (NodeEntry N L) :=
  minBy (table.nodes.filter (fun e => e.eligible now localNode table))

def nodeIsOverloaded (threshold : L) (localNode : N) (table : NodeLoadTable N L) : Bool :=
  table.unhealthy.contains localNode ||
    match table.nodes.find? (fun e => decide (e.nodeId = localNode)) with
    | none => false
    | some e => decide (e.healthStatus = .unhealthy) ||
        e.fuelUsedPercent.any (fun load => decide (threshold ≤ load))

inductive Upstream (N : Type) where
  | instanceHere
  | remote (node : N)
  | coldStart
  deriving DecidableEq

/-- Its table, its clock, whether it has an instance, and the addresses it can look up. -/
structure SteerNode (N L : Type) where
  table : NodeLoadTable N L
  now : Option Nat
  hasInstance : Bool
  lookup : String → Bool

def selectUpstream (threshold : L) (localNode : N) (s : SteerNode N L) : Upstream N :=
  if s.hasInstance then .instanceHere
  else if nodeIsOverloaded threshold localNode s.table then
    match leastLoadedOtherNode s.now localNode s.table with
    | some e => if s.lookup e.proxyAddress then .remote e.nodeId else .coldStart
    | none => .coldStart
  else .coldStart

/-- The node a request is handed on to. -/
def hop (threshold : L) (cluster : N → SteerNode N L) (n : N) : Option N :=
  match selectUpstream threshold n (cluster n) with
  | .remote m => some m
  | .instanceHere | .coldStart => none

/-- An entry is what a minimum finds: the first one, if its load is not a number, or else one
    with less than those before it and no more than those after it. -/
def FirstLeast (es : List (NodeEntry N L)) (e : NodeEntry N L) : Prop :=
  ∃ before after, es = before ++ e :: after ∧
    match e.fuelUsedPercent with
    | none => before = []
    | some load =>
      (∀ x ∈ before.head?, x.fuelUsedPercent ≠ none) ∧
        (∀ x ∈ before, ∀ other ∈ x.fuelUsedPercent, load < other) ∧
        ∀ x ∈ after, ∀ other ∈ x.fuelUsedPercent, load ≤ other

/-- The better of two entries, the first one if neither is less. -/
def better (best x : NodeEntry N L) : NodeEntry N L :=
  if loadLt x.fuelUsedPercent best.fuelUsedPercent then x else best

omit [DecidableEq N] in
theorem minBy_cons (e : NodeEntry N L) (es : List (NodeEntry N L)) :
    minBy (e :: es) = some (es.foldl better e) := rfl

omit [DecidableEq N] in
theorem better_eq_left {best x : NodeEntry N L}
    (h : ∀ load ∈ best.fuelUsedPercent, ∀ other ∈ x.fuelUsedPercent, load ≤ other) :
    better best x = best := by
  refine if_neg fun hlt => ?_
  rcases hbest : best.fuelUsedPercent with _ | load
  · rw [hbest] at hlt
    cases hx : x.fuelUsedPercent with
    | none | some other =>
      rw [hx] at hlt
      nomatch hlt
  · rcases hx : x.fuelUsedPercent with _ | other
    · rw [hbest, hx] at hlt
      nomatch hlt
    · rw [hbest, hx, loadLt, decide_eq_true_eq] at hlt
      exact absurd hlt (not_lt.mpr (h load hbest other hx))

omit [DecidableEq N] in
theorem better_eq_right {best x : NodeEntry N L} {load other : L}
    (hbest : best.fuelUsedPercent = some other) (hx : x.fuelUsedPercent = some load)
    (h : load < other) : better best x = x := by
  refine if_pos ?_
  rw [hbest, hx]
  exact decide_eq_true h

omit [DecidableEq N] in
theorem foldl_better_eq {best : NodeEntry N L} {es : List (NodeEntry N L)}
    (h : ∀ load ∈ best.fuelUsedPercent, ∀ x ∈ es, ∀ other ∈ x.fuelUsedPercent, load ≤ other) :
    es.foldl better best = best := by
  induction es with
  | nil => rfl
  | cons x es ih =>
    have hx : better best x = best :=
      better_eq_left fun load hload => h load hload x mem_cons_self
    rw [foldl_cons, hx]
    exact ih fun load hload y hy => h load hload y (.tail _ hy)

omit [DecidableEq N] in
theorem foldl_better_above {load : L} {best : NodeEntry N L} {es : List (NodeEntry N L)}
    (hbest : ∃ other, best.fuelUsedPercent = some other ∧ load < other)
    (hes : ∀ x ∈ es, ∀ other ∈ x.fuelUsedPercent, load < other) :
    ∃ other, (es.foldl better best).fuelUsedPercent = some other ∧ load < other := by
  induction es generalizing best with
  | nil => exact hbest
  | cons x es ih =>
    rw [forall_mem_cons] at hes
    refine ih ?_ hes.2
    unfold better
    split_ifs with hlt
    · -- Only an entry with a number replaces the best.
      cases hx : x.fuelUsedPercent with
      | none =>
        rw [hx] at hlt
        nomatch hlt
      | some other => exact ⟨other, rfl, hes.1 other hx⟩
    · exact hbest

omit [DecidableEq N] in
theorem foldl_better_cases {load : L} {best : NodeEntry N L}
    (hbest : best.fuelUsedPercent = some load) (es : List (NodeEntry N L)) :
    (es.foldl better best = best ∧ ∀ x ∈ es, ∀ other ∈ x.fuelUsedPercent, load ≤ other) ∨
      ∃ before after least, es = before ++ es.foldl better best :: after ∧
        (es.foldl better best).fuelUsedPercent = some least ∧ least < load ∧
        (∀ x ∈ before, ∀ other ∈ x.fuelUsedPercent, least < other) ∧
        ∀ x ∈ after, ∀ other ∈ x.fuelUsedPercent, least ≤ other := by
  induction es generalizing best load with
  | nil => exact .inl ⟨rfl, fun x hx => nomatch hx⟩
  | cons x es ih =>
    rw [foldl_cons]
    by_cases hless : ∃ other, x.fuelUsedPercent = some other ∧ other < load
    · rcases hless with ⟨other, hx, hlt⟩
      rw [better_eq_right hbest hx hlt]
      rcases ih hx with ⟨heq, hafter⟩ | ⟨before, after, least, hsplit, hleast, hlt', hb, ha⟩
      · rw [heq]
        exact .inr ⟨[], es, other, rfl, hx, hlt, fun y hy => (nomatch hy), hafter⟩
      · refine .inr ⟨x :: before, after, least, congrArg (x :: ·) hsplit, hleast,
          hlt'.trans hlt, ?_, ha⟩
        refine forall_mem_cons.mpr ⟨fun y hy => ?_, hb⟩
        rw [Option.some.inj (hy.symm.trans hx)]
        exact hlt'
    · have hxs : ∀ other ∈ x.fuelUsedPercent, load ≤ other :=
        fun other hother => not_lt.mp fun hlt => hless ⟨other, hother, hlt⟩
      have hkeep : better best x = best := by
        refine better_eq_left fun l hl other hother => ?_
        rw [← Option.some.inj (hbest.symm.trans hl)]
        exact hxs other hother
      rw [hkeep]
      rcases ih hbest with ⟨heq, hafter⟩ | ⟨before, after, least, hsplit, hleast, hlt', hb, ha⟩
      · exact .inl ⟨heq, forall_mem_cons.mpr ⟨hxs, hafter⟩⟩
      · refine .inr ⟨x :: before, after, least, congrArg (x :: ·) hsplit, hleast, hlt', ?_, ha⟩
        exact forall_mem_cons.mpr ⟨fun other hother => lt_of_lt_of_le hlt' (hxs other hother), hb⟩

omit [DecidableEq N] in
/-- The minimum of a list is the entry that `FirstLeast` describes. -/
theorem minBy_iff {es : List (NodeEntry N L)} {e : NodeEntry N L} :
    minBy es = some e ↔ FirstLeast es e := by
  constructor
  · intro h
    cases es with
    | nil => nomatch h.symm
    | cons first es =>
      rw [minBy_cons, Option.some.injEq] at h
      rcases hfirst : first.fuelUsedPercent with _ | load
      · -- Nothing replaces an entry without a number.
        have hkeep : es.foldl better first = first := by
          refine foldl_better_eq fun l hl => ?_
          rw [hfirst] at hl
          nomatch hl
        rw [← h, hkeep]
        refine ⟨[], es, rfl, ?_⟩
        rw [hfirst]
      · rcases foldl_better_cases hfirst es with
          ⟨heq, hafter⟩ | ⟨before, after, least, hsplit, hleast, hlt, hb, ha⟩
        · rw [← h, heq]
          refine ⟨[], es, rfl, ?_⟩
          rw [hfirst]
          exact ⟨fun x hx => (nomatch hx), fun x hx => (nomatch hx), hafter⟩
        · rw [h] at hsplit hleast
          refine ⟨first :: before, after, congrArg (first :: ·) hsplit, ?_⟩
          grind
  · rintro ⟨before, after, rfl, hmin⟩
    rcases hload : e.fuelUsedPercent with _ | load
    · rw [hload] at hmin
      have hnil : before = [] := hmin
      rw [hnil, nil_append, minBy_cons]
      refine congrArg some (foldl_better_eq fun l hl => ?_)
      rw [hload] at hl
      nomatch hl
    · rw [hload] at hmin
      rcases hmin with ⟨hhead, hbefore, hafter⟩
      have hkeep : after.foldl better e = e := by
        refine foldl_better_eq fun l hl => ?_
        rw [← Option.some.inj (hload.symm.trans hl)]
        exact hafter
      cases before with
      | nil =>
        rw [nil_append, minBy_cons, hkeep]
      | cons first before =>
        rw [forall_mem_cons] at hbefore
        -- The best before the entry has a number, and a greater one.
        have habove : ∃ other, first.fuelUsedPercent = some other ∧ load < other := by
          rcases hfirst : first.fuelUsedPercent with _ | other
          · exact absurd hfirst (hhead first rfl)
          · exact ⟨other, rfl, hbefore.1 other hfirst⟩
        rcases foldl_better_above habove hbefore.2 with ⟨other, hother, hlt⟩
        rw [cons_append, minBy_cons, foldl_append, foldl_cons,
          better_eq_right hother hload hlt, hkeep]

/-- The entry a node steers to. -/
def LeastLoaded (localNode : N) (s : SteerNode N L) (e : NodeEntry N L) : Prop :=
  FirstLeast (s.table.nodes.filter (fun x => x.eligible s.now localNode s.table)) e

/-- The node is marked unhealthy, or its own entry says so or has reached the threshold. -/
def Overloaded (threshold : L) (localNode : N) (table : NodeLoadTable N L) : Prop :=
  localNode ∈ table.unhealthy ∨
    ∃ own ∈ table.nodes.find? (fun e => decide (e.nodeId = localNode)),
      own.healthStatus = .unhealthy ∨ ∃ load ∈ own.fuelUsedPercent, threshold ≤ load

/-- Each node of the set is overloaded, has no instance, and can look up the least loaded other
    node, which is in the set. -/
def SteerTrap (threshold : L) (cluster : N → SteerNode N L) (S : Set N) : Prop :=
  ∀ n ∈ S, (cluster n).hasInstance = false ∧ Overloaded threshold n (cluster n).table ∧
    ∃ e, LeastLoaded n (cluster n) e ∧ (cluster n).lookup e.proxyAddress = true ∧ e.nodeId ∈ S

theorem nodeIsOverloaded_iff {threshold : L} {localNode : N} {table : NodeLoadTable N L} :
    nodeIsOverloaded threshold localNode table = true ↔ Overloaded threshold localNode table := by
  rw [nodeIsOverloaded, Overloaded, Bool.or_eq_true, contains_iff_mem]
  refine or_congr Iff.rfl ?_
  cases hfind : table.nodes.find? (fun e => decide (e.nodeId = localNode)) with
  | none =>
    refine iff_of_false Bool.false_ne_true ?_
    rintro ⟨own, hown, -⟩
    nomatch hown
  | some own =>
    simp only [Bool.or_eq_true, decide_eq_true_eq, Option.mem_some_iff, exists_eq_left']
    refine or_congr Iff.rfl ?_
    cases own.fuelUsedPercent with
    | none => simp
    | some load => simp

theorem hop_eq_some_iff {threshold : L} {cluster : N → SteerNode N L} {n m : N} :
    hop threshold cluster n = some m ↔
      (cluster n).hasInstance = false ∧ Overloaded threshold n (cluster n).table ∧
        ∃ e, LeastLoaded n (cluster n) e ∧ (cluster n).lookup e.proxyAddress = true ∧
          e.nodeId = m := by
  unfold hop selectUpstream
  rw [← nodeIsOverloaded_iff]
  cases hinst : (cluster n).hasInstance with
  | true => simp
  | false =>
    rw [if_neg Bool.false_ne_true]
    cases hover : nodeIsOverloaded threshold n (cluster n).table with
    | false => simp
    | true =>
      rw [if_pos rfl]
      have hleast : ∀ e, LeastLoaded n (cluster n) e ↔
          leastLoadedOtherNode (cluster n).now n (cluster n).table = some e :=
        fun e => minBy_iff.symm
      cases hbest : leastLoadedOtherNode (cluster n).now n (cluster n).table with
      | none => simp [hleast, hbest]
      | some e =>
        simp only [hleast, hbest, Option.some.injEq, true_and, exists_eq_left']
        -- Without an address the request is not handed on.
        cases hlookup : (cluster n).lookup e.proxyAddress with
        | false => simp
        | true => simp

theorem hop_eq_none_iff {threshold : L} {cluster : N → SteerNode N L} {n : N} :
    hop threshold cluster n = none ↔ selectUpstream threshold n (cluster n) = .instanceHere ∨
        selectUpstream threshold n (cluster n) = .coldStart := by
  unfold hop
  grind

theorem trap_hop_iff {threshold : L} {cluster : N → SteerNode N L} {S : Set N} :
    Trap (hop threshold cluster) S ↔ SteerTrap threshold cluster S := by
  constructor
  · intro h n hn
    rcases h n hn with ⟨m, hm, hhop⟩
    rcases hop_eq_some_iff.mp hhop with ⟨hinst, hover, e, hleast, hlookup, rfl⟩
    exact ⟨hinst, hover, e, hleast, hlookup, hm⟩
  · intro h n hn
    rcases h n hn with ⟨hinst, hover, e, hleast, hlookup, he⟩
    exact ⟨e.nodeId, he, hop_eq_some_iff.mpr ⟨hinst, hover, e, hleast, hlookup, rfl⟩⟩

/-- From every node a request visits no node twice and ends at an instance or a cold
    start, exactly if there is no set of nodes none of which keeps a request. -/
theorem steering_ends_iff (threshold : L) (cluster : N → SteerNode N L) :
    (∀ n, (∀ k, (trail (hop threshold cluster) k n).Nodup) ∧
      ∃ k last, iter (hop threshold cluster) k n = some last ∧
        (selectUpstream threshold last (cluster last) = .instanceHere ∨
          selectUpstream threshold last (cluster last) = .coldStart)) ↔
      ¬ ∃ S : Set N, S.Nonempty ∧ SteerTrap threshold cluster S := by
  have hends := rests_iff_no_trap (f := hop threshold cluster)
  simp only [Rests, hop_eq_none_iff, trap_hop_iff] at hends
  exact hends

/-- One hop is enough if the least loaded node has an instance or is not overloaded. -/
theorem no_trap_of_spare {threshold : L} {cluster : N → SteerNode N L}
    (h : ∀ n e, LeastLoaded n (cluster n) e → (cluster e.nodeId).hasInstance = true ∨
      ¬ Overloaded threshold e.nodeId (cluster e.nodeId).table) :
    ¬ ∃ S : Set N, S.Nonempty ∧ SteerTrap threshold cluster S := by
  rintro ⟨S, ⟨n, hn⟩, hS⟩
  rcases hS n hn with ⟨-, -, e, hleast, -, he⟩
  rcases hS e.nodeId he with ⟨hinst, hover, -⟩
  grind

def loadEntry (node load : Nat) : NodeEntry Nat Nat := ⟨node, "proxy:8080", some load, 0, .healthy⟩

def emptyNode (nodes : List (NodeEntry Nat Nat)) : SteerNode Nat Nat :=
  ⟨⟨nodes, []⟩, some 0, false, fun _ => true⟩

/-- Two nodes with a load of 90 that know of each other only hand the request on forever. -/
theorem steering_bounces : (let cluster := fun _ => emptyNode [loadEntry 0 90, loadEntry 1 90];
      selectUpstream 80 0 (cluster 0) = .remote 1 ∧ selectUpstream 80 1 (cluster 1) = .remote 0 ∧
        trail (hop 80 cluster) 4 0 = [0, 1, 0, 1, 0] ∧
        ∀ k, iter (hop 80 cluster) (2 * k) 0 = some 0) := by
  refine ⟨rfl, rfl, rfl, fun k => ?_⟩
  induction k with
  | zero => rfl
  | succ k ih =>
    rw [Nat.mul_succ, iter_add, ih]
    rfl

end WasmCloud
