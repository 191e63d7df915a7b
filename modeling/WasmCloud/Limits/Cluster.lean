import Mathlib.Algebra.BigOperators.Ring.Finset
import Mathlib.Algebra.Order.BigOperators.Group.Finset
import Mathlib.Algebra.Order.Field.Rat
import Mathlib.Tactic.FieldSimp
import WasmCloud.Lib.Run
import WasmCloud.Lib.TokenBucket
import WasmCloud.Storage.Store

/-!
# A Limit for the Whole Cluster

Every node has a bucket of its own for an application, which fills at a share of the global
limit. A node that has just started takes a third of it. Every so often a node writes an
entry to a shared store and divides the limit by the number of fresh entries it reads.

The shares need not add up to the limit. What a node admits follows from the rates it has
had itself: in a window of time a burst, and what comes in at the highest of these rates.
A sync is taken apart into what other nodes can come between.
-/

namespace WasmCloud

/-- `DistributedRateLimitConfig`, without the name of the bucket in the shared store. -/
structure DistributedRateLimitConfig where
  globalRps : Nat
  perNodeBurst : Nat
  syncIntervalMs : Nat
  deriving DecidableEq, Repr

structure RateLimitEntry where
  nodeId : String
  consumed : Nat
  timestamp : Int
  deriving DecidableEq, Repr

/-- The shared store. A value that does not parse is `none`. -/
abbrev RateKv := KeyedTable (Option RateLimitEntry)

/-- `sync_with_cluster`: what it is about to write, that it is to list the keys, or the clock it
    has read, the keys that are left and the number of fresh entries. -/
inductive SyncPhase where
  | idle
  | putting (entry : RateLimitEntry)
  | listing
  | reading (now : Int) (keys : List String) (nodeCount : Nat)
  deriving DecidableEq, Repr

/-- `DistributedRateLimiter` of a node, with the sync that is under way. -/
structure DistributedRateLimiter where
  nodeId : String
  kvSet : Bool
  bucket : TokenBucket ℚ
  consumedSinceSync : Nat
  phase : SyncPhase

/-- The share of each of `n` nodes. -/
def DistributedRateLimitConfig.fairShare (config : DistributedRateLimitConfig) (n : Nat) : ℚ :=
  config.globalRps / n

theorem DistributedRateLimitConfig.fairShare_nonneg (config : DistributedRateLimitConfig)
    (n : Nat) : 0 ≤ config.fairShare n :=
  div_nonneg (Nat.cast_nonneg _) (Nat.cast_nonneg _)

namespace DistributedRateLimiter

/-- `DistributedRateLimiter::new`, at the time `now`: a third of the limit. -/
def new (config : DistributedRateLimitConfig) (nodeId : String) (now : ℚ) :
    DistributedRateLimiter :=
  ⟨nodeId, false,
    TokenBucket.full (config.fairShare 3) config.perNodeBurst now (config.fairShare_nonneg 3)
      (Nat.cast_nonneg _), 0, .idle⟩

def checkRequest (l : DistributedRateLimiter) (now : ℚ) : DistributedRateLimiter × Bool :=
  let acquired := l.bucket.tryAcquire now
  ({ l with
      bucket := acquired.1
      consumedSinceSync :=
        if acquired.2 then l.consumedSinceSync + 1 else l.consumedSinceSync }, acquired.2)

/-- `sync_with_cluster` up to the write. -/
def syncBegin (l : DistributedRateLimiter) (timestamp : Int) : DistributedRateLimiter :=
  match l.kvSet, l.phase with
  | true, .idle => { l with phase := .putting ⟨l.nodeId, l.consumedSinceSync, timestamp⟩ }
  | _, _ => l

def entryKey (appId nodeId : String) : String := "ratelimit:" ++ appId ++ ":" ++ nodeId

def syncPut (appId : String) (l : DistributedRateLimiter) (kv : RateKv) (ok : Bool) :
    RateKv × DistributedRateLimiter :=
  match l.phase with
  | .putting entry =>
    if ok then (kv.insert (entryKey appId l.nodeId, some entry), { l with phase := .listing })
    else (kv, { l with phase := .idle })
  | _ => (kv, l)

/-- The keys of the application that the stream reports, and then the clock. -/
def syncKeys (appId : String) (l : DistributedRateLimiter) (kv : RateKv) (ok : Bool)
    (dropped : List String) (now : Int) : DistributedRateLimiter :=
  match l.phase with
  | .listing =>
    if ok then
      let keys := (kv.entries.map Prod.fst).filter (fun key =>
        Text.startsWith key ("ratelimit:" ++ appId ++ ":") && decide (key ∉ dropped))
      { l with phase := .reading now keys 0 }
    else { l with phase := .idle }
  | _ => l

/-- An entry is counted if it is there, parses and is fresh. -/
def isFresh (config : DistributedRateLimitConfig) (kv : RateKv) (now : Int) (key : String) : Bool :=
  match kv.get? key with
  | some (_, some entry) => decide (now - entry.timestamp < config.syncIntervalMs * 5)
  | _ => false

def syncGet (config : DistributedRateLimitConfig) (l : DistributedRateLimiter) (kv : RateKv)
    (ok : Bool) : DistributedRateLimiter :=
  match l.phase with
  | .reading now (key :: keys) nodeCount =>
    let counted := if ok && isFresh config kv now key then nodeCount + 1 else nodeCount
    { l with phase := .reading now keys counted }
  | _ => l

/-- The rate is set once all entries are read. -/
def syncFinish (config : DistributedRateLimitConfig) (l : DistributedRateLimiter) :
    DistributedRateLimiter :=
  match l.phase with
  | .reading _ [] nodeCount =>
    { l with
      bucket := l.bucket.setRate (config.fairShare (max nodeCount 1))
        (config.fairShare_nonneg _)
      consumedSinceSync := 0
      phase := .idle }
  | _ => l

end DistributedRateLimiter

/-- The nodes that limit an application, and the shared store. -/
structure RateCluster (ι : Type) where
  kv : RateKv
  nodes : ι → DistributedRateLimiter

inductive LimitAction (ι : Type) where
  | request (i : ι) (now : ℚ)
  | setKvStore (i : ι)
  | syncBegin (i : ι) (timestamp : Int)
  | syncPut (i : ι) (ok : Bool)
  | syncKeys (i : ι) (ok : Bool) (dropped : List String) (now : Int)
  | syncGet (i : ι) (ok : Bool)
  | syncFinish (i : ι)
  | kvWrite (key : String) (value : Option RateLimitEntry)
  | kvDelete (key : String)

section Cluster

variable {ι : Type} [DecidableEq ι] (config : DistributedRateLimitConfig) (appId : String)

namespace RateCluster

/-- Every node has just started, at a time of its own. The store may hold anything. -/
def new (kv : RateKv) (nodeId : ι → String) (started : ι → ℚ) : RateCluster ι :=
  ⟨kv, fun i => DistributedRateLimiter.new config (nodeId i) (started i)⟩

/-- The cluster with another state of a node. -/
def setNode (s : RateCluster ι) (i : ι) (l : DistributedRateLimiter) : RateCluster ι :=
  { s with nodes := Function.update s.nodes i l }

theorem nodes_setNode_self (s : RateCluster ι) (i : ι) (l : DistributedRateLimiter) :
    (s.setNode i l).nodes i = l := by
  simp [setNode]

theorem nodes_setNode_of_ne (s : RateCluster ι) {i j : ι} (h : i ≠ j)
    (l : DistributedRateLimiter) : (s.setNode j l).nodes i = s.nodes i := by
  simp [setNode, Function.update_of_ne h]

end RateCluster

/-- A request from before the node's last one does not happen. -/
def limitStep (s : RateCluster ι) : LimitAction ι → RateCluster ι
  | .request i now =>
    if now < (s.nodes i).bucket.lastRefill then s
    else s.setNode i ((s.nodes i).checkRequest now).1
  | .setKvStore i => s.setNode i { s.nodes i with kvSet := true }
  | .syncBegin i timestamp => s.setNode i ((s.nodes i).syncBegin timestamp)
  | .syncPut i ok =>
    let put := (s.nodes i).syncPut appId s.kv ok
    { s.setNode i put.2 with kv := put.1 }
  | .syncKeys i ok dropped now => s.setNode i ((s.nodes i).syncKeys appId s.kv ok dropped now)
  | .syncGet i ok => s.setNode i ((s.nodes i).syncGet config s.kv ok)
  | .syncFinish i => s.setNode i ((s.nodes i).syncFinish config)
  | .kvWrite key value => { s with kv := s.kv.insert (key, value) }
  | .kvDelete key => { s with kv := s.kv.remove key }

structure TimeWindow where
  start : ℚ
  length : ℚ
  length_nonneg : 0 ≤ length

namespace TimeWindow

/-- The end of a window, which belongs to it. -/
def stop (w : TimeWindow) : ℚ := w.start + w.length

def contains (w : TimeWindow) (now : ℚ) : Bool := decide (w.start ≤ now) && decide (now ≤ w.stop)

theorem contains_iff {w : TimeWindow} {now : ℚ} :
    w.contains now = true ↔ w.start ≤ now ∧ now ≤ w.stop := by
  simp [contains]

end TimeWindow

/-- A step is a request of the window that a node admits. -/
def admitsIn (w : TimeWindow) (i : ι) (s : RateCluster ι) : LimitAction ι → Bool
  | .request j now =>
    decide (j = i) && w.contains now && decide ((s.nodes i).bucket.lastRefill ≤ now) &&
      ((s.nodes i).checkRequest now).2
  | _ => false

/-- How many requests of a window a node admits in a run. -/
def nodeAdmitted (w : TimeWindow) (i : ι) : RateCluster ι → List (LimitAction ι) → Nat
  | _, [] => 0
  | s, a :: as => (admitsIn w i s a).toNat + nodeAdmitted w i (limitStep config appId s a) as

/-- The rate of a node at a request of its own in a window, and nothing at other steps. -/
def rateAt (w : TimeWindow) (i : ι) (s : RateCluster ι) : LimitAction ι → ℚ
  | .request j now => if j = i ∧ w.contains now = true then (s.nodes i).bucket.refillRate else 0
  | _ => 0

/-- The highest rate of a node at one of its requests in a window. -/
def peakRate (w : TimeWindow) (i : ι) : RateCluster ι → List (LimitAction ι) → ℚ
  | _, [] => 0
  | s, a :: as => max (rateAt w i s a) (peakRate w i (limitStep config appId s a) as)

/-- What the limit is divided by at a node after a step, if it was `n` before. -/
def shareStep (i : ι) (n : Nat) (s : RateCluster ι) : LimitAction ι → Nat
  | .syncFinish j =>
    match (s.nodes i).phase with
    | .reading _ [] nodeCount => if j = i then max nodeCount 1 else n
    | _ => n
  | _ => n

/-- What the limit is divided by at a node after a run, if it was `n` before. -/
def share (i : ι) : Nat → RateCluster ι → List (LimitAction ι) → Nat
  | n, _, [] => n
  | n, s, a :: as => share i (shareStep i n s a) (limitStep config appId s a) as

/-- What a bucket may still admit in a window, if it fills at `rate` at most. -/
def allowance (w : TimeWindow) (rate : ℚ) (b : TokenBucket ℚ) : ℚ :=
  if b.lastRefill < w.start then b.maxTokens + rate * w.length
  else if b.lastRefill ≤ w.stop then b.tokens + rate * (w.stop - b.lastRefill)
  else 0

variable {w : TimeWindow} {rate : ℚ}

theorem allowance_nonneg (hrate : 0 ≤ rate) (b : TokenBucket ℚ) : 0 ≤ allowance w rate b := by
  have htokens := b.tokens_nonneg
  have hmax := htokens.trans b.tokens_le
  grind [allowance, add_nonneg, mul_nonneg, w.length_nonneg]

theorem allowance_le (hrate : 0 ≤ rate) (b : TokenBucket ℚ) :
    allowance w rate b ≤ b.maxTokens + rate * w.length := by
  have hmax := b.tokens_nonneg.trans b.tokens_le
  unfold allowance
  split_ifs with hbefore hin
  · exact le_rfl
  · have hshort : w.stop - b.lastRefill ≤ w.length := by
      unfold TimeWindow.stop
      linarith
    have hgain := mul_le_mul_of_nonneg_left hshort hrate
    linarith [b.tokens_le]
  · exact add_nonneg hmax (mul_nonneg hrate w.length_nonneg)

variable {now : ℚ} {b : TokenBucket ℚ}

theorem allowance_request (hrate : b.refillRate ≤ rate) (hclock : b.lastRefill ≤ now)
    (hin : w.contains now = true) :
    ((b.tryAcquire now).2.toNat : ℚ) + allowance w rate (b.tryAcquire now).1 ≤
      allowance w rate b := by
  rcases TimeWindow.contains_iff.mp hin with ⟨hstart, hstop⟩
  rcases b.tryAcquire_fst now with ⟨hmax, -, hlast⟩
  have hnonneg : 0 ≤ rate := b.rate_nonneg.trans hrate
  -- What is admitted and what is left are the level together.
  have hlevel : ((b.tryAcquire now).2.toNat : ℚ) + (b.tryAcquire now).1.tokens = b.level now := by
    rw [b.tokens_tryAcquire]
    cases (b.tryAcquire now).2 with
    | true => simp
    | false =>
      simp
  have hafter : allowance w rate (b.tryAcquire now).1 =
      (b.tryAcquire now).1.tokens + rate * (w.stop - now) := by
    unfold allowance
    rw [hlast, if_neg (not_lt.mpr hstart), if_pos hstop]
  rw [hafter, ← add_assoc, hlevel]
  unfold allowance
  split_ifs with hbefore hbetween
  · -- The first use in the window finds a burst at most.
    have hfull := b.level_le now
    have hshort : w.stop - now ≤ w.length := by
      unfold TimeWindow.stop
      linarith
    have hgain := mul_le_mul_of_nonneg_left hshort hnonneg
    linarith
  · have hgain : (now - b.lastRefill) * b.refillRate ≤ (now - b.lastRefill) * rate :=
      mul_le_mul_of_nonneg_left hrate (sub_nonneg.mpr hclock)
    have hfill : b.level now ≤ b.tokens + (now - b.lastRefill) * b.refillRate := by
      refine (min_le_left _ _).trans (le_of_eq ?_)
      rw [max_eq_left (sub_nonneg.mpr hclock)]
    linarith
  · exact absurd (hclock.trans hstop) hbetween

theorem allowance_outside (hrate : 0 ≤ rate) (hclock : b.lastRefill ≤ now)
    (hout : w.contains now = false) :
    allowance w rate (b.tryAcquire now).1 ≤ allowance w rate b := by
  rcases b.tryAcquire_fst now with ⟨hmax, -, hlast⟩
  rcases lt_or_ge now w.start with hearly | hstart
  · unfold allowance
    rw [hlast, hmax, if_pos hearly, if_pos (hclock.trans_lt hearly)]
  · have hlate : w.stop < now := by
      by_contra hle
      rw [TimeWindow.contains_iff.mpr ⟨hstart, not_lt.mp hle⟩] at hout
      exact Bool.false_ne_true hout.symm
    have hover : allowance w rate (b.tryAcquire now).1 = 0 := by
      unfold allowance
      rw [hlast, if_neg (not_lt.mpr hstart), if_neg (not_le.mpr hlate)]
    rw [hover]
    exact allowance_nonneg hrate b

namespace DistributedRateLimiter

variable (l : DistributedRateLimiter)

theorem bucket_syncBegin (timestamp : Int) : (l.syncBegin timestamp).bucket = l.bucket := by
  unfold syncBegin
  split
  · rfl
  · rfl

theorem bucket_syncPut (kv : RateKv) (ok : Bool) : (l.syncPut appId kv ok).2.bucket = l.bucket := by
  unfold syncPut
  split
  · cases ok with
    | true | false => rfl
  · rfl

theorem bucket_syncKeys (kv : RateKv) (ok : Bool) (dropped : List String) (now : Int) :
    (l.syncKeys appId kv ok dropped now).bucket = l.bucket := by
  unfold syncKeys
  split
  · cases ok with
    | true | false => rfl
  · rfl

theorem bucket_syncGet (kv : RateKv) (ok : Bool) : (l.syncGet config kv ok).bucket = l.bucket := by
  unfold syncGet
  split
  · rfl
  · rfl

end DistributedRateLimiter

open DistributedRateLimiter

/-- A request of its own uses a bucket, the end of a sync sets its rate, and nothing else. -/
theorem bucket_step (s : RateCluster ι) (a : LimitAction ι) (i : ι) :
    (∃ now, a = .request i now ∧ (s.nodes i).bucket.lastRefill ≤ now ∧
        ((limitStep config appId s a).nodes i).bucket = ((s.nodes i).bucket.tryAcquire now).1) ∨
      (∃ clock n, a = .syncFinish i ∧ (s.nodes i).phase = .reading clock [] n ∧
        ((limitStep config appId s a).nodes i).bucket =
          (s.nodes i).bucket.setRate (config.fairShare (max n 1)) (config.fairShare_nonneg _)) ∨
      (((limitStep config appId s a).nodes i).bucket = (s.nodes i).bucket ∧
        (∀ now, a = .request i now → now < (s.nodes i).bucket.lastRefill) ∧
        (a = .syncFinish i → ∀ clock n, (s.nodes i).phase ≠ .reading clock [] n)) := by
  -- A node keeps its bucket if the one that is updated is another, or keeps its own.
  have hkeep : ∀ j l, l.bucket = (s.nodes j).bucket →
      ((s.setNode j l).nodes i).bucket = (s.nodes i).bucket := by
    intro j l hl
    by_cases hij : i = j
    · subst hij
      rw [s.nodes_setNode_self]
      exact hl
    · rw [s.nodes_setNode_of_ne hij]
  cases a with
  | request j now =>
    by_cases hij : j = i
    · subst hij
      rcases lt_or_ge now (s.nodes j).bucket.lastRefill with hclock | hclock
      · right; right
        grind [limitStep]
      · left
        refine ⟨now, rfl, hclock, ?_⟩
        rw [limitStep, if_neg (not_lt.mpr hclock), s.nodes_setNode_self]
        rfl
    · right; right
      refine ⟨?_, fun now' heq => ?_, nofun⟩
      · grind [limitStep, s.nodes_setNode_of_ne]
      · cases heq
        exact absurd rfl hij
  | setKvStore j => exact .inr (.inr ⟨hkeep j _ rfl, nofun, nofun⟩)
  | syncBegin j timestamp =>
    exact .inr (.inr ⟨hkeep j _ (bucket_syncBegin _ _), nofun, nofun⟩)
  | syncPut j ok =>
    exact .inr (.inr ⟨hkeep j _ (bucket_syncPut appId _ _ _), nofun, nofun⟩)
  | syncKeys j ok dropped now =>
    exact .inr (.inr ⟨hkeep j _ (bucket_syncKeys appId _ _ _ _ _), nofun, nofun⟩)
  | syncGet j ok =>
    exact .inr (.inr ⟨hkeep j _ (bucket_syncGet config _ _ _), nofun, nofun⟩)
  | syncFinish j =>
    by_cases hij : j = i
    · subst hij
      by_cases hdone : ∃ clock n, (s.nodes j).phase = .reading clock [] n
      · rcases hdone with ⟨clock, n, hphase⟩
        right; left
        refine ⟨clock, n, rfl, hphase, ?_⟩
        rw [limitStep, s.nodes_setNode_self, syncFinish, hphase]
      · right; right
        have hnone : ∀ clock n, (s.nodes j).phase ≠ .reading clock [] n :=
          fun clock n hphase => hdone ⟨clock, n, hphase⟩
        refine ⟨?_, nofun, fun _ => hnone⟩
        rw [limitStep, s.nodes_setNode_self]
        unfold syncFinish
        split
        · rename_i hphase
          exact absurd hphase (hnone _ _)
        · rfl
    · right; right
      grind [limitStep, s.nodes_setNode_of_ne]
  | kvWrite key value | kvDelete key => exact .inr (.inr ⟨rfl, nofun, nofun⟩)

theorem allowance_step (w : TimeWindow) {rate : ℚ} (i : ι) (s : RateCluster ι)
    (a : LimitAction ι) (hnonneg : 0 ≤ rate) (hrate : rateAt w i s a ≤ rate) :
    ((admitsIn w i s a).toNat : ℚ) +
        allowance w rate ((limitStep config appId s a).nodes i).bucket ≤
      allowance w rate (s.nodes i).bucket := by
  rcases bucket_step config appId s a i with
    ⟨now, rfl, hclock, hbucket⟩ | ⟨clock, n, rfl, -, hbucket⟩ | ⟨hbucket, hearly, -⟩
  · rw [hbucket]
    simp only [rateAt, true_and] at hrate
    cases hin : w.contains now with
    | true =>
      rw [hin, if_pos rfl] at hrate
      simp only [admitsIn, hin, hclock, decide_true, Bool.true_and]
      exact allowance_request hrate hclock hin
    | false =>
      simp only [admitsIn, hin, Bool.and_false, Bool.false_and, Bool.toNat_false, Nat.cast_zero,
        zero_add]
      exact allowance_outside hnonneg hclock hin
  · rw [hbucket]
    simp only [admitsIn, Bool.toNat_false, Nat.cast_zero, zero_add]
    exact le_rfl
  · have hnone : admitsIn w i s a = false := by
      cases a with
      | request j now =>
        grind [admitsIn]
      | _ => rfl
    rw [hbucket, hnone, Bool.toNat_false, Nat.cast_zero, zero_add]

-- The induction is on the run. What is left of the allowance after the first step bounds
-- what the rest of it admits.
theorem nodeAdmitted_le_allowance (w : TimeWindow) {rate : ℚ} (i : ι) (hnonneg : 0 ≤ rate)
    (as : List (LimitAction ι)) (s : RateCluster ι)
    (hpeak : peakRate config appId w i s as ≤ rate) :
    (nodeAdmitted config appId w i s as : ℚ) ≤ allowance w rate (s.nodes i).bucket := by
  induction as generalizing s with
  | nil =>
    rw [nodeAdmitted, Nat.cast_zero]
    exact allowance_nonneg hnonneg _
  | cons a as ih =>
    have hstep := allowance_step config appId w i s a hnonneg ((le_max_left _ _).trans hpeak)
    have hrest := ih (limitStep config appId s a) ((le_max_right _ _).trans hpeak)
    rw [nodeAdmitted, Nat.cast_add]
    linarith

theorem peakRate_nonneg (w : TimeWindow) (i : ι) (as : List (LimitAction ι))
    (s : RateCluster ι) : 0 ≤ peakRate config appId w i s as := by
  induction as generalizing s with
  | nil => exact le_refl 0
  | cons a as ih => exact (ih _).trans (le_max_right _ _)

theorem nodeAdmitted_le (w : TimeWindow) (i : ι) (as : List (LimitAction ι)) (s : RateCluster ι) :
    (nodeAdmitted config appId w i s as : ℚ) ≤
      (s.nodes i).bucket.maxTokens + peakRate config appId w i s as * w.length :=
  have hnonneg := peakRate_nonneg config appId w i as s
  (nodeAdmitted_le_allowance config appId w i hnonneg as s le_rfl).trans
    (allowance_le hnonneg _)

theorem refillRate_step (i : ι) (n : Nat) (s : RateCluster ι) (a : LimitAction ι)
    (h : (s.nodes i).bucket.refillRate = config.fairShare n) :
    ((limitStep config appId s a).nodes i).bucket.refillRate =
      config.fairShare (shareStep i n s a) := by
  rcases bucket_step config appId s a i with
    ⟨now, rfl, -, hbucket⟩ | ⟨clock, count, rfl, hphase, hbucket⟩ | ⟨hbucket, -, hopen⟩
  · rw [hbucket, ((s.nodes i).bucket.tryAcquire_fst now).2.1]
    exact h
  · simp only [hbucket, shareStep, hphase, if_true]
    rfl
  · have hsame : shareStep i n s a = n := by
      cases a with
      | syncFinish j =>
        simp only [shareStep]
        split
        · rename_i hphase
          exact if_neg (fun hij => hopen (congrArg LimitAction.syncFinish hij) _ _ hphase)
        · rfl
      | _ => rfl
    rw [hbucket, hsame]
    exact h

theorem refillRate_run (i : ι) (as : List (LimitAction ι)) (n : Nat) (s : RateCluster ι)
    (h : (s.nodes i).bucket.refillRate = config.fairShare n) :
    ((runAll (limitStep config appId) s as).nodes i).bucket.refillRate =
      config.fairShare (share config appId i n s as) := by
  induction as generalizing n s with
  | nil => exact h
  | cons a as ih => exact ih _ _ (refillRate_step config appId i n s a h)

/-- **The nodes together** admit a burst each in a window, and what comes in at the sum of
    the highest rates they have at their requests there. A rate is the limit divided by
    three, until a sync is completed, and by the fresh entries the last completed sync has
    counted from then on. If none of them is above an equal share, the whole is bounded by
    the limit. -/
theorem cluster_admits [Fintype ι] (kv : RateKv) (nodeId : ι → String) (started : ι → ℚ)
    (as : List (LimitAction ι)) (w : TimeWindow) :
    let s := RateCluster.new config kv nodeId started
    let N := Fintype.card ι
    ((∑ i, nodeAdmitted config appId w i s as : ℕ) : ℚ) ≤
        N * config.perNodeBurst + (∑ i, peakRate config appId w i s as) * w.length ∧
      (∀ i, ((runAll (limitStep config appId) s as).nodes i).bucket.refillRate =
        config.fairShare (share config appId i 3 s as)) ∧
      ((∀ i, peakRate config appId w i s as ≤ config.fairShare N) →
        ((∑ i, nodeAdmitted config appId w i s as : ℕ) : ℚ) ≤
          N * config.perNodeBurst + config.globalRps * w.length) := by
  intro s N
  have hsum : ((∑ i, nodeAdmitted config appId w i s as : ℕ) : ℚ) ≤
      N * config.perNodeBurst + (∑ i, peakRate config appId w i s as) * w.length := by
    rw [Nat.cast_sum]
    calc ∑ i, (nodeAdmitted config appId w i s as : ℚ)
        ≤ ∑ i, ((config.perNodeBurst : ℚ) + peakRate config appId w i s as * w.length) :=
          Finset.sum_le_sum (fun i _ => nodeAdmitted_le config appId w i as s)
      _ = N * config.perNodeBurst + (∑ i, peakRate config appId w i s as) * w.length := by
          rw [Finset.sum_add_distrib, Finset.sum_const, Finset.card_univ, nsmul_eq_mul,
            Finset.sum_mul]
  refine ⟨hsum, fun i => refillRate_run config appId i as 3 s rfl, fun hshare => ?_⟩
  have hrates : ∑ i, peakRate config appId w i s as ≤ config.globalRps := by
    calc ∑ i, peakRate config appId w i s as
        ≤ ∑ _i : ι, config.fairShare N := Finset.sum_le_sum (fun i _ => hshare i)
      _ = N * (config.globalRps / N) := by
          rw [Finset.sum_const, Finset.card_univ, nsmul_eq_mul]
          rfl
      _ ≤ config.globalRps := by
          rcases Nat.eq_zero_or_pos N with hN | hN
          · rw [hN, Nat.cast_zero, zero_mul]
            exact Nat.cast_nonneg _
          · exact le_of_eq (mul_div_cancel₀ _ (Nat.cast_ne_zero.mpr hN.ne'))
  have hgain := mul_le_mul_of_nonneg_right hrates w.length_nonneg
  linarith

end Cluster

def threePerSecond : DistributedRateLimitConfig := ⟨3, 1, 100⟩

def firstSecond : TimeWindow := ⟨0, 1, zero_le_one⟩

/-- Three nodes that have just started, and never sync, take equal shares. -/
theorem three_nodes_within :
    let s : RateCluster (Fin 3) :=
      RateCluster.new threePerSecond OrdTable.empty (fun i => toString i.val) (fun _ => 0)
    let as := [.request 0 0, .request 1 0, .request 2 0, .request 0 1]
    ((∑ i, nodeAdmitted threePerSecond "api:v1" firstSecond i s as : ℕ) : ℚ) ≤
      (3 : ℕ) * threePerSecond.perNodeBurst + threePerSecond.globalRps * firstSecond.length :=
  (cluster_admits threePerSecond "api:v1" OrdTable.empty (fun i : Fin 3 => toString i.val)
    (fun _ => 0) [.request 0 0, .request 1 0, .request 2 0, .request 0 1] firstSecond).2.2
    (by decide +kernel)

def eightRequests : List (LimitAction (Fin 4)) :=
  [.request 0 0, .request 1 0, .request 2 0, .request 3 0,
    .request 0 1, .request 1 1, .request 2 1, .request 3 1]

/-- Four fresh nodes admit eight requests within a second, where the bound is seven. -/
theorem four_nodes_admit_more :
    let s : RateCluster (Fin 4) :=
      RateCluster.new threePerSecond OrdTable.empty (fun i => toString i.val) (fun _ => 0)
    ∑ i, nodeAdmitted threePerSecond "api:v1" firstSecond i s eightRequests = 8 ∧
      (4 : ℚ) * threePerSecond.perNodeBurst +
        threePerSecond.globalRps * firstSecond.length < 8 := by
  decide +kernel

end WasmCloud
