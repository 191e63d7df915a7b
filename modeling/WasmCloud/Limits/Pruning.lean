import WasmCloud.Limits.Quota

/-!
# Pruning of Idle Buckets

Both limiters remove the buckets of addresses that were idle for a while, and make a full one
when the address is back. This goes unnoticed if a bucket that is removed was full again. At
the gateway a bucket fills up in a second, as its rate is its maximum. At the admin API the two
are set apart, and a burst may be more than comes in while the bucket has to be idle.
-/

namespace WasmCloud

open Function

/-- What `retain` leaves of a bucket: one that was used less than `maxAge` ago. -/
def retainFresh (maxAge now : ℚ) (slot : Option (TokenBucket ℚ)) : Option (TokenBucket ℚ) :=
  slot.filter (fun b => decide (max (now - b.lastRefill) 0 < maxAge))

def LimiterState.pruneStaleIpBuckets (maxAge : ℚ) (s : LimiterState) (now : ℚ) : LimiterState :=
  { s with ipBuckets := fun key => retainFresh maxAge now (s.ipBuckets key) }

/-- `AdminRateLimiter`. All of its buckets have its own rate and maximum. -/
structure AdminRateLimiter where
  refillRate : Nat
  maxTokens : Nat
  buckets : IpAddr → Option (TokenBucket ℚ)

namespace AdminRateLimiter

def new (ratePerSecond burst : Nat) : AdminRateLimiter := ⟨ratePerSecond, burst, fun _ => none⟩

/-- A token from the bucket of an address. -/
def acquire (l : AdminRateLimiter) (ip : IpAddr) (now : ℚ) : TokenBucket ℚ × Bool :=
  acquireSlot _ _ (quota_nonneg l.refillRate) (quota_nonneg l.maxTokens) (l.buckets ip) now

def allow (l : AdminRateLimiter) (ip : Option IpAddr) (now : ℚ) : AdminRateLimiter × Bool :=
  match ip with
  -- Nobody knows who asks.
  | none => (l, true)
  | some ip =>
    if 1000000 ≤ l.maxTokens then (l, true)
    else
      ({ l with buckets := update l.buckets ip (some (l.acquire ip now).1) }, (l.acquire ip now).2)

def pruneStale (maxAge : ℚ) (l : AdminRateLimiter) (now : ℚ) : AdminRateLimiter :=
  { l with buckets := fun ip => retainFresh maxAge now (l.buckets ip) }

end AdminRateLimiter

inductive PruneOp (R : Type) where
  | call (r : R) (now : ℚ)
  | prune (now : ℚ)

def PruneOp.now {R : Type} : PruneOp R → ℚ
  | .call _ now => now
  | .prune now => now

section Traces

variable {S R : Type} {call : S → R → ℚ → S × Bool} {prune : S → ℚ → S}

def answers (call : S → R → ℚ → S × Bool) (prune : S → ℚ → S) : S → List (PruneOp R) → List Bool
  | _, [] => []
  | s, .call r now :: ops => (call s r now).2 :: answers call prune (call s r now).1 ops
  | s, .prune now :: ops => answers call prune (prune s now) ops

/-- The answers are those of a limiter that is never pruned. -/
def Invisible (call : S → R → ℚ → S × Bool) (prune : S → ℚ → S) (s : S) : Prop :=
  ∀ start ops, InTime PruneOp.now start ops →
    answers call prune s ops = answers call (fun s _ => s) s ops

/-- A relation between a limiter and one that is not pruned. -/
structure Unnoticed (call : S → R → ℚ → S × Bool) (prune : S → ℚ → S) (rel : ℚ → S → S → Prop) :
    Prop where
  later : ∀ {now later s t}, rel now s t → now ≤ later → rel later s t
  call : ∀ {r now s t}, rel now s t →
    (call s r now).2 = (call t r now).2 ∧ rel now (call s r now).1 (call t r now).1
  prune : ∀ {now s t}, rel now s t → rel now (prune s now) t

theorem Unnoticed.invisible {rel : ℚ → S → S → Prop} (h : Unnoticed call prune rel) {s : S}
    (hself : ∀ start, rel start s s) : Invisible call prune s := by
  suffices hrun : ∀ ops start s t, InTime PruneOp.now start ops → rel start s t →
      answers call prune s ops = answers call (fun s _ => s) t ops from
    fun start ops htimely => hrun ops start s s htimely (hself start)
  intro ops
  induction ops with
  | nil => exact fun _ _ _ _ _ => rfl
  | cons op ops ih =>
    intro start s t htimely hrel
    have hnow := h.later hrel htimely.1
    cases op with
    | call r now =>
      obtain ⟨hanswer, hnext⟩ := h.call (r := r) hnow
      exact congrArg₂ _ hanswer (ih now _ _ htimely.2 hnext)
    | prune now => exact ih now _ _ htimely.2 (h.prune hnow)

end Traces

variable {rate burst maxAge now : ℚ} {slot : Option (TokenBucket ℚ)}

theorem suits_retainFresh (h : Suits rate burst now slot) :
    Suits rate burst now (retainFresh maxAge now slot) :=
  fun b hb => h b (Option.mem_filter_iff.mp hb).1

theorem slotLevel_retainFresh (hrate : 0 ≤ rate) (h : Suits rate burst now slot)
    (hfull : burst ≤ maxAge * rate) :
    slotLevel burst (retainFresh maxAge now slot) now = slotLevel burst slot now := by
  cases slot with
  | none => rfl
  | some b =>
    by_cases hfresh : max (now - b.lastRefill) 0 < maxAge
    · rw [retainFresh, Option.filter_some, if_pos (decide_eq_true hfresh)]
    · rw [retainFresh, Option.filter_some, if_neg (by simpa using hfresh)]
      obtain ⟨rfl, rfl, -⟩ := h b rfl
      have hgain := mul_le_mul_of_nonneg_right (not_lt.mp hfresh) hrate
      refine (min_eq_right ?_).symm
      change b.maxTokens ≤ b.tokens + max (now - b.lastRefill) 0 * b.refillRate
      linarith [b.tokens_nonneg]

def gatewayCall (s : LimiterState) (r : String × IpAddr) (now : ℚ) : LimiterState × Bool :=
  ((s.checkRequest ⟨r.1, r.2, now⟩).1, (s.checkRequest ⟨r.1, r.2, now⟩).2.toBool)

theorem unnoticed_gateway (hage : 1 ≤ maxAge) :
    Unnoticed gatewayCall (LimiterState.pruneStaleIpBuckets maxAge) Alike where
  later h hle := h.later hle
  call {r now s t} h := by
    obtain ⟨hanswer, hnext⟩ := alike_check (r := ⟨r.1, r.2, now⟩) h
    exact ⟨congrArg Except.toBool hanswer.symm, hnext⟩
  prune {now s t} h := by
    refine ⟨h.sameLimits, ⟨h.fits.apps, fun key => suits_retainFresh (h.fits.ips key)⟩,
      h.fitsToo, h.apps, fun key => (h.ips key).trans ?_⟩
    have hlimit : (0 : ℚ) ≤ (s.limiter.getAppConfig key.1).perIpLimit := quota_nonneg _
    exact (slotLevel_retainFresh hlimit (h.fits.ips key) (le_mul_of_one_le_left hlimit hage)).symm

/-- The buckets have the same levels. -/
structure SameLevels (rate burst : Nat) (now : ℚ) (l l' : AdminRateLimiter) : Prop where
  limits : l.refillRate = rate ∧ l.maxTokens = burst ∧ l'.refillRate = rate ∧ l'.maxTokens = burst
  fits : ∀ ip, Suits (rate : ℚ) (burst : ℚ) now (l.buckets ip) ∧
    Suits (rate : ℚ) (burst : ℚ) now (l'.buckets ip)
  levels : ∀ ip, slotLevel (burst : ℚ) (l.buckets ip) now =
    slotLevel (burst : ℚ) (l'.buckets ip) now

theorem unnoticed_admin {rate burst : Nat} (hfull : (burst : ℚ) ≤ maxAge * rate) :
    Unnoticed AdminRateLimiter.allow (AdminRateLimiter.pruneStale maxAge)
      (SameLevels rate burst) where
  later h hle := by
    refine ⟨h.limits, fun ip => ⟨(h.fits ip).1.mono hle, (h.fits ip).2.mono hle⟩, fun ip => ?_⟩
    rw [slotLevel_advance (quota_nonneg rate) (h.fits ip).1 hle,
      slotLevel_advance (quota_nonneg rate) (h.fits ip).2 hle, h.levels]
  call {ip now l l'} h := by
    obtain ⟨rfl, rfl, hrate, hburst⟩ := h.limits
    cases ip with
    | none => exact ⟨rfl, h⟩
    | some ip =>
      unfold AdminRateLimiter.allow
      simp only [hburst]
      split_ifs with hdisabled
      · exact ⟨rfl, h⟩
      · have hacquire : l'.acquire ip now =
            acquireSlot _ _ (quota_nonneg l.refillRate) (quota_nonneg l.maxTokens)
              (l'.buckets ip) now := by
          simp only [AdminRateLimiter.acquire, hrate, hburst]
        rw [hacquire]
        refine ⟨?_, ⟨rfl, rfl, hrate, rfl⟩, fun other => ?_, fun other => ?_⟩
        · rw [AdminRateLimiter.acquire, acquireSlot_snd, acquireSlot_snd, h.levels]
        · by_cases hother : other = ip
          · subst hother
            simp only [update_self]
            exact ⟨suits_acquireSlot (h.fits other).1, suits_acquireSlot (h.fits other).2⟩
          · simp only [update_of_ne hother]
            exact h.fits other
        · grind [AdminRateLimiter.acquire, slotLevel_acquireSlot, h.levels]
  prune {now l l'} h := by
    refine ⟨h.limits, fun ip => ⟨suits_retainFresh (h.fits ip).1, (h.fits ip).2⟩, fun ip => ?_⟩
    exact (slotLevel_retainFresh (quota_nonneg rate) (h.fits ip).1 hfull).trans (h.levels ip)

theorem unnoticed_disabled {burst : Nat} (hdisabled : 1000000 ≤ burst) :
    Unnoticed AdminRateLimiter.allow (AdminRateLimiter.pruneStale maxAge)
      (fun _ l l' => l.maxTokens = burst ∧ l'.maxTokens = burst) where
  later h _ := h
  call {ip now l l'} h := by
    cases ip with
    | none => exact ⟨rfl, h⟩
    | some ip =>
      have hl : 1000000 ≤ l.maxTokens := hdisabled.trans h.1.ge
      have hl' : 1000000 ≤ l'.maxTokens := hdisabled.trans h.2.ge
      simp only [AdminRateLimiter.allow, if_pos hl, if_pos hl']
      exact ⟨trivial, h⟩
  prune h := h

/-- The limiter, with the level of the one address that is used. -/
structure LevelAt (rate burst : Nat) (now : ℚ) (level : Nat) (l : AdminRateLimiter) : Prop where
  rate_eq : l.refillRate = rate
  burst_eq : l.maxTokens = burst
  fits : Suits (rate : ℚ) burst now (l.buckets (.v4 1))
  level : slotLevel (burst : ℚ) (l.buckets (.v4 1)) now = level

variable {r b level : Nat} {l : AdminRateLimiter}

theorem LevelAt.allow (h : LevelAt r b now level l) (hb : b < 1000000) :
    (l.allow (some (.v4 1)) now).2 = decide (1 ≤ level) ∧
      (1 ≤ level → LevelAt r b now (level - 1) (l.allow (some (.v4 1)) now).1) := by
  obtain ⟨rfl, rfl, hfits, hlevel⟩ := h
  simp only [AdminRateLimiter.allow, if_neg (not_le.mpr hb)]
  refine ⟨?_, fun hsome => ⟨rfl, rfl, ?_, ?_⟩⟩
  · rw [AdminRateLimiter.acquire, acquireSlot_snd, hlevel]
    exact decide_eq_decide.mpr Nat.one_le_cast
  · simp only [update_self]
    exact suits_acquireSlot hfits
  · have hcast : (1 : ℚ) ≤ level := by exact_mod_cast hsome
    simp only [update_self]
    rw [AdminRateLimiter.acquire, slotLevel_acquireSlot, hlevel, if_pos hcast,
      Nat.cast_sub hsome, Nat.cast_one]

def callsAt (count : Nat) (now : ℚ) : List (PruneOp (Option IpAddr)) :=
  List.replicate count (.call (some (.v4 1)) now)

theorem LevelAt.drain (hb : b < 1000000) (count : Nat) {level : Nat} {l : AdminRateLimiter}
    (h : LevelAt r b now (count + level) l) :
    ∃ l', LevelAt r b now level l' ∧ ∀ prune ops,
      answers AdminRateLimiter.allow prune l (callsAt count now ++ ops) =
        List.replicate count true ++ answers AdminRateLimiter.allow prune l' ops := by
  induction count generalizing l with
  | zero => exact ⟨l, Nat.zero_add level ▸ h, fun _ _ => rfl⟩
  | succ count ih =>
    obtain ⟨hanswer, hnext⟩ := h.allow hb
    have hlevel : count + 1 + level - 1 = count + level := by omega
    obtain ⟨l', hl', hrest⟩ := ih (hlevel ▸ hnext (by omega))
    refine ⟨l', hl', fun prune ops => ?_⟩
    rw [decide_eq_true (by omega)] at hanswer
    exact congrArg₂ _ hanswer (hrest prune ops)

theorem inTime_callsAt {ops : List (PruneOp (Option IpAddr))} (hops : InTime PruneOp.now now ops)
    (count : Nat) : InTime PruneOp.now now (callsAt count now ++ ops) := by
  induction count with
  | zero => exact hops
  | succ count ih => exact ⟨le_refl now, ih⟩

/-- A burst, a pruning after an idle time, and one call more than what has come in. -/
def burstTwice (rate burst : Nat) : List (PruneOp (Option IpAddr)) :=
  callsAt burst 0 ++ .prune 300 :: (callsAt (300 * rate) 300 ++ callsAt 1 300)

theorem not_invisible (hb : b < 1000000) (hmore : 300 * r < b) :
    ¬ Invisible AdminRateLimiter.allow (AdminRateLimiter.pruneStale 300)
      (AdminRateLimiter.new r b) := by
  intro h
  have htimely : InTime PruneOp.now 0 (burstTwice r b) := by
    have hone : InTime PruneOp.now 300 (callsAt 1 300) := ⟨le_refl _, trivial⟩
    have hlater : InTime PruneOp.now 0 (.prune 300 :: (callsAt (300 * r) 300 ++ callsAt 1 300)) :=
      ⟨by norm_num [PruneOp.now], inTime_callsAt hone (300 * r)⟩
    exact inTime_callsAt hlater b
  have hsame := h 0 (burstTwice r b) htimely
  have hstart : LevelAt r b 0 (b + 0) (AdminRateLimiter.new r b) :=
    ⟨rfl, rfl, suits_none _ _ _, rfl⟩
  obtain ⟨l, hl, hfirst⟩ := hstart.drain hb
  have hspan : (0 : ℚ) ≤ 300 := by norm_num
  -- Without pruning the bucket holds what has come in.
  have hkept : LevelAt r b 300 (300 * r + 0) l := by
    refine ⟨hl.rate_eq, hl.burst_eq, hl.fits.mono hspan, ?_⟩
    have hcast : (300 * r : ℚ) ≤ b := by exact_mod_cast hmore.le
    rw [slotLevel_advance (quota_nonneg r) hl.fits hspan, hl.level]
    push_cast
    rw [zero_add, sub_zero, add_zero, min_eq_left hcast]
  -- With pruning it is gone, and a new one is full.
  have hpruned : LevelAt r b 300 (300 * r + (b - 300 * r)) (l.pruneStale 300 300) := by
    have hnone : retainFresh 300 300 (l.buckets (.v4 1)) = none := by
      rw [retainFresh, Option.filter_eq_none_iff]
      intro bucket hbucket
      have hlast := (hl.fits bucket hbucket).2.2
      simp only [decide_eq_true_eq, not_lt]
      exact le_max_of_le_left (by linarith)
    refine ⟨hl.rate_eq, hl.burst_eq, suits_retainFresh (hl.fits.mono hspan), ?_⟩
    rw [Nat.add_sub_cancel' hmore.le]
    exact congrArg (fun slot => slotLevel (b : ℚ) slot 300) hnone
  obtain ⟨k, hk, hkeptRun⟩ := hkept.drain hb
  obtain ⟨p, hp, hprunedRun⟩ := hpruned.drain hb
  rw [burstTwice, hfirst, hfirst, answers, answers, hkeptRun, hprunedRun] at hsame
  have hlast := List.append_cancel_left (List.append_cancel_left hsame)
  have hanswers := (List.cons.inj hlast).1
  rw [(hk.allow hb).1, (hp.allow hb).1, decide_eq_true (by omega)] at hanswers
  nomatch hanswers

/-- Pruning is never noticed at the gateway, and at the admin API exactly if the limiter is
    switched off or a bucket fills up before it counts as stale. -/
theorem pruning_invisible_iff (rate burst : Nat) :
    ((∀ limiter, Invisible gatewayCall (LimiterState.pruneStaleIpBuckets 300)
          (LimiterState.new limiter)) ∧
        Invisible AdminRateLimiter.allow (AdminRateLimiter.pruneStale 300)
          (AdminRateLimiter.new rate burst)) ↔
      1000000 ≤ burst ∨ burst ≤ 300 * rate := by
  constructor
  · rintro ⟨-, hadmin⟩
    by_contra hnot
    obtain ⟨hb, hmore⟩ := not_or.mp hnot
    exact not_invisible (not_le.mp hb) (not_le.mp hmore) hadmin
  · intro hlimits
    constructor
    · intro limiter
      exact (unnoticed_gateway (by norm_num)).invisible
        fun start => ⟨rfl, bucketsFit_new limiter start, bucketsFit_new limiter start,
          fun _ => rfl, fun _ => rfl⟩
    · rcases hlimits with hdisabled | hfull
      · exact (unnoticed_disabled hdisabled).invisible fun _ => ⟨rfl, rfl⟩
      · have hcast : (burst : ℚ) ≤ 300 * rate := by exact_mod_cast hfull
        exact (unnoticed_admin hcast).invisible fun start =>
          ⟨⟨rfl, rfl, rfl, rfl⟩, fun _ => ⟨suits_none _ _ _, suits_none _ _ _⟩, fun _ => rfl⟩

/-- A burst of one, and a rate of nothing: the second call is admitted if the bucket was
    pruned, and refused otherwise. -/
theorem pruning_refills :
    answers AdminRateLimiter.allow (AdminRateLimiter.pruneStale 300) (AdminRateLimiter.new 0 1)
        (burstTwice 0 1) = [true, true] ∧
      answers AdminRateLimiter.allow (fun l _ => l) (AdminRateLimiter.new 0 1)
        (burstTwice 0 1) = [true, false] := by
  decide +kernel

end WasmCloud
