import Mathlib.Algebra.Order.Field.Rat
import Mathlib.Data.Rat.Floor
import WasmCloud.Lib.TokenBucket
import WasmCloud.Node.Policy

/-!
# Quotas of Applications and of Clients

A request takes a token from the bucket of its application, and then one from the bucket
its address has there. A request that finds the second bucket empty is rejected, and the
token it took from the first is gone.

The limiter is stated for any kind of buckets. The source's count in `f64`, and `Rounding` is
what is used of that arithmetic: every result is rounded, and rounding keeps the order and the
integers that a limit can be. The buckets of `Lib.TokenBucket` count exactly. Where a
result depends on sums being exact, it is about these.

With rounded sums a request that is left out may change every later sum, unless the buckets
are full again in between.

## Main definitions

* `LimiterOf.checkWith`: The check of a request, with any kind of buckets.
* `LimiterState.checkRequest`: The check with exact buckets.
* `Rounding.acquire`: A token from a bucket whose sums are rounded.
* `Recovered`: After a request that is left out the buckets it has used fill up.

## Theorems

* `alike_check`: Buckets of the same levels give the same answers.
* `Rounding.acquire_of_ready`: A bucket that had time to fill up is as good as a new one.
* `ip_denials_harmless`: Requests rejected for their address do not matter if buckets recover.
-/

namespace WasmCloud

open Function

inductive RateLimitDenied where
  | appLimitExceeded (appId : String) (limit : Nat)
  | ipLimitExceeded (ip : IpAddr) (limit : Nat)
  deriving DecidableEq, Repr

/-- A request, with the time it is checked at in seconds. -/
structure ClientRequest where
  appId : String
  sourceIp : IpAddr
  now : ℚ
  deriving DecidableEq

/-- `RateLimiter` with its buckets. -/
structure LimiterOf (B : Type) where
  limiter : RateLimiter
  appBuckets : String → Option B
  ipBuckets : String × IpAddr → Option B

/-- How a token is taken: at a rate and a burst, from a bucket that may not exist yet. -/
abbrev Acquire (B : Type) := Nat → Nat → Option B → ℚ → B × Bool

namespace LimiterOf

variable {B : Type}

def new (limiter : RateLimiter) : LimiterOf B := ⟨limiter, fun _ => none, fun _ => none⟩

/-- `check_request`. -/
def checkWith (acquire : Acquire B) (s : LimiterOf B) (r : ClientRequest) :
    LimiterOf B × Except RateLimitDenied Unit :=
  let config := s.limiter.getAppConfig r.appId
  let app := acquire config.requestsPerSecond config.burstCapacity (s.appBuckets r.appId) r.now
  let s' := { s with appBuckets := update s.appBuckets r.appId (some app.1) }
  if app.2 then
    let ip := acquire config.perIpLimit config.perIpLimit (s'.ipBuckets (r.appId, r.sourceIp)) r.now
    -- The token of the application is not given back.
    let s'' := { s' with
      ipBuckets := update s'.ipBuckets (r.appId, r.sourceIp) (some ip.1) }
    if ip.2 then (s'', .ok ())
    else (s'', .error (.ipLimitExceeded r.sourceIp config.perIpLimit))
  else (s', .error (.appLimitExceeded r.appId config.requestsPerSecond))

/-- What becomes of the requests of a trace. -/
def decisions (acquire : Acquire B) :
    LimiterOf B → List ClientRequest → List (Except RateLimitDenied Unit)
  | _, [] => []
  | s, r :: trace =>
    (s.checkWith acquire r).2 :: decisions acquire (s.checkWith acquire r).1 trace

end LimiterOf

abbrev LimiterState := LimiterOf (TokenBucket ℚ)

theorem quota_nonneg (n : Nat) : (0 : ℚ) ≤ n := Nat.cast_nonneg n

namespace LimiterState

def new (limiter : RateLimiter) : LimiterState := ⟨limiter, fun _ => none, fun _ => none⟩

/-- A token from the bucket of an application. -/
def acquireApp (s : LimiterState) (r : ClientRequest) : TokenBucket ℚ × Bool :=
  acquireSlot _ _ (quota_nonneg (s.limiter.getAppConfig r.appId).requestsPerSecond)
    (quota_nonneg (s.limiter.getAppConfig r.appId).burstCapacity) (s.appBuckets r.appId) r.now

/-- A token from the bucket of an address at an application. -/
def acquireIp (s : LimiterState) (r : ClientRequest) : TokenBucket ℚ × Bool :=
  acquireSlot _ _ (quota_nonneg (s.limiter.getAppConfig r.appId).perIpLimit)
    (quota_nonneg (s.limiter.getAppConfig r.appId).perIpLimit)
    (s.ipBuckets (r.appId, r.sourceIp)) r.now

def checkRequest (s : LimiterState) (r : ClientRequest) :
    LimiterState × Except RateLimitDenied Unit :=
  s.checkWith (fun rate burst => acquireSlot _ _ (quota_nonneg rate) (quota_nonneg burst)) r

/-- The most tokens an application's bucket holds. -/
def burst (s : LimiterState) (appId : String) : ℚ := (s.limiter.getAppConfig appId).burstCapacity

/-- The tokens in the bucket of an application at a time. -/
def appLevel (s : LimiterState) (appId : String) (now : ℚ) : ℚ :=
  slotLevel (s.burst appId) (s.appBuckets appId) now

/-- The tokens in the bucket of an address at a time. -/
def ipLevel (s : LimiterState) (key : String × IpAddr) (now : ℚ) : ℚ :=
  slotLevel ((s.limiter.getAppConfig key.1).perIpLimit : ℚ) (s.ipBuckets key) now

end LimiterState

namespace LimiterState

variable (s : LimiterState) (r : ClientRequest)

/-- The application's bucket has been used. -/
def asked : LimiterState :=
  { s with appBuckets := update s.appBuckets r.appId (some (s.acquireApp r).1) }

def spent : LimiterState :=
  { s.asked r with
    ipBuckets := update s.ipBuckets (r.appId, r.sourceIp) (some (s.acquireIp r).1) }

variable {s r}

theorem checkRequest_app (happ : s.appLevel r.appId r.now < 1) :
    s.checkRequest r = (s.asked r, .error (.appLimitExceeded r.appId
      (s.limiter.getAppConfig r.appId).requestsPerSecond)) := by
  have happ : (s.acquireApp r).2 = false := by
    rw [acquireApp, acquireSlot_snd]
    exact decide_eq_false (not_le.mpr happ)
  change (if (s.acquireApp r).2 then _ else _) = _
  simp only [happ, Bool.false_eq_true, if_false]
  rfl

theorem checkRequest_asked (happ : 1 ≤ s.appLevel r.appId r.now) :
    s.checkRequest r = (s.spent r, if 1 ≤ s.ipLevel (r.appId, r.sourceIp) r.now then .ok ()
      else .error (.ipLimitExceeded r.sourceIp (s.limiter.getAppConfig r.appId).perIpLimit)) := by
  have happ : (s.acquireApp r).2 = true := by
    rw [acquireApp, acquireSlot_snd]
    exact decide_eq_true happ
  have hip : ((s.asked r).acquireIp r).2 =
      decide (1 ≤ s.ipLevel (r.appId, r.sourceIp) r.now) := by
    rw [acquireIp, acquireSlot_snd]
    rfl
  change (if (s.acquireApp r).2 then _ else _) = _
  simp only [happ, if_true]
  change (if ((s.asked r).acquireIp r).2 then _ else _) = _
  simp only [hip, decide_eq_true_eq]
  split <;> rfl

theorem appLevel_asked (appId : String) :
    (s.asked r).appLevel appId r.now = s.appLevel appId r.now -
      if appId = r.appId ∧ 1 ≤ s.appLevel r.appId r.now then 1 else 0 := by
  by_cases h : appId = r.appId
  · subst h
    have hslot : (s.asked r).appBuckets r.appId = some (s.acquireApp r).1 :=
      update_self _ _ _
    simp only [true_and]
    rw [appLevel, hslot]
    exact slotLevel_acquireSlot _ _
  · have hslot : (s.asked r).appBuckets appId = s.appBuckets appId :=
      update_of_ne h _ _
    simp only [h, false_and, if_false, sub_zero]
    rw [appLevel, hslot]
    rfl

theorem ipLevel_spent (key : String × IpAddr) :
    (s.spent r).ipLevel key r.now = s.ipLevel key r.now -
      if key = (r.appId, r.sourceIp) ∧ 1 ≤ s.ipLevel (r.appId, r.sourceIp) r.now then 1
      else 0 := by
  by_cases h : key = (r.appId, r.sourceIp)
  · subst h
    have hslot : (s.spent r).ipBuckets (r.appId, r.sourceIp) = some (s.acquireIp r).1 :=
      update_self _ _ _
    simp only [true_and]
    rw [ipLevel, hslot]
    exact slotLevel_acquireSlot _ _
  · have hslot : (s.spent r).ipBuckets key = s.ipBuckets key := update_of_ne h _ _
    simp only [h, false_and, if_false, sub_zero]
    rw [ipLevel, hslot]
    rfl

end LimiterState

open LimiterState

/-- Every bucket was made for the limits in force, and not used after the given time. -/
structure BucketsFit (s : LimiterState) (now : ℚ) : Prop where
  apps : ∀ appId, Suits ((s.limiter.getAppConfig appId).requestsPerSecond : ℚ) (s.burst appId)
    now (s.appBuckets appId)
  ips : ∀ key, Suits ((s.limiter.getAppConfig key.1).perIpLimit : ℚ)
    ((s.limiter.getAppConfig key.1).perIpLimit : ℚ) now (s.ipBuckets key)

theorem bucketsFit_new (limiter : RateLimiter) (now : ℚ) : BucketsFit (new limiter) now :=
  ⟨fun _ => suits_none _ _ _, fun _ => suits_none _ _ _⟩

variable {now : ℚ} {s : LimiterState}

theorem BucketsFit.mono {later : ℚ} (h : BucketsFit s now) (hle : now ≤ later) :
    BucketsFit s later :=
  ⟨fun appId => (h.apps appId).mono hle, fun key => (h.ips key).mono hle⟩

theorem bucketsFit_asked {r : ClientRequest} (h : BucketsFit s r.now) :
    BucketsFit (s.asked r) r.now := by
  refine ⟨fun appId => ?_, h.ips⟩
  by_cases heq : appId = r.appId
  · subst heq
    change Suits _ _ _ (update s.appBuckets r.appId _ r.appId)
    rw [update_self]
    exact suits_acquireSlot (h.apps r.appId)
  · change Suits _ _ _ (update s.appBuckets r.appId _ appId)
    rw [update_of_ne heq]
    exact h.apps appId

theorem bucketsFit_spent {r : ClientRequest} (h : BucketsFit s r.now) :
    BucketsFit (s.spent r) r.now := by
  refine ⟨(bucketsFit_asked h).apps, fun key => ?_⟩
  by_cases heq : key = (r.appId, r.sourceIp)
  · subst heq
    change Suits _ _ _ (update s.ipBuckets (r.appId, r.sourceIp) _ (r.appId, r.sourceIp))
    rw [update_self]
    exact suits_acquireSlot (h.ips (r.appId, r.sourceIp))
  · change Suits _ _ _ (update s.ipBuckets (r.appId, r.sourceIp) _ key)
    rw [update_of_ne heq]
    exact h.ips key

/-- The buckets have the same levels. -/
structure Alike (now : ℚ) (s t : LimiterState) : Prop where
  sameLimits : t.limiter = s.limiter
  fits : BucketsFit s now
  fitsToo : BucketsFit t now
  apps : ∀ appId, t.appLevel appId now = s.appLevel appId now
  ips : ∀ key, t.ipLevel key now = s.ipLevel key now

section Requests

variable {s t : LimiterState} {r : ClientRequest}

theorem Alike.later {later : ℚ} (h : Alike now s t) (hle : now ≤ later) : Alike later s t where
  sameLimits := h.sameLimits
  fits := h.fits.mono hle
  fitsToo := h.fitsToo.mono hle
  apps := fun appId => by
    have hrate : (0 : ℚ) ≤ (s.limiter.getAppConfig appId).requestsPerSecond := quota_nonneg _
    have hs := h.fits.apps appId
    have ht := h.fitsToo.apps appId
    have hnow := h.apps appId
    rw [appLevel, appLevel, burst, burst, h.sameLimits] at hnow
    rw [burst, h.sameLimits] at ht
    rw [burst] at hs
    rw [appLevel, appLevel, burst, burst, h.sameLimits, slotLevel_advance hrate ht hle,
      slotLevel_advance hrate hs hle, hnow]
  ips := fun key => by
    have hrate : (0 : ℚ) ≤ (s.limiter.getAppConfig key.1).perIpLimit := quota_nonneg _
    have ht := h.fitsToo.ips key
    rw [h.sameLimits] at ht
    have hnow := h.ips key
    rw [ipLevel, ipLevel, h.sameLimits] at hnow
    rw [ipLevel, ipLevel, h.sameLimits,
      slotLevel_advance hrate ht hle, slotLevel_advance hrate (h.fits.ips key) hle, hnow]

theorem alike_asked (h : Alike r.now s t) : Alike r.now (s.asked r) (t.asked r) where
  sameLimits := h.sameLimits
  fits := bucketsFit_asked h.fits
  fitsToo := bucketsFit_asked h.fitsToo
  apps := fun appId => by rw [appLevel_asked, appLevel_asked, h.apps, h.apps]
  ips := h.ips

theorem alike_spent (h : Alike r.now s t) : Alike r.now (s.spent r) (t.spent r) where
  sameLimits := h.sameLimits
  fits := bucketsFit_spent h.fits
  fitsToo := bucketsFit_spent h.fitsToo
  apps := (alike_asked h).apps
  ips := fun key => by rw [ipLevel_spent, ipLevel_spent, h.ips, h.ips]

/-- Buckets of the same levels give the same answers. -/
theorem alike_check (h : Alike r.now s t) :
    (t.checkRequest r).2 = (s.checkRequest r).2 ∧
      Alike r.now (s.checkRequest r).1 (t.checkRequest r).1 := by
  have happs := h.apps r.appId
  have hips := h.ips (r.appId, r.sourceIp)
  rcases lt_or_ge (s.appLevel r.appId r.now) 1 with happ | happ
  · rw [checkRequest_app happ, checkRequest_app (happs.trans_lt happ), h.sameLimits]
    exact ⟨rfl, alike_asked h⟩
  · have happ' := happ.trans_eq happs.symm
    rw [checkRequest_asked happ, checkRequest_asked happ', hips, h.sameLimits]
    exact ⟨rfl, alike_spent h⟩

end Requests

/-- The clock does not go backwards. -/
def Timely : ℚ → List ClientRequest → Prop
  | _, [] => True
  | now, r :: trace => now ≤ r.now ∧ Timely r.now trace

/-- What is used of the arithmetic of `f64`: the result of an operation is rounded, `secs` is
    `as_secs_f64` of the time between two instants, and both keep the order. -/
structure Rounding where
  round : ℚ → ℚ
  secs : ℚ → ℚ
  round_mono : Monotone round
  round_nat : ∀ n : Nat, n < 2 ^ 32 → round n = n
  secs_mono : Monotone secs
  secs_zero : secs 0 = 0

/-- A bucket as the source has it. Its numbers are those that `f64` has. -/
structure F64Bucket where
  tokens : ℚ
  maxTokens : ℚ
  refillRate : ℚ
  lastRefill : ℚ
  deriving DecidableEq

namespace Rounding

variable (f : Rounding)

/-- The tokens after a refill. -/
def refill (b : F64Bucket) (now : ℚ) : ℚ :=
  min (f.round (b.tokens + f.round (f.secs (max (now - b.lastRefill) 0) * b.refillRate)))
    b.maxTokens

def tryAcquire (b : F64Bucket) (now : ℚ) : F64Bucket × Bool :=
  if 1 ≤ f.refill b now then
    ({ b with tokens := f.round (f.refill b now - 1), lastRefill := now }, true)
  else ({ b with tokens := f.refill b now, lastRefill := now }, false)

def acquire : Acquire F64Bucket := fun rate burst slot now =>
  f.tryAcquire (slot.getD ⟨burst, burst, rate, now⟩) now

/-- The time is enough for a bucket to fill up. -/
def Fills (rate burst : Nat) (d : ℚ) : Prop := (burst : ℚ) ≤ f.round (f.secs d * rate)

/-- The bucket was made for these limits and not used after the given time. -/
def Fits (rate burst : Nat) (now : ℚ) (slot : Option F64Bucket) : Prop :=
  ∀ b ∈ slot, b.maxTokens = burst ∧ b.refillRate = rate ∧ b.lastRefill ≤ now ∧ 0 ≤ b.tokens

variable {f} {rate burst : Nat} {now : ℚ} {slot : Option F64Bucket}

theorem round_nonneg {x : ℚ} (h : 0 ≤ x) : 0 ≤ f.round x := by
  have hzero := f.round_nat 0 (by decide)
  rw [Nat.cast_zero] at hzero
  exact hzero.symm.trans_le (f.round_mono h)

theorem secs_nonneg {d : ℚ} (h : 0 ≤ d) : 0 ≤ f.secs d := f.secs_zero.symm.trans_le (f.secs_mono h)

theorem gain_nonneg (rate : Nat) (d : ℚ) : 0 ≤ f.round (f.secs (max d 0) * rate) :=
  round_nonneg (mul_nonneg (secs_nonneg (le_max_right _ _)) (quota_nonneg rate))

theorem Fits.mono {later : ℚ} (h : Fits rate burst now slot) (hle : now ≤ later) :
    Fits rate burst later slot := by
  intro b hb
  rcases h b hb with ⟨hmax, hrate, hlast, htokens⟩
  exact ⟨hmax, hrate, hlast.trans hle, htokens⟩

theorem Fills.mono {d d' : ℚ} (h : f.Fills rate burst d) (hle : d ≤ d') : f.Fills rate burst d' :=
  h.trans (f.round_mono (mul_le_mul_of_nonneg_right (f.secs_mono hle) (quota_nonneg rate)))

/-- A bucket that had time to fill up is as good as a new one. -/
theorem acquire_of_ready (hburst : burst < 2 ^ 32) (h : Fits rate burst now slot)
    (hready : ∀ b ∈ slot, f.Fills rate burst (now - b.lastRefill)) :
    f.acquire rate burst slot now = f.acquire rate burst none now := by
  cases slot with
  | none => rfl
  | some b =>
    rcases h b rfl with ⟨hmax, hrate, hlast, htokens⟩
    have hfull {x : ℚ} (hx : (burst : ℚ) ≤ x) : min (f.round x) burst = burst :=
      min_eq_right ((f.round_nat burst hburst).symm.trans_le (f.round_mono hx))
    have hold : f.refill b now = burst := by
      rw [refill, hmax, hrate, max_eq_left (sub_nonneg.mpr hlast)]
      exact hfull (le_add_of_nonneg_of_le htokens (hready b rfl))
    have hnew : f.refill ⟨burst, burst, rate, now⟩ now = burst := by
      rw [refill]
      exact hfull (le_add_of_nonneg_right (gain_nonneg rate _))
    simp only [acquire, tryAcquire, Option.getD_some, Option.getD_none, hold, hnew, hmax, hrate]

theorem fits_acquire (h : Fits rate burst now slot) :
    Fits rate burst now (some (f.acquire rate burst slot now).1) := by
  have hfits : Fits rate burst now (some (slot.getD ⟨burst, burst, rate, now⟩)) := by
    rintro b hb
    cases slot with
    | none =>
      cases hb
      exact ⟨rfl, rfl, le_rfl, quota_nonneg burst⟩
    | some b' => exact h b hb
  rcases hfits _ rfl with ⟨hmax, hrate, -, htokens⟩
  have hrefill : 0 ≤ f.refill (slot.getD ⟨burst, burst, rate, now⟩) now := by
    rw [refill, hmax, hrate]
    exact le_min (round_nonneg (add_nonneg htokens (gain_nonneg rate _))) (quota_nonneg burst)
  rintro b hb
  cases hb
  rw [acquire, tryAcquire]
  split
  · rename_i htoken
    exact ⟨hmax, hrate, le_rfl, round_nonneg (sub_nonneg.mpr htoken)⟩
  · exact ⟨hmax, hrate, le_rfl, hrefill⟩

theorem lastRefill_acquire : (f.acquire rate burst slot now).1.lastRefill = now := by
  rw [acquire, tryAcquire]
  split <;> rfl

end Rounding

section Marked

variable {B : Type} (acquire : Acquire B)

/-- The requests that remain of a trace in which some are marked. -/
def kept (marks : List (ClientRequest × Bool)) : List ClientRequest :=
  (marks.filter (fun m => !m.2)).map Prod.fst

/-- What becomes of the requests that are not marked, when all are checked. -/
def keptDecisions :
    LimiterOf B → List (ClientRequest × Bool) → List (Except RateLimitDenied Unit)
  | _, [] => []
  | s, (r, true) :: marks => keptDecisions (s.checkWith acquire r).1 marks
  | s, (r, false) :: marks =>
    (s.checkWith acquire r).2 :: keptDecisions (s.checkWith acquire r).1 marks

/-- Every marked request is rejected because of its address, when all are checked. -/
def OnlyIpDenied : LimiterOf B → List (ClientRequest × Bool) → Prop
  | _, [] => True
  | s, (r, mark) :: marks =>
    (mark = true → ∃ ip limit, (s.checkWith acquire r).2 = .error (.ipLimitExceeded ip limit)) ∧
      OnlyIpDenied (s.checkWith acquire r).1 marks

end Marked

/-- After a request that is left out, its application's bucket has time to fill up before one that
    is kept uses it, and so has the bucket of its address. -/
def Recovered (f : Rounding) (limiter : RateLimiter) (marks : List (ClientRequest × Bool)) : Prop :=
  marks.Pairwise fun a b => a.2 = true → b.2 = false → b.1.appId = a.1.appId →
    let config := limiter.getAppConfig a.1.appId
    f.Fills config.requestsPerSecond config.burstCapacity (b.1.now - a.1.now) ∧
      (b.1.sourceIp = a.1.sourceIp →
        f.Fills config.perIpLimit config.perIpLimit (b.1.now - a.1.now))

/-- Two buckets are the same, or have both time to fill up before any of the given times. -/
structure Settles (f : Rounding) (rate burst : Nat) (now : ℚ) (uses : ℚ → Prop)
    (x y : Option F64Bucket) : Prop where
  left : Rounding.Fits rate burst now x
  right : Rounding.Fits rate burst now y
  same : x = y ∨ ∀ later, uses later → ∀ b, b ∈ x ∨ b ∈ y →
    f.Fills rate burst (later - b.lastRefill)

section Settles

variable {f : Rounding} {rate burst : Nat} {now : ℚ} {uses : ℚ → Prop} {x y : Option F64Bucket}

theorem Settles.mono (h : Settles f rate burst now uses x y) {later : ℚ} {uses' : ℚ → Prop}
    (hle : now ≤ later) (huses : ∀ time, uses' time → uses time) :
    Settles f rate burst later uses' x y where
  left := h.left.mono hle
  right := h.right.mono hle
  same := h.same.imp_right fun hready time htime => hready time (huses time htime)

theorem Settles.acquire_eq (hburst : burst < 2 ^ 32) (h : Settles f rate burst now uses x y)
    (hnow : uses now) : f.acquire rate burst x now = f.acquire rate burst y now := by
  rcases h.same with rfl | hready
  · rfl
  · rw [Rounding.acquire_of_ready hburst h.left fun b hb => hready now hnow b (.inl hb),
      Rounding.acquire_of_ready hburst h.right fun b hb => hready now hnow b (.inr hb)]

/-- Both are used, and are the same then. -/
theorem Settles.use (hburst : burst < 2 ^ 32) (h : Settles f rate burst now uses x y)
    (hnow : uses now) {uses' : ℚ → Prop} : Settles f rate burst now uses'
      (some (f.acquire rate burst x now).1) (some (f.acquire rate burst y now).1) :=
  ⟨Rounding.fits_acquire h.left, Rounding.fits_acquire h.right,
    .inl (by rw [h.acquire_eq hburst hnow])⟩

/-- One of them is used, long enough before the times given. -/
theorem Settles.use_left (h : Settles f rate burst now uses x y)
    (hlater : ∀ later, uses later → f.Fills rate burst (later - now)) :
    Settles f rate burst now uses (some (f.acquire rate burst x now).1) y where
  left := Rounding.fits_acquire h.left
  right := h.right
  same := by
    refine .inr fun later huse b hb => (hlater later huse).mono (sub_le_sub_left ?_ later)
    rcases hb with hb | hb
    · cases hb
      exact Rounding.lastRefill_acquire.le
    · exact (h.right b hb).2.2.1

end Settles

/-- The limits are numbers of 32 bits. -/
def RateLimiter.InRange (limiter : RateLimiter) : Prop :=
  ∀ appId, (limiter.getAppConfig appId).burstCapacity < 2 ^ 32 ∧
    (limiter.getAppConfig appId).perIpLimit < 2 ^ 32

/-- An application's bucket settles before a request that is kept uses it. -/
def AppSettles (f : Rounding) (now : ℚ) (marks : List (ClientRequest × Bool))
    (limiter : RateLimiter) (appId : String) : Option F64Bucket → Option F64Bucket → Prop :=
  Settles f (limiter.getAppConfig appId).requestsPerSecond
    (limiter.getAppConfig appId).burstCapacity now
    (fun later => ∃ r, (r, false) ∈ marks ∧ r.appId = appId ∧ r.now = later)

/-- So does an address's. -/
def IpSettles (f : Rounding) (now : ℚ) (marks : List (ClientRequest × Bool))
    (limiter : RateLimiter) (key : String × IpAddr) : Option F64Bucket → Option F64Bucket → Prop :=
  Settles f (limiter.getAppConfig key.1).perIpLimit (limiter.getAppConfig key.1).perIpLimit now
    (fun later => ∃ r, (r, false) ∈ marks ∧ (r.appId, r.sourceIp) = key ∧ r.now = later)

/-- All buckets of a run and of one without the marked requests settle. -/
structure Recovering (f : Rounding) (now : ℚ) (marks : List (ClientRequest × Bool))
    (s t : LimiterOf F64Bucket) : Prop where
  sameLimits : t.limiter = s.limiter
  apps : ∀ appId, AppSettles f now marks s.limiter appId (s.appBuckets appId) (t.appBuckets appId)
  ips : ∀ key, IpSettles f now marks s.limiter key (s.ipBuckets key) (t.ipBuckets key)

section Recovering

variable {f : Rounding} {now : ℚ} {m : ClientRequest × Bool} {marks : List (ClientRequest × Bool)}
  {r : ClientRequest} {s t : LimiterOf F64Bucket}

theorem forall_update {K α : Type} [DecidableEq K] {P : K → α → α → Prop} {g g' : K → α} {key : K}
    {x y : α} (h : ∀ k, P k (g k) (g' k)) (hkey : P key x y) (k : K) :
    P k (update g key x k) (update g' key y k) := by
  by_cases hk : k = key
  · subst hk
    rwa [update_self, update_self]
  · rw [update_of_ne hk, update_of_ne hk]
    exact h k

theorem Recovering.later (h : Recovering f now (m :: marks) s t) {later : ℚ} (hle : now ≤ later) :
    Recovering f later marks s t where
  sameLimits := h.sameLimits
  apps := fun appId => (h.apps appId).mono hle fun _ ⟨r, hr, huse⟩ => ⟨r, .tail _ hr, huse⟩
  ips := fun key => (h.ips key).mono hle fun _ ⟨r, hr, huse⟩ => ⟨r, .tail _ hr, huse⟩

/-- A request that is kept gets the same answer, and leaves the buckets it has used the same. -/
theorem recovering_kept (hrange : s.limiter.InRange) (hle : now ≤ r.now)
    (h : Recovering f now ((r, false) :: marks) s t) :
    (t.checkWith f.acquire r).2 = (s.checkWith f.acquire r).2 ∧
      Recovering f r.now marks (s.checkWith f.acquire r).1 (t.checkWith f.acquire r).1 := by
  have happ : AppSettles f r.now ((r, false) :: marks) s.limiter r.appId _ _ :=
    (h.apps r.appId).mono hle fun _ h => h
  have hip : IpSettles f r.now ((r, false) :: marks) s.limiter (r.appId, r.sourceIp) _ _ :=
    (h.ips (r.appId, r.sourceIp)).mono hle fun _ h => h
  have happ_eq := happ.acquire_eq (hrange r.appId).1 ⟨r, .head _, rfl, rfl⟩
  have hip_eq := hip.acquire_eq (hrange r.appId).2 ⟨r, .head _, rfl, rfl⟩
  have hnext := h.later hle
  have happs := forall_update (P := AppSettles f r.now marks s.limiter) hnext.apps
    (happ.use (hrange r.appId).1 ⟨r, .head _, rfl, rfl⟩)
  have hips := forall_update (P := IpSettles f r.now marks s.limiter) hnext.ips
    (hip.use (hrange r.appId).2 ⟨r, .head _, rfl, rfl⟩)
  rw [← happ_eq] at happs
  rw [← hip_eq] at hips
  simp only [LimiterOf.checkWith, h.sameLimits, ← happ_eq, ← hip_eq]
  split
  · split
    · exact ⟨rfl, rfl, happs, hips⟩
    · exact ⟨rfl, rfl, happs, hips⟩
  · exact ⟨rfl, rfl, happs, hnext.ips⟩

/-- A request that is left out is rejected for its address, and has used both buckets. -/
theorem recovering_left (hle : now ≤ r.now) (h : Recovering f now ((r, true) :: marks) s t)
    (hdenied : ∃ ip limit, (s.checkWith f.acquire r).2 = .error (.ipLimitExceeded ip limit))
    (hlater : ∀ b ∈ marks, b.2 = false → b.1.appId = r.appId →
      f.Fills (s.limiter.getAppConfig r.appId).requestsPerSecond
        (s.limiter.getAppConfig r.appId).burstCapacity (b.1.now - r.now) ∧
      (b.1.sourceIp = r.sourceIp → f.Fills (s.limiter.getAppConfig r.appId).perIpLimit
        (s.limiter.getAppConfig r.appId).perIpLimit (b.1.now - r.now))) :
    Recovering f r.now marks (s.checkWith f.acquire r).1 t := by
  have hnext := h.later hle
  have happs := (forall_update_iff s.appBuckets
    (p := fun appId x => AppSettles f r.now marks s.limiter appId x (t.appBuckets appId))).mpr
    ⟨(hnext.apps r.appId).use_left ?_, fun appId _ => hnext.apps appId⟩
  have hips := (forall_update_iff s.ipBuckets
    (p := fun key x => IpSettles f r.now marks s.limiter key x (t.ipBuckets key))).mpr
    ⟨(hnext.ips (r.appId, r.sourceIp)).use_left ?_, fun key _ => hnext.ips key⟩
  · rcases hdenied with ⟨ip, limit, hdenied⟩
    simp only [LimiterOf.checkWith] at hdenied ⊢
    split at hdenied
    · rename_i htoken
      simp only [htoken, if_true]
      split at hdenied
      · cases hdenied
      · rename_i hnone
        simp only [hnone]
        exact ⟨h.sameLimits, happs, hips⟩
    · cases hdenied
  · rintro later ⟨b, hb, hkey, rfl⟩
    exact (hlater (b, false) hb rfl (congrArg Prod.fst hkey)).2 (congrArg Prod.snd hkey)
  · rintro later ⟨b, hb, happ, rfl⟩
    exact (hlater (b, false) hb rfl happ).1

theorem limiter_checkWith {B : Type} (acquire : Acquire B) (s : LimiterOf B) (r : ClientRequest) :
    (s.checkWith acquire r).1.limiter = s.limiter := by
  simp only [LimiterOf.checkWith]
  split <;> [split <;> rfl; rfl]

theorem decisions_eq_of_recovered (hrange : s.limiter.InRange) (h : Recovering f now marks s t)
    (htimely : Timely now (marks.map Prod.fst)) (honly : OnlyIpDenied f.acquire s marks)
    (hrecovered : Recovered f s.limiter marks) :
    t.decisions f.acquire (kept marks) = keptDecisions f.acquire s marks := by
  induction marks generalizing now s t with
  | nil => rfl
  | cons m marks ih =>
    rcases m with ⟨r, mark⟩
    have hlimiter := limiter_checkWith f.acquire s r
    rcases List.pairwise_cons.mp hrecovered with ⟨hfirst, hrest⟩
    rw [← hlimiter] at hrest
    cases mark with
    | true =>
      have hleft := recovering_left htimely.1 h (honly.1 rfl) fun b hb => hfirst b hb rfl
      exact ih (hlimiter.symm ▸ hrange) hleft htimely.2 honly.2 hrest
    | false =>
      rcases recovering_kept hrange htimely.1 h with ⟨hanswer, hnext⟩
      change (t.checkWith f.acquire r).2 :: _ = (s.checkWith f.acquire r).2 :: _
      rw [hanswer]
      exact congrArg _ (ih (hlimiter.symm ▸ hrange) hnext htimely.2 honly.2 hrest)

end Recovering

/-- **Requests rejected for their address are harmless** if buckets recover from them: with any
    rounding, and whichever of them are left out, the others get the same answers. -/
theorem ip_denials_harmless (f : Rounding) (limiter : RateLimiter) (hrange : limiter.InRange)
    (start : ℚ) (marks : List (ClientRequest × Bool)) (htimely : Timely start (marks.map Prod.fst))
    (honly : OnlyIpDenied f.acquire (.new limiter) marks) (hrecovered : Recovered f limiter marks) :
    (LimiterOf.new limiter).decisions f.acquire (kept marks) =
      keptDecisions f.acquire (.new limiter) marks :=
  have hnone (rate burst : Nat) (uses : ℚ → Prop) : Settles f rate burst start uses none none :=
    ⟨nofun, nofun, .inl rfl⟩
  decisions_eq_of_recovered hrange ⟨rfl, fun _ => hnone _ _ _, fun _ => hnone _ _ _⟩ htimely honly
    hrecovered

/-- Results are cut down to integers. -/
def coarse : Rounding where
  round x := ⌊x⌋
  secs := id
  round_mono _ _ h := Int.cast_le.mpr (Int.floor_mono h)
  round_nat n _ := by rw [Int.floor_natCast, Int.cast_natCast]
  secs_mono := monotone_id
  secs_zero := rfl

def greedyTrace (later : ℚ) : List ClientRequest :=
  [⟨"api:v1", .v4 1, 0⟩, ⟨"api:v1", .v4 1, 0⟩, ⟨"api:v1", .v4 2, later⟩]

theorem ip_denials_harmless_recovered :
    let marks := (greedyTrace 3).zip [false, true, false]
    (LimiterOf.new (.new ⟨1, 2, 1⟩)).decisions coarse.acquire (kept marks) =
      keptDecisions coarse.acquire (.new (.new ⟨1, 2, 1⟩)) marks := by
  intro marks
  have hrange : (RateLimiter.new ⟨1, 2, 1⟩).InRange := fun _ =>
    (by decide : 2 < 2 ^ 32 ∧ 1 < 2 ^ 32)
  have honly : OnlyIpDenied coarse.acquire (.new (.new ⟨1, 2, 1⟩)) marks :=
    ⟨fun h => (by cases h), fun _ => ⟨.v4 1, 1, by decide +kernel⟩, fun h => (by cases h), trivial⟩
  refine ip_denials_harmless coarse _ hrange 0 marks ⟨le_rfl, le_rfl, by decide, trivial⟩ honly ?_
  simp only [Recovered, Rounding.Fills]
  decide +kernel

/-- The second request of the first client is rejected, and so is the only one of the other
    client, which would have been admitted without it. -/
theorem ip_denial_costs_another :
    let s : LimiterOf F64Bucket := .new (.new ⟨1, 2, 1⟩)
    let marks := (greedyTrace 0).zip [false, true, false]
    OnlyIpDenied coarse.acquire s marks ∧
      keptDecisions coarse.acquire s marks = [.ok (), .error (.appLimitExceeded "api:v1" 1)] ∧
      s.decisions coarse.acquire (kept marks) = [.ok (), .ok ()] := by
  refine ⟨⟨fun h => ?_, fun _ => ⟨.v4 1, 1, ?_⟩, fun h => ?_, trivial⟩, ?_, ?_⟩
  · cases h
  · decide +kernel
  · cases h
  · decide +kernel
  · decide +kernel

end WasmCloud
