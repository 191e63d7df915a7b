import WasmCloud.Limits.RouteLimits

/-!
# What a Limiter Admits

Each application has a bucket at the limiter, and each address has one there too. A bucket
is made when it is first needed, full, which is no different from one that was there from
the start. So every application is served by one bucket with the limits it is configured
with, and so is every address, and what they admit in a window is what such a bucket has to
give.

A bucket carries its limits with it. A new default takes effect for the buckets that are made
later, and for those it finds nothing changes.

## Main definitions

* `admitted`: How many requests of a window are admitted.
* `Pays`: What is admitted is paid for from one bucket.

## Theorems

* `admission_bounded`: What an application and an address get in a window.
* `admission_after_update`: The same after an update of the default.
-/

namespace WasmCloud

namespace LimiterState

open Function RouteLimits

/-- A request of a window that is counted is admitted. -/
def admits (counted : ClientRequest → Bool) (w : TimeWindow) (s : LimiterState)
    (r : ClientRequest) : Bool :=
  w.contains r.now && (counted r && (s.checkRequest r).2.toBool)

/-- How many of the requests that are counted are admitted in a window. -/
def admitted (counted : ClientRequest → Bool) (w : TimeWindow) (s : LimiterState)
    (trace : List ClientRequest) : Nat :=
  Tally.hits (fun s r => (s.checkRequest r).1) (admits counted w) s trace

def ofApp (appId : String) (r : ClientRequest) : Bool := decide (r.appId = appId)

def ofIp (appId : String) (ip : IpAddr) (r : ClientRequest) : Bool :=
  decide ((r.appId, r.sourceIp) = (appId, ip))

variable (config : RateLimitConfig)

/-- The bucket of an application, or one that was full at some time. -/
def appBucket (appId : String) (start : ℚ) (s : LimiterState) : TokenBucket ℚ :=
  (s.appBuckets appId).getD (.full _ _ start (quota_nonneg config.requestsPerSecond)
    (quota_nonneg config.burstCapacity))

/-- The bucket of an address at an application, or one that was full at some time. -/
def ipBucket (appId : String) (ip : IpAddr) (start : ℚ) (s : LimiterState) : TokenBucket ℚ :=
  (s.ipBuckets (appId, ip)).getD
    (.full _ _ start (quota_nonneg config.perIpLimit) (quota_nonneg config.perIpLimit))

/-- The limits in force for an application. -/
def Configured (appId : String) (s : LimiterState) : Prop :=
  s.limiter.getAppConfig appId = config

variable {config} {appId : String} {ip : IpAddr} {start : ℚ}
  {s : LimiterState} {r : ClientRequest} {w : TimeWindow}

theorem Configured.check (h : Configured config appId s) (r : ClientRequest) :
    Configured config appId (s.checkRequest r).1 := by
  rw [Configured, checkRequest_state.1]
  exact h

theorem toBool_checkRequest (hpass : (s.checkRequest r).2.toBool = true) :
    1 ≤ s.appLevel r.appId r.now ∧ 1 ≤ s.ipLevel (r.appId, r.sourceIp) r.now := by
  refine checkRequest_ok_iff.mp ?_
  cases hanswer : (s.checkRequest r).2 with
  | ok u => rfl
  | error denied =>
    rw [hanswer] at hpass
    cases hpass

/-- What is counted is paid for from a bucket. -/
def Pays (config : RateLimitConfig) (appId : String) (counted : ClientRequest → Bool)
    (bucket : LimiterState → TokenBucket ℚ) : Prop :=
  ∀ s r, Configured config appId s →
    Charged r.now (counted r && (s.checkRequest r).2.toBool) (bucket s)
      (bucket (s.checkRequest r).1)

theorem appBucket_check (h : Configured config appId s) (r : ClientRequest) :
    appBucket config appId start (s.checkRequest r).1 =
      if r.appId = appId then ((appBucket config appId start s).tryAcquire r.now).1
      else appBucket config appId start s := by
  rw [appBucket, checkRequest_state.2.1]
  split_ifs with happ
  · obtain rfl := happ
    obtain rfl := h
    simp only [asked, update_self, Option.getD_some]
    exact congrArg Prod.fst (acquireSlot_eq_tryAcquire _ start r.now)
  · simp only [asked, update_of_ne (Ne.symm happ), appBucket]

theorem pays_app : Pays config appId (ofApp appId) (appBucket config appId start) := by
  intro s r h
  rw [appBucket_check h]
  by_cases happ : r.appId = appId
  · refine .inl ⟨if_pos happ, fun hpass => ?_⟩
    obtain rfl := happ
    obtain rfl := h
    have htoken := (toBool_checkRequest (Bool.and_eq_true_iff.mp hpass).2).1
    rw [TokenBucket.tryAcquire_snd, appBucket, level_getD_full]
    exact decide_eq_true htoken
  · refine .inr ⟨if_neg happ, ?_⟩
    rw [ofApp, decide_eq_false happ, Bool.false_and]

theorem pays_ip : Pays config appId (ofIp appId ip) (ipBucket config appId ip start) := by
  intro s r h
  have hkept : (s.checkRequest r).1.ipBuckets = s.ipBuckets ∧ (s.checkRequest r).2.toBool = false ∨
        (s.checkRequest r).1.ipBuckets =
          update s.ipBuckets (r.appId, r.sourceIp) (some (s.acquireIp r).1) := by
    rcases lt_or_ge (s.appLevel r.appId r.now) 1 with happ | happ
    · rw [checkRequest_app happ]
      exact .inl ⟨rfl, rfl⟩
    · rw [checkRequest_asked happ]
      exact .inr rfl
  rcases hkept with ⟨hbuckets, hrefused⟩ | hbuckets
  · rw [ipBucket, ipBucket, hbuckets, hrefused, Bool.and_false]
    exact .inr ⟨rfl, rfl⟩
  · by_cases hkey : (r.appId, r.sourceIp) = (appId, ip)
    · obtain ⟨rfl, rfl⟩ := Prod.mk.inj hkey
      obtain rfl := h
      refine .inl ⟨?_, fun hpass => ?_⟩
      · rw [ipBucket, hbuckets, update_self, Option.getD_some]
        exact congrArg Prod.fst (acquireSlot_eq_tryAcquire _ start r.now)
      · have htoken := (toBool_checkRequest (Bool.and_eq_true_iff.mp hpass).2).2
        rw [TokenBucket.tryAcquire_snd, ipBucket, level_getD_full]
        exact decide_eq_true htoken
    · rw [ipBucket, ipBucket, hbuckets, update_of_ne (Ne.symm hkey), ofIp, decide_eq_false hkey,
        Bool.false_and]
      exact .inr ⟨rfl, rfl⟩

variable {counted : ClientRequest → Bool} {bucket : LimiterState → TokenBucket ℚ}

theorem admitted_le_allowance {rate : ℚ} (hpays : Pays config appId counted bucket)
    (trace : List ClientRequest) (h : Configured config appId s) (htimely : Timely start trace)
    (hrate : (bucket s).refillRate = rate) (hlast : (bucket s).lastRefill ≤ start) :
    (admitted counted w s trace : ℚ) ≤ allowance w rate (bucket s) := by
  induction trace generalizing s start with
  | nil =>
    change ((0 : Nat) : ℚ) ≤ _
    rw [Nat.cast_zero]
    exact allowance_nonneg (hrate ▸ (bucket s).rate_nonneg) _
  | cons r trace ih =>
    have hnow := hlast.trans htimely.1
    have hstep := allowance_charged (w := w) (hpays s r h) hrate.le hnow
    have hnext : (bucket (s.checkRequest r).1).refillRate = rate ∧
        (bucket (s.checkRequest r).1).lastRefill ≤ r.now := by
      rcases hpays s r h with ⟨heq, -⟩ | ⟨heq, -⟩
      · obtain ⟨-, hsame, hused⟩ := (bucket s).tryAcquire_fst r.now
        rw [heq, hsame, hused]
        exact ⟨hrate, le_refl _⟩
      · rw [heq]
        exact ⟨hrate, hnow⟩
    have hrest := ih (h.check r) htimely.2 hnext.1 hnext.2
    rw [admitted] at hrest ⊢
    rw [Tally.hits, Nat.cast_add]
    exact (add_le_add_right hrest _).trans hstep

theorem Pays.admitted_le (hpays : Pays config appId counted bucket)
    (trace : List ClientRequest) (h : Configured config appId s) (htimely : Timely start trace)
    (hlast : (bucket s).lastRefill ≤ start) :
    (admitted counted w s trace : ℚ) ≤ (bucket s).maxTokens + (bucket s).refillRate * w.length :=
  (admitted_le_allowance hpays trace h htimely rfl hlast).trans
    (allowance_le (bucket s).rate_nonneg (bucket s))

/-- A bucket that is full at the start and asked for a token at some times. -/
def soleBucket (config : RateLimitConfig) (start : ℚ) (times : List ℚ) : TokenBucket ℚ :=
  times.foldl (fun b now => (b.tryAcquire now).1) (.full _ _ start
    (quota_nonneg config.requestsPerSecond) (quota_nonneg config.burstCapacity))

/-- The times an application is asked at. -/
def timesOf (appId : String) (trace : List ClientRequest) : List ℚ :=
  (trace.filter (ofApp appId)).map ClientRequest.now

def after (s : LimiterState) (trace : List ClientRequest) : LimiterState :=
  trace.foldl (fun s r => (s.checkRequest r).1) s

theorem appBucket_after (trace : List ClientRequest) (h : Configured config appId s) :
    Configured config appId (s.after trace) ∧ appBucket config appId start (s.after trace) =
        (timesOf appId trace).foldl (fun b now => (b.tryAcquire now).1)
          (appBucket config appId start s) := by
  induction trace generalizing s with
  | nil => exact ⟨h, rfl⟩
  | cons r trace ih =>
    obtain ⟨hconfig, hbucket⟩ := ih (h.check r)
    refine ⟨hconfig, hbucket.trans ?_⟩
    rw [appBucket_check h, timesOf, timesOf]
    by_cases happ : r.appId = appId
    · rw [if_pos happ, List.filter_cons_of_pos (by simp [ofApp, happ])]
      rfl
    · rw [if_neg happ, List.filter_cons_of_neg (by simp [ofApp, happ])]

theorem level_of_appLimitExceeded {limit : Nat}
    (hrefused : (s.checkRequest r).2 = .error (.appLimitExceeded appId limit)) :
    s.appLevel r.appId r.now < 1 := by
  by_contra hnot
  rw [checkRequest_asked (not_lt.mp hnot)] at hrefused
  split_ifs at hrefused
  cases hrefused

/-- In every window an application and an address get at most a burst and what their
    rate brings, and an application is refused a request only for want of a token. -/
theorem admission_bounded (limiter : RateLimiter) (start : ℚ) (trace : List ClientRequest)
    (htimely : Timely start trace) (appId : String) (ip : IpAddr) (w : TimeWindow) :
    let config := limiter.getAppConfig appId
    (admitted (ofApp appId) w (new limiter) trace : ℚ) ≤
        config.burstCapacity + config.requestsPerSecond * w.length ∧
      (admitted (ofIp appId ip) w (new limiter) trace : ℚ) ≤
        config.perIpLimit + config.perIpLimit * w.length ∧
      ∀ before r rest limit, trace = before ++ r :: rest → r.appId = appId →
        (((new limiter).after before).checkRequest r).2 = .error (.appLimitExceeded appId limit) →
          (soleBucket config start (timesOf appId before)).level r.now < 1 := by
  intro config
  have hconfig : Configured config appId (new limiter) := rfl
  refine ⟨pays_app.admitted_le trace hconfig htimely (le_refl start),
    pays_ip.admitted_le trace hconfig htimely (le_refl start),
    fun before r rest limit _ happ hrefused => ?_⟩
  obtain rfl := happ
  obtain ⟨hafter, hbucket⟩ := @appBucket_after config r.appId start _ before hconfig
  have hlevel := level_of_appLimitExceeded hrefused
  have hsole : soleBucket config start (timesOf r.appId before) =
      appBucket config r.appId start ((new limiter).after before) := hbucket.symm
  rw [hsole, appBucket, level_getD_full, ← hafter]
  exact hlevel

def askTwice (now : ℚ) : List ClientRequest := [⟨"api:v1", .v4 1, now⟩, ⟨"api:v1", .v4 1, now⟩]

theorem timely_askTwice {start now : ℚ} (h : start ≤ now) : Timely start (askTwice now) :=
  ⟨h, le_refl now, trivial⟩

theorem admission_bounded_twice : Timely 0 (askTwice 0) ∧
      (admitted (ofApp "api:v1") ⟨0, 1, zero_le_one⟩ (new (RateLimiter.new ⟨1, 1, 2⟩))
        (askTwice 0) : ℚ) ≤ (1 : Nat) + (1 : Nat) * 1 :=
  ⟨timely_askTwice (le_refl 0), (admission_bounded (RateLimiter.new ⟨1, 1, 2⟩) 0 (askTwice 0)
    (timely_askTwice (le_refl 0)) "api:v1" (.v4 1) ⟨0, 1, zero_le_one⟩).1⟩

def updateDefaultConfig (s : LimiterState) (config : RateLimitConfig) : LimiterState :=
  { s with limiter := { s.limiter with defaultConfig := config } }

/-- What earlier requests leave: the limits as they were, and no bucket used after some time
    that is not after the next request. -/
theorem fits_after {before trace : List ClientRequest} (h : BucketsFit s start)
    (htimely : Timely start (before ++ trace)) : (s.after before).limiter = s.limiter ∧
      ∃ now, start ≤ now ∧ BucketsFit (s.after before) now ∧ Timely now trace := by
  induction before generalizing s start with
  | nil => exact ⟨rfl, start, le_refl start, h, htimely⟩
  | cons r before ih =>
    obtain ⟨hsame, -, hfits⟩ := @checkRequest_state s r
    obtain ⟨hlimiter, now, hnow, hafter⟩ := ih (hfits (h.mono htimely.1)) htimely.2
    exact ⟨hlimiter.trans hsame, now, htimely.1.trans hnow, hafter⟩

theorem lastRefill_getD_le {slot : Option (TokenBucket ℚ)} {b : TokenBucket ℚ}
    {rate burst now : ℚ} (hfits : Suits rate burst now slot)
    (hnew : b.lastRefill ≤ now) : (slot.getD b).lastRefill ≤ now := by
  cases slot with
  | none => exact hnew
  | some b => exact (hfits b rfl).2.2

/-- After an update of the default a bucket that is there goes on with its own maximum and
    its own rate, and only a bucket that is made later has the new ones. -/
theorem admission_after_update (limiter : RateLimiter) (start : ℚ)
    (before trace : List ClientRequest) (htimely : Timely start (before ++ trace))
    (config : RateLimitConfig) (appId : String) (hdefault : limiter.configs.get? appId = none)
    (ip : IpAddr) (w : TimeWindow) :
    let s := (new limiter).after before
    let app := appBucket config appId start s
    let address := ipBucket config appId ip start s
    (admitted (ofApp appId) w (s.updateDefaultConfig config) trace : ℚ) ≤
        app.maxTokens + app.refillRate * w.length ∧
      (admitted (ofIp appId ip) w (s.updateDefaultConfig config) trace : ℚ) ≤
        address.maxTokens + address.refillRate * w.length := by
  intro s app address
  obtain ⟨hlimiter, now, hstart, hfits, hrest⟩ := fits_after (bucketsFit_new limiter start) htimely
  have hconfig : Configured config appId (s.updateDefaultConfig config) := by
    have hnone : s.limiter.configs.get? appId = none := by
      rw [hlimiter]
      exact hdefault
    simp [Configured, updateDefaultConfig, RateLimiter.getAppConfig, hnone]
  exact ⟨pays_app.admitted_le trace hconfig hrest (lastRefill_getD_le (hfits.apps appId) hstart),
    pays_ip.admitted_le trace hconfig hrest
      (lastRefill_getD_le (hfits.ips (appId, ip)) hstart)⟩

/-- Two requests have emptied both buckets, and two more a second after the update are as many
    as the old limits allow. -/
theorem admission_after_update_used :
    let s := (new (RateLimiter.new ⟨2, 2, 2⟩)).after (askTwice 0)
    Timely 0 (askTwice 0 ++ askTwice 1) ∧
      (admitted (ofApp "api:v1") ⟨1, 0, le_refl 0⟩ (s.updateDefaultConfig ⟨1, 1, 1⟩)
        (askTwice 1) : ℚ) ≤ 2 + 2 * 0 := by
  intro s
  have htimely : Timely 0 (askTwice 0 ++ askTwice 1) :=
    ⟨le_refl 0, le_refl 0, zero_le_one, le_refl 1, trivial⟩
  have hbucket : (appBucket ⟨1, 1, 1⟩ "api:v1" 0 s).maxTokens = 2 ∧
      (appBucket ⟨1, 1, 1⟩ "api:v1" 0 s).refillRate = 2 := by decide +kernel
  have hbound := (admission_after_update (RateLimiter.new ⟨2, 2, 2⟩) 0 (askTwice 0) (askTwice 1)
    htimely ⟨1, 1, 1⟩ "api:v1" rfl (.v4 1) ⟨1, 0, le_refl 0⟩).1
  rw [hbucket.1, hbucket.2] at hbound
  exact ⟨htimely, hbound⟩

/-- Both buckets are empty when the limits become one request a second, and a second later
    two requests are admitted. -/
theorem update_leaves_buckets :
    let s := (new (RateLimiter.new ⟨2, 2, 2⟩)).after (askTwice 0)
    s.appLevel "api:v1" 0 = 0 ∧ s.ipLevel ("api:v1", .v4 1) 0 = 0 ∧
      admitted (ofApp "api:v1") ⟨1, 0, le_refl 0⟩ (s.updateDefaultConfig ⟨1, 1, 1⟩)
        (askTwice 1) = 2 ∧
      admitted (ofIp "api:v1" (.v4 1)) ⟨1, 0, le_refl 0⟩ (s.updateDefaultConfig ⟨1, 1, 1⟩)
        (askTwice 1) = 2 := by
  decide +kernel

end LimiterState

end WasmCloud
