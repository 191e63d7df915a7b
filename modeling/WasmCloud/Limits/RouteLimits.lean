import WasmCloud.Lib.Tally
import WasmCloud.Limits.Cluster
import WasmCloud.Limits.Quota

/-!
# Rate Limits of Routes

A route can carry a rate limit, and so can an endpoint of it. The external proxy looks up
the limit in force, then asks the limiter of the application, which knows nothing of
routes, and only if the limit is a distributed one, and the node made a distributed limiter
when it started, that one too.

What an endpoint can get is therefore what the buckets that are asked have to give. The one
direction of `enforced_iff` counts what a bucket may still give (`Gate`). For the other,
requests at equal distances are all admitted as long as the last of them would be
(`Steady`). The internal gateway has a bucket for every limit, and keeps it:
`internal_admits`.
-/

namespace WasmCloud

open LimiterState Function TokenBucket

namespace RouteLimits

/-- `effective_rate_limit`: the endpoint's, or else the route's. -/
def effectiveRateLimit (ctx : RequestCtx) (endpointRule : Option EndpointRule) :
    Option RouteRateLimit :=
  (endpointRule.bind EndpointRule.rateLimit).or
    (ctx.routeConfig.bind GatewayRouteConfig.rateLimit)

/-- What the filter answers a request it does not pass on. -/
inductive Throttled where
  | rejected (denied : RateLimitDenied)
  | gatewayError (reply : GatewayReply)
  deriving DecidableEq, Repr

/-- The limiters of a node, and the time of the last request. -/
structure ProxyLimits where
  limiter : LimiterState
  distributedLimiters : String → Option DistributedRateLimiter
  clock : ℚ

/-- A client without an address counts as this one. -/
def localhost : IpAddr := .v4 0x7F000001

variable (s : ProxyLimits)

/-- The distributed limiter that is asked about a request, if there is one. -/
def ProxyLimits.asked (appId : String) (limit : Option RouteRateLimit) :
    Option (RouteRateLimit × DistributedRateLimiter) :=
  match limit with
  | none => none
  | some limit =>
    if limit.distributed then (s.distributedLimiters appId).map (fun l => (limit, l)) else none

/-- The limiter of the application has been asked. -/
def ProxyLimits.checked (r : ClientRequest) : ProxyLimits :=
  { s with limiter := (s.limiter.checkRequest r).1, clock := r.now }

/-- The distributed limiter has been asked. -/
def ProxyLimits.acquired (appId : String) (l : DistributedRateLimiter) (now : ℚ) : ProxyLimits :=
  { s with
    distributedLimiters :=
      update s.distributedLimiters appId (some (l.checkRequest now).1) }

/-- The second half of `apply_rate_limits`. -/
def ProxyLimits.askDistributed (appId : String) (limit : Option RouteRateLimit)
    (now : ℚ) : ProxyLimits × Except Throttled Unit :=
  match s.asked appId limit with
  | none => (s, .ok ())
  | some (limit, l) =>
    (s.acquired appId l now,
      if (l.checkRequest now).2 then .ok ()
      else .error (.gatewayError ⟨429, "rate_limit_exceeded",
        "app rate limit: " ++ toString limit.requestsPerSecond ++ " req/s"⟩))

def applyRateLimits (ctx : RequestCtx) (endpointRule : Option EndpointRule)
    (clientIp : Option IpAddr) (now : ℚ) : ProxyLimits × Except Throttled Unit :=
  match ctx.appId with
  | none => (s, .ok ())
  | some appId =>
    let r : ClientRequest := ⟨appId.text, clientIp.getD localhost, now⟩
    match (s.limiter.checkRequest r).2 with
    | .error denied => (s.checked r, .error (.rejected denied))
    | .ok () =>
      (s.checked r).askDistributed appId.text (effectiveRateLimit ctx endpointRule) now

/-- An endpoint, and how the application's distributed limiter was made, if it was. -/
structure Endpoint where
  ctx : RequestCtx
  path : String
  method : String
  appId : AppId
  routed : ctx.appId = some appId
  distributed : Option DistributedRateLimitConfig

namespace Endpoint

variable (e : Endpoint)

def rule : Option EndpointRule := findEndpointRule e.ctx e.path e.method

def limit : Option RouteRateLimit := effectiveRateLimit e.ctx e.rule

/-- How the distributed limiter was made, if it is asked. -/
def consulted : Option DistributedRateLimitConfig :=
  match e.limit with
  | none => none
  | some limit => if limit.distributed then e.distributed else none

def ask (s : ProxyLimits) (clientIp : Option IpAddr) (now : ℚ) :
    ProxyLimits × Except Throttled Unit :=
  applyRateLimits s e.ctx e.rule clientIp now

end Endpoint

def start (e : Endpoint) (limiter : RateLimiter) (nodeId : String) (started : ℚ) : ProxyLimits :=
  ⟨new limiter, fun appId => if appId = e.appId.text then
      e.distributed.map (fun config => DistributedRateLimiter.new config nodeId started) else none,
    started⟩

/-- A request to the endpoint, or the end of a sync with some fresh entries. -/
inductive Event where
  | request (clientIp : Option IpAddr) (now : ℚ)
  | sync (nodeCount : Nat)

def syncTo (config : DistributedRateLimitConfig) (nodeCount : Nat) (l : DistributedRateLimiter) :
    DistributedRateLimiter :=
  { l with phase := .reading 0 [] nodeCount }.syncFinish config

/-- A request from before the last one does not happen. -/
def step (e : Endpoint) (s : ProxyLimits) : Event → ProxyLimits
  | .request clientIp now =>
    if now < s.clock then s else (e.ask s clientIp now).1
  | .sync nodeCount =>
    match e.distributed with
    | none => s
    | some config => { s with
        distributedLimiters := update s.distributedLimiters e.appId.text
          ((s.distributedLimiters e.appId.text).map (syncTo config nodeCount)) }

/-- A step is a request of the window that is admitted. -/
def admits (e : Endpoint) (w : TimeWindow) (s : ProxyLimits) : Event → Bool
  | .request clientIp now =>
    w.contains now && decide (s.clock ≤ now) && (e.ask s clientIp now).2.toBool
  | .sync _ => false

/-- How many requests of a window are admitted. -/
def admittedIn (e : Endpoint) (w : TimeWindow) (s : ProxyLimits) (as : List Event) : Nat :=
  Tally.hits (step e) (admits e w) s as

/-- The limit is kept in every window of every run. -/
def Enforced (e : Endpoint) (limit : RouteRateLimit) (s : ProxyLimits) : Prop :=
  ∀ (as : List Event) (w : TimeWindow), (admittedIn e w s as : ℚ) ≤
    limit.burstCapacity.toNat + limit.requestsPerSecond.toNat * w.length

/-- Some bucket that is asked never has a token, or all together stay within the limit. -/
def Sufficient (e : Endpoint) (limit : RouteRateLimit) (app : RateLimitConfig) : Prop :=
  app.burstCapacity = 0 ∨ app.perIpLimit = 0 ∨ (∃ c ∈ e.consulted, c.perNodeBurst = 0) ∨
    ∀ (n : Nat) (t : ℚ), 0 ≤ t → n ≤ app.burstCapacity + app.requestsPerSecond * t →
      (∀ c ∈ e.consulted, n ≤ c.perNodeBurst + c.globalRps * t) →
        n ≤ limit.burstCapacity.toNat + limit.requestsPerSecond.toNat * t

section Checks

variable {l : LimiterState} {r : ClientRequest}

/-- A request is admitted that finds a token in both buckets. -/
theorem checkRequest_ok_iff : (l.checkRequest r).2 = .ok () ↔
      1 ≤ l.appLevel r.appId r.now ∧ 1 ≤ l.ipLevel (r.appId, r.sourceIp) r.now := by
  rcases lt_or_ge (l.appLevel r.appId r.now) 1 with happ | happ
  · rw [checkRequest_app happ]
    simp only [reduceCtorEq, false_iff, not_and]
    exact fun hle => absurd hle (not_le.mpr happ)
  · rw [checkRequest_asked happ]
    by_cases hip : 1 ≤ l.ipLevel (r.appId, r.sourceIp) r.now <;> simp [happ, hip]

theorem checkRequest_state : (l.checkRequest r).1.limiter = l.limiter ∧
      (l.checkRequest r).1.appBuckets = (l.asked r).appBuckets ∧
      (BucketsFit l r.now → BucketsFit (l.checkRequest r).1 r.now) := by
  rcases lt_or_ge (l.appLevel r.appId r.now) 1 with happ | happ
  · rw [checkRequest_app happ]
    exact ⟨rfl, rfl, bucketsFit_asked⟩
  · rw [checkRequest_asked happ]
    exact ⟨rfl, rfl, bucketsFit_spent⟩

theorem ipLevel_after {later : ℚ} (h : BucketsFit l r.now) (hle : r.now ≤ later)
    (hok : (l.checkRequest r).2 = .ok ()) :
    (l.checkRequest r).1.ipLevel (r.appId, r.sourceIp) later =
      min (l.ipLevel (r.appId, r.sourceIp) r.now - 1 +
        (later - r.now) * (l.limiter.getAppConfig r.appId).perIpLimit)
        (l.limiter.getAppConfig r.appId).perIpLimit := by
  obtain ⟨happ, hip⟩ := checkRequest_ok_iff.mp hok
  have hslot : (l.spent r).ipBuckets (r.appId, r.sourceIp) = some (l.acquireIp r).1 :=
    update_self ..
  rw [checkRequest_asked happ, ipLevel, hslot]
  exact slotLevel_after (h.ips (r.appId, r.sourceIp)) hle hip

theorem ipLevel_other {key : String × IpAddr} {later : ℚ} (hne : key ≠ (r.appId, r.sourceIp))
    (hok : (l.checkRequest r).2 = .ok ()) :
    (l.checkRequest r).1.ipLevel key later = l.ipLevel key later := by
  obtain ⟨happ, hip⟩ := checkRequest_ok_iff.mp hok
  have hslot : (l.spent r).ipBuckets key = l.ipBuckets key := update_of_ne hne ..
  rw [checkRequest_asked happ, ipLevel, hslot]
  rfl

end Checks

/-- The request as the limiter of the application sees it. -/
def Endpoint.query (e : Endpoint) (clientIp : Option IpAddr) (now : ℚ) : ClientRequest :=
  ⟨e.appId.text, clientIp.getD localhost, now⟩

/-- The buckets were made for the limits, and the distributed rate is a share. -/
structure Sound (e : Endpoint) (limiter : RateLimiter) (s : ProxyLimits) : Prop where
  limits : s.limiter.limiter = limiter
  fits : BucketsFit s.limiter s.clock
  absent : e.distributed = none → s.distributedLimiters e.appId.text = none
  distributed : ∀ config ∈ e.distributed, ∃ l, s.distributedLimiters e.appId.text = some l ∧
    l.bucket.maxTokens = config.perNodeBurst ∧ l.bucket.refillRate ≤ config.globalRps ∧
      l.bucket.lastRefill ≤ s.clock

variable {e : Endpoint} {limiter : RateLimiter} {s} {clientIp : Option IpAddr}
  {now : ℚ}

theorem asked_cases (h : Sound e limiter s) :
    (e.consulted = none ∧ s.asked e.appId.text e.limit = none) ∨
      ∃ config limit l, e.consulted = some config ∧ e.distributed = some config ∧
        s.distributedLimiters e.appId.text = some l ∧
        s.asked e.appId.text e.limit = some (limit, l) := by
  unfold Endpoint.consulted ProxyLimits.asked
  cases e.limit with
  | none => exact .inl ⟨rfl, rfl⟩
  | some limit =>
    dsimp only
    split_ifs with hshared
    · cases hconfig : e.distributed with
      | none =>
        rw [h.absent hconfig]
        exact .inl ⟨rfl, rfl⟩
      | some config =>
        obtain ⟨l, hl, -⟩ := h.distributed config hconfig
        rw [hl]
        exact .inr ⟨config, limit, l, rfl, rfl, rfl, rfl⟩
    · exact .inl ⟨rfl, rfl⟩

/-- The application's limiter refuses, or there is no other, or the other one decides. -/
theorem ask_cases (h : Sound e limiter s) (clientIp : Option IpAddr) (now : ℚ) :
    ((s.limiter.checkRequest (e.query clientIp now)).2 ≠ .ok () ∧
      (e.ask s clientIp now).1 = s.checked (e.query clientIp now) ∧
      (e.ask s clientIp now).2.toBool = false) ∨
    (s.limiter.checkRequest (e.query clientIp now)).2 = .ok () ∧
      ((e.consulted = none ∧ (e.ask s clientIp now).1 = s.checked (e.query clientIp now) ∧
        (e.ask s clientIp now).2.toBool = true) ∨
      ∃ config l, e.consulted = some config ∧ e.distributed = some config ∧
        s.distributedLimiters e.appId.text = some l ∧
        (e.ask s clientIp now).1 = (s.checked (e.query clientIp now)).acquired e.appId.text l now ∧
        (e.ask s clientIp now).2.toBool = (l.checkRequest now).2) := by
  have hquery : (⟨e.appId.text, clientIp.getD localhost, now⟩ : ClientRequest) =
      e.query clientIp now := rfl
  cases hchecked : (s.limiter.checkRequest (e.query clientIp now)).2 with
  | error denied =>
    have heq : e.ask s clientIp now =
        (s.checked (e.query clientIp now), .error (.rejected denied)) := by
      simp [Endpoint.ask, applyRateLimits, e.routed, hquery, hchecked]
    rw [heq]
    exact .inl ⟨nofun, rfl, rfl⟩
  | ok u =>
    have heq : e.ask s clientIp now =
        (s.checked (e.query clientIp now)).askDistributed e.appId.text e.limit now := by
      simp only [Endpoint.ask, applyRateLimits, e.routed, hquery, hchecked]
      rfl
    have hsame : (s.checked (e.query clientIp now)).asked e.appId.text e.limit =
      s.asked e.appId.text e.limit := rfl
    refine .inr ⟨rfl, ?_⟩
    rw [heq]
    rcases asked_cases h with ⟨hnone, hasked⟩ | ⟨config, limit, l, hconfig, hmade, hl, hasked⟩
    · refine .inl ⟨hnone, ?_, ?_⟩
      · simp [ProxyLimits.askDistributed, hsame, hasked]
      · simp only [ProxyLimits.askDistributed, hsame, hasked]
        rfl
    · refine .inr ⟨config, l, hconfig, hmade, hl, ?_, ?_⟩
      · simp [ProxyLimits.askDistributed, hsame, hasked]
      · simp only [ProxyLimits.askDistributed, hsame, hasked]
        cases (l.checkRequest now).2 with
        | true | false => rfl

theorem limiter_ask (h : Sound e limiter s) (clientIp : Option IpAddr) (now : ℚ) :
    (e.ask s clientIp now).1.limiter = (s.limiter.checkRequest (e.query clientIp now)).1 ∧
      (e.ask s clientIp now).1.clock = now ∧
      ((e.ask s clientIp now).2.toBool = true →
        (s.limiter.checkRequest (e.query clientIp now)).2 = .ok ()) := by
  rcases ask_cases h clientIp now with
    ⟨-, heq, hrefused⟩ | ⟨hok, ⟨-, heq, -⟩ | ⟨config, l, -, -, -, heq, -⟩⟩
  · rw [heq, hrefused]
    exact ⟨rfl, rfl, nofun⟩
  · rw [heq]
    exact ⟨rfl, rfl, fun _ => hok⟩
  · rw [heq]
    exact ⟨rfl, rfl, fun _ => hok⟩

theorem fairShare_le (config : DistributedRateLimitConfig) {n : Nat} (hn : 1 ≤ n) :
    config.fairShare n ≤ config.globalRps := by
  have hone : (1 : ℚ) ≤ n := by exact_mod_cast hn
  rw [DistributedRateLimitConfig.fairShare, div_le_iff₀ (zero_lt_one.trans_le hone)]
  exact le_mul_of_one_le_right (Nat.cast_nonneg _) hone

theorem sound_start (e : Endpoint) (limiter : RateLimiter) (nodeId : String) (started : ℚ) :
    Sound e limiter (start e limiter nodeId started) := by
  refine ⟨rfl, bucketsFit_new limiter started, fun hnone => ?_, fun config hconfig => ?_⟩
  · simp [start, hnone]
  · refine ⟨.new config nodeId started, ?_, rfl, fairShare_le config (by decide), le_refl started⟩
    simp [start, Option.mem_def.mp hconfig]

theorem Sound.ask (h : Sound e limiter s) (clientIp : Option IpAddr) (hclock : s.clock ≤ now) :
    Sound e limiter (e.ask s clientIp now).1 := by
  obtain ⟨hlimiter, hnow, -⟩ := limiter_ask h clientIp now
  obtain ⟨hlimits, -, hfits⟩ := @checkRequest_state s.limiter (e.query clientIp now)
  have hsame : (e.ask s clientIp now).1 = s.checked (e.query clientIp now) →
      Sound e limiter (e.ask s clientIp now).1 := by
    intro heq
    rw [heq]
    refine ⟨hlimits.trans h.limits, hfits (h.fits.mono hclock), h.absent, fun config hconfig => ?_⟩
    obtain ⟨l, hl, hmax, hrate, hlast⟩ := h.distributed config hconfig
    exact ⟨l, hl, hmax, hrate, hlast.trans hclock⟩
  rcases ask_cases h clientIp now with
    ⟨-, heq, -⟩ | ⟨-, ⟨-, heq, -⟩ | ⟨config, l, -, hmade, hl, heq, -⟩⟩
  · exact hsame heq
  · exact hsame heq
  · obtain ⟨hmax, hrate, hlast⟩ := l.bucket.tryAcquire_fst now
    rw [heq]
    refine ⟨hlimits.trans h.limits, hfits (h.fits.mono hclock), fun hnone => ?_,
      fun config' hconfig' => ?_⟩
    · rw [hmade] at hnone
      cases hnone
    · obtain ⟨l', hl', hmax', hrate', -⟩ := h.distributed config' hconfig'
      obtain rfl := Option.some.inj (hl.symm.trans hl')
      exact ⟨_, update_self .., hmax.trans hmax', hrate.trans_le hrate', le_of_eq hlast⟩

theorem sync_cases (e : Endpoint) (s : ProxyLimits) (nodeCount : Nat) :
    (step e s (.sync nodeCount)).limiter = s.limiter ∧
      (step e s (.sync nodeCount)).clock = s.clock ∧
      (e.distributed = none → step e s (.sync nodeCount) = s) ∧
      ∀ config ∈ e.distributed, (step e s (.sync nodeCount)).distributedLimiters e.appId.text =
        (s.distributedLimiters e.appId.text).map (syncTo config nodeCount) := by
  unfold step
  cases hconfig : e.distributed with
  | none => exact ⟨rfl, rfl, fun _ => rfl, fun config hmem => nomatch hmem⟩
  | some config =>
    refine ⟨rfl, rfl, nofun, fun config' hmem => ?_⟩
    obtain rfl := Option.some.inj hmem
    exact update_self ..

theorem Sound.step (h : Sound e limiter s) (a : Event) : Sound e limiter (step e s a) := by
  cases a with
  | request clientIp now =>
    grind [RouteLimits.step, h.ask]
  | sync nodeCount =>
    obtain ⟨hlimiter, hclock, hnone, hsome⟩ := sync_cases e s nodeCount
    refine ⟨hlimiter ▸ h.limits, ?_, fun hconfig => ?_, fun config hconfig => ?_⟩
    · rw [hlimiter, hclock]
      exact h.fits
    · rw [hnone hconfig]
      exact h.absent hconfig
    · obtain ⟨l, hl, hmax, -, hlast⟩ := h.distributed config hconfig
      rw [hsome config hconfig, hl, hclock]
      exact ⟨_, rfl, hmax, fairShare_le config (le_max_right _ _), hlast⟩

/-- A bucket has been asked for a token, or a request was refused without asking it. -/
def Charged (now : ℚ) (admitted : Bool) (b b' : TokenBucket ℚ) : Prop :=
  (b' = (b.tryAcquire now).1 ∧ (admitted = true → (b.tryAcquire now).2 = true)) ∨
    (b' = b ∧ admitted = false)

theorem allowance_charged {w : TimeWindow} {rate : ℚ} {admitted : Bool} {b b' : TokenBucket ℚ}
    (h : Charged now admitted b b') (hrate : b.refillRate ≤ rate) (hclock : b.lastRefill ≤ now) :
    ((w.contains now && admitted).toNat : ℚ) + allowance w rate b' ≤ allowance w rate b := by
  rcases h with ⟨rfl, hadmitted⟩ | ⟨rfl, rfl⟩
  · cases hin : w.contains now with
    | false =>
      rw [Bool.false_and, Bool.toNat_false, Nat.cast_zero, zero_add]
      exact allowance_outside (b.rate_nonneg.trans hrate) hclock hin
    | true =>
      have hle : (admitted.toNat : ℚ) ≤ (b.tryAcquire now).2.toNat := by
        cases admitted with
        | false => exact Nat.cast_nonneg _
        | true => rw [hadmitted rfl]
      have hspent := @allowance_request w rate now b hrate hclock hin
      rw [Bool.true_and]
      linarith
  · rw [Bool.and_false, Bool.toNat_false, Nat.cast_zero, zero_add]

/-- A bucket of the node, with the rate it fills at at most and what it holds. -/
structure Gate where
  bucket : ProxyLimits → TokenBucket ℚ
  rate : Nat
  burst : Nat

/-- Every admitted request takes a token from the bucket. -/
structure Gate.Draws (e : Endpoint) (limiter : RateLimiter) (g : Gate) : Prop where
  made : ∀ s, Sound e limiter s → (g.bucket s).maxTokens = g.burst ∧
    (g.bucket s).refillRate ≤ g.rate ∧ (g.bucket s).lastRefill ≤ s.clock
  ask : ∀ s clientIp now, Sound e limiter s → s.clock ≤ now →
    Charged now (e.ask s clientIp now).2.toBool (g.bucket s) (g.bucket (e.ask s clientIp now).1)
  sync : ∀ s nodeCount, Sound e limiter s → ∃ rate hrate,
    g.bucket (step e s (.sync nodeCount)) = (g.bucket s).setRate rate hrate

theorem admits_request (e : Endpoint) (w : TimeWindow) (s : ProxyLimits) (clientIp : Option IpAddr)
    (now : ℚ) :
    (now < s.clock ∧ step e s (.request clientIp now) = s ∧
        admits e w s (.request clientIp now) = false) ∨
      (s.clock ≤ now ∧ step e s (.request clientIp now) = (e.ask s clientIp now).1 ∧
        admits e w s (.request clientIp now) =
          (w.contains now && (e.ask s clientIp now).2.toBool)) := by
  rcases lt_or_ge now s.clock with hpast | hclock
  · refine .inl ⟨hpast, if_pos hpast, ?_⟩
    simp [admits, decide_eq_false (not_le.mpr hpast)]
  · refine .inr ⟨hclock, if_neg (not_lt.mpr hclock), ?_⟩
    simp [admits, decide_eq_true hclock]

variable {g : Gate}

theorem Gate.Draws.admittedIn_le (hdraws : g.Draws e limiter) (h : Sound e limiter s)
    (w : TimeWindow) (as : List Event) :
    (admittedIn e w s as : ℚ) ≤ g.burst + g.rate * w.length := by
  have hwhole := @allowance_le w g.rate (Nat.cast_nonneg _) (g.bucket s)
  rw [(hdraws.made s h).1] at hwhole
  refine le_trans (Tally.hits_le (fun s a hs => hs.step a) (fun s _ =>
    allowance_nonneg (Nat.cast_nonneg _) (g.bucket s)) (fun s a hs => ?_) as h) hwhole
  obtain ⟨-, hrate, hlast⟩ := hdraws.made s hs
  cases a with
  | request clientIp now =>
    rcases admits_request e w s clientIp now with
      ⟨-, hstep, hadmits⟩ | ⟨hclock, hstep, hadmits⟩
    · rw [hadmits, hstep, Bool.toNat_false, Nat.cast_zero, zero_add]
    · rw [hadmits, hstep]
      exact allowance_charged (hdraws.ask s clientIp now hs hclock) hrate (hlast.trans hclock)
  | sync nodeCount =>
    obtain ⟨rate, hrate, heq⟩ := hdraws.sync s nodeCount hs
    rw [heq, admits, Bool.toNat_false, Nat.cast_zero, zero_add]
    exact le_rfl

theorem Gate.Draws.refused (hdraws : g.Draws e limiter) (hburst : g.burst = 0)
    (h : Sound e limiter s) (hclock : s.clock ≤ now) : (e.ask s clientIp now).2.toBool = false := by
  rcases hdraws.ask s clientIp now h hclock with ⟨-, hadmitted⟩ | ⟨-, hrefused⟩
  · rw [← Bool.not_eq_true]
    intro hpass
    have htoken := hadmitted hpass
    rw [tryAcquire_snd, decide_eq_true_eq] at htoken
    have hlevel := (g.bucket s).level_le now
    rw [(hdraws.made s h).1, hburst, Nat.cast_zero] at hlevel
    linarith
  · exact hrefused

theorem admittedIn_le_zero (hrefused : ∀ s clientIp now, Sound e limiter s → s.clock ≤ now →
      (e.ask s clientIp now).2.toBool = false)
    (h : Sound e limiter s) (w : TimeWindow) (as : List Event) : (admittedIn e w s as : ℚ) ≤ 0 := by
  refine Tally.hits_le (fun s a hs => hs.step a) (fun _ _ => le_refl 0) (fun s a hs => ?_) as h
  have hadmits : admits e w s a = false := by
    cases a with
    | request clientIp now =>
      rcases admits_request e w s clientIp now with ⟨-, -, hadmits⟩ | ⟨hclock, -, hadmits⟩
      · exact hadmits
      · rw [hadmits, hrefused s clientIp now hs hclock, Bool.and_false]
    | sync nodeCount => rfl
  rw [hadmits, Bool.toNat_false, Nat.cast_zero, zero_add]

/-- The bucket of the application. One that is not made yet is full. -/
def appGate (e : Endpoint) (limiter : RateLimiter) : Gate where
  bucket s := (s.limiter.appBuckets e.appId.text).getD
    (full _ _ s.clock (quota_nonneg (limiter.getAppConfig e.appId.text).requestsPerSecond)
      (quota_nonneg (limiter.getAppConfig e.appId.text).burstCapacity))
  rate := (limiter.getAppConfig e.appId.text).requestsPerSecond
  burst := (limiter.getAppConfig e.appId.text).burstCapacity

/-- The bucket of the distributed limiter. -/
def limiterGate (e : Endpoint) (config : DistributedRateLimitConfig) : Gate where
  bucket s := ((s.distributedLimiters e.appId.text).getD (.new config "" s.clock)).bucket
  rate := config.globalRps
  burst := config.perNodeBurst

theorem draws_appGate (e : Endpoint) (limiter : RateLimiter) :
    (appGate e limiter).Draws e limiter where
  made s h := by
    obtain rfl := h.limits
    dsimp only [appGate]
    cases hslot : s.limiter.appBuckets e.appId.text with
    | none => exact ⟨rfl, le_refl _, le_refl _⟩
    | some b =>
      obtain ⟨hmax, hrate, hlast⟩ := h.fits.apps e.appId.text b hslot
      exact ⟨hmax, le_of_eq hrate, hlast⟩
  ask s clientIp now h hclock := by
    obtain rfl := h.limits
    obtain ⟨hlimiter, -, hpass⟩ := limiter_ask h clientIp now
    -- The bucket may as well have been made when the clock was read before.
    have hacquire : s.limiter.acquireApp (e.query clientIp now) =
        ((appGate e s.limiter.limiter).bucket s).tryAcquire now :=
      acquireSlot_eq_tryAcquire _ s.clock now
    have hslot : (e.ask s clientIp now).1.limiter.appBuckets e.appId.text =
        some (s.limiter.acquireApp (e.query clientIp now)).1 := by
      rw [hlimiter, checkRequest_state.2.1]
      exact update_self ..
    refine .inl ⟨?_, fun hadmitted => ?_⟩
    · rw [← hacquire]
      simp [appGate, hslot]
    · rw [← hacquire, acquireApp, acquireSlot_snd]
      exact decide_eq_true (checkRequest_ok_iff.mp (hpass hadmitted)).1
  sync s nodeCount _ := by
    obtain ⟨hlimiter, hclock, -⟩ := sync_cases e s nodeCount
    refine ⟨_, ((appGate e limiter).bucket s).rate_nonneg, ?_⟩
    simp only [appGate, hlimiter, hclock]
    rfl

theorem draws_limiterGate {config : DistributedRateLimitConfig}
    (hconsulted : e.consulted = some config) (limiter : RateLimiter) :
    (limiterGate e config).Draws e limiter := by
  -- The limiter is there, and it is the one that is asked.
  have hbucket : ∀ s, Sound e limiter s → ∃ l, s.distributedLimiters e.appId.text = some l ∧
      e.distributed = some config ∧ (limiterGate e config).bucket s = l.bucket := by
    intro s h
    rcases asked_cases h with ⟨hnone, -⟩ | ⟨config', limit, l, hconfig', hmade, hl, -⟩
    · rw [hconsulted] at hnone
      cases hnone
    · obtain rfl := Option.some.inj (hconsulted.symm.trans hconfig')
      exact ⟨l, hl, hmade, by simp [limiterGate, hl]⟩
  constructor
  · intro s h
    obtain ⟨l, hl, hmade, heq⟩ := hbucket s h
    obtain ⟨l', hl', hfacts⟩ := h.distributed config hmade
    obtain rfl := Option.some.inj (hl.symm.trans hl')
    rw [heq]
    exact hfacts
  · intro s clientIp now h hclock
    obtain ⟨l, hl, -, heq⟩ := hbucket s h
    obtain ⟨l', hl', -, heq'⟩ := hbucket _ (h.ask clientIp hclock)
    rw [heq, heq']
    rcases ask_cases h clientIp now with
      ⟨-, hask, hrefused⟩ | ⟨-, ⟨hnone, -⟩ | ⟨config', l'', -, -, hl'', hask, hpass⟩⟩
    · rw [hask] at hl'
      obtain rfl := Option.some.inj (hl.symm.trans hl')
      exact .inr ⟨rfl, hrefused⟩
    · rw [hconsulted] at hnone
      cases hnone
    · obtain rfl := Option.some.inj (hl.symm.trans hl'')
      have hupdated : ((s.checked (e.query clientIp now)).acquired e.appId.text l
          now).distributedLimiters e.appId.text = some (l.checkRequest now).1 :=
        update_self ..
      rw [hask, hupdated] at hl'
      rw [← Option.some.inj hl', hpass]
      exact .inl ⟨rfl, id⟩
  · intro s nodeCount h
    obtain ⟨l, hl, hmade, heq⟩ := hbucket s h
    refine ⟨_, config.fairShare_nonneg (max nodeCount 1), ?_⟩
    rw [heq]
    simp only [limiterGate, (sync_cases e s nodeCount).2.2.2 config hmade, hl, Option.map_some,
      Option.getD_some]
    rfl

/-- The buckets a request has to find a token in. -/
def gates (e : Endpoint) (limiter : RateLimiter) : List Gate :=
  appGate e limiter :: e.consulted.toList.map (limiterGate e)

theorem forall_gates {P : Gate → Prop} : (∀ g ∈ gates e limiter, P g) ↔
      P (appGate e limiter) ∧ ∀ config ∈ e.consulted, P (limiterGate e config) := by
  simp [gates]

theorem draws_gates : ∀ g ∈ gates e limiter, g.Draws e limiter :=
  forall_gates.mpr ⟨draws_appGate e limiter, fun _ hconfig => draws_limiterGate hconfig limiter⟩

theorem refused_of_perIpLimit (hip : (limiter.getAppConfig e.appId.text).perIpLimit = 0)
    (h : Sound e limiter s) : (e.ask s clientIp now).2.toBool = false := by
  rw [← Bool.not_eq_true]
  intro hpass
  obtain rfl := h.limits
  have htoken := (checkRequest_ok_iff.mp ((limiter_ask h clientIp now).2.2 hpass)).2
  have hlevel := slotLevel_le (h.fits.ips (e.appId.text, clientIp.getD localhost)) now
  have hle := htoken.trans hlevel
  rw [hip, Nat.cast_zero] at hle
  exact absurd hle (not_le.mpr zero_lt_one)

theorem enforced_of_sufficient {limit : RouteRateLimit} (h : Sound e limiter s)
    (hsufficient : Sufficient e limit (limiter.getAppConfig e.appId.text)) :
    Enforced e limit s := by
  intro as w
  have hallowed : (0 : ℚ) ≤ limit.burstCapacity.toNat + limit.requestsPerSecond.toNat * w.length :=
    add_nonneg (Nat.cast_nonneg _) (mul_nonneg (Nat.cast_nonneg _) w.length_nonneg)
  rcases hsufficient with hburst | hip | ⟨config, hconfig, hburst⟩ | hsufficient
  · exact (admittedIn_le_zero (fun _ _ _ hs hclock =>
      (draws_appGate e limiter).refused hburst hs hclock) h w as).trans hallowed
  · exact (admittedIn_le_zero (fun _ _ _ hs _ => refused_of_perIpLimit hip hs) h w as).trans
      hallowed
  · exact (admittedIn_le_zero (fun _ _ _ hs hclock =>
      (draws_limiterGate hconfig limiter).refused hburst hs hclock) h w as).trans hallowed
  · exact hsufficient _ w.length w.length_nonneg ((draws_appGate e limiter).admittedIn_le h w as)
      fun config hconfig => (draws_limiterGate hconfig limiter).admittedIn_le h w as

def clients : Nat := 8589934592

structure Arrivals where
  started : ℚ
  distance : ℚ
  last : Nat
  distance_nonneg : 0 ≤ distance

namespace Arrivals

variable (p : Arrivals)

def time (k : Nat) : ℚ := p.started + k * p.distance

def client (k : Nat) : IpAddr := .v6 (BitVec.ofNat 128 (k % clients))

/-- The requests from the `k`-th on. -/
def events (k : Nat) : Nat → List Event
  | 0 => []
  | count + 1 => .request (some (client k)) (p.time k) :: events (k + 1) count

/-- What a request costs a bucket, net of what comes in before the next one. -/
def cost (rate : ℚ) : ℚ := max 0 (1 - p.distance * rate)

/-- The last request finds a token, as far as the bucket is concerned. -/
def FitsIn (rate burst : ℚ) : Prop :=
  1 ≤ burst ∧ (p.last : ℚ) + 1 ≤ burst + p.last * p.distance * rate

variable {p}

theorem time_succ (k : Nat) : p.time (k + 1) - p.time k = p.distance := by
  simp only [time, Nat.cast_add, Nat.cast_one]
  ring

variable {k : Nat} {j : Nat}

theorem time_mono (hle : j ≤ k) : p.time j ≤ p.time k := by
  have hcast : (j : ℚ) ≤ k := by exact_mod_cast hle
  have hgain := mul_le_mul_of_nonneg_right hcast p.distance_nonneg
  simp only [time]
  linarith

theorem client_ne (hlt : k < j) (hnear : j - k < clients) : client j ≠ client k := by
  intro heq
  have hbits : (BitVec.ofNat 128 (j % clients)).toNat = (BitVec.ofNat 128 (k % clients)).toNat := by
    injection heq with hbits
    rw [hbits]
  simp only [BitVec.toNat_ofNat, clients] at hbits hnear
  omega

theorem FitsIn.one_le {rate burst level : ℚ} (hfits : p.FitsIn rate burst) (hk : k ≤ p.last)
    (hlevel : burst - k * p.cost rate ≤ level) : 1 ≤ level := by
  have hcast : (k : ℚ) ≤ p.last := by exact_mod_cast hk
  exact (one_le_level_of_spaced hcast hfits.1 rfl hfits.2).trans hlevel

theorem cost_next {rate burst level : ℚ} (hlevel : burst - k * p.cost rate ≤ level) :
    burst - (k + 1 : Nat) * p.cost rate ≤
      min (level - 1 + (p.time (k + 1) - p.time k) * rate) burst := by
  rw [time_succ, Nat.cast_add, Nat.cast_one]
  exact le_level_of_spaced (le_max_left _ _) (Nat.cast_nonneg k) (le_max_right _ _) hlevel

theorem one_le_turn {rate burst : Nat} (hrate : rate < UInt32.size) (hburst : burst < UInt32.size)
    (hfits : p.FitsIn rate burst) (hback : clients ≤ p.last) : 1 ≤ clients * p.distance := by
  by_contra hsoon
  have hlast : (clients : ℚ) ≤ p.last := by exact_mod_cast hback
  have hrate' : (2 * rate : ℚ) ≤ clients := by
    have hnat : 2 * rate ≤ clients := by
      simp only [clients, UInt32.size] at hrate ⊢
      omega
    exact_mod_cast hnat
  have hburst' : (2 * burst : ℚ) ≤ clients := by
    have hnat : 2 * burst ≤ clients := by
      simp only [clients, UInt32.size] at hburst ⊢
      omega
    exact_mod_cast hnat
  -- In the time of one turn the bucket gains less than half of what the turn takes.
  have hgain : p.distance * (2 * rate) ≤ 1 :=
    (mul_le_mul_of_nonneg_left hrate' p.distance_nonneg).trans (by linarith)
  have hall := mul_le_mul_of_nonneg_left hgain (Nat.cast_nonneg (α := ℚ) p.last)
  have hfit := hfits.2
  linarith

end Arrivals

open Arrivals

/-- Before the `k`-th request every bucket that will be asked has what it takes. -/
structure Steady (e : Endpoint) (limiter : RateLimiter) (p : Arrivals) (k : Nat)
    (s : ProxyLimits) : Prop where
  sound : Sound e limiter s
  clock : s.clock ≤ p.time k
  ips : ∀ j, k ≤ j → j ≤ p.last →
    1 ≤ s.limiter.ipLevel (e.appId.text, client j) (p.time j)
  levels : ∀ g ∈ gates e limiter, (g.bucket s).refillRate = g.rate ∧
    g.burst - k * p.cost g.rate ≤ (g.bucket s).level (p.time k)

variable {p : Arrivals} {k : Nat}

theorem steady_start (hip : 1 ≤ (limiter.getAppConfig e.appId.text).perIpLimit) (nodeId : String) :
    Steady e limiter p 0 (step e (start e limiter nodeId p.started) (.sync 1)) := by
  have hstart := sound_start e limiter nodeId p.started
  obtain ⟨hlimiter, hclock, -, hsynced⟩ := sync_cases e (start e limiter nodeId p.started) 1
  have htime : p.time 0 = p.started := by
    rw [time, Nat.cast_zero, zero_mul, add_zero]
  refine ⟨hstart.step _, (hclock.trans htime.symm).le, fun j _ _ => ?_,
    forall_gates.mpr ⟨⟨?_, ?_⟩, fun config hconfig => ?_⟩⟩
  · rw [hlimiter]
    change (1 : ℚ) ≤ (limiter.getAppConfig e.appId.text).perIpLimit
    exact_mod_cast hip
  · simp only [appGate, hlimiter]
    rfl
  · rw [Nat.cast_zero, zero_mul, sub_zero]
    simp only [appGate, hlimiter]
    exact (level_full _ _).ge
  · rcases asked_cases hstart with ⟨hnone, -⟩ | ⟨config', limit, l, hconfig', hmade, -⟩
    · rw [Option.mem_def.mp hconfig] at hnone
      cases hnone
    obtain rfl := Option.some.inj (hconfig.symm.trans hconfig')
    have hslot : (start e limiter nodeId p.started).distributedLimiters e.appId.text =
        some (.new config nodeId p.started) := by
      simp [start, hmade]
    have hbucket : (limiterGate e config).bucket
        (step e (start e limiter nodeId p.started) (.sync 1)) =
          (syncTo config 1 (.new config nodeId p.started)).bucket := by
      simp [limiterGate, hsynced config hmade, hslot]
    have hlevel : (syncTo config 1 (.new config nodeId p.started)).bucket.level (p.time 0) =
        config.perNodeBurst := level_lastRefill htime.symm
    rw [hbucket, hlevel, Nat.cast_zero, zero_mul, sub_zero]
    exact ⟨div_one _, le_refl _⟩

theorem admitted_of_tokens (h : Sound e limiter s)
    (hgates : ∀ g ∈ gates e limiter, 1 ≤ (g.bucket s).level now)
    (hip : 1 ≤ s.limiter.ipLevel (e.appId.text, clientIp.getD localhost) now) :
    (e.ask s clientIp now).2.toBool = true := by
  obtain ⟨happ, hlimiter⟩ := forall_gates.mp hgates
  have hlevel : ((appGate e limiter).bucket s).level now = s.limiter.appLevel e.appId.text now := by
    obtain rfl := h.limits
    exact @level_getD_full ℚ _ _ _ _ _ (quota_nonneg _) (quota_nonneg _)
      (s.limiter.appBuckets e.appId.text) s.clock now
  rw [hlevel] at happ
  rcases ask_cases h clientIp now with
    ⟨hdenied, -⟩ | ⟨-, ⟨-, -, hpass⟩ | ⟨config, l, hconfig, -, hl, -, hpass⟩⟩
  · exact (hdenied (checkRequest_ok_iff.mpr ⟨happ, hip⟩)).elim
  · exact hpass
  · have htoken := hlimiter config hconfig
    simp only [limiterGate, hl, Option.getD_some] at htoken
    exact hpass.trans ((l.bucket.tryAcquire_snd now).trans (decide_eq_true htoken))

theorem Gate.Draws.next (hdraws : g.Draws e limiter) (h : Sound e limiter s)
    (hclock : s.clock ≤ p.time k) (hpass : (e.ask s clientIp (p.time k)).2.toBool = true)
    (hrate : (g.bucket s).refillRate = g.rate)
    (hlevel : g.burst - k * p.cost g.rate ≤ (g.bucket s).level (p.time k))
    (htoken : 1 ≤ (g.bucket s).level (p.time k)) :
    (g.bucket (e.ask s clientIp (p.time k)).1).refillRate = g.rate ∧
      g.burst - (k + 1 : Nat) * p.cost g.rate ≤
        (g.bucket (e.ask s clientIp (p.time k)).1).level (p.time (k + 1)) := by
  rcases hdraws.ask s clientIp _ h hclock with ⟨heq, -⟩ | ⟨-, hrefused⟩
  · rw [heq, level_after (time_mono k.le_succ) htoken, (hdraws.made s h).1, hrate]
    exact ⟨((g.bucket s).tryAcquire_fst _).2.1.trans hrate, cost_next hlevel⟩
  · rw [hpass] at hrefused
    cases hrefused

theorem Steady.next_ips (h : Steady e limiter p k s)
    (hok : (s.limiter.checkRequest (e.query (some (client k)) (p.time k))).2 = .ok ())
    (hip : 1 ≤ (limiter.getAppConfig e.appId.text).perIpLimit)
    (hturn : clients ≤ p.last → 1 ≤ clients * p.distance) (hkj : k + 1 ≤ j) (hj : j ≤ p.last) :
    1 ≤ (s.limiter.checkRequest (e.query (some (client k)) (p.time k))).1.ipLevel
      (e.appId.text, client j) (p.time j) := by
  by_cases hsame : client j = client k
  · -- The same client is back, after a whole turn.
    have hfar : clients ≤ j - k :=
      not_lt.mp fun hnear => client_ne hkj hnear hsame
    have hsecond : 1 ≤ p.time j - p.time k := by
      have hturns : (clients : ℚ) + k ≤ j := by
        have hnat : clients + k ≤ j := by omega
        exact_mod_cast hnat
      have hgain := mul_le_mul_of_nonneg_right hturns p.distance_nonneg
      have hone := hturn (by omega)
      simp only [time]
      linarith
    obtain rfl := h.sound.limits
    have hafter := @ipLevel_after s.limiter (e.query (some (client k)) (p.time k))
      (p.time j) (h.sound.fits.mono h.clock) (time_mono (by omega)) hok
    have htoken : 1 ≤ s.limiter.ipLevel (e.appId.text, client k) (p.time k) :=
      (checkRequest_ok_iff.mp hok).2
    have hip' : (1 : ℚ) ≤ (s.limiter.limiter.getAppConfig e.appId.text).perIpLimit := by
      exact_mod_cast hip
    have hfill := mul_le_mul_of_nonneg_right hsecond (zero_le_one.trans hip')
    rw [hsame]
    refine (le_min ?_ hip').trans hafter.ge
    change 1 ≤ s.limiter.ipLevel (e.appId.text, client k) (p.time k) - 1 +
      (p.time j - p.time k) * (s.limiter.limiter.getAppConfig e.appId.text).perIpLimit
    linarith
  · have hother : (e.appId.text, client j) ≠ ((e.query (some (client k)) (p.time k)).appId,
          (e.query (some (client k)) (p.time k)).sourceIp) :=
      fun heq => hsame (Prod.ext_iff.mp heq).2
    rw [ipLevel_other hother hok]
    exact h.ips j (by omega) hj

/-- The requests fit into every bucket, and no client is back too soon. -/
structure Served (e : Endpoint) (limiter : RateLimiter) (p : Arrivals) : Prop where
  fits : ∀ g ∈ gates e limiter, p.FitsIn g.rate g.burst
  ip : 1 ≤ (limiter.getAppConfig e.appId.text).perIpLimit
  turn : clients ≤ p.last → 1 ≤ clients * p.distance

theorem Steady.step (h : Steady e limiter p k s) (hserved : Served e limiter p) (hk : k ≤ p.last) :
    (e.ask s (some (client k)) (p.time k)).2.toBool = true ∧
      Steady e limiter p (k + 1) (e.ask s (some (client k)) (p.time k)).1 := by
  have htokens : ∀ g ∈ gates e limiter, 1 ≤ (g.bucket s).level (p.time k) :=
    fun g hg => (hserved.fits g hg).one_le hk (h.levels g hg).2
  have hpass : (e.ask s (some (client k)) (p.time k)).2.toBool = true :=
    admitted_of_tokens h.sound htokens (h.ips k (le_refl k) hk)
  obtain ⟨hlimiter, hclock, hok⟩ := limiter_ask h.sound (some (client k)) (p.time k)
  refine ⟨hpass, h.sound.ask _ h.clock, ?_, fun j hkj hj => ?_, fun g hg => ?_⟩
  · rw [hclock]
    exact time_mono k.le_succ
  · rw [hlimiter]
    exact h.next_ips (hok hpass) hserved.ip hserved.turn hkj hj
  · obtain ⟨hrate, hlevel⟩ := h.levels g hg
    exact (draws_gates g hg).next h.sound h.clock hpass hrate hlevel (htokens g hg)

theorem admittedIn_events (hserved : Served e limiter p) {w : TimeWindow}
    (hwindow : ∀ k ≤ p.last, w.contains (p.time k) = true) (count : Nat) :
    ∀ {k : Nat} {s : ProxyLimits}, Steady e limiter p k s → k + count ≤ p.last + 1 →
      admittedIn e w s (p.events k count) = count := by
  induction count with
  | zero => exact fun _ _ => rfl
  | succ count ih =>
    intro k s h hcount
    have hk : k ≤ p.last := by omega
    obtain ⟨hpass, hnext⟩ := h.step hserved hk
    have hrest : Tally.hits (step e) (admits e w) _ _ = _ := ih hnext (by omega)
    rcases admits_request e w s (some (client k)) (p.time k) with
      ⟨hpast, -⟩ | ⟨-, hstep, hadmits⟩
    · exact absurd h.clock (not_le.mpr hpast)
    · rw [admittedIn, events, Tally.hits, hadmits, hstep, hwindow k hk, hpass, hrest,
        Bool.and_self, Bool.toNat_true, Nat.add_comm]

/-- The requests that fit into a time are spread over it evenly. -/
def Arrivals.spread (started t : ℚ) (last : Nat) (ht : 0 ≤ t) : Arrivals :=
  ⟨started, t / last, last, div_nonneg ht (Nat.cast_nonneg _)⟩

variable {started t : ℚ}

theorem spread_fitsIn {last : Nat} {ht : 0 ≤ t} {rate burst : Nat} (hburst : burst ≠ 0)
    (hfits : ((last + 1 : Nat) : ℚ) ≤ burst + rate * t) :
    (spread started t last ht).FitsIn rate burst := by
  have hone : (1 : ℚ) ≤ burst := by exact_mod_cast Nat.one_le_iff_ne_zero.mpr hburst
  refine ⟨hone, ?_⟩
  change (last : ℚ) + 1 ≤ burst + last * (t / last) * rate
  cases last with
  | zero =>
    rw [Nat.cast_zero, zero_mul, zero_mul, zero_add, add_zero]
    exact hone
  | succ n =>
    have hpos : ((n + 1 : Nat) : ℚ) ≠ 0 := by exact_mod_cast n.succ_ne_zero
    rw [mul_div_cancel₀ t hpos, mul_comm t]
    rw [Nat.cast_add, Nat.cast_one] at hfits
    exact hfits

theorem spread_contains {last k : Nat} (ht : 0 ≤ t) (hk : k ≤ last) :
    (⟨started, t, ht⟩ : TimeWindow).contains ((spread started t last ht).time k) = true := by
  have hcast : (k : ℚ) ≤ last := by exact_mod_cast hk
  have hdistance := (spread started t last ht).distance_nonneg
  have hend : (last : ℚ) * (t / last) ≤ t := by
    rcases eq_or_ne (last : ℚ) 0 with hzero | hpos
    · rw [hzero, zero_mul]
      exact ht
    · rw [mul_div_cancel₀ t hpos]
  have hgain := mul_le_mul_of_nonneg_right hcast hdistance
  refine TimeWindow.contains_iff.mpr ⟨?_, ?_⟩
  · exact le_add_of_nonneg_right (mul_nonneg (Nat.cast_nonneg _) hdistance)
  · change started + k * (t / last) ≤ started + t
    change (k : ℚ) * (t / last) ≤ last * (t / last) at hgain
    linarith

variable {limit : RouteRateLimit}

theorem sufficient_of_enforced {nodeId : String}
    (hrate : (limiter.getAppConfig e.appId.text).requestsPerSecond < UInt32.size)
    (hburst : (limiter.getAppConfig e.appId.text).burstCapacity < UInt32.size)
    (h : Enforced e limit (start e limiter nodeId started)) :
    Sufficient e limit (limiter.getAppConfig e.appId.text) := by
  by_contra hnot
  simp only [Sufficient, not_or, not_exists, not_and] at hnot
  obtain ⟨happ, hip, hdistributed, hnot⟩ := hnot
  apply hnot
  intro n t ht hfits hfitsDistributed
  cases n with
  | zero =>
    rw [Nat.cast_zero]
    exact add_nonneg (Nat.cast_nonneg _) (mul_nonneg (Nat.cast_nonneg _) ht)
  | succ last =>
    have hfitsApp := @spread_fitsIn started t last ht _ _ happ hfits
    have hip' := Nat.one_le_iff_ne_zero.mpr hip
    have hserved : Served e limiter (.spread started t last ht) :=
      ⟨forall_gates.mpr ⟨hfitsApp, fun config hconfig =>
        spread_fitsIn (hdistributed config hconfig) (hfitsDistributed config hconfig)⟩,
      hip', one_le_turn hrate hburst hfitsApp⟩
    have hall := admittedIn_events hserved (fun k hk => spread_contains ht hk) (last + 1)
      (steady_start hip' nodeId) (Nat.zero_add (last + 1)).le
    have hkept := h (.sync 1 :: (spread started t last ht).events 0 (last + 1)) ⟨started, t, ht⟩
    have hrun : admittedIn e ⟨started, t, ht⟩ (start e limiter nodeId started)
        (.sync 1 :: (spread started t last ht).events 0 (last + 1)) = last + 1 :=
      (Nat.zero_add _).trans hall
    rw [hrun] at hkept
    exact hkept

/-- The external proxy keeps the limit that is in force for an endpoint if the
    buckets it asks stay within it, and only then. -/
theorem enforced_iff (e : Endpoint) (limiter : RateLimiter) (nodeId : String) (started : ℚ)
    (hrate : (limiter.getAppConfig e.appId.text).requestsPerSecond < UInt32.size)
    (hburst : (limiter.getAppConfig e.appId.text).burstCapacity < UInt32.size) :
    ∀ limit ∈ e.limit, Enforced e limit (start e limiter nodeId started) ↔
      Sufficient e limit (limiter.getAppConfig e.appId.text) := by
  intro limit _
  constructor
  · exact sufficient_of_enforced hrate hburst
  · exact enforced_of_sufficient (sound_start e limiter nodeId started)

theorem allowed_mono {rate burst : Nat} (hburst : burst ≤ limit.burstCapacity.toNat)
    (hrate : rate ≤ limit.requestsPerSecond.toNat) (ht : 0 ≤ t) :
    (burst : ℚ) + rate * t ≤ limit.burstCapacity.toNat + limit.requestsPerSecond.toNat * t := by
  have hburst' : (burst : ℚ) ≤ limit.burstCapacity.toNat := by exact_mod_cast hburst
  have hrate' : (rate : ℚ) ≤ limit.requestsPerSecond.toNat := by exact_mod_cast hrate
  exact add_le_add hburst' (mul_le_mul_of_nonneg_right hrate' ht)

/-- If only the application's limiter is asked, its limits are within the route's. -/
theorem sufficient_unconsulted_iff {app : RateLimitConfig} (hnone : e.consulted = none)
    (hburst : app.burstCapacity ≠ 0) (hip : app.perIpLimit ≠ 0) :
    Sufficient e limit app ↔ app.burstCapacity ≤ limit.burstCapacity.toNat ∧
      app.requestsPerSecond ≤ limit.requestsPerSecond.toNat := by
  have hnobody : ∀ (P : DistributedRateLimitConfig → Prop), ∀ config ∈ e.consulted, P config := by
    intro P config hconfig
    rw [hnone] at hconfig
    cases hconfig
  constructor
  · rintro (hzero | hzero | ⟨config, hconfig, -⟩ | h)
    · exact absurd hzero hburst
    · exact absurd hzero hip
    · exact hnobody (fun _ => _) config hconfig
    · constructor
      · have hnow := h app.burstCapacity 0 (le_refl 0) (by rw [mul_zero, add_zero]) (hnobody _)
        rw [mul_zero, add_zero] at hnow
        exact_mod_cast hnow
      · by_contra hmore
        -- After long enough the higher rate has made up for any burst.
        have hlong := h (app.burstCapacity +
            app.requestsPerSecond * (limit.burstCapacity.toNat + 1)) (limit.burstCapacity.toNat + 1)
          (by exact_mod_cast Nat.zero_le _) (by push_cast; exact le_refl _) (hnobody _)
        have hnat : app.burstCapacity + app.requestsPerSecond * (limit.burstCapacity.toNat + 1) ≤
          limit.burstCapacity.toNat +
            limit.requestsPerSecond.toNat * (limit.burstCapacity.toNat + 1) := by
          exact_mod_cast hlong
        have hgain := Nat.mul_le_mul_right (limit.burstCapacity.toNat + 1)
          (Nat.succ_le_of_lt (not_le.mp hmore))
        rw [Nat.succ_mul] at hgain
        omega
  · rintro ⟨hburst, hrate⟩
    refine .inr (.inr (.inr fun n t ht hfits _ => ?_))
    exact hfits.trans (allowed_mono hburst hrate ht)

theorem sufficient_of_consulted {app : RateLimitConfig} {config : DistributedRateLimitConfig}
    (hconsulted : e.consulted = some config)
    (hburst : config.perNodeBurst ≤ limit.burstCapacity.toNat)
    (hrate : config.globalRps ≤ limit.requestsPerSecond.toNat) : Sufficient e limit app := by
  refine .inr (.inr (.inr fun n t ht _ hfits => ?_))
  exact (hfits config hconsulted).trans (allowed_mono hburst hrate ht)

def onePerSecond (distributed : Bool) : Endpoint where
  ctx := .routed (some ⟨"api:v1"⟩)
    (some { GatewayRouteConfig.default with rateLimit := some ⟨1, 1, distributed⟩ })
  path := "/"
  method := "GET"
  appId := ⟨"api:v1"⟩
  routed := rfl
  distributed := if distributed then some ⟨1, 1, 1000⟩ else none

theorem enforced_distributed : (onePerSecond true).limit = some ⟨1, 1, true⟩ ∧
      Enforced (onePerSecond true) ⟨1, 1, true⟩
        (start (onePerSecond true) (RateLimiter.new ⟨1000, 50, 100⟩) "node-1" 0) :=
  have hconsulted : (onePerSecond true).consulted = some ⟨1, 1, 1000⟩ := rfl
  ⟨rfl, (enforced_iff (onePerSecond true) (RateLimiter.new ⟨1000, 50, 100⟩) "node-1" 0
    (by decide) (by decide) ⟨1, 1, true⟩ rfl).mpr
    (sufficient_of_consulted hconsulted le_rfl le_rfl)⟩

/-- The route admits one request at a time. The application admits more, and the
    proxy asks nobody else. -/
theorem route_limit_ignored :
    let e := onePerSecond false
    e.limit = some ⟨1, 1, false⟩ ∧
      admittedIn e ⟨0, 0, le_refl 0⟩ (start e (RateLimiter.new ⟨1000, 50, 100⟩) "node-1" 0)
        [.request none 0, .request none 0] = 2 := by
  refine ⟨rfl, ?_⟩
  decide +kernel

/-- `route_rate_buckets`. -/
abbrev RouteBuckets := String → Option (TokenBucket ℚ)

/-- `LocalRouteBucket::new`. -/
def localRouteBucket (limit : RouteRateLimit) (now : ℚ) : TokenBucket ℚ :=
  full _ _ now (quota_nonneg limit.requestsPerSecond.toNat)
    (quota_nonneg limit.burstCapacity.toNat)

/-- `check_route_rate_limit`. A bucket that was made for another limit is made anew. -/
def checkRouteRateLimit (buckets : RouteBuckets) (key : String) (limit : RouteRateLimit)
    (now : ℚ) : RouteBuckets × Bool :=
  let bucket := (buckets key).getD (localRouteBucket limit now)
  let bucket := if bucket.refillRate ≠ limit.requestsPerSecond.toNat ∨
      bucket.maxTokens ≠ limit.burstCapacity.toNat then localRouteBucket limit now else bucket
  (update buckets key (some (bucket.tryAcquire now).1), (bucket.tryAcquire now).2)

/-- The buckets, and the time of the last request. -/
structure RouteLimiter where
  buckets : RouteBuckets
  clock : ℚ

variable (limits : String → RouteRateLimit)

/-- A request under a key, which has a limit. -/
def routeStep (t : RouteLimiter) (r : String × ℚ) : RouteLimiter :=
  if r.2 < t.clock then t else ⟨(checkRouteRateLimit t.buckets r.1 (limits r.1) r.2).1, r.2⟩

/-- A request of the window is admitted under a key. -/
def routeAdmits (w : TimeWindow) (key : String) (t : RouteLimiter) (r : String × ℚ) : Bool :=
  decide (r.1 = key ∧ t.clock ≤ r.2) &&
    (w.contains r.2 && (checkRouteRateLimit t.buckets r.1 (limits r.1) r.2).2)

section Internal

variable {limits} {key : String} {started : ℚ} {t : RouteLimiter}

/-- The bucket of a key. One that is not made yet is full. -/
def keyBucket (limits : String → RouteRateLimit) (key : String) (started : ℚ)
    (t : RouteLimiter) : TokenBucket ℚ :=
  (t.buckets key).getD (localRouteBucket (limits key) started)

/-- The bucket of a key, if it is there, was made for its limit. -/
def MadeFor (limits : String → RouteRateLimit) (key : String) (started : ℚ)
    (t : RouteLimiter) : Prop :=
  started ≤ t.clock ∧ Suits ((limits key).requestsPerSecond.toNat : ℚ)
    (limits key).burstCapacity.toNat t.clock (t.buckets key)

theorem checkRouteRateLimit_eq (h : MadeFor limits key started t) (now : ℚ) :
    (checkRouteRateLimit t.buckets key (limits key) now).1 key =
        some ((keyBucket limits key started t).tryAcquire now).1 ∧
      (checkRouteRateLimit t.buckets key (limits key) now).2 =
        ((keyBucket limits key started t).tryAcquire now).2 := by
  have hkept : ¬ (((t.buckets key).getD (localRouteBucket (limits key) now)).refillRate ≠
        (limits key).requestsPerSecond.toNat ∨
      ((t.buckets key).getD (localRouteBucket (limits key) now)).maxTokens ≠
        (limits key).burstCapacity.toNat) := by
    rw [not_or, not_not, not_not]
    cases hslot : t.buckets key with
    | none => exact ⟨rfl, rfl⟩
    | some b => exact ⟨(h.2 b hslot).2.1, (h.2 b hslot).1⟩
  have hacquire : ((t.buckets key).getD (localRouteBucket (limits key) now)).tryAcquire now =
      (keyBucket limits key started t).tryAcquire now :=
    acquireSlot_eq_tryAcquire (t.buckets key) started now
  simp [checkRouteRateLimit, if_neg hkept, hacquire]

theorem routeStep_cases (h : MadeFor limits key started t) (w : TimeWindow) (r : String × ℚ) :
    ((routeStep limits t r).buckets key = t.buckets key ∧
        t.clock ≤ (routeStep limits t r).clock ∧ routeAdmits limits w key t r = false) ∨
      (t.clock ≤ r.2 ∧ (routeStep limits t r).clock = r.2 ∧ (routeStep limits t r).buckets key =
          some ((keyBucket limits key started t).tryAcquire r.2).1 ∧
        routeAdmits limits w key t r =
          (w.contains r.2 && ((keyBucket limits key started t).tryAcquire r.2).2)) := by
  by_cases hpast : r.2 < t.clock
  · rw [routeStep, if_pos hpast, routeAdmits, decide_eq_false (fun hr => hr.2.not_gt hpast)]
    exact .inl ⟨rfl, le_refl _, rfl⟩
  · have hclock : t.clock ≤ r.2 := not_lt.mp hpast
    by_cases hkey : r.1 = key
    · obtain ⟨hused, hpass⟩ := checkRouteRateLimit_eq h r.2
      rw [routeStep, if_neg hpast, routeAdmits, decide_eq_true ⟨hkey, hclock⟩, hkey, hpass,
        Bool.true_and]
      exact .inr ⟨hclock, rfl, hused, rfl⟩
    · rw [routeStep, if_neg hpast, routeAdmits, decide_eq_false (fun hr => hkey hr.1)]
      exact .inl ⟨update_of_ne (Ne.symm hkey) .., hclock, rfl⟩

theorem MadeFor.step (h : MadeFor limits key started t) (r : String × ℚ) :
    MadeFor limits key started (routeStep limits t r) := by
  rcases routeStep_cases h ⟨0, 0, le_refl 0⟩ r with
    ⟨hsame, hclock, -⟩ | ⟨hclock, hnow, hused, -⟩
  · refine ⟨h.1.trans hclock, ?_⟩
    rw [hsame]
    exact h.2.mono hclock
  · have hacquire := @acquireSlot_eq_tryAcquire ℚ _ _ _ _ _
      (quota_nonneg (limits key).requestsPerSecond.toNat)
      (quota_nonneg (limits key).burstCapacity.toNat) (t.buckets key) started r.2
    refine ⟨(h.1.trans hclock).trans hnow.ge, ?_⟩
    rw [hnow, hused]
    exact hacquire ▸ suits_acquireSlot (h.2.mono hclock)

theorem keyBucket_made (h : MadeFor limits key started t) :
    (keyBucket limits key started t).refillRate = (limits key).requestsPerSecond.toNat ∧
      (keyBucket limits key started t).lastRefill ≤ t.clock := by
  rw [keyBucket]
  cases hslot : t.buckets key with
  | none => exact ⟨rfl, h.1⟩
  | some b => exact (h.2 b hslot).2

/-- The internal gateway keeps the limit of every key, whatever else it is asked. -/
theorem internal_admits (limits : String → RouteRateLimit) (key : String) (started : ℚ)
    (rs : List (String × ℚ)) (w : TimeWindow) :
    (Tally.hits (routeStep limits) (routeAdmits limits w key) ⟨fun _ => none, started⟩ rs : ℚ) ≤
      (limits key).burstCapacity.toNat + (limits key).requestsPerSecond.toNat * w.length := by
  have hnonneg : (0 : ℚ) ≤ (limits key).requestsPerSecond.toNat := Nat.cast_nonneg _
  have hstep : ∀ t r, MadeFor limits key started t → ((routeAdmits limits w key t r).toNat : ℚ) +
          allowance w (limits key).requestsPerSecond.toNat
            (keyBucket limits key started (routeStep limits t r)) ≤
        allowance w (limits key).requestsPerSecond.toNat (keyBucket limits key started t) := by
    intro t r ht
    rcases routeStep_cases ht w r with ⟨hsame, -, hrefused⟩ | ⟨hclock, -, hused, hadmits⟩
    · rw [hrefused, keyBucket, hsame, Bool.toNat_false, Nat.cast_zero, zero_add]
      exact le_rfl
    · obtain ⟨hrate, hlast⟩ := keyBucket_made ht
      have hbucket : keyBucket limits key started (routeStep limits t r) =
          ((keyBucket limits key started t).tryAcquire r.2).1 := by
        rw [keyBucket, hused, Option.getD_some]
      rw [hadmits, hbucket]
      exact allowance_charged (.inl ⟨rfl, id⟩) hrate.le (hlast.trans hclock)
  have hinit : MadeFor limits key started ⟨fun _ => none, started⟩ :=
    ⟨le_refl started, suits_none _ _ _⟩
  have hwhole := @allowance_le w _ hnonneg (keyBucket limits key started ⟨fun _ => none, started⟩)
  have hmax : (keyBucket limits key started ⟨fun _ => none, started⟩).maxTokens =
    (limits key).burstCapacity.toNat := rfl
  rw [hmax] at hwhole
  have hcount := @Tally.hits_le _ _ ℚ _ _ _ (routeStep limits) (routeAdmits limits w key)
    (MadeFor limits key started)
    (fun t => allowance w (limits key).requestsPerSecond.toNat (keyBucket limits key started t))
    (fun t r ht => ht.step r) (fun t _ => allowance_nonneg hnonneg _) hstep rs _ hinit
  exact hcount.trans hwhole

end Internal

end RouteLimits

end WasmCloud
