import Mathlib.Algebra.Order.Ring.Defs
import Mathlib.Tactic.Linarith
import Mathlib.Tactic.Ring

/-!
# Token Buckets

A bucket of tokens that fills at a rate up to a maximum, and from which requests take a
token each. It is refilled when it is used: what has come in since the last use is
added then, at the rate the bucket has at that moment.

What a bucket amounts to at a time is its `level` there. Refilling it in between does
not change the level later on, so two uses of a bucket can be compared through levels
at one time, whenever each of them was last refilled. A bucket that does not exist yet
is made full at its first use, and counts as full before it.

Arithmetic is exact, over any ordered ring.
-/

namespace WasmCloud

/-- A bucket of tokens. -/
structure TokenBucket (K : Type) [CommRing K] [LinearOrder K] where
  tokens : K
  maxTokens : K
  refillRate : K
  lastRefill : K
  tokens_nonneg : 0 ≤ tokens
  tokens_le : tokens ≤ maxTokens
  rate_nonneg : 0 ≤ refillRate

variable {K : Type} [CommRing K] [LinearOrder K] [IsStrictOrderedRing K]

namespace TokenBucket

/-- A full bucket. -/
def full (rate burst now : K) (hrate : 0 ≤ rate) (hburst : 0 ≤ burst) : TokenBucket K :=
  ⟨burst, burst, rate, now, hburst, le_refl burst, hrate⟩

variable (b : TokenBucket K)

/-- The tokens at a time. A clock that lags behind the last use adds nothing. -/
def level (now : K) : K :=
  min (b.tokens + max (now - b.lastRefill) 0 * b.refillRate) b.maxTokens

omit [IsStrictOrderedRing K] in
theorem level_le (now : K) : b.level now ≤ b.maxTokens := min_le_right _ _

theorem level_nonneg (now : K) : 0 ≤ b.level now := by
  refine le_min ?_ (b.tokens_nonneg.trans b.tokens_le)
  have hgain : 0 ≤ max (now - b.lastRefill) 0 * b.refillRate :=
    mul_nonneg (le_max_right _ _) b.rate_nonneg
  have htokens := b.tokens_nonneg
  linarith

/-- The bucket with what has come in since its last use. -/
def refill (now : K) : TokenBucket K :=
  ⟨b.level now, b.maxTokens, b.refillRate, now, b.level_nonneg now, b.level_le now, b.rate_nonneg⟩

/-- The bucket with one token less. -/
def take (h : 1 ≤ b.tokens) : TokenBucket K :=
  { b with
    tokens := b.tokens - 1
    tokens_nonneg := sub_nonneg.mpr h
    tokens_le := (sub_le_self _ zero_le_one).trans b.tokens_le }

/-- Take a token, if there is one. -/
def tryAcquire (now : K) : TokenBucket K × Bool :=
  if h : 1 ≤ (b.refill now).tokens then ((b.refill now).take h, true) else (b.refill now, false)

/-- The bucket with another rate from now on. Nothing is refilled at the old one. -/
def setRate (rate : K) (hrate : 0 ≤ rate) : TokenBucket K :=
  { b with refillRate := rate, rate_nonneg := hrate }

theorem tryAcquire_snd (now : K) : (b.tryAcquire now).2 = decide (1 ≤ b.level now) := by
  unfold tryAcquire
  split_ifs with h
  · exact (decide_eq_true h).symm
  · exact (decide_eq_false h).symm

/-- What is left is the level, less the token that was taken. -/
theorem tokens_tryAcquire (now : K) :
    (b.tryAcquire now).1.tokens = b.level now - if (b.tryAcquire now).2 then 1 else 0 := by
  unfold tryAcquire
  by_cases h : 1 ≤ (b.refill now).tokens
  · rw [dif_pos h, if_pos rfl]
    rfl
  · rw [dif_neg h, if_neg Bool.false_ne_true, sub_zero]
    rfl

theorem tryAcquire_fst (now : K) :
    (b.tryAcquire now).1.maxTokens = b.maxTokens ∧ (b.tryAcquire now).1.refillRate = b.refillRate ∧
      (b.tryAcquire now).1.lastRefill = now := by
  unfold tryAcquire
  split_ifs with h
  · exact ⟨rfl, rfl, rfl⟩
  · exact ⟨rfl, rfl, rfl⟩

omit [IsStrictOrderedRing K] in
/-- At the time of its last use the level of a bucket is its tokens. -/
theorem level_lastRefill {b : TokenBucket K} {now : K} (h : b.lastRefill = now) :
    b.level now = b.tokens := by
  rw [level, h, sub_self, max_self, zero_mul, add_zero, min_eq_left b.tokens_le]

/-- A full bucket stays full. -/
theorem level_full {rate burst : K} {hrate : 0 ≤ rate} {hburst : 0 ≤ burst} (started now : K) :
    (full rate burst started hrate hburst).level now = burst :=
  min_eq_right (le_add_of_nonneg_right (mul_nonneg (le_max_right _ _) hrate))

/-- The level some time after a use that found a token. -/
theorem level_after {b : TokenBucket K} {now later : K} (hle : now ≤ later)
    (htoken : 1 ≤ b.level now) :
    (b.tryAcquire now).1.level later =
      min (b.level now - 1 + (later - now) * b.refillRate) b.maxTokens := by
  obtain ⟨hmax, hrate, hlast⟩ := b.tryAcquire_fst now
  rw [level, hmax, hrate, hlast, tokens_tryAcquire, tryAcquire_snd, decide_eq_true htoken,
    if_pos rfl, max_eq_left (sub_nonneg.mpr hle)]

end TokenBucket

open TokenBucket

-- Filling up twice in a row is filling up once: the maximum cuts off the same either way.
theorem min_add_min {x a m : K} (ha : 0 ≤ a) : min (min x m + a) m = min (x + a) m := by
  rcases le_total x m with h | h
  · rw [min_eq_left h]
  · rw [min_eq_right h, min_eq_right (by linarith), min_eq_right (by linarith)]

/-- The level of a bucket that is made full at its first use. -/
def slotLevel (burst : K) (slot : Option (TokenBucket K)) (now : K) : K :=
  (slot.map (fun b => b.level now)).getD burst

/-- The bucket has this rate and this maximum, and was not used after the given time. -/
def Suits (rate burst now : K) (slot : Option (TokenBucket K)) : Prop :=
  ∀ b ∈ slot, b.maxTokens = burst ∧ b.refillRate = rate ∧ b.lastRefill ≤ now

omit [IsStrictOrderedRing K] in
theorem suits_none (rate burst now : K) : Suits rate burst now none :=
  nofun

variable {rate burst now : K} {slot : Option (TokenBucket K)}

omit [IsStrictOrderedRing K] in
theorem Suits.mono {later : K} (h : Suits rate burst now slot) (hle : now ≤ later) :
    Suits rate burst later slot :=
  fun b hb => ⟨(h b hb).1, (h b hb).2.1, (h b hb).2.2.trans hle⟩

omit [IsStrictOrderedRing K] in
theorem slotLevel_le (h : Suits rate burst now slot) (later : K) :
    slotLevel burst slot later ≤ burst := by
  cases slot with
  | none => exact le_refl burst
  | some b =>
    rw [← (h b rfl).1]
    exact b.level_le later

/-- The level at a later time: what comes in until then is added, up to the maximum. -/
theorem slotLevel_advance {later : K} (hrate : 0 ≤ rate) (h : Suits rate burst now slot)
    (hle : now ≤ later) :
    slotLevel burst slot later = min (slotLevel burst slot now + (later - now) * rate) burst := by
  have hgain : 0 ≤ (later - now) * rate := mul_nonneg (sub_nonneg.mpr hle) hrate
  cases slot with
  | none =>
    -- Nothing fits into a full bucket.
    change burst = min (burst + (later - now) * rate) burst
    rw [min_eq_right (by linarith)]
  | some b =>
    rcases h b rfl with ⟨rfl, rfl, hlast⟩
    change b.level later = min (b.level now + (later - now) * b.refillRate) b.maxTokens
    unfold level
    rw [min_add_min hgain, max_eq_left (sub_nonneg.mpr (hlast.trans hle)),
      max_eq_left (sub_nonneg.mpr hlast)]
    congr 1
    ring

/-- A token is taken from a bucket, which is made full if there is none. -/
def acquireSlot (rate burst : K) (hrate : 0 ≤ rate) (hburst : 0 ≤ burst)
    (slot : Option (TokenBucket K)) (now : K) : TokenBucket K × Bool :=
  (slot.getD (full rate burst now hrate hburst)).tryAcquire now

section Slots

variable {rate burst : K} {hrate : 0 ≤ rate} {hburst : 0 ≤ burst}

theorem level_getD_full (slot : Option (TokenBucket K)) (started now : K) :
    (slot.getD (full rate burst started hrate hburst)).level now = slotLevel burst slot now := by
  cases slot with
  | none => exact level_full started now
  | some b => rfl

theorem acquireSlot_snd (slot : Option (TokenBucket K)) (now : K) :
    (acquireSlot rate burst hrate hburst slot now).2 = decide (1 ≤ slotLevel burst slot now) := by
  rw [acquireSlot, tryAcquire_snd, level_getD_full]

/-- A bucket that was used suits its rate and its maximum still. -/
theorem suits_acquireSlot {slot : Option (TokenBucket K)} {now : K}
    (h : Suits rate burst now slot) :
    Suits rate burst now (some (acquireSlot rate burst hrate hburst slot now).1) := by
  intro b hb
  rw [← Option.some.inj hb, acquireSlot]
  rcases tryAcquire_fst
    (slot.getD (full rate burst now hrate hburst)) now with ⟨hmax, hrefill, hlast⟩
  rw [hmax, hrefill, hlast]
  cases slot with
  | none => exact ⟨rfl, rfl, le_refl now⟩
  | some b => exact ⟨(h b rfl).1, (h b rfl).2.1, le_refl now⟩

/-- The level right after a use. -/
theorem slotLevel_acquireSlot (slot : Option (TokenBucket K)) (now : K) :
    slotLevel burst (some (acquireSlot rate burst hrate hburst slot now).1) now =
      slotLevel burst slot now - if 1 ≤ slotLevel burst slot now then 1 else 0 := by
  have hlast := (tryAcquire_fst (slot.getD (full rate burst now hrate hburst)) now).2.2
  change (acquireSlot rate burst hrate hburst slot now).1.level now = _
  rw [acquireSlot, level_lastRefill hlast, tokens_tryAcquire, tryAcquire_snd, level_getD_full]
  simp

/-- The level some time after a use that found a token. -/
theorem slotLevel_after {slot : Option (TokenBucket K)} {now later : K}
    (h : Suits rate burst now slot) (hle : now ≤ later) (htoken : 1 ≤ slotLevel burst slot now) :
    slotLevel burst (some (acquireSlot rate burst hrate hburst slot now).1) later =
      min (slotLevel burst slot now - 1 + (later - now) * rate) burst := by
  rw [slotLevel_advance hrate (suits_acquireSlot h) hle, slotLevel_acquireSlot, if_pos htoken]

/-- A bucket that does not exist yet may as well have been full for a while. -/
theorem acquireSlot_eq_tryAcquire (slot : Option (TokenBucket K)) (started now : K) :
    acquireSlot rate burst hrate hburst slot now =
      (slot.getD (full rate burst started hrate hburst)).tryAcquire now := by
  cases slot with
  | some b => rfl
  | none =>
    have hrefill : (full rate burst now hrate hburst).refill now =
        (full rate burst started hrate hburst).refill now := by
      simp only [refill, level_full]
      rfl
    simp [acquireSlot, tryAcquire, hrefill]

end Slots

/-- Each of `k` requests has cost `g` tokens net of what came in before the next. -/
theorem le_level_of_spaced {level rate burst d g k : K} (hg : 0 ≤ g) (hk : 0 ≤ k)
    (hgain : 1 - d * rate ≤ g) (h : burst - k * g ≤ level) :
    burst - (k + 1) * g ≤ min (level - 1 + d * rate) burst := by
  have hspent : 0 ≤ (k + 1) * g := mul_nonneg (by linarith) hg
  refine le_min ?_ (by linarith)
  linarith

/-- If the last of the requests finds a token then none before it empties the bucket. -/
theorem one_le_level_of_spaced {rate burst d g k m : K} (hkm : k ≤ m)
    (hburst : 1 ≤ burst) (hg : g = max 0 (1 - d * rate)) (hlast : m + 1 ≤ burst + m * d * rate) :
    1 ≤ burst - k * g := by
  have hg0 : 0 ≤ g := hg ▸ le_max_left _ _
  have hall : k * g ≤ m * g := mul_le_mul_of_nonneg_right hkm hg0
  have hm : m * g ≤ burst - 1 := by
    rw [hg]
    rcases le_total (1 - d * rate) 0 with hle | hle
    · rw [max_eq_left hle, mul_zero]
      linarith
    · rw [max_eq_right hle]
      linarith
  linarith

end WasmCloud
