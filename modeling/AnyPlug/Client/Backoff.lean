import AnyPlug.Client.Reconnect

/-!
# Backoff

The delays of `usbip-client/src/reconnect.rs`, and the run of its state machine with them.
`delayForAttempt` is `delay_for_attempt` in exact arithmetic; `none` stands for a panic, of an empty
range of the jitter or of a duration that is too long.

`delay_for_attempt` casts the number of the attempt to a signed number before it raises the
multiplier to it. `delayForAttempt_bounds_iff` says for which configurations and attempts the delay
is within 25 percent of the capped backoff. With the settings that all callers use it is, for every
attempt before the cast wraps, and then the budget of retries is exact (`decideRun_default`).
-/

namespace AnyPlug

/-! ## The delay -/

/-- The whole configuration: the fields that only enter the delay are here. -/
structure BackoffConfig extends ReconnectConfig where
  initialDelaySecs : UInt64
  maxDelaySecs : UInt64
  backoffMultiplier : ℚ

/-- A sample of the half-open unit interval. -/
abbrev Sample : Type := Set.Ico (0 : ℚ) 1

/-- `gen_range`: a value of the half-open range, which must not be empty. -/
def genRange (u : Sample) (lo hi : ℚ) : Option ℚ :=
  if lo < hi then some (lo + u * (hi - lo)) else none

/-- `attempt as i32`. -/
def powiExponent (attempt : UInt32) : ℤ := attempt.toInt32.toInt

/-- The nearest integer, and the even one of two. -/
def roundTiesEven (x : ℚ) : ℤ :=
  if x - ⌊x⌋ < 1 / 2 then ⌊x⌋
  else if 1 / 2 < x - ⌊x⌋ then ⌊x⌋ + 1
  else if ⌊x⌋ % 2 = 0 then ⌊x⌋
  else ⌊x⌋ + 1

/-- Rounding does not pass an integer. -/
theorem le_roundTiesEven {n : ℤ} {x : ℚ} (h : n ≤ x) : n ≤ roundTiesEven x := by
  have hfloor := Int.le_floor.2 h
  unfold roundTiesEven
  split
  · exact hfloor
  · split
    · omega
    · split <;> omega

theorem roundTiesEven_le {n : ℤ} {x : ℚ} (h : x ≤ n) : roundTiesEven x ≤ n := by
  have hfloor : ⌊x⌋ ≤ n := by exact_mod_cast (Int.floor_le x).trans h
  rcases hfloor.eq_or_lt with heq | hlt
  · -- then the number is the integer
    have hx : x = ⌊x⌋ := le_antisymm (by rw [heq]; exact h) (Int.floor_le x)
    rw [roundTiesEven, if_pos (by linarith)]
    exact hfloor
  · unfold roundTiesEven
    split
    · exact hfloor
    · split
      · omega
      · split <;> omega

/-- The nanoseconds of a duration. -/
def nanos (secs : ℚ) : ℕ := (roundTiesEven (secs * 10 ^ 9)).toNat

/-- `Duration::from_secs_f64`: a duration has fewer than `2 ^ 64` seconds. -/
def fromSecs (secs : ℚ) : Option ℚ := if 0 ≤ secs ∧ secs < 2 ^ 64 then some secs else none

theorem fromSecs_eq_some {secs d : ℚ} :
    fromSecs secs = some d ↔ 0 ≤ secs ∧ secs < 2 ^ 64 ∧ secs = d := by
  rw [fromSecs]
  split
  · rename_i hfits
    simp only [Option.some.injEq, hfits.1, hfits.2, true_and]
  · rename_i hfits
    refine iff_of_false (by simp) ?_
    rintro ⟨h₁, h₂, -⟩
    exact hfits ⟨h₁, h₂⟩

namespace BackoffConfig

/-- `ReconnectConfig::default`, with a limit on the retries. -/
def withRetries (maxRetries : Option UInt32) : BackoffConfig := ⟨⟨maxRetries⟩, 1, 30, 2⟩

/-- The delay before its jitter. -/
def cappedSecs (config : BackoffConfig) (attempt : UInt32) : ℚ :=
  min (config.initialDelaySecs.toNat * config.backoffMultiplier ^ powiExponent attempt)
    config.maxDelaySecs.toNat

/-- Calculate the delay for the nth retry attempt (0-indexed), in seconds. -/
def delayForAttempt (config : BackoffConfig) (u : Sample) (attempt : UInt32) : Option ℚ := do
  let cappedSecs := config.cappedSecs attempt
  let jitterRange := cappedSecs * (1 / 4)
  let jitter ← genRange u (-jitterRange) jitterRange
  fromSecs (max (cappedSecs + jitter) (1 / 10))

/-- The backoff that is documented: the initial delay, multiplied for each attempt, and capped. -/
def backoff (config : BackoffConfig) (attempt : ℕ) : ℚ :=
  min (config.initialDelaySecs.toNat * config.backoffMultiplier ^ attempt) config.maxDelaySecs.toNat

variable {config : BackoffConfig} {attempt : UInt32}

theorem powiExponent_eq (attempt : UInt32) : powiExponent attempt =
    if attempt.toNat < 2 ^ 31 then (attempt.toNat : ℤ) else (attempt.toNat : ℤ) - 2 ^ 32 := by
  have hlt := attempt.toNat_lt
  have hint : powiExponent attempt = attempt.toBitVec.toInt := rfl
  have hnat : attempt.toBitVec.toNat = attempt.toNat := rfl
  rw [hint, BitVec.toInt_eq_toNat_cond, hnat]
  split <;> split <;> omega

theorem cappedSecs_eq_backoff (h : attempt.toNat < 2 ^ 31) :
    config.cappedSecs attempt = config.backoff attempt.toNat := by
  rw [cappedSecs, backoff, powiExponent_eq, if_pos h, zpow_natCast]

/-- A delay between the two ends of the jitter. -/
theorem delayForAttempt_of_pos (hpos : 0 < config.cappedSecs attempt) (u : Sample) :
    config.delayForAttempt u attempt =
      fromSecs (max (config.cappedSecs attempt * (3 / 4 + u / 2)) (1 / 10)) := by
  have hrange : -(config.cappedSecs attempt * (1 / 4)) < config.cappedSecs attempt * (1 / 4) := by
    linarith
  rw [delayForAttempt, genRange, if_pos hrange, Option.bind_eq_bind, Option.bind_some]
  congr 2
  ring

theorem delayForAttempt_of_nonpos (hpos : ¬0 < config.cappedSecs attempt) (u : Sample) :
    config.delayForAttempt u attempt = none := by
  have hrange : ¬-(config.cappedSecs attempt * (1 / 4)) < config.cappedSecs attempt * (1 / 4) := by
    linarith
  rw [delayForAttempt, genRange, if_neg hrange]
  rfl

/-- **A positive delay that is not too long is within 25 percent**, and not below the floor. -/
theorem delayForAttempt_within (hpos : 0 < config.cappedSecs attempt)
    (hlong : 5 * config.cappedSecs attempt ≤ 4 * 2 ^ 64) (u : Sample) :
    ∃ d, config.delayForAttempt u attempt = some d ∧
      max (1 / 10) (3 / 4 * config.cappedSecs attempt) ≤ d ∧
      d ≤ max (1 / 10) (5 / 4 * config.cappedSecs attempt) := by
  obtain ⟨u, hu, hu'⟩ := u
  generalize hc : config.cappedSecs attempt = c at hpos hlong
  have hlow : 3 / 4 * c ≤ c * (3 / 4 + u / 2) := by nlinarith
  have hhigh : c * (3 / 4 + u / 2) < 5 / 4 * c := by nlinarith
  have hfits : 0 ≤ max (c * (3 / 4 + u / 2)) (1 / 10) ∧
      max (c * (3 / 4 + u / 2)) (1 / 10) < 2 ^ 64 := by
    refine ⟨le_max_of_le_right (by norm_num), max_lt ?_ (by norm_num)⟩
    linarith
  refine ⟨max (c * (3 / 4 + u / 2)) (1 / 10), ?_, ?_, ?_⟩
  · rw [delayForAttempt_of_pos (by rw [hc]; exact hpos), hc, fromSecs]
    exact if_pos hfits
  · exact max_le (le_max_right _ _) (le_max_of_le_left hlow)
  · exact max_le (le_max_of_le_right hhigh.le) (le_max_left _ _)

section

variable (hm : 1 ≤ config.backoffMultiplier)

include hm

/-- The cast of the attempt never makes the delay longer. -/
theorem cappedSecs_le_backoff : config.cappedSecs attempt ≤ config.backoff attempt.toNat := by
  have hexp : powiExponent attempt ≤ attempt.toNat := by
    rw [powiExponent_eq]
    split <;> omega
  have hpow := zpow_le_zpow_right₀ hm hexp
  rw [zpow_natCast] at hpow
  exact min_le_min_right _ (mul_le_mul_of_nonneg_left hpow (Nat.cast_nonneg _))

theorem one_le_backoff (hinit : config.initialDelaySecs ≠ 0) (hmax : config.maxDelaySecs ≠ 0)
    (n : ℕ) : 1 ≤ config.backoff n := by
  have hcast {x : UInt64} (h : x ≠ 0) : (1 : ℚ) ≤ x.toNat := by
    have hne : x.toNat ≠ 0 := fun h0 => h (UInt64.toNat_inj.1 h0)
    exact_mod_cast Nat.one_le_iff_ne_zero.2 hne
  exact le_min (one_le_mul_of_one_le_of_one_le (hcast hinit) (one_le_pow₀ hm)) (hcast hmax)

theorem cappedSecs_pos_iff : 0 < config.cappedSecs attempt ↔
    config.initialDelaySecs ≠ 0 ∧ config.maxDelaySecs ≠ 0 := by
  have hpow : 0 < config.backoffMultiplier ^ powiExponent attempt :=
    zpow_pos (zero_lt_one.trans_le hm) _
  have hcast (x : UInt64) : (0 : ℚ) < x.toNat ↔ x ≠ 0 := by
    rw [Nat.cast_pos, Nat.pos_iff_ne_zero, ne_eq, ne_eq, ← UInt64.toNat_inj, UInt64.toNat_zero]
  rw [cappedSecs, lt_min_iff, mul_pos_iff_of_pos_right hpow, hcast, hcast]

/-- **Where the cast does not shorten the delay**: the exponent is not negative, the multiplier is
one, or the cap is reached even with the negative exponent. -/
theorem backoff_le_cappedSecs_iff (hinit : config.initialDelaySecs ≠ 0) :
    config.backoff attempt.toNat ≤ config.cappedSecs attempt ↔
      attempt.toNat < 2 ^ 31 ∨ config.backoffMultiplier = 1 ∨
        (config.maxDelaySecs.toNat : ℚ) ≤ config.initialDelaySecs.toNat *
          config.backoffMultiplier ^ ((attempt.toNat : ℤ) - 2 ^ 32) := by
  by_cases hsmall : attempt.toNat < 2 ^ 31
  · exact iff_of_true (cappedSecs_eq_backoff hsmall).ge (.inl hsmall)
  · rw [backoff, cappedSecs, powiExponent_eq, if_neg hsmall]
    constructor
    · intro h
      refine .inr (or_iff_not_imp_left.2 fun hne => ?_)
      have hlt : 1 < config.backoffMultiplier := lt_of_le_of_ne hm (Ne.symm hne)
      have hpos : (0 : ℚ) < config.initialDelaySecs.toNat := by
        rw [Nat.cast_pos, Nat.pos_iff_ne_zero]
        exact fun h0 => hinit (UInt64.toNat_inj.1 h0)
      have hpow := zpow_lt_zpow_right₀ hlt
        (show (attempt.toNat : ℤ) - 2 ^ 32 < (attempt.toNat : ℤ) by omega)
      rw [zpow_natCast] at hpow
      rcases min_le_iff.1 (h.trans (min_le_left _ _)) with hle | hle
      · exact absurd hle (not_le_of_gt (mul_lt_mul_of_pos_left hpow hpos))
      · exact hle
    · rintro (hlt | hone | hcap)
      · exact absurd hlt hsmall
      · rw [hone, one_pow, one_zpow]
      · exact (min_le_right _ _).trans (le_min hcap le_rfl)

/-- The delay of an attempt is returned, and within its bounds, whatever the jitter. -/
def InBounds (config : BackoffConfig) (attempt : UInt32) : Prop :=
  ∀ u, ∃ d, config.delayForAttempt u attempt = some d ∧
    max (1 / 10) (3 / 4 * config.backoff attempt.toNat) ≤ d ∧
    d ≤ max (1 / 10) (5 / 4 * config.backoff attempt.toNat)

omit hm in
theorem InBounds.pos (h : config.InBounds attempt) : 0 < config.cappedSecs attempt := by
  by_contra hpos
  obtain ⟨d, hd, -⟩ := h ⟨0, by norm_num⟩
  rw [delayForAttempt_of_nonpos hpos] at hd
  cases hd

/-- The smallest sample compares the delay with the documented backoff. -/
theorem InBounds.backoff_le (h : config.InBounds attempt) :
    config.backoff attempt.toNat ≤ config.cappedSecs attempt := by
  obtain ⟨hinit, hmax⟩ := (cappedSecs_pos_iff hm).1 h.pos
  have hone := one_le_backoff hm hinit hmax attempt.toNat
  obtain ⟨d, hd, hlow, -⟩ := h ⟨0, by norm_num⟩
  rw [delayForAttempt_of_pos h.pos, fromSecs_eq_some] at hd
  obtain ⟨-, -, rfl⟩ := hd
  rcases le_max_iff.1 ((le_max_right _ _).trans hlow) with hle | hle
  · dsimp only at hle
    linarith
  · linarith

omit hm in
/-- A sample close to one would come to more than a duration. -/
theorem InBounds.not_long (h : config.InBounds attempt) :
    5 * config.cappedSecs attempt ≤ 4 * 2 ^ 64 := by
  by_contra hlong
  have hpos := h.pos
  have hratio : 2 ^ 64 / config.cappedSecs attempt < 5 / 4 := by
    rw [div_lt_iff₀ hpos]
    linarith
  have hmul : 2 ^ 64 / config.cappedSecs attempt * config.cappedSecs attempt = 2 ^ 64 :=
    div_mul_cancel₀ _ hpos.ne'
  generalize 2 ^ 64 / config.cappedSecs attempt = r at hratio hmul
  obtain ⟨d, hd, -⟩ := h ⟨max 0 (2 * (r - 3 / 4)), le_max_left _ _,
    max_lt (by norm_num) (by linarith)⟩
  rw [delayForAttempt_of_pos hpos, fromSecs_eq_some] at hd
  have hlt := (max_lt_iff.1 hd.2.1).1
  have hr : r ≤ 3 / 4 + max 0 (2 * (r - 3 / 4)) / 2 := by
    have := le_max_right 0 (2 * (r - 3 / 4))
    linarith
  have := mul_le_mul_of_nonneg_left hr hpos.le
  dsimp only at hlt
  linarith

end

/-- **When the delay is within its bounds.** With a multiplier of at least one, `delay_for_attempt`
returns a delay within 25 percent of the capped backoff exactly when neither delay of the
configuration is zero, the jitter cannot make the delay longer than a duration, and the cast of the
attempt does not shorten it. -/
theorem delayForAttempt_bounds_iff (config : BackoffConfig) (hm : 1 ≤ config.backoffMultiplier)
    (attempt : UInt32) :
    config.InBounds attempt ↔
      config.initialDelaySecs ≠ 0 ∧ config.maxDelaySecs ≠ 0 ∧
        5 * config.backoff attempt.toNat ≤ 4 * 2 ^ 64 ∧
        (attempt.toNat < 2 ^ 31 ∨ config.backoffMultiplier = 1 ∨
          (config.maxDelaySecs.toNat : ℚ) ≤ config.initialDelaySecs.toNat *
            config.backoffMultiplier ^ ((attempt.toNat : ℤ) - 2 ^ 32)) := by
  have hle : config.cappedSecs attempt ≤ config.backoff attempt.toNat := cappedSecs_le_backoff hm
  constructor
  · intro h
    obtain ⟨hinit, hmax⟩ := (cappedSecs_pos_iff hm).1 h.pos
    have heq := le_antisymm hle (h.backoff_le hm)
    exact ⟨hinit, hmax, heq ▸ h.not_long,
      (backoff_le_cappedSecs_iff hm hinit).1 (h.backoff_le hm)⟩
  · rintro ⟨hinit, hmax, hlong, hcast⟩
    have heq := le_antisymm hle ((backoff_le_cappedSecs_iff hm hinit).2 hcast)
    have hpos : 0 < config.cappedSecs attempt := (cappedSecs_pos_iff hm).2 ⟨hinit, hmax⟩
    intro u
    rw [← heq] at hlong ⊢
    exact delayForAttempt_within hpos hlong u

/-- The default settings, for the sixth attempt. -/
theorem delayForAttempt_bounds_default : (withRetries none).InBounds 5 :=
  (delayForAttempt_bounds_iff (withRetries none) (by decide) 5).2
    ⟨by decide, by decide, by decide +kernel, .inl (by decide)⟩

/-- A maximum of zero seconds is an empty range of the jitter, and with the default settings the
cast makes the delay of the attempt `2 ^ 31` less than a second. -/
theorem delayForAttempt_out_of_bounds :
    ¬InBounds ⟨⟨none⟩, 1, 0, 2⟩ 0 ∧ ¬(withRetries none).InBounds 2147483648 := by
  constructor
  · intro h
    exact absurd ((cappedSecs_pos_iff (by decide)).1 h.pos).2 (by decide)
  · intro h
    have hm : 1 ≤ (withRetries none).backoffMultiplier := by decide
    rcases (backoff_le_cappedSecs_iff hm (by decide)).1 (h.backoff_le hm) with hlt | hone | hcap
    · exact absurd hlt (by decide)
    · exact absurd hone (by decide)
    · have hpow : (2 : ℚ) ^ (((2147483648 : UInt32).toNat : ℤ) - 2 ^ 32) ≤ 1 :=
        zpow_le_one_of_nonpos₀ (by norm_num) (by decide)
      have hcap : (30 : ℚ) ≤ 1 * 2 ^ (((2147483648 : UInt32).toNat : ℤ) - 2 ^ 32) := hcap
      linarith

/-! ## The run of the state machine -/

/-- The delay as a duration. -/
def delayNanos (config : BackoffConfig) (u : Sample) (attempt : UInt32) : Option ℕ :=
  (config.delayForAttempt u attempt).map nanos

/-- What `decide_reconnect` decides on a list of results, up to the first decision to stop, and the
state that each decision leaves. -/
def decideRun (config : BackoffConfig) : ReconnectState → List (UsbIpResult Unit × Sample) →
    Option (List (ReconnectDecision × ReconnectState))
  | _, [] => some []
  | state, (result, u) :: results => do
    let (decision, state) ← decideReconnect result state config.toReconnectConfig
      (config.delayNanos u)
    match decision with
    | .stop => return [(decision, state)]
    | .retryAfter _ =>
      let decisions ← config.decideRun state results
      return (decision, state) :: decisions

/-- The decision to stop, and the state that it leaves. -/
def stopped : ReconnectDecision × ReconnectState := (.stop, .stopped)

/-- Attempts that fail. -/
def failures (errors : List (ErrorKind × Sample)) : List (UsbIpResult Unit × Sample) :=
  errors.map fun (e, u) => (.error e, u)

theorem failures_append (errors errors' : List (ErrorKind × Sample)) :
    failures (errors ++ errors') = failures errors ++ failures errors' := List.map_append

/-- The delay is within 25 percent of the `k`-th backoff of the default settings. -/
def Near (k d : ℕ) : Prop := 750000000 * min (2 ^ k) 30 ≤ d ∧ d ≤ 1250000000 * min (2 ^ k) 30

/-- Decisions to retry: the attempts are numbered from `k` on, and the delay is the one that is
stored in the state. -/
inductive Retries : ℕ → List (ReconnectDecision × ReconnectState) → Prop
  | nil (k : ℕ) : Retries k []
  | cons {k d : ℕ} {decisions : List (ReconnectDecision × ReconnectState)} (hd : Near k d)
      (h : Retries (k + 1) decisions) :
      Retries k ((.retryAfter d, .backOff (UInt32.ofNat k) d) :: decisions)

theorem backoff_withRetries (maxRetries : Option UInt32) (k : ℕ) :
    (withRetries maxRetries).backoff k = (min (2 ^ k) 30 : ℕ) := by
  have hone : (((withRetries maxRetries).initialDelaySecs.toNat : ℕ) : ℚ) = 1 := rfl
  have hcap : (((withRetries maxRetries).maxDelaySecs.toNat : ℕ) : ℚ) = 30 := rfl
  have htwo : (withRetries maxRetries).backoffMultiplier = 2 := rfl
  rw [backoff, hone, hcap, htwo, one_mul]
  push_cast
  rfl

/-- **The delays of the default settings**, before the cast of the attempt wraps. -/
theorem delayForAttempt_withRetries (maxRetries : Option UInt32) {k : ℕ} (hk : k < 2 ^ 31)
    (u : Sample) :
    ∃ d, (withRetries maxRetries).delayForAttempt u (UInt32.ofNat k) = some d ∧
      3 / 4 * (min (2 ^ k) 30 : ℕ) ≤ d ∧ d ≤ 5 / 4 * (min (2 ^ k) 30 : ℕ) := by
  have hnat : (UInt32.ofNat k).toNat = k := by
    rw [UInt32.toNat_ofNat', Nat.mod_eq_of_lt (by omega)]
  have hcapped : (withRetries maxRetries).cappedSecs (UInt32.ofNat k) = (min (2 ^ k) 30 : ℕ) := by
    rw [cappedSecs_eq_backoff (by rw [hnat]; exact hk), hnat, backoff_withRetries]
  have hone : (1 : ℚ) ≤ (min (2 ^ k) 30 : ℕ) := by
    exact_mod_cast le_min (Nat.one_le_two_pow) (by decide)
  have hcap : ((min (2 ^ k) 30 : ℕ) : ℚ) ≤ 30 := by
    exact_mod_cast min_le_right _ _
  obtain ⟨d, hd, hlow, hhigh⟩ := delayForAttempt_within (by rw [hcapped]; linarith)
    (by rw [hcapped]; linarith) u
  rw [hcapped] at hlow hhigh
  refine ⟨d, hd, (le_max_right _ _).trans hlow, hhigh.trans (max_le ?_ le_rfl)⟩
  linarith

theorem exists_delayNanos (maxRetries : Option UInt32) {k : ℕ} (hk : k < 2 ^ 31) (u : Sample) :
    ∃ d, (withRetries maxRetries).delayNanos u (UInt32.ofNat k) = some d ∧ Near k d := by
  obtain ⟨secs, hsecs, hlow, hhigh⟩ := delayForAttempt_withRetries maxRetries hk u
  refine ⟨nanos secs, by rw [delayNanos, hsecs]; rfl, ?_⟩
  have hlow' : ((750000000 * min (2 ^ k) 30 : ℕ) : ℤ) ≤ roundTiesEven (secs * 10 ^ 9) := by
    apply le_roundTiesEven
    push_cast at hlow ⊢
    linarith
  have hhigh' : roundTiesEven (secs * 10 ^ 9) ≤ ((1250000000 * min (2 ^ k) 30 : ℕ) : ℤ) := by
    apply roundTiesEven_le
    push_cast at hhigh ⊢
    linarith
  rw [Near, nanos]
  omega

section

variable {maxRetries : Option UInt32} {state : ReconnectState} {e : ErrorKind} {k : ℕ}

/-- A transient error within the budget. -/
theorem decideReconnect_retry (he : e.category = .transient) (hk : k < 2 ^ 31)
    (hstate : state.nextAttempt = UInt32.ofNat k)
    (hretry : (withRetries maxRetries).shouldRetry (UInt32.ofNat k) = true) (u : Sample) :
    ∃ d, decideReconnect (.error e) state (withRetries maxRetries).toReconnectConfig
        ((withRetries maxRetries).delayNanos u) =
          some (.retryAfter d, .backOff (UInt32.ofNat k) d) ∧ Near k d := by
  obtain ⟨d, hd, hnear⟩ := exists_delayNanos maxRetries hk u
  refine ⟨d, ?_, hnear⟩
  simp only [decideReconnect, ReconnectState.onError, he, hstate, hretry, if_true, hd,
    Option.map_some]

/-- A transient error after the budget is used up. -/
theorem decideReconnect_exhausted (config : BackoffConfig) (he : e.category = .transient)
    (hretry : config.shouldRetry state.nextAttempt = false) (u : Sample) :
    decideReconnect (.error e) state config.toReconnectConfig (config.delayNanos u) =
      some stopped := by
  simp only [decideReconnect, ReconnectState.onError, he, hretry, Bool.false_eq_true, if_false,
    Option.map_some, stopped]

/-- **A permanent or fatal error stops at once**, in every state. -/
theorem decideReconnect_stop (config : BackoffConfig) (he : e.category ≠ .transient)
    (u : Sample) :
    decideReconnect (.error e) state config.toReconnectConfig (config.delayNanos u) =
      some stopped := by
  cases hcat : e.category with
  | transient => exact absurd hcat he
  | permanent => simp only [decideReconnect, ReconnectState.onError, hcat, Option.map_some, stopped]
  | fatal => simp only [decideReconnect, ReconnectState.onError, hcat, Option.map_some, stopped]

/-- **A run of transient errors within the budget** is a run of retries, whatever follows. -/
theorem exists_retries (maxRetries : Option UInt32) (errors : List (ErrorKind × Sample))
    (hstate : state.nextAttempt = UInt32.ofNat k) (hlen : k + errors.length ≤ 2 ^ 31)
    (hretry : ∀ j < k + errors.length,
      (withRetries maxRetries).shouldRetry (UInt32.ofNat j) = true)
    (herrors : ∀ p ∈ errors, p.1.category = .transient) :
    ∃ decisions state', Retries k decisions ∧ decisions.length = errors.length ∧
      state'.nextAttempt = UInt32.ofNat (k + errors.length) ∧
      ∀ rest, (withRetries maxRetries).decideRun state (failures errors ++ rest) =
        ((withRetries maxRetries).decideRun state' rest).map (decisions ++ ·) := by
  induction errors generalizing k state with
  | nil =>
    refine ⟨[], state, .nil k, rfl, hstate, fun rest => ?_⟩
    simp [failures]
  | cons p errors ih =>
    obtain ⟨e, u⟩ := p
    rw [List.length_cons] at hlen hretry
    have he : e.category = .transient := herrors (e, u) (by simp)
    obtain ⟨d, hdecide, hnear⟩ := decideReconnect_retry he (by omega) hstate
      (hretry k (by omega)) u
    have hnext : (ReconnectState.backOff (UInt32.ofNat k) d).nextAttempt =
        UInt32.ofNat (k + 1) := (UInt32.ofNat_add k 1).symm
    obtain ⟨decisions, state', hretries, hlength, hstate', hrun⟩ := ih hnext (by omega)
      (fun j hj => hretry j (by omega)) (fun q hq => herrors q (by simp [hq]))
    refine ⟨_ :: decisions, state', .cons hnear hretries, by rw [List.length_cons, hlength,
      List.length_cons], ?_, fun rest => ?_⟩
    · rw [hstate', List.length_cons]
      congr 1
      omega
    · change decideRun _ state ((.error e, u) :: (failures errors ++ rest)) = _
      rw [decideRun, hdecide]
      simp only [Option.bind_eq_bind, Option.bind_some, hrun rest]
      cases decideRun _ state' rest <;> rfl

/-- **A run that has not stopped goes on** from the state that it has come to. -/
theorem exists_decideRun_append {config : BackoffConfig}
    {results : List (UsbIpResult Unit × Sample)}
    {decisions : List (ReconnectDecision × ReconnectState)}
    (h : config.decideRun state results = some decisions) (hgoing : ∀ p ∈ decisions, p.1 ≠ .stop) :
    ∃ state', ∀ rest, config.decideRun state (results ++ rest) =
      (config.decideRun state' rest).map (decisions ++ ·) := by
  induction results generalizing state decisions with
  | nil =>
    obtain rfl := Option.some.inj h
    exact ⟨state, fun rest => by simp⟩
  | cons p results ih =>
    obtain ⟨result, u⟩ := p
    rw [decideRun] at h
    obtain ⟨⟨decision, next⟩, hdecide, h⟩ := Option.bind_eq_some_iff.1 h
    cases decision with
    | stop =>
      obtain rfl := Option.some.inj h
      exact absurd rfl (hgoing (.stop, next) (by simp))
    | retryAfter d =>
      obtain ⟨decisions', hrun, h⟩ := Option.bind_eq_some_iff.1 h
      obtain rfl := Option.some.inj h
      obtain ⟨state', hrest⟩ := ih hrun fun q hq => hgoing q (by simp [hq])
      refine ⟨state', fun rest => ?_⟩
      rw [List.cons_append, decideRun, hdecide]
      simp only [Option.bind_eq_bind, Option.bind_some, hrest rest]
      cases decideRun _ state' rest <;> rfl

theorem decideRun_stop {config : BackoffConfig} {result : UsbIpResult Unit} {u : Sample}
    (h : decideReconnect result state config.toReconnectConfig (config.delayNanos u) =
      some stopped) (rest : List (UsbIpResult Unit × Sample)) :
    config.decideRun state ((result, u) :: rest) = some [stopped] := by
  rw [decideRun, h]
  rfl

end

theorem shouldRetry_ofNat {n : UInt32} {k : ℕ} (hk : k < 2 ^ 32) :
    (withRetries (some n)).shouldRetry (UInt32.ofNat k) = decide (k < n.toNat) := by
  have hnat : (UInt32.ofNat k).toNat = k := by
    rw [UInt32.toNat_ofNat', Nat.mod_eq_of_lt hk]
  rw [ReconnectConfig.shouldRetry, withRetries]
  simp only [UInt32.lt_iff_toNat_lt, hnat]

/-- **The budget of retries is exact.** With the default settings, a run of transient errors is
answered by as many retries as are allowed, numbered from zero, and then by the decision to stop;
without a limit it is never answered so before the cast of the attempt wraps; an error that is not
transient is answered so at once, wherever a run has come to and whatever follows; and the delay of
every retry is within 25 percent of its backoff. -/
theorem decideRun_default :
    (∀ n : UInt32, n.toNat ≤ 2 ^ 31 → ∀ errors : List (ErrorKind × Sample),
      (∀ p ∈ errors, p.1.category = .transient) → ∃ decisions,
        Retries 0 decisions ∧ decisions.length = min n.toNat errors.length ∧
        (withRetries (some n)).decideRun .active (failures errors) =
          some (decisions ++ if n.toNat < errors.length then [stopped] else [])) ∧
      (∀ errors : List (ErrorKind × Sample), errors.length ≤ 2 ^ 31 →
        (∀ p ∈ errors, p.1.category = .transient) → ∃ decisions,
          Retries 0 decisions ∧ decisions.length = errors.length ∧
          (withRetries none).decideRun .active (failures errors) = some decisions) ∧
      (∀ (maxRetries : Option UInt32) (results : List (UsbIpResult Unit × Sample))
        (decisions : List (ReconnectDecision × ReconnectState)),
        (withRetries maxRetries).decideRun .active results = some decisions →
        (∀ p ∈ decisions, p.1 ≠ .stop) → ∀ (e : ErrorKind) (u : Sample) rest,
          e.category ≠ .transient →
          (withRetries maxRetries).decideRun .active (results ++ (.error e, u) :: rest) =
            some (decisions ++ [stopped])) ∧
      ∀ (maxRetries : Option UInt32) (k : ℕ), k < 2 ^ 31 → ∀ u : Sample, ∃ d,
        (withRetries maxRetries).delayForAttempt u (UInt32.ofNat k) = some d ∧
        3 / 4 * (min (2 ^ k) 30 : ℕ) ≤ d ∧ d ≤ 5 / 4 * (min (2 ^ k) 30 : ℕ) := by
  have hactive : ReconnectState.active.nextAttempt = UInt32.ofNat 0 := rfl
  refine ⟨fun n hn errors herrors => ?_, fun errors hlen herrors => ?_,
    fun maxRetries results decisions hresults hgoing e u rest he => ?_,
    fun maxRetries k hk u => delayForAttempt_withRetries maxRetries hk u⟩
  · have hlen : (errors.take n.toNat).length = min n.toNat errors.length := List.length_take
    obtain ⟨decisions, state, hretries, hlength, hstate, hrun⟩ :=
      exists_retries (some n) (errors.take n.toNat) hactive (by omega)
        (fun j hj => by rw [shouldRetry_ofNat (by omega), decide_eq_true_eq]; omega)
        (fun p hp => herrors p (List.mem_of_mem_take hp))
    refine ⟨decisions, hretries, hlength.trans hlen, ?_⟩
    have hsplit := hrun (failures (errors.drop n.toNat))
    rw [← failures_append, List.take_append_drop] at hsplit
    rw [hsplit]
    split
    · rename_i hmore
      -- the error after the last retry is the one that stops
      rw [List.drop_eq_getElem_cons hmore, failures, List.map_cons, decideRun_stop]
      · rfl
      · refine decideReconnect_exhausted _ (herrors _ (List.getElem_mem hmore)) ?_ _
        rw [hstate, shouldRetry_ofNat (by omega), decide_eq_false_iff_not]
        omega
    · rename_i hfew
      rw [List.drop_eq_nil_of_le (by omega)]
      rfl
  · obtain ⟨decisions, state, hretries, hlength, -, hrun⟩ :=
      exists_retries none errors hactive (by omega) (fun _ _ => rfl) herrors
    have hend := hrun []
    rw [List.append_nil, decideRun, Option.map_some, List.append_nil] at hend
    exact ⟨decisions, hretries, hlength, hend⟩
  · obtain ⟨state, hrun⟩ := exists_decideRun_append hresults hgoing
    rw [hrun, decideRun_stop (decideReconnect_stop _ he u) rest]
    rfl

/-- Three closed connections, with two retries allowed. -/
theorem decideRun_default_two :
    ∃ decisions, Retries 0 decisions ∧ decisions.length = 2 ∧
      (withRetries (some 2)).decideRun .active
          (failures (List.replicate 3 (.connectionClosed, ⟨0, by norm_num⟩))) =
        some (decisions ++ [stopped]) :=
  decideRun_default.1 2 (by decide) (List.replicate 3 (.connectionClosed, ⟨0, by norm_num⟩))
    fun p hp => by
      rw [List.eq_of_mem_replicate hp]
      rfl

end BackoffConfig

end AnyPlug
