import AnyPlug.Foundations.Transition

/-!
# Bandwidth

The token bucket of `usbip-server/src/bandwidth.rs`, with exact tokens and exact delays. Times are
in seconds, as the delays and the elapsed time of the source are in nanoseconds.

A call for more than the bucket holds empties it and waits for the rest. The time of the wait counts
again when the bucket is next refilled, so what was waited for is paid out a second time. A `Sender`
keeps the account of it: what was sent is what the time was worth, less what is left in the bucket
or was lost to its cap, plus what was waited for (`Balanced`). `withinRate_iff_along` says which
runs stay within the rate.
-/

namespace AnyPlug

/-! ## The bucket -/

/-- A token-bucket rate limiter suitable for bandwidth throttling. -/
structure TokenBucket where
  /-- Current token count (fractional). -/
  tokens : ℚ
  maxTokens : ℚ
  refillPerNs : ℚ
  lastRefill : ℚ

namespace TokenBucket

/-- Create a new token bucket that allows `bytesPerSec`. It starts full. -/
def new (bytesPerSec : UInt64) (now : ℚ) : TokenBucket :=
  if bytesPerSec = 0 then ⟨0, 0, 0, now⟩
  else
    let rate : ℚ := bytesPerSec.toNat
    ⟨rate, rate, rate / 1000000000, now⟩

/-- Refill the bucket based on elapsed time since the last call. -/
def refill (b : TokenBucket) (now : ℚ) : TokenBucket :=
  let elapsedNs := (now - b.lastRefill) * 1000000000
  if 0 < elapsedNs then
    { b with tokens := min (b.tokens + elapsedNs * b.refillPerNs) b.maxTokens, lastRefill := now }
  else b

/-- Consume `amount` tokens; returns the delay in nanoseconds that the caller should wait before
proceeding, and none when the limit is zero (unlimited). -/
def consume (b : TokenBucket) (now : ℚ) (amount : UInt64) : TokenBucket × Option ℚ :=
  if b.maxTokens = 0 then (b, none)
  else
    let b := b.refill now
    let amount : ℚ := amount.toNat
    if amount ≤ b.tokens then ({ b with tokens := b.tokens - amount }, some 0)
    else
      let deficit := amount - b.tokens
      ({ b with tokens := 0 }, some (deficit / b.refillPerNs))

/-- Sleep for the required delay; returns when the call does. -/
def throttle (b : TokenBucket) (now : ℚ) (amount : UInt64) : TokenBucket × ℚ :=
  match b.consume now amount with
  | (b, none) => (b, now)
  | (b, some delay) => (b, if 0 < delay then now + delay / 1000000000 else now)

/-- What the bucket would hold without its cap. -/
def level (b : TokenBucket) (now : ℚ) : ℚ :=
  b.tokens + (now - b.lastRefill) * 1000000000 * b.refillPerNs

/-- What the bucket can pay. -/
def funds (b : TokenBucket) (now : ℚ) : ℚ := min (b.level now) b.maxTokens

/-- What the bucket loses to its cap. -/
def spill (b : TokenBucket) (now : ℚ) : ℚ := b.level now - b.funds now

/-- What is left after a call. -/
def left (b : TokenBucket) (now : ℚ) (amount : UInt64) : ℚ := max (b.funds now - amount.toNat) 0

/-- What a call has to wait for. -/
def deficit (b : TokenBucket) (now : ℚ) (amount : UInt64) : ℚ := max (amount.toNat - b.funds now) 0

/-- A bucket of the given rate. -/
structure OfRate (rate : ℚ) (b : TokenBucket) : Prop where
  maxTokens : b.maxTokens = rate
  refillPerNs : b.refillPerNs = rate / 1000000000
  tokens_le : b.tokens ≤ rate

variable {b : TokenBucket} {rate now : ℚ}

theorem ofRate_new {bytesPerSec : UInt64} (h : bytesPerSec ≠ 0) (now : ℚ) :
    (new bytesPerSec now).OfRate bytesPerSec.toNat := by
  rw [new, if_neg h]
  exact ⟨rfl, rfl, le_rfl⟩

/-- The time that has passed is paid at the rate. -/
theorem OfRate.level_eq (hb : b.OfRate rate) (now : ℚ) :
    b.level now = b.tokens + rate * (now - b.lastRefill) := by
  rw [level, hb.refillPerNs]
  ring

theorem OfRate.refill_eq (hb : b.OfRate rate) (hnow : b.lastRefill ≤ now) :
    b.refill now = { b with tokens := b.funds now, lastRefill := now } := by
  rw [refill]
  split
  · rfl
  · rename_i helapsed
    -- no time has passed, and the bucket is not over its cap
    obtain rfl : now = b.lastRefill := by linarith
    have hfunds : b.funds b.lastRefill = b.tokens := by
      rw [funds, hb.level_eq, hb.maxTokens, sub_self, mul_zero, add_zero]
      exact min_eq_left hb.tokens_le
    rw [hfunds]

/-- **What a call does**: it pays what it can, and waits for the rest at the rate. -/
theorem OfRate.throttle_eq (hb : b.OfRate rate) (hrate : 0 < rate) (hnow : b.lastRefill ≤ now)
    (amount : UInt64) : b.throttle now amount =
      ({ b with tokens := b.left now amount, lastRefill := now },
        now + b.deficit now amount / rate) := by
  have hmax : b.maxTokens ≠ 0 := by
    rw [hb.maxTokens]
    exact hrate.ne'
  rw [throttle, consume, if_neg hmax, hb.refill_eq hnow]
  dsimp only
  by_cases hpay : (amount.toNat : ℚ) ≤ b.funds now
  · rw [if_pos hpay, left, deficit, max_eq_left (by linarith), max_eq_right (by linarith)]
    simp
  · have hpos : 0 < (amount.toNat : ℚ) - b.funds now := by linarith
    have hdelay : 0 < ((amount.toNat : ℚ) - b.funds now) / b.refillPerNs := by
      rw [hb.refillPerNs]
      positivity
    rw [if_neg hpay, left, deficit, max_eq_right (by linarith), max_eq_left hpos.le]
    dsimp only
    rw [if_pos hdelay, hb.refillPerNs]
    congr 2
    field_simp

end TokenBucket

/-! ## A caller -/

/-- A caller that throttles what it sends. -/
structure Sender where
  bucket : TokenBucket
  /-- When the last call returned, and its bytes were sent. -/
  free : ℚ
  /-- What was sent, and when. -/
  log : List (ℚ × UInt64)
  /-- A history variable: the bytes that calls have waited for. -/
  waited : ℚ
  /-- A history variable: the tokens that the bucket has lost to its cap. -/
  lost : ℚ

namespace Sender

/-- A caller with a new bucket. -/
def init (bytesPerSec : UInt64) : Sender := ⟨.new bytesPerSec 0, 0, [], 0, 0⟩

/-- A call starts, after the one before it has returned; it sleeps and then sends its bytes. -/
def step (s : Sender) (call : ℚ × UInt64) : Option Sender :=
  let (now, amount) := call
  if s.free ≤ now then
    let (bucket, free) := s.bucket.throttle now amount
    some ⟨bucket, free, s.log ++ [(free, amount)], s.waited + s.bucket.deficit now amount,
      s.lost + s.bucket.spill now⟩
  else none

/-- The number of bytes of some transfers. -/
def total (log : List (ℚ × UInt64)) : ℚ := (log.map fun p => (p.2.toNat : ℚ)).sum

/-- The number of bytes that were sent up to a time. -/
def sentBy (s : Sender) (t : ℚ) : ℚ := total (s.log.filter fun p => p.1 ≤ t)

/-- Up to every time, no more was sent than the rate and one burst allow. -/
def WithinRate (rate : ℚ) (s : Sender) : Prop := ∀ t, 0 ≤ t → s.sentBy t ≤ rate * t + rate

/-- What calls have waited for before this one is at most what the bucket has lost to its cap, and
what this call leaves in it. -/
def Paid (s : Sender) (call : ℚ × UInt64) : Prop :=
  s.waited ≤ s.lost + s.bucket.spill call.1 + s.bucket.left call.1 call.2

/-- The account of a caller: what it sent is what the time was worth, less what the bucket still
holds or has lost, plus what was waited for. -/
structure Balanced (rate : ℚ) (s : Sender) : Prop where
  bucket : s.bucket.OfRate rate
  lastRefill_le : s.bucket.lastRefill ≤ s.free
  free_nonneg : 0 ≤ s.free
  log_le : ∀ p ∈ s.log, p.1 ≤ s.free
  balance : total s.log =
    rate + rate * s.bucket.lastRefill - s.bucket.tokens - s.lost + s.waited

theorem balanced_init {bytesPerSec : UInt64} (h : bytesPerSec ≠ 0) :
    (init bytesPerSec).Balanced bytesPerSec.toNat where
  bucket := TokenBucket.ofRate_new h 0
  lastRefill_le := by
    rw [init, TokenBucket.new, if_neg h]
  free_nonneg := le_rfl
  log_le := by simp [init]
  balance := by
    rw [init, TokenBucket.new, if_neg h]
    simp [total]

theorem total_append (xs ys : List (ℚ × UInt64)) : total (xs ++ ys) = total xs + total ys := by
  rw [total, List.map_append, List.sum_append]
  rfl

theorem total_singleton (p : ℚ × UInt64) : total [p] = p.2.toNat := by
  rw [total, List.map_singleton, List.sum_singleton]

theorem total_nonneg (log : List (ℚ × UInt64)) : 0 ≤ total log :=
  List.sum_nonneg fun x hx => by
    obtain ⟨p, -, rfl⟩ := List.mem_map.1 hx
    exact Nat.cast_nonneg _

variable {rate : ℚ} {s t : Sender} {now : ℚ} {amount : UInt64}

/-- **What a step does**, at the rate of its bucket. -/
theorem Balanced.step_eq (h : s.Balanced rate) (hrate : 0 < rate)
    (hstep : s.step (now, amount) = some t) :
    s.free ≤ now ∧ t =
      { bucket := { s.bucket with tokens := s.bucket.left now amount, lastRefill := now }
        free := now + s.bucket.deficit now amount / rate
        log := s.log ++ [(now + s.bucket.deficit now amount / rate, amount)]
        waited := s.waited + s.bucket.deficit now amount
        lost := s.lost + s.bucket.spill now } := by
  rw [step] at hstep
  dsimp only at hstep
  split at hstep
  · rename_i hfree
    rw [h.bucket.throttle_eq hrate (h.lastRefill_le.trans hfree)] at hstep
    exact ⟨hfree, (Option.some.inj hstep).symm⟩
  · cases hstep

theorem deficit_nonneg (b : TokenBucket) : 0 ≤ b.deficit now amount := le_max_right _ _

/-- What a call asks for is what it waits for, and what it takes out of the bucket. -/
theorem amount_eq (b : TokenBucket) :
    (amount.toNat : ℚ) = b.deficit now amount + b.funds now - b.left now amount := by
  rw [TokenBucket.deficit, TokenBucket.left]
  rcases le_total (amount.toNat : ℚ) (b.funds now) with hle | hle
  · rw [max_eq_right (by linarith), max_eq_left (by linarith)]
    ring
  · rw [max_eq_left (by linarith), max_eq_right (by linarith)]
    ring

/-- **Every call keeps the account.** -/
theorem balanced_step (h : s.Balanced rate) (hrate : 0 < rate)
    (hstep : s.step (now, amount) = some t) : t.Balanced rate := by
  obtain ⟨hfree, rfl⟩ := h.step_eq hrate hstep
  have hdelay : 0 ≤ s.bucket.deficit now amount / rate := div_nonneg (deficit_nonneg _) hrate.le
  have hnow : s.free ≤ now + s.bucket.deficit now amount / rate := by linarith
  refine ⟨⟨h.bucket.maxTokens, h.bucket.refillPerNs, ?_⟩, ?_, h.free_nonneg.trans hnow,
    fun p hp => ?_, ?_⟩
  · have hfunds : s.bucket.funds now ≤ rate := h.bucket.maxTokens ▸ min_le_right _ _
    exact max_le (by have := Nat.cast_nonneg (α := ℚ) amount.toNat; linarith) hrate.le
  · exact le_add_of_nonneg_right hdelay
  · rcases List.mem_append.1 hp with hp | hp
    · exact (h.log_le p hp).trans hnow
    · rw [List.mem_singleton.1 hp]
  · have hlevel := h.bucket.level_eq now
    have hamount : (amount.toNat : ℚ) = s.bucket.deficit now amount + s.bucket.funds now -
        s.bucket.left now amount := amount_eq s.bucket
    dsimp only
    rw [total_append, total_singleton, h.balance, TokenBucket.spill]
    dsimp only
    linarith

/-- Everything sent by the time of the call is within the rate exactly when the call is paid. -/
theorem total_le_iff (h : s.Balanced rate) (hrate : 0 < rate)
    (hstep : s.step (now, amount) = some t) :
    total t.log ≤ rate * t.free + rate ↔ s.Paid (now, amount) := by
  have hbalance := (balanced_step h hrate hstep).balance
  obtain ⟨-, rfl⟩ := h.step_eq hrate hstep
  have hwait : rate * (s.bucket.deficit now amount / rate) = s.bucket.deficit now amount :=
    mul_div_cancel₀ _ hrate.ne'
  rw [hbalance, Paid]
  dsimp only
  rw [mul_add, hwait]
  constructor <;> intro hle <;> linarith

theorem sentBy_le_total (s : Sender) (x : ℚ) : s.sentBy x ≤ total s.log := by
  have hperm := List.filter_append_perm (fun p : ℚ × UInt64 => decide (p.1 ≤ x)) s.log
  have hsum := (hperm.map fun p => (p.2.toNat : ℚ)).sum_eq
  rw [List.map_append, List.sum_append] at hsum
  have hrest := total_nonneg (s.log.filter fun p => !decide (p.1 ≤ x))
  rw [sentBy]
  unfold total at hrest ⊢
  linarith

theorem sentBy_free (h : s.Balanced rate) : s.sentBy s.free = total s.log := by
  rw [sentBy, List.filter_eq_self.2 fun p hp => decide_eq_true (h.log_le p hp)]

/-- **A call keeps the rate exactly when it is paid.** -/
theorem withinRate_step_iff (h : s.Balanced rate) (hrate : 0 < rate) (hs : s.WithinRate rate)
    (hstep : s.step (now, amount) = some t) : t.WithinRate rate ↔ s.Paid (now, amount) := by
  have ht := balanced_step h hrate hstep
  rw [← total_le_iff h hrate hstep]
  constructor
  · intro hrateT
    rw [← sentBy_free ht]
    exact hrateT t.free ht.free_nonneg
  · intro htotal x hx
    rcases le_or_gt t.free x with hle | hlt
    · have hmono := mul_le_mul_of_nonneg_left hle hrate.le
      linarith [sentBy_le_total t x]
    · -- before the bytes of this call are sent, only the earlier ones count
      have hbefore : t.sentBy x = s.sentBy x := by
        obtain ⟨-, rfl⟩ := h.step_eq hrate hstep
        rw [sentBy, List.filter_append, total_append, List.filter_singleton,
          decide_eq_false (not_le_of_gt hlt)]
        simp [sentBy, total]
      rw [hbefore]
      exact hs x hx

/-- **A run keeps the rate exactly when every call of it is paid**: what the calls before it have
waited for is at most what the bucket has lost to its cap, and what the call leaves in it. -/
theorem withinRate_iff_along {bytesPerSec : UInt64} (h : bytesPerSec ≠ 0)
    {calls : List (ℚ × UInt64)} (hrun : run step (init bytesPerSec) calls = some s) :
    Throughout step (WithinRate bytesPerSec.toNat) (init bytesPerSec) calls ↔
      Along step Paid (init bytesPerSec) calls := by
  have hrate : (0 : ℚ) < bytesPerSec.toNat := by
    rw [Nat.cast_pos, Nat.pos_iff_ne_zero]
    exact fun h0 => h (UInt64.toNat_inj.1 h0)
  have hinit : (init bytesPerSec).WithinRate bytesPerSec.toNat := by
    intro t ht
    have : 0 ≤ (bytesPerSec.toNat : ℚ) * t := mul_nonneg hrate.le ht
    simp only [sentBy, init, total, List.filter_nil, List.map_nil, List.sum_nil]
    linarith
  refine throughout_iff_along (I := Balanced (bytesPerSec.toNat : ℚ)) ?_ ?_ (balanced_init h) hinit
    hrun
  · rintro s ⟨now, amount⟩ t hs - hstep
    exact balanced_step hs hrate hstep
  · rintro s ⟨now, amount⟩ t hs hwithin hstep
    exact withinRate_step_iff hs hrate hwithin hstep

instance (s : Sender) (call : ℚ × UInt64) : Decidable (s.Paid call) :=
  inferInstanceAs (Decidable (_ ≤ _))

/-- The second call waits for half of its bytes, and it is the last. -/
theorem withinRate_wait_at_end :
    Throughout step (WithinRate (1000 : UInt64).toNat) (init 1000) [(0, 1000), (1, 2000)] := by
  have hrun : (run step (init 1000) [(0, 1000), (1, 2000)]).isSome = true := by decide +kernel
  obtain ⟨s, hs⟩ := Option.isSome_iff_exists.1 hrun
  exact (withinRate_iff_along (by decide) hs).2
    (Along.of_test (fun s call => of_decide_eq_true) (by decide +kernel))

/-- The second call waits for a second, and the third is paid with the time of that wait: three
seconds' worth of bytes are sent within one. -/
theorem not_withinRate_after_wait :
    ∃ s, run step (init 1000) [(0, 1000), (0, 1000), (1, 1000)] = some s ∧ s.sentBy 1 = 3000 ∧
      ¬s.WithinRate (1000 : UInt64).toNat := by
  have hobs : (run step (init 1000) [(0, 1000), (0, 1000), (1, 1000)]).map (fun s => s.sentBy 1) =
      some 3000 := by
    decide +kernel
  obtain ⟨s, hs, hsent⟩ := Option.map_eq_some_iff.1 hobs
  refine ⟨s, hs, hsent, fun h => ?_⟩
  have hle := h 1 zero_le_one
  have hrate : (((1000 : UInt64).toNat : ℕ) : ℚ) = 1000 := rfl
  rw [hsent, hrate] at hle
  linarith

end Sender

end AnyPlug
