import AnyPlug.Core.Urb
import AnyPlug.Foundations.BoundedQueue
import AnyPlug.Foundations.Transition

/-!
# The pool of URB buffers

The pool of `usbip-core/src/pool.rs`: a bounded queue of buffers that are handed out (`acquire`),
written to by their holders, and put back when they are dropped. A buffer enters the queue when the
pool is made, when it grows (`recordUrb`) and when a holder drops it; only the last of these sets
it to zero. `acquire_fresh` says that a holder is handed what a new buffer is, whatever the holders
before it have written.

A `usize` has 64 bits, and `checks` says whether the build panics on overflow; `none` stands for a
panic. The rates are floating-point numbers: their arithmetic is left open.
-/

namespace AnyPlug

/-- A sum of two `u64` or `usize`. -/
def addU64 (checks : Bool) (a b : UInt64) : Option UInt64 :=
  if checks ∧ 2 ^ 64 ≤ a.toNat + b.toNat then none else some (a + b)

/-- A product of two `u64` or `usize`. -/
def mulU64 (checks : Bool) (a b : UInt64) : Option UInt64 :=
  if checks ∧ 2 ^ 64 ≤ a.toNat * b.toNat then none else some (a * b)

/-! ## Buffers -/

/-- A buffer for a message: the header, the URB and the data. -/
structure UrbBuffer where
  buf : Bytes
  dataOffset : UInt64
  dataCapacity : UInt64
  deriving DecidableEq

namespace UrbBuffer

def headerSize : UInt64 := UInt64.ofNat (UsbIpCmdSubmit.headerSize + UsbIpHeader.size)

/-- A new buffer. A vector of more than `isize::MAX` bytes is a panic. -/
def new (checks : Bool) (dataCapacity : UInt64) : Option UrbBuffer := do
  let total ← addU64 checks headerSize dataCapacity
  if 2 ^ 63 ≤ total.toNat then none
  else some ⟨List.replicate total.toNat 0, headerSize, dataCapacity⟩

def reset (b : UrbBuffer) : UrbBuffer := { b with buf := List.replicate b.buf.length 0 }

/-- The buffer is what a new one is. -/
def IsNew (checks : Bool) (dataCapacity : UInt64) (b : UrbBuffer) : Prop :=
  new checks dataCapacity = some b

end UrbBuffer

/-- A buffer acquired from a pool: the buffer until it is taken out, and whether it belongs to the
pool. -/
structure PooledBuffer where
  inner : Option UrbBuffer
  pool : Bool

namespace PooledBuffer

/-- Write through `as_mut_slice`: any bytes, as many as there are. -/
def write (p : PooledBuffer) (contents : Bytes) : Option PooledBuffer :=
  p.inner.bind fun b =>
    if contents.length = b.buf.length then some { p with inner := some { b with buf := contents } }
    else none

def reset (p : PooledBuffer) : PooledBuffer := { p with inner := p.inner.map UrbBuffer.reset }

/-- The buffer, taken out, and what is left to be dropped. -/
def take (p : PooledBuffer) : Option (UrbBuffer × PooledBuffer) :=
  p.inner.map fun b => (b, { p with inner := none })

/-- `Drop`: put the buffer back, if it has not been taken out. -/
def drop (p : PooledBuffer) (queue : BoundedQueue UrbBuffer) : BoundedQueue UrbBuffer :=
  match p.inner with
  | none => queue
  | some b => if p.pool then queue.offer b.reset else queue

end PooledBuffer

/-! ## The pool -/

/-- The arithmetic of times and rates. -/
structure RateArithmetic (τ ρ : Type) where
  /-- The seconds from the second time to the first. -/
  durationSince : τ → τ → ρ
  isSecond : ρ → Bool
  observedRate : UInt64 → ρ → ρ
  zero : ρ
  isZero : ρ → Bool
  /-- The average of an observed rate and the rate before it. -/
  smooth : ρ → ρ → ρ
  /-- Twice the rate, rounded up. -/
  target : ρ → UInt64

structure UrbBufferPool (τ ρ : Type) where
  queue : BoundedQueue UrbBuffer
  dataCapacity : UInt64
  ewmaRate : ρ
  lastRecord : Option τ
  windowCount : UInt64
  minSize : UInt64
  maxSize : UInt64

namespace UrbBufferPool

variable {τ ρ : Type}

/-- Push new buffers, whether or not there is room. -/
def prefill (checks : Bool) (dataCapacity : UInt64) :
    ℕ → BoundedQueue UrbBuffer → Option (BoundedQueue UrbBuffer)
  | 0, queue => some queue
  | n + 1, queue => do
    let buf ← UrbBuffer.new checks dataCapacity
    prefill checks dataCapacity n (queue.offer buf)

/-- Push new buffers until there is no room. -/
def grow (checks : Bool) (dataCapacity : UInt64) :
    ℕ → BoundedQueue UrbBuffer → Option (BoundedQueue UrbBuffer)
  | 0, queue => some queue
  | n + 1, queue => do
    let buf ← UrbBuffer.new checks dataCapacity
    match queue.push buf with
    | none => some queue
    | some queue => grow checks dataCapacity n queue

/-- A pool with `minSize` buffers in its queue. -/
def new (checks : Bool) (rates : RateArithmetic τ ρ) (dataCapacity minSize : UInt64) :
    Option (UrbBufferPool τ ρ) := do
  let maxSize := max (← mulU64 checks minSize 4) 4096
  let queue ← prefill checks dataCapacity minSize.toNat (.empty maxSize.toNat)
  return ⟨queue, dataCapacity, rates.zero, none, 0, minSize, maxSize⟩

/-- A buffer of the queue, or a new one where the queue is empty. -/
def acquire (checks : Bool) (pool : UrbBufferPool τ ρ) :
    Option (PooledBuffer × UrbBufferPool τ ρ) :=
  match pool.queue.pop with
  | some (buf, queue) => some (⟨some buf, true⟩, { pool with queue := queue })
  | none => (UrbBuffer.new checks pool.dataCapacity).map fun buf => (⟨some buf, true⟩, pool)

/-- The rate after a window of one second or more. -/
def ewma (rates : RateArithmetic τ ρ) (pool : UrbBufferPool τ ρ) (elapsed : ρ) : ρ :=
  let observedRate := rates.observedRate pool.windowCount elapsed
  if rates.isZero pool.ewmaRate then observedRate else rates.smooth observedRate pool.ewmaRate

/-- Push buffers up to the size that the rate asks for. -/
def adjust (checks : Bool) (rates : RateArithmetic τ ρ) (pool : UrbBufferPool τ ρ) :
    Option (UrbBufferPool τ ρ) :=
  let desired := (min (max (rates.target pool.ewmaRate) pool.minSize) pool.maxSize).toNat
  let currentCount := pool.queue.items.length
  if currentCount < desired then
    (grow checks pool.dataCapacity (desired - currentCount) pool.queue).map fun queue =>
      { pool with queue := queue }
  else some pool

/-- Count a URB, and adjust the size of the pool at the end of a window. -/
def recordUrb (checks : Bool) (rates : RateArithmetic τ ρ) (now : τ) (pool : UrbBufferPool τ ρ) :
    Option (UrbBufferPool τ ρ) := do
  let windowCount ← addU64 checks pool.windowCount 1
  let pool := { pool with windowCount := windowCount }
  match pool.lastRecord with
  | none => return { pool with lastRecord := some now }
  | some last =>
    let elapsed := rates.durationSince now last
    if rates.isSecond elapsed then
      let pool ← adjust checks rates { pool with ewmaRate := pool.ewma rates elapsed }
      return { pool with windowCount := 0, lastRecord := some now }
    else return pool

def available (pool : UrbBufferPool τ ρ) : ℕ := pool.queue.items.length

def capacity (pool : UrbBufferPool τ ρ) : ℕ := pool.queue.capacity

end UrbBufferPool

/-! ## The program that uses a pool -/

/-- A pool and the buffers that have been acquired from it and not been dropped. -/
structure PoolUse (τ ρ : Type) where
  pool : UrbBufferPool τ ρ
  held : List PooledBuffer

/-- What a program does with a pool and with the `i`-th buffer it holds. -/
inductive PoolOp (τ : Type)
  | acquire
  | write (i : ℕ) (contents : Bytes)
  | reset (i : ℕ)
  | drop (i : ℕ)
  | take (i : ℕ)
  | recordUrb (now : τ)

namespace PoolUse

variable {τ ρ : Type}

/-- Give a held buffer up, to be dropped. -/
def dropAt (u : PoolUse τ ρ) (i : ℕ) (p : PooledBuffer) : PoolUse τ ρ where
  pool := { u.pool with queue := p.drop u.pool.queue }
  held := u.held.eraseIdx i

def step (checks : Bool) (rates : RateArithmetic τ ρ) (u : PoolUse τ ρ) :
    PoolOp τ → Option (PoolUse τ ρ)
  | .acquire => do
    let (p, pool) ← u.pool.acquire checks
    return ⟨pool, u.held ++ [p]⟩
  | .write i contents => do
    let p ← (← u.held[i]?).write contents
    return { u with held := u.held.set i p }
  | .reset i => do
    let p ← u.held[i]?
    return { u with held := u.held.set i p.reset }
  | .drop i => do
    let p ← u.held[i]?
    return u.dropAt i p
  | .take i => do
    let (_, p) ← (← u.held[i]?).take
    return u.dropAt i p
  | .recordUrb now => do
    let pool ← u.pool.recordUrb checks rates now
    return { u with pool := pool }

end PoolUse

/-! ## What is kept -/

/-- The buffer, where it has not been taken out, is a new one that has been written to. -/
def PooledBuffer.IsWritten (checks : Bool) (dataCapacity : UInt64) (p : PooledBuffer) : Prop :=
  ∀ b, p.inner = some b → b.reset.IsNew checks dataCapacity

/-- Every buffer of the queue is as a new one. -/
structure UrbBufferPool.Clean {τ ρ : Type} (checks : Bool) (dataCapacity : UInt64)
    (pool : UrbBufferPool τ ρ) : Prop where
  dataCapacity_eq : pool.dataCapacity = dataCapacity
  queue : pool.queue.All (UrbBuffer.IsNew checks dataCapacity)

/-- The pool is clean, and the held buffers have only been written to. -/
structure PoolUse.Clean {τ ρ : Type} (checks : Bool) (dataCapacity : UInt64) (u : PoolUse τ ρ) :
    Prop where
  pool : u.pool.Clean checks dataCapacity
  held : ∀ p ∈ u.held, p.IsWritten checks dataCapacity

variable {checks : Bool} {dataCapacity : UInt64}

/-! ### Buffers -/

theorem addU64_eq_some {a b c : UInt64} (h : addU64 checks a b = some c) :
    c = a + b ∧ (checks = true → a.toNat + b.toNat < 2 ^ 64) := by
  unfold addU64 at h
  split at h
  · cases h
  · rename_i hchecks
    exact ⟨(Option.some.inj h).symm, fun hc => lt_of_not_ge fun hge => hchecks ⟨hc, hge⟩⟩

namespace UrbBuffer

variable {b : UrbBuffer}

theorem IsNew.eq (h : b.IsNew checks dataCapacity) :
    b = ⟨List.replicate (headerSize + dataCapacity).toNat 0, headerSize, dataCapacity⟩ := by
  unfold IsNew UrbBuffer.new at h
  obtain ⟨total, htotal, hb⟩ := Option.bind_eq_some_iff.1 h
  obtain rfl := (addU64_eq_some htotal).1
  split at hb
  · cases hb
  · exact (Option.some.inj hb).symm

/-- A build that checks for overflow makes no buffer whose length would not fit. -/
theorem IsNew.lt (h : b.IsNew checks dataCapacity) (hchecks : checks = true) :
    56 + dataCapacity.toNat < 2 ^ 64 := by
  obtain ⟨total, htotal, -⟩ := Option.bind_eq_some_iff.1 h
  exact (addU64_eq_some htotal).2 hchecks

/-- The length is the one of the header and the data, where that is a `usize`. -/
theorem IsNew.length_eq (h : b.IsNew checks dataCapacity)
    (hlt : 56 + dataCapacity.toNat < 2 ^ 64) : b.buf.length = 56 + dataCapacity.toNat := by
  rw [h.eq, List.length_replicate, UInt64.toNat_add]
  exact Nat.mod_eq_of_lt hlt

/-- A new buffer is zero as it is. -/
theorem IsNew.reset (h : b.IsNew checks dataCapacity) : b.reset.IsNew checks dataCapacity := by
  have hreset : b.reset = b := by rw [h.eq, UrbBuffer.reset, List.length_replicate]
  rwa [hreset]

/-- What is written does not matter once the buffer is zero again. -/
theorem reset_write {contents : Bytes} (h : contents.length = b.buf.length) :
    ({ b with buf := contents } : UrbBuffer).reset = b.reset := by
  rw [reset, reset, h]

theorem reset_reset (b : UrbBuffer) : b.reset.reset = b.reset := by
  rw [reset, reset, List.length_replicate]

end UrbBuffer

namespace PooledBuffer

variable {p p' : PooledBuffer} {b : UrbBuffer} {queue : BoundedQueue UrbBuffer}

theorem isWritten_of_isNew (h : b.IsNew checks dataCapacity) (pool : Bool) :
    (⟨some b, pool⟩ : PooledBuffer).IsWritten checks dataCapacity := by
  rintro _ ⟨⟩
  exact h.reset

theorem IsWritten.write (hp : p.IsWritten checks dataCapacity) {contents : Bytes}
    (h : p.write contents = some p') : p'.IsWritten checks dataCapacity := by
  obtain ⟨b, hb, h⟩ := Option.bind_eq_some_iff.1 h
  split at h
  · rename_i hlen
    cases h
    rintro _ ⟨⟩
    rw [UrbBuffer.reset_write hlen]
    exact hp b hb
  · cases h

theorem IsWritten.reset (hp : p.IsWritten checks dataCapacity) :
    p.reset.IsWritten checks dataCapacity := by
  intro b' hb'
  obtain ⟨b, hb, rfl⟩ := Option.map_eq_some_iff.1 hb'
  rw [UrbBuffer.reset_reset]
  exact hp b hb

theorem isWritten_of_take (h : p.take = some (b, p')) : p'.IsWritten checks dataCapacity := by
  obtain ⟨b', -, hp'⟩ := Option.map_eq_some_iff.1 h
  obtain ⟨-, rfl⟩ := Prod.mk.inj hp'
  exact nofun

/-- **A buffer goes back as a new one**, if it goes back at all. -/
theorem IsWritten.drop (hp : p.IsWritten checks dataCapacity)
    (hqueue : queue.All (UrbBuffer.IsNew checks dataCapacity)) :
    (p.drop queue).All (UrbBuffer.IsNew checks dataCapacity) := by
  unfold PooledBuffer.drop
  split
  · exact hqueue
  · rename_i b hb
    split
    · exact BoundedQueue.all_offer hqueue (hp b hb)
    · exact hqueue

end PooledBuffer

/-! ### The pool -/

namespace UrbBufferPool

variable {τ ρ : Type} {rates : RateArithmetic τ ρ} {pool pool' : UrbBufferPool τ ρ}
  {queue queue' : BoundedQueue UrbBuffer} {n : ℕ}

theorem all_prefill (hqueue : queue.All (UrbBuffer.IsNew checks dataCapacity))
    (h : prefill checks dataCapacity n queue = some queue') :
    queue'.All (UrbBuffer.IsNew checks dataCapacity) := by
  induction n generalizing queue with
  | zero => exact Option.some.inj h ▸ hqueue
  | succ n ih =>
    obtain ⟨buf, hbuf, hrest⟩ := Option.bind_eq_some_iff.1 h
    exact ih (BoundedQueue.all_offer hqueue hbuf) hrest

theorem all_grow (hqueue : queue.All (UrbBuffer.IsNew checks dataCapacity))
    (h : grow checks dataCapacity n queue = some queue') :
    queue'.All (UrbBuffer.IsNew checks dataCapacity) := by
  induction n generalizing queue with
  | zero => exact Option.some.inj h ▸ hqueue
  | succ n ih =>
    obtain ⟨buf, hbuf, hrest⟩ := Option.bind_eq_some_iff.1 h
    cases hpush : queue.push buf with
    | none =>
      rw [hpush] at hrest
      exact Option.some.inj hrest ▸ hqueue
    | some pushed =>
      rw [hpush] at hrest
      exact ih (BoundedQueue.all_of_push hqueue hbuf hpush) hrest

theorem clean_of_new {minSize : UInt64}
    (h : UrbBufferPool.new checks rates dataCapacity minSize = some pool) :
    pool.Clean checks dataCapacity := by
  obtain ⟨maxSize, -, h⟩ := Option.bind_eq_some_iff.1 h
  obtain ⟨queue, hqueue, h⟩ := Option.bind_eq_some_iff.1 h
  cases h
  exact ⟨rfl, all_prefill (BoundedQueue.all_empty _) hqueue⟩

namespace Clean

/-- **An acquired buffer is as a new one**, and the pool stays clean. -/
theorem acquire (hpool : pool.Clean checks dataCapacity) {p : PooledBuffer}
    (h : pool.acquire checks = some (p, pool')) :
    (∃ b, p = ⟨some b, true⟩ ∧ b.IsNew checks dataCapacity) ∧
      pool'.Clean checks dataCapacity := by
  unfold UrbBufferPool.acquire at h
  split at h
  · rename_i buf queue hpop
    cases h
    obtain ⟨hbuf, hqueue⟩ := BoundedQueue.all_of_pop hpool.queue hpop
    exact ⟨⟨buf, rfl, hbuf⟩, hpool.dataCapacity_eq, hqueue⟩
  · obtain ⟨buf, hbuf, heq⟩ := Option.map_eq_some_iff.1 h
    cases heq
    rw [hpool.dataCapacity_eq] at hbuf
    exact ⟨⟨buf, rfl, hbuf⟩, hpool⟩

theorem adjust (hpool : pool.Clean checks dataCapacity)
    (h : pool.adjust checks rates = some pool') : pool'.Clean checks dataCapacity := by
  unfold UrbBufferPool.adjust at h
  dsimp only at h
  split at h
  · obtain ⟨queue, hqueue, rfl⟩ := Option.map_eq_some_iff.1 h
    rw [hpool.dataCapacity_eq] at hqueue
    exact ⟨hpool.dataCapacity_eq, all_grow hpool.queue hqueue⟩
  · exact Option.some.inj h ▸ hpool

/-- The rates decide how many buffers are pushed, and nothing about what is in them. -/
theorem recordUrb (hpool : pool.Clean checks dataCapacity) {now : τ}
    (h : pool.recordUrb checks rates now = some pool') : pool'.Clean checks dataCapacity := by
  obtain ⟨windowCount, -, h⟩ := Option.bind_eq_some_iff.1 h
  dsimp only at h
  split at h
  · cases h
    exact ⟨hpool.dataCapacity_eq, hpool.queue⟩
  · split at h
    · obtain ⟨adjusted, hadjust, h⟩ := Option.bind_eq_some_iff.1 h
      cases h
      have hadjusted : adjusted.Clean checks dataCapacity := by
        refine adjust ?_ hadjust
        exact ⟨hpool.dataCapacity_eq, hpool.queue⟩
      exact ⟨hadjusted.dataCapacity_eq, hadjusted.queue⟩
    · cases h
      exact ⟨hpool.dataCapacity_eq, hpool.queue⟩

end Clean

end UrbBufferPool

/-! ### Runs -/

namespace PoolUse.Clean

variable {τ ρ : Type} {rates : RateArithmetic τ ρ} {u v : PoolUse τ ρ}

theorem set (hu : u.Clean checks dataCapacity) {p : PooledBuffer}
    (hp : p.IsWritten checks dataCapacity) (i : ℕ) :
    PoolUse.Clean checks dataCapacity { u with held := u.held.set i p } :=
  ⟨hu.pool, fun q hq => (List.mem_or_eq_of_mem_set hq).elim (hu.held q) fun h => h ▸ hp⟩

theorem dropAt (hu : u.Clean checks dataCapacity) {p : PooledBuffer}
    (hp : p.IsWritten checks dataCapacity) (i : ℕ) :
    (u.dropAt i p).Clean checks dataCapacity :=
  ⟨⟨hu.pool.dataCapacity_eq, hp.drop hu.pool.queue⟩,
    fun q hq => hu.held q (List.mem_of_mem_eraseIdx hq)⟩

theorem getElem? (hu : u.Clean checks dataCapacity) {i : ℕ} {p : PooledBuffer}
    (h : u.held[i]? = some p) : p.IsWritten checks dataCapacity :=
  hu.held p (List.mem_of_getElem? h)

/-- **Every step keeps the pool clean**, whatever is written and whatever the rates are. -/
theorem step (hu : u.Clean checks dataCapacity) {op : PoolOp τ}
    (h : u.step checks rates op = some v) : v.Clean checks dataCapacity := by
  cases op with
  | acquire =>
    obtain ⟨⟨p, pool⟩, hacquire, h⟩ := Option.bind_eq_some_iff.1 h
    cases h
    obtain ⟨⟨b, rfl, hb⟩, hpool⟩ := hu.pool.acquire hacquire
    refine ⟨hpool, fun q hq => ?_⟩
    rcases List.mem_append.1 hq with hq | hq
    · exact hu.held q hq
    · rw [List.mem_singleton.1 hq]
      exact PooledBuffer.isWritten_of_isNew hb true
  | write i contents =>
    obtain ⟨p, hp, h⟩ := Option.bind_eq_some_iff.1 h
    obtain ⟨p', hwrite, h⟩ := Option.bind_eq_some_iff.1 h
    cases h
    exact hu.set ((hu.getElem? hp).write hwrite) i
  | reset i =>
    obtain ⟨p, hp, h⟩ := Option.bind_eq_some_iff.1 h
    cases h
    exact hu.set (hu.getElem? hp).reset i
  | drop i =>
    obtain ⟨p, hp, h⟩ := Option.bind_eq_some_iff.1 h
    cases h
    exact hu.dropAt (hu.getElem? hp) i
  | take i =>
    obtain ⟨p, -, h⟩ := Option.bind_eq_some_iff.1 h
    obtain ⟨⟨b, p'⟩, htake, h⟩ := Option.bind_eq_some_iff.1 h
    cases h
    exact hu.dropAt (PooledBuffer.isWritten_of_take htake) i
  | recordUrb now =>
    obtain ⟨pool, hpool, h⟩ := Option.bind_eq_some_iff.1 h
    cases h
    exact ⟨hu.pool.recordUrb hpool, hu.held⟩

end PoolUse.Clean

section Runs

variable {τ ρ : Type} {rates : RateArithmetic τ ρ} {minSize : UInt64} {pool : UrbBufferPool τ ρ}
  {u : PoolUse τ ρ}

theorem clean_of_run (hnew : UrbBufferPool.new checks rates dataCapacity minSize = some pool)
    (hrun : Reachable (PoolUse.step checks rates) ⟨pool, []⟩ u) : u.Clean checks dataCapacity :=
  hrun.invariant (fun _ _ _ hu h => hu.step h)
    ⟨UrbBufferPool.clean_of_new hnew, fun _ hp => absurd hp List.not_mem_nil⟩

/-- **Nothing that a holder writes is seen by a later one**: after any operations on a pool, an
acquired buffer is zero throughout, and its length is that of the header and the data capacity the
pool was made with, in `usize` and, where that does not overflow, as it is. The queue is never over
its capacity. -/
theorem acquire_zero (hnew : UrbBufferPool.new checks rates dataCapacity minSize = some pool)
    (hrun : Reachable (PoolUse.step checks rates) ⟨pool, []⟩ u) :
    u.pool.available ≤ u.pool.capacity ∧
      ∀ p pool', u.pool.acquire checks = some (p, pool') →
        ∃ b, p.inner = some b ∧ (∀ x ∈ b.buf, x = 0) ∧
          b.buf.length = (b.dataOffset + b.dataCapacity).toNat ∧
          b.dataOffset = 56 ∧ b.dataCapacity = dataCapacity ∧
          (checks = true ∨ 56 + dataCapacity.toNat < 2 ^ 64 →
            b.buf.length = 56 + dataCapacity.toNat) := by
  refine ⟨u.pool.queue.length_le, fun p pool' hacquire => ?_⟩
  obtain ⟨⟨b, rfl, hb⟩, -⟩ := (clean_of_run hnew hrun).pool.acquire hacquire
  have hlength : checks = true ∨ 56 + dataCapacity.toNat < 2 ^ 64 →
      b.buf.length = 56 + dataCapacity.toNat := fun h => hb.length_eq (h.elim hb.lt id)
  have hfields := hb.eq
  refine ⟨b, rfl, ?_, ?_, ?_, ?_, hlength⟩
  · rw [hfields]
    exact fun x hx => List.eq_of_mem_replicate hx
  · rw [hfields]
    exact List.length_replicate
  · rw [hfields]
    rfl
  · rw [hfields]

/-- **Two uses of pools of one data capacity hand out the same buffer**, whatever was written to
the buffers before. -/
theorem acquire_eq_acquire {rates' : RateArithmetic τ ρ} {minSize' : UInt64}
    {pool' v v' : UrbBufferPool τ ρ} {u' : PoolUse τ ρ} {p p' : PooledBuffer}
    (hnew : UrbBufferPool.new checks rates dataCapacity minSize = some pool)
    (hrun : Reachable (PoolUse.step checks rates) ⟨pool, []⟩ u)
    (hnew' : UrbBufferPool.new checks rates' dataCapacity minSize' = some pool')
    (hrun' : Reachable (PoolUse.step checks rates') ⟨pool', []⟩ u')
    (h : u.pool.acquire checks = some (p, v)) (h' : u'.pool.acquire checks = some (p', v')) :
    p = p' := by
  obtain ⟨⟨b, rfl, hb⟩, -⟩ := (clean_of_run hnew hrun).pool.acquire h
  obtain ⟨⟨b', rfl, hb'⟩, -⟩ := (clean_of_run hnew' hrun').pool.acquire h'
  rw [hb.eq, hb'.eq]

end Runs

/-- Rates in URBs per second and times in milliseconds, as whole numbers. -/
def wholeRates : RateArithmetic ℕ ℕ where
  durationSince now last := now - last
  isSecond elapsed := 1000 ≤ elapsed
  observedRate count elapsed := count.toNat * 1000 / elapsed
  zero := 0
  isZero rate := rate == 0
  smooth observed rate := (observed + 7 * rate) / 8
  target rate := UInt64.ofNat (2 * rate)

/-- A buffer is acquired, written full and dropped. -/
def writeAndDrop : List (PoolOp ℕ) :=
  [.acquire, .recordUrb 0, .write 0 (List.replicate 60 0xFF), .recordUrb 5, .drop 0]

/-- A buffer that was written full comes back as zeros. -/
theorem acquire_zero_writeAndDrop :
    ∃ pool u p pool', UrbBufferPool.new true wholeRates 4 1 = some pool ∧
      run (PoolUse.step true wholeRates) ⟨pool, []⟩ writeAndDrop = some u ∧
      u.pool.acquire true = some (p, pool') ∧ ∃ b, p.inner = some b ∧ ∀ x ∈ b.buf, x = 0 := by
  obtain ⟨pool, u, p, pool', hnew, hrun, hacquire⟩ : ∃ pool u p pool',
      UrbBufferPool.new true wholeRates 4 1 = some pool ∧
      run (PoolUse.step true wholeRates) ⟨pool, []⟩ writeAndDrop = some u ∧
      u.pool.acquire true = some (p, pool') :=
    ⟨_, _, _, _, rfl, rfl, rfl⟩
  obtain ⟨b, hb, hzero, -⟩ := (acquire_zero hnew ⟨writeAndDrop, hrun⟩).2 p pool' hacquire
  exact ⟨pool, u, p, pool', hnew, hrun, hacquire, b, hb, hzero⟩

end AnyPlug
