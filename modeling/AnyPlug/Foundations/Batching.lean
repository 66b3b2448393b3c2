import Mathlib

/-!
# Batching with refusals

Items arrive one by one at a batch of at most `cap` items. An item that may join the open batch is
added to it, and closes it when it was the last there is room for. An item that may not join closes
the open batch and is itself dropped. When the items end, the open batch is closed.

* `flatten_batches_eq_iff`: every item is in a batch, once and in order, exactly when each may join
  the batch that is open before it, which is then what came after the last multiple of `cap`.
* `forall_single_batches_iff`: every batch has one item exactly when the items alternate between
  joining an empty batch and being refused by a batch of one.

What may join is a parameter, `joins`.
-/

namespace AnyPlug

section Batching

variable {α : Type*} (joins : List α → α → Prop) [∀ b x, Decidable (joins b x)] (cap : ℕ)

/-- An item arrives: the open batch after it and the batches it closes. -/
def arrive (b : List α) (x : α) : List α × List (List α) :=
  if joins b x then
    if b.length + 1 < cap then (b ++ [x], []) else ([], [b ++ [x]])
  else ([], [b])

/-- The batches closed while items arrive at the open batch `b`, the last one included. -/
def batchesFrom : List α → List α → List (List α)
  | b, [] => if b.isEmpty then [] else [b]
  | b, x :: xs => (arrive joins cap b x).2 ++ batchesFrom (arrive joins cap b x).1 xs

/-- The batches of a list of items. -/
def batches (xs : List α) : List (List α) := batchesFrom joins cap [] xs

/-- What is in the open batch after the items `xs`, when each of them joined. -/
def openBatch (xs : List α) : List α := xs.drop (cap * (xs.length / cap))

theorem length_openBatch (xs : List α) : (openBatch cap xs).length = xs.length % cap := by
  rw [openBatch, List.length_drop, Nat.mod_eq_sub]

/-- The open batch after one more item. -/
theorem openBatch_append_singleton (hcap : 0 < cap) (xs : List α) (x : α) :
    openBatch cap (xs ++ [x]) =
      if (openBatch cap xs).length + 1 < cap then openBatch cap xs ++ [x] else [] := by
  have hdiv := Nat.div_add_mod xs.length cap
  have hlt := Nat.mod_lt xs.length hcap
  rw [length_openBatch]
  split
  · rename_i h
    have hq : (xs.length + 1) / cap = xs.length / cap := by
      rw [Nat.div_eq_iff hcap]
      constructor
      · rw [mul_comm] at hdiv
        omega
      · have := Nat.mul_comm cap (xs.length / cap)
        omega
    rw [openBatch, List.length_append, List.length_singleton, hq,
      List.drop_append_of_le_length (by omega), openBatch]
  · rename_i h
    have hq : (xs.length + 1) / cap = xs.length / cap + 1 := by
      rw [Nat.div_eq_iff hcap, Nat.add_mul, Nat.mul_comm (xs.length / cap) cap]
      omega
    rw [openBatch, List.length_append, List.length_singleton, hq, List.drop_eq_nil_iff,
      List.length_append, List.length_singleton, Nat.mul_add]
    omega

variable {joins cap}

/-! ## One item -/

theorem arrive_of_joins {b : List α} {x : α} (h : joins b x) :
    arrive joins cap b x = if b.length + 1 < cap then (b ++ [x], []) else ([], [b ++ [x]]) :=
  if_pos h

theorem arrive_of_not_joins {b : List α} {x : α} (h : ¬joins b x) :
    arrive joins cap b x = ([], [b]) :=
  if_neg h

variable (cap) in
/-- What is kept of an item that joins: the closed batches, then the open one. -/
theorem flatten_arrive_of_joins {b : List α} {x : α} (h : joins b x) :
    (arrive joins cap b x).2.flatten ++ (arrive joins cap b x).1 = b ++ [x] := by
  rw [arrive_of_joins h]
  split <;> simp

variable (cap) in
theorem flatten_arrive_of_not_joins {b : List α} {x : α} (h : ¬joins b x) :
    (arrive joins cap b x).2.flatten ++ (arrive joins cap b x).1 = b := by
  simp [arrive_of_not_joins h]

theorem arrive_fst_openBatch (hcap : 0 < cap) {xs : List α} {x : α}
    (h : joins (openBatch cap xs) x) :
    (arrive joins cap (openBatch cap xs) x).1 = openBatch cap (xs ++ [x]) := by
  rw [arrive_of_joins h, openBatch_append_singleton cap hcap]
  split <;> rfl

/-! ## All the items -/

theorem flatten_batchesFrom_nil (b : List α) : (batchesFrom joins cap b []).flatten = b := by
  cases b <;> simp [batchesFrom]

variable (joins cap) in
/-- Items are neither invented nor reordered. -/
theorem sublist_flatten_batchesFrom (b xs : List α) :
    (batchesFrom joins cap b xs).flatten.Sublist (b ++ xs) := by
  induction xs generalizing b with
  | nil => rw [flatten_batchesFrom_nil, List.append_nil]
  | cons x xs ih =>
    rw [batchesFrom, List.flatten_append]
    have hsub := (List.Sublist.refl (arrive joins cap b x).2.flatten).append
      (ih (arrive joins cap b x).1)
    by_cases h : joins b x
    · rwa [← List.append_assoc, flatten_arrive_of_joins cap h, List.append_assoc,
        List.singleton_append] at hsub
    · rw [← List.append_assoc, flatten_arrive_of_not_joins cap h] at hsub
      exact hsub.trans ((List.Sublist.refl b).append (List.sublist_cons_self x xs))

variable (joins) in
/-- **Nothing is lost exactly when every item may join the batch that is open before it.** The
items `ys` are those that already arrived. -/
theorem flatten_batchesFrom_eq_iff (hcap : 0 < cap) (ys xs : List α) :
    (batchesFrom joins cap (openBatch cap ys) xs).flatten = openBatch cap ys ++ xs ↔
      ∀ k (hk : k < xs.length), joins (openBatch cap (ys ++ xs.take k)) xs[k] := by
  induction xs generalizing ys with
  | nil => simp [flatten_batchesFrom_nil]
  | cons x xs ih =>
    rw [batchesFrom, List.flatten_append]
    by_cases h : joins (openBatch cap ys) x
    · have hnext := arrive_fst_openBatch hcap h
      have hkept := flatten_arrive_of_joins cap h
      have hih := ih (ys ++ [x])
      rw [← List.singleton_append, ← List.append_assoc, ← hkept, List.append_assoc,
        List.append_cancel_left_eq, hnext, hih]
      constructor
      · intro hall k hk
        cases k with
        | zero => simpa using h
        | succ k => simpa using hall k (by simpa using hk)
      · intro hall k hk
        simpa using hall (k + 1) (by simpa using hk)
    · -- the refused item is lost: there is one item fewer
      have hsub := sublist_flatten_batchesFrom joins cap
        (arrive joins cap (openBatch cap ys) x).1 xs
      have hlen := hsub.length_le
      have hkept := congrArg List.length (flatten_arrive_of_not_joins cap h)
      refine iff_of_false (fun heq => ?_) fun hall => h (by simpa using hall 0 (Nat.succ_pos _))
      have := congrArg List.length heq
      simp only [List.length_append, List.length_cons] at hlen hkept this
      omega

theorem flatten_batches_eq_iff (hcap : 0 < cap) (xs : List α) :
    (batches joins cap xs).flatten = xs ↔
      ∀ k (hk : k < xs.length), joins (openBatch cap (xs.take k)) xs[k] := by
  simpa [batches, openBatch] using flatten_batchesFrom_eq_iff joins hcap [] xs

/-- A lossless image of the batches is an image of all the items. -/
theorem flatMap_flatten_batches_eq_iff {β : Type*} (f : α → List β) (hf : ∀ x, f x ≠ [])
    (xs : List α) :
    (batches joins cap xs).flatten.flatMap f = xs.flatMap f ↔
      (batches joins cap xs).flatten = xs := by
  constructor
  · intro h
    have hsub : (batches joins cap xs).flatten.Sublist xs :=
      sublist_flatten_batchesFrom joins cap [] xs
    generalize (batches joins cap xs).flatten = zs at h hsub
    induction hsub with
    | slnil => rfl
    | cons x hsub _ =>
      -- the image of a sublist that leaves `x` out is too short
      have hle := (hsub.flatMap (f := f)).length_le
      have hpos := List.length_pos_iff.2 (hf x)
      have := congrArg List.length h
      rw [List.flatMap_cons, List.length_append] at this
      omega
    | cons_cons x _ ih =>
      rw [List.flatMap_cons, List.flatMap_cons, List.append_cancel_left_eq] at h
      rw [ih h]
  · intro h
    rw [h]

/-! ## Batches of one -/

variable (joins cap) in
/-- What is in the open batch stays together. -/
theorem exists_length_le_batchesFrom (xs : List α) {b : List α} (hb : b ≠ []) :
    ∃ c ∈ batchesFrom joins cap b xs, b.length ≤ c.length := by
  induction xs generalizing b with
  | nil => exact ⟨b, by simp [batchesFrom, hb], le_rfl⟩
  | cons x xs ih =>
    simp only [batchesFrom, arrive]
    split
    · split
      · obtain ⟨c, hc, hlen⟩ := ih (b := b ++ [x]) (by simp)
        exact ⟨c, by simpa using hc, le_trans (by simp) hlen⟩
      · exact ⟨b ++ [x], by simp, by simp⟩
    · exact ⟨b, by simp, le_rfl⟩

theorem batches_cons_of_joins (hcap : 1 < cap) {x : α} (h : joins [] x) (xs : List α) :
    batches joins cap (x :: xs) = batchesFrom joins cap [x] xs := by
  simp [batches, batchesFrom, arrive, h, hcap]

theorem batches_cons_of_not_joins {x : α} (h : ¬joins [] x) (xs : List α) :
    batches joins cap (x :: xs) = [] :: batches joins cap xs := by
  simp [batches, batchesFrom, arrive, h]

/-- A refused second item leaves the first in a batch of its own. -/
theorem batches_cons_cons_of_not_joins (hcap : 1 < cap) {x y : α} (hx : joins [] x)
    (hy : ¬joins [x] y) (xs : List α) :
    batches joins cap (x :: y :: xs) = [x] :: batches joins cap xs := by
  rw [batches_cons_of_joins hcap hx]
  simp [batches, batchesFrom, arrive, hy]

variable {P : α → Prop}

/-- A batch of one item with a property. -/
def Single (P : α → Prop) (b : List α) : Prop := ∃ x, b = [x] ∧ P x

theorem single_singleton {x : α} : Single P [x] ↔ P x := by
  simp [Single]

theorem Single.length_eq {b : List α} (h : Single P b) : b.length = 1 := by
  obtain ⟨x, rfl, -⟩ := h
  rfl

theorem forall_single_batches_cons_cons (hcap : 1 < cap) (x y : α) (xs : List α) :
    (∀ b ∈ batches joins cap (x :: y :: xs), Single P b) ↔
      joins [] x ∧ P x ∧ ¬joins [x] y ∧ ∀ b ∈ batches joins cap xs, Single P b := by
  by_cases hx : joins [] x
  · by_cases hy : joins [x] y
    · -- the two items end up in one batch
      refine iff_of_false (fun hall => ?_) fun h => h.2.2.1 hy
      rw [batches_cons_of_joins hcap hx] at hall
      have htwo : ∃ c ∈ batchesFrom joins cap [x] (y :: xs), 2 ≤ c.length := by
        simp only [batchesFrom, arrive, hy, if_true]
        split
        · obtain ⟨c, hc, hlen⟩ := exists_length_le_batchesFrom joins cap xs
            (b := [x] ++ [y]) (by simp)
          exact ⟨c, by simpa using hc, by simpa using hlen⟩
        · exact ⟨[x] ++ [y], by simp, by simp⟩
      obtain ⟨c, hc, hlen⟩ := htwo
      have := (hall c hc).length_eq
      omega
    · simp [batches_cons_cons_of_not_joins hcap hx hy, hx, hy, single_singleton]
  · refine iff_of_false (fun hall => ?_) fun h => hx h.1
    rw [batches_cons_of_not_joins hx] at hall
    exact absurd (hall [] (by simp)).length_eq (by simp)

/-- **Every batch is a single item with the property** exactly when the items alternate: one joins
the empty batch and has the property, the next is refused by the batch of that one. -/
theorem forall_single_batches_iff (hcap : 1 < cap) (xs : List α) :
    (∀ b ∈ batches joins cap xs, Single P b) ↔
      ∀ k (hk : k < xs.length), if k % 2 = 0 then joins [] xs[k] ∧ P xs[k]
        else ¬joins [xs[k - 1]] xs[k] := by
  induction xs using List.twoStepInduction with
  | nil => simp [batches, batchesFrom]
  | singleton x =>
    by_cases hx : joins [] x
    · simp [batches_cons_of_joins hcap hx, batchesFrom, hx, single_singleton]
    · simp [batches_cons_of_not_joins hx, hx, Single]
  | cons_cons x y xs ih _ =>
    rw [forall_single_batches_cons_cons hcap, ih]
    constructor
    · rintro ⟨hx, hpx, hy, hall⟩ k hk
      match k with
      | 0 => simpa using ⟨hx, hpx⟩
      | 1 => simpa using hy
      | k + 2 =>
        have hk' := hall k (by simpa using hk)
        rcases Nat.mod_two_eq_zero_or_one k with h0 | h1
        · simpa [h0] using hk'
        · obtain ⟨m, rfl⟩ : ∃ m, k = m + 1 := ⟨k - 1, by omega⟩
          simpa [h1] using hk'
    · intro hall
      have h0 : joins [] x ∧ P x := by simpa using hall 0 (Nat.succ_pos _)
      have h1 : ¬joins [x] y := by simpa using hall 1 (Nat.succ_lt_succ (Nat.succ_pos _))
      refine ⟨h0.1, h0.2, h1, fun k hk => ?_⟩
      have hk' := hall (k + 2) (by simpa using hk)
      rcases Nat.mod_two_eq_zero_or_one k with h0 | h1
      · simpa [h0] using hk'
      · obtain ⟨m, rfl⟩ : ∃ m, k = m + 1 := ⟨k - 1, by omega⟩
        simpa [h1] using hk'

/-- An image of the batches, batch by batch, is an image item by item exactly when there is one item
to a batch. -/
theorem map_flatMap_eq_map_flatten_iff {β : Type*} (f : α → List β) (hf : ∀ x, f x ≠ [])
    (bs : List (List α)) :
    bs.map (List.flatMap f) = bs.flatten.map f ↔ ∀ b ∈ bs, b.length = 1 := by
  induction bs with
  | nil => simp
  | cons b bs ih =>
    match b with
    | [] =>
      refine iff_of_false (fun h => ?_) (by simp)
      rw [List.map_cons, List.flatten_cons, List.nil_append, List.flatMap_nil] at h
      have hmem : [] ∈ bs.flatten.map f := h ▸ List.mem_cons_self
      obtain ⟨x, -, hx⟩ := List.mem_map.1 hmem
      exact hf x hx
    | [x] => simpa using ih
    | x :: y :: b =>
      refine iff_of_false (fun h => ?_) (by simp)
      simp only [List.map_cons, List.flatten_cons, List.cons_append, List.flatMap_cons,
        List.cons.injEq, List.append_right_eq_self, List.append_eq_nil_iff] at h
      exact hf y h.1.1

/-- What holds of the empty batch and is kept when an item joins holds of all batches. -/
theorem forall_batchesFrom {Q : List α → Prop} (hnil : Q [])
    (hjoin : ∀ b x, Q b → joins b x → Q (b ++ [x])) (xs : List α) {b : List α} (hb : Q b) :
    ∀ c ∈ batchesFrom joins cap b xs, Q c := by
  induction xs generalizing b with
  | nil =>
    intro c hc
    rw [batchesFrom] at hc
    split at hc
    · cases hc
    · exact List.mem_singleton.1 hc ▸ hb
  | cons x xs ih =>
    intro c hc
    rcases List.mem_append.1 hc with hc | hc
    · unfold arrive at hc
      split at hc
      · rename_i hj
        split at hc
        · cases hc
        · exact List.mem_singleton.1 hc ▸ hjoin b x hb hj
      · exact List.mem_singleton.1 hc ▸ hb
    · refine ih ?_ c hc
      unfold arrive
      split
      · rename_i hj
        split
        · exact hjoin b x hb hj
        · exact hnil
      · exact hnil

end Batching

end AnyPlug
