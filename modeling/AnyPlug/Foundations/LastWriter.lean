import Mathlib

/-!
# Stores that keep the last write of each key

`lastWrite key ws k` is the last of the writes `ws` with the key `k`. It does not depend on the
order of the writes exactly when no two different writes have one key (`lastWrite_perm_iff`).

`InsertionMap` is a map that keeps the order in which its keys were first put. A list is
`Current key ws` when its elements are the last writes of `ws`, each once: this is what putting the
writes one after another into the map of the list keeps (`Current.put`).
-/

namespace AnyPlug

variable {κ α : Type*} [DecidableEq κ]

/-! ## The last write -/

/-- The last write with a key. -/
def lastWrite (key : α → κ) (ws : List α) (k : κ) : Option α :=
  ws.reverse.find? fun a => key a = k

section LastWrite

variable {key : α → κ} {ws ws' : List α} {a : α} {k : κ}

theorem lastWrite_append_singleton (ws : List α) (a : α) (k : κ) :
    lastWrite key (ws ++ [a]) k = if key a = k then some a else lastWrite key ws k := by
  rw [lastWrite, List.reverse_append, List.reverse_singleton, List.singleton_append]
  by_cases h : key a = k
  · rw [List.find?_cons_of_pos (by simpa using h), if_pos h]
  · rw [List.find?_cons_of_neg (by simpa using h), if_neg h, lastWrite]

/-- The last write with a key has no other one with the key after it. -/
theorem lastWrite_eq_some_iff : lastWrite key ws k = some a ↔
    key a = k ∧ ∃ before after, ws = before ++ a :: after ∧ ∀ b ∈ after, key b ≠ k := by
  rw [lastWrite, List.find?_eq_some_iff_append, decide_eq_true_eq]
  refine and_congr_right fun _ => ?_
  constructor
  · rintro ⟨late, early, heq, hlate⟩
    refine ⟨early.reverse, late.reverse, ?_, fun b hb => ?_⟩
    · rw [← List.reverse_inj, heq]
      simp
    · simpa using hlate b (List.mem_reverse.1 hb)
  · rintro ⟨before, after, rfl, hafter⟩
    refine ⟨after.reverse, before.reverse, by simp, fun b hb => ?_⟩
    simpa using hafter b (List.mem_reverse.1 hb)

theorem lastWrite_eq_some (h : lastWrite key ws k = some a) : a ∈ ws ∧ key a = k := by
  obtain ⟨hkey, before, after, rfl, -⟩ := lastWrite_eq_some_iff.1 h
  exact ⟨by simp, hkey⟩

theorem exists_lastWrite (key : α → κ) (h : a ∈ ws) : ∃ b, lastWrite key ws (key a) = some b := by
  rw [← Option.isSome_iff_exists, lastWrite, List.find?_isSome]
  exact ⟨a, List.mem_reverse.2 h, by simp⟩

theorem lastWrite_eq_none (h : ∀ a ∈ ws, key a ≠ k) : lastWrite key ws k = none := by
  rw [lastWrite, List.find?_eq_none]
  simpa using h

/-- Where a key is written with one value only, the last write of it is that. -/
theorem lastWrite_of_injOn (h : Set.InjOn key {a | a ∈ ws}) (ha : a ∈ ws) :
    lastWrite key ws (key a) = some a := by
  obtain ⟨b, hb⟩ := exists_lastWrite key ha
  obtain ⟨hmem, hkey⟩ := lastWrite_eq_some hb
  rw [hb, h hmem ha hkey]

/-- **The last writes do not depend on the order of the writes exactly when** no two different
writes have one key. -/
theorem lastWrite_perm_iff :
    (∀ ws', ws'.Perm ws → lastWrite key ws' = lastWrite key ws) ↔ Set.InjOn key {a | a ∈ ws} := by
  constructor
  · intro h
    -- each write can be made the last one
    have hlast (a : α) (ha : a ∈ ws) : lastWrite key ws (key a) = some a := by
      obtain ⟨pre, post, heq⟩ := List.append_of_mem ha
      have hperm : (pre ++ post ++ [a]).Perm ws := by
        rw [heq, List.append_assoc]
        exact (List.perm_append_singleton a post).append_left pre
      rw [← h _ hperm, lastWrite_append_singleton, if_pos rfl]
    intro a ha b hb hkey
    have hsome := hlast a ha
    rw [hkey, hlast b hb] at hsome
    exact (Option.some.inj hsome).symm
  · intro h ws' hperm
    funext k
    have hinj : Set.InjOn key {a | a ∈ ws'} := by
      intro a ha b hb
      exact h (hperm.mem_iff.1 ha) (hperm.mem_iff.1 hb)
    by_cases hk : ∃ a ∈ ws, key a = k
    · obtain ⟨a, ha, rfl⟩ := hk
      rw [lastWrite_of_injOn h ha, lastWrite_of_injOn hinj (hperm.mem_iff.2 ha)]
    · push Not at hk
      rw [lastWrite_eq_none hk, lastWrite_eq_none fun a ha => hk a (hperm.mem_iff.1 ha)]

end LastWrite

/-! ## Maps in the order of insertion -/

/-- The pairs of a map, in the order in which the keys were first put. -/
abbrev InsertionMap (κ α : Type*) := List (κ × α)

namespace InsertionMap

/-- Put a value under a key: in the place of the value before, or at the end. -/
def put : InsertionMap κ α → κ → α → InsertionMap κ α
  | [], k, a => [(k, a)]
  | (k', a') :: m, k, a => if k' = k then (k', a) :: m else (k', a') :: put m k a

def values (m : InsertionMap κ α) : List α := m.map Prod.snd

/-- The map of a list, each element under its key. -/
def associateBy (key : α → κ) (as : List α) : InsertionMap κ α :=
  as.foldl (fun m a => put m (key a) a) []

/-- The pairs of a list whose elements have different keys. -/
def pairs (key : α → κ) (as : List α) : InsertionMap κ α := as.map fun a => (key a, a)

variable {key : α → κ} {as : List α}

/-- A list with an element in the place of the one with its key, or at the end. -/
def replace (key : α → κ) (a : α) : List α → List α
  | [] => [a]
  | b :: bs => if key b = key a then a :: bs else b :: replace key a bs

theorem put_pairs (as : List α) (a : α) :
    put (pairs key as) (key a) a = pairs key (replace key a as) := by
  induction as with
  | nil => rfl
  | cons b as ih =>
    by_cases h : key b = key a
    · simp [pairs, put, replace, h]
    · simp only [pairs, List.map_cons, put, replace, if_neg h]
      rw [← pairs, ih, pairs]

theorem replace_of_notMem {a : α} (h : ∀ b ∈ as, key b ≠ key a) :
    replace key a as = as ++ [a] := by
  induction as with
  | nil => rfl
  | cons b as ih =>
    rw [replace, if_neg (h b (by simp)), ih fun c hc => h c (by simp [hc]), List.cons_append]

/-- Elements with different keys all stay, in their order. -/
theorem associateBy_of_nodup (h : (as.map key).Nodup) : associateBy key as = pairs key as := by
  induction as using List.reverseRecOn with
  | nil => rfl
  | append_singleton as a ih =>
    rw [List.map_append, List.nodup_append] at h
    obtain ⟨has, -, hdisjoint⟩ := h
    have hfresh : ∀ b ∈ as, key b ≠ key a := fun b hb =>
      hdisjoint (key b) (List.mem_map_of_mem hb) (key a) (by simp)
    rw [associateBy, List.foldl_append, ← associateBy, ih has]
    rw [List.foldl_cons, List.foldl_nil, put_pairs, replace_of_notMem hfresh]

omit [DecidableEq κ] in
@[simp] theorem values_pairs (as : List α) : values (pairs key as) = as := by
  rw [values, pairs, List.map_map]
  exact List.map_id as

theorem map_key_replace (a : α) (as : List α) :
    (replace key a as).map key =
      if ∃ b ∈ as, key b = key a then as.map key else as.map key ++ [key a] := by
  induction as with
  | nil => simp [replace]
  | cons b as ih =>
    by_cases h : key b = key a
    · simp [replace, h]
    · rw [replace, if_neg h, List.map_cons, ih]
      by_cases hin : ∃ c ∈ as, key c = key a <;> simp [h, hin]

theorem mem_replace {a x : α} (h : (as.map key).Nodup) :
    x ∈ replace key a as ↔ x = a ∨ x ∈ as ∧ key x ≠ key a := by
  induction as with
  | nil => simp [replace]
  | cons b as ih =>
    obtain ⟨hb, has⟩ := List.nodup_cons.1 h
    by_cases hkey : key b = key a
    · have hne (y : α) (hy : y ∈ as) : key y ≠ key a := fun hya =>
        hb (hkey ▸ hya ▸ List.mem_map_of_mem hy)
      rw [replace, if_pos hkey, List.mem_cons, List.mem_cons]
      constructor
      · rintro (rfl | hx)
        · exact .inl rfl
        · exact .inr ⟨.inr hx, hne x hx⟩
      · rintro (rfl | ⟨rfl | hx, hxa⟩)
        · exact .inl rfl
        · exact absurd hkey hxa
        · exact .inr hx
    · rw [replace, if_neg hkey, List.mem_cons, ih has, List.mem_cons]
      constructor
      · rintro (rfl | rfl | ⟨hx, hxa⟩)
        · exact .inr ⟨.inl rfl, hkey⟩
        · exact .inl rfl
        · exact .inr ⟨.inr hx, hxa⟩
      · rintro (rfl | ⟨rfl | hx, hxa⟩)
        · exact .inr (.inl rfl)
        · exact .inl rfl
        · exact .inr (.inr ⟨hx, hxa⟩)

theorem nodup_replace {a : α} (h : (as.map key).Nodup) : ((replace key a as).map key).Nodup := by
  rw [map_key_replace]
  split
  · exact h
  · rename_i hnone
    rw [List.nodup_append]
    refine ⟨h, List.nodup_singleton _, ?_⟩
    rintro _ hmem _ hk rfl
    obtain ⟨b, hb, hkey⟩ := List.mem_map.1 hmem
    exact hnone ⟨b, hb, hkey.trans (List.mem_singleton.1 hk)⟩

end InsertionMap

/-! ## Lists of last writes -/

/-- The list holds the last write of each key, once. -/
structure Current (key : α → κ) (ws l : List α) : Prop where
  nodup : (l.map key).Nodup
  mem_iff : ∀ a, a ∈ l ↔ lastWrite key ws (key a) = some a

namespace Current

variable {key : α → κ} {ws ws' l l' : List α}

theorem nil : Current key [] [] := ⟨List.nodup_nil, fun a => by simp [lastWrite]⟩

/-- **A write put into the map of the list is the last write of its key**, whatever order the list
is brought in afterwards. -/
theorem put (h : Current key ws l) {a : α}
    (hl' : l'.Perm (((InsertionMap.associateBy key l).put (key a) a).values)) :
    Current key (ws ++ [a]) l' := by
  rw [InsertionMap.associateBy_of_nodup h.nodup, InsertionMap.put_pairs,
    InsertionMap.values_pairs] at hl'
  refine ⟨(hl'.map key).nodup_iff.2 (InsertionMap.nodup_replace h.nodup), fun b => ?_⟩
  rw [hl'.mem_iff, InsertionMap.mem_replace h.nodup, h.mem_iff, lastWrite_append_singleton]
  by_cases hkey : key a = key b
  · rw [if_pos hkey, Option.some.injEq, eq_comm]
    simp [hkey]
  · rw [if_neg hkey]
    have hne : b ≠ a := fun heq => hkey (heq ▸ rfl)
    simp [hne, Ne.symm hkey]

theorem nodup_list (h : Current key ws l) : l.Nodup := List.Nodup.of_map key h.nodup

/-- Two lists of last writes have the same elements exactly when the last writes are the same. -/
theorem perm_iff (h : Current key ws l) (h' : Current key ws' l') :
    l.Perm l' ↔ lastWrite key ws = lastWrite key ws' := by
  rw [List.perm_ext_iff_of_nodup h.nodup_list h'.nodup_list]
  simp only [h.mem_iff, h'.mem_iff]
  constructor
  · intro hall
    funext k
    cases hw : lastWrite key ws k with
    | some a =>
      obtain ⟨-, rfl⟩ := lastWrite_eq_some hw
      exact ((hall a).1 hw).symm
    | none =>
      cases hw' : lastWrite key ws' k with
      | none => rfl
      | some a =>
        obtain ⟨-, rfl⟩ := lastWrite_eq_some hw'
        rw [(hall a).2 hw'] at hw
        cases hw
  · rintro heq a
    rw [heq]

end Current

end AnyPlug
