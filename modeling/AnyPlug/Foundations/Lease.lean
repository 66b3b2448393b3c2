import Mathlib

/-!
# Leases

A table gives values to keys, and clients hold keys of it. A client acquires a key that has no
value by putting one that is its own, and gives it up either by removing the key or by walking away
from it; keys that nobody holds may be changed by anyone. Then a held key has a value of its
holder, and no two clients hold the same key (`Exclusive.step`).
-/

namespace AnyPlug

/-- Who holds which key, and the values of the keys. -/
structure LeaseTable (ι κ ν : Type*) where
  held : ι → Option κ
  table : κ → Option ν

namespace LeaseTable

variable {ι κ ν : Type*} [DecidableEq ι] [DecidableEq κ] {own : ι → ν → Prop}
  {t t' : LeaseTable ι κ ν}

/-- The steps of clients and bystanders. -/
inductive Step (own : ι → ν → Prop) (t : LeaseTable ι κ ν) : LeaseTable ι κ ν → Prop
  | keep : Step own t t
  /-- A client acquires a key that has no value. -/
  | acquire {i : ι} {k : κ} {v : ν} (hfree : t.table k = none) (hown : own i v) :
      Step own t ⟨Function.update t.held i (some k), Function.update t.table k (some v)⟩
  /-- A client walks away, and the value stays. -/
  | abandon (i : ι) : Step own t ⟨Function.update t.held i none, t.table⟩
  /-- A client removes the key it holds. -/
  | remove {i : ι} {k : κ} (hheld : t.held i = some k) :
      Step own t ⟨Function.update t.held i none, Function.update t.table k none⟩
  /-- A key that nobody holds is changed. -/
  | change {k : κ} (v : Option ν) (hfree : ∀ i, t.held i ≠ some k) :
      Step own t ⟨t.held, Function.update t.table k v⟩

/-- Every held key has a value of its holder, and only one holder. -/
structure Exclusive (own : ι → ν → Prop) (t : LeaseTable ι κ ν) : Prop where
  owned : ∀ i k, t.held i = some k → ∃ v, t.table k = some v ∧ own i v
  unique : ∀ i j k, t.held i = some k → t.held j = some k → i = j

omit [DecidableEq ι] [DecidableEq κ] in
/-- A key without a value is held by nobody. -/
theorem Exclusive.held_ne (h : Exclusive own t) {k : κ} (hk : t.table k = none) (i : ι) :
    t.held i ≠ some k := by
  intro hi
  obtain ⟨v, hv, -⟩ := h.owned i k hi
  rw [hk] at hv
  cases hv

omit [DecidableEq κ] in
/-- What a client other than `i` holds after `i` gave up its key. -/
theorem held_of_update_none {i j : ι} {k : κ}
    (h : Function.update t.held i none j = some k) : j ≠ i ∧ t.held j = some k := by
  by_cases hj : j = i
  · subst hj
    rw [Function.update_self] at h
    cases h
  · rw [Function.update_of_ne hj] at h
    exact ⟨hj, h⟩

/-- **Every step keeps leases exclusive.** -/
theorem Exclusive.step (h : Exclusive own t) (hstep : Step own t t') : Exclusive own t' := by
  cases hstep with
  | keep => exact h
  | @acquire i k v hfree hown =>
    have hne := h.held_ne hfree
    constructor
    · intro j l hj
      by_cases hji : j = i
      · subst hji
        obtain rfl : k = l := by simpa using hj
        exact ⟨v, Function.update_self .., hown⟩
      · have hj' : t.held j = some l := by simpa [hji] using hj
        have hlk : l ≠ k := fun hlk => hne j (hlk ▸ hj')
        obtain ⟨w, hw, how⟩ := h.owned j l hj'
        exact ⟨w, (Function.update_of_ne hlk ..).trans hw, how⟩
    · intro j₁ j₂ l h₁ h₂
      by_cases h₁i : j₁ = i <;> by_cases h₂i : j₂ = i
      · rw [h₁i, h₂i]
      · subst h₁i
        obtain rfl : k = l := by simpa using h₁
        exact absurd (by simpa [h₂i] using h₂) (hne j₂)
      · subst h₂i
        obtain rfl : k = l := by simpa using h₂
        exact absurd (by simpa [h₁i] using h₁) (hne j₁)
      · exact h.unique j₁ j₂ l (by simpa [h₁i] using h₁) (by simpa [h₂i] using h₂)
  | abandon i =>
    constructor
    · intro j k hj
      exact h.owned j k (held_of_update_none hj).2
    · intro j₁ j₂ k h₁ h₂
      exact h.unique j₁ j₂ k (held_of_update_none h₁).2 (held_of_update_none h₂).2
  | @remove i k hheld =>
    constructor
    · intro j l hj
      obtain ⟨hji, hj⟩ := held_of_update_none hj
      have hlk : l ≠ k := fun hlk => hji (h.unique j i k (hlk ▸ hj) hheld)
      obtain ⟨w, hw, how⟩ := h.owned j l hj
      exact ⟨w, (Function.update_of_ne hlk ..).trans hw, how⟩
    · intro j₁ j₂ l h₁ h₂
      exact h.unique j₁ j₂ l (held_of_update_none h₁).2 (held_of_update_none h₂).2
  | @change k v hfree =>
    constructor
    · intro j l hj
      have hlk : l ≠ k := fun hlk => hfree j (hlk ▸ hj)
      obtain ⟨w, hw, how⟩ := h.owned j l hj
      exact ⟨w, (Function.update_of_ne hlk ..).trans hw, how⟩
    · exact h.unique

end LeaseTable

end AnyPlug
