import Mathlib

/-!
# Decimal numerals

A numeral is a text of decimal digits. Many numerals have the same value, but only one of them is
without a leading zero: the one that printing the value gives (`eq_toDigits_iff`).
-/

namespace AnyPlug

/-- A text of decimal digits. -/
def IsNumeral (cs : List Char) : Prop := cs ≠ [] ∧ ∀ c ∈ cs, c.isDigit = true

/-- Only the numeral of zero starts with a zero. -/
def NoLeadingZero (cs : List Char) : Prop := cs.head? = some '0' → cs = ['0']

instance (cs : List Char) : Decidable (IsNumeral cs) := inferInstanceAs (Decidable (_ ∧ _))

instance (cs : List Char) : Decidable (NoLeadingZero cs) := inferInstanceAs (Decidable (_ → _))

/-- The value of a numeral. -/
abbrev numeralValue (cs : List Char) : ℕ := Nat.ofDigitChars 10 cs 0

theorem numeralValue_append_singleton (cs : List Char) (c : Char) :
    numeralValue (cs ++ [c]) = 10 * numeralValue cs + (c.toNat - '0'.toNat) := by
  rw [numeralValue, Nat.ofDigitChars_append, Nat.ofDigitChars_cons, Nat.ofDigitChars_nil]

theorem le_ofDigitChars (n : ℕ) (cs : List Char) : n ≤ Nat.ofDigitChars 10 cs n := by
  rw [Nat.ofDigitChars_eq_ofDigitChars_zero]
  exact le_add_right (Nat.le_mul_of_pos_left n (by positivity))

theorem digit_of_isDigit {c : Char} (h : c.isDigit = true) :
    c.toNat - '0'.toNat < 10 ∧ Nat.digitChar (c.toNat - '0'.toNat) = c := by
  obtain ⟨hle, hge⟩ := Char.isDigit_iff_toNat.1 h
  have hle : 48 ≤ c.toNat := hle
  have hge : c.toNat ≤ 57 := hge
  obtain ⟨d, hd⟩ := Nat.exists_eq_add_of_le hle
  have hlt : d < 10 := by omega
  have hsub : c.toNat - '0'.toNat = d := by
    rw [hd]
    exact Nat.add_sub_cancel_left 48 d
  rw [hsub]
  refine ⟨hlt, Char.toNat_inj.1 ?_⟩
  rw [hd, Nat.toNat_digitChar_of_lt_ten hlt]

theorem isNumeral_toDigits (n : ℕ) : IsNumeral (Nat.toDigits 10 n) :=
  ⟨Nat.toDigits_ne_nil, fun _ hc => Nat.isDigit_of_mem_toDigits (by decide) (by decide) hc⟩

theorem noLeadingZero_toDigits (n : ℕ) : NoLeadingZero (Nat.toDigits 10 n) := by
  induction n using Nat.strong_induction_on with
  | _ n ih =>
    intro hhead
    by_cases hlt : n < 10
    · rw [Nat.toDigits_of_lt_base hlt] at hhead ⊢
      rw [Option.some.inj hhead]
    · exfalso
      have hdiv : Nat.toDigits 10 n = Nat.toDigits 10 (n / 10) ++ [Nat.digitChar (n % 10)] :=
        Nat.toDigits_of_base_le (by decide) (Nat.le_of_not_lt hlt)
      rw [hdiv, List.head?_append_of_ne_nil _ Nat.toDigits_ne_nil] at hhead
      have hzero := congrArg numeralValue (ih (n / 10) (by omega) hhead)
      rw [numeralValue, Nat.ofDigitChars_ten_toDigits] at hzero
      have : n / 10 = 0 := hzero
      omega

/-- **A numeral without a leading zero is what printing its value gives.** -/
theorem toDigits_numeralValue {cs : List Char} (hcs : IsNumeral cs) (hlead : NoLeadingZero cs) :
    Nat.toDigits 10 (numeralValue cs) = cs := by
  induction cs using List.reverseRecOn with
  | nil => exact absurd rfl hcs.1
  | append_singleton cs c ih =>
    obtain ⟨hlt, hchar⟩ := digit_of_isDigit (hcs.2 c (by simp))
    rw [numeralValue_append_singleton]
    by_cases hnil : cs = []
    · subst hnil
      rw [numeralValue, Nat.ofDigitChars_nil, Nat.mul_zero, Nat.zero_add,
        Nat.toDigits_of_lt_base hlt, hchar, List.nil_append]
    · -- the digits before the last are a numeral without a leading zero, and not zero
      have hhead : cs.head? ≠ some '0' := by
        intro h
        have hall := hlead (by rw [List.head?_append_of_ne_nil _ hnil, h])
        have hlen := congrArg List.length hall
        have hpos := List.length_pos_iff.2 hnil
        rw [List.length_append, List.length_singleton, List.length_singleton] at hlen
        omega
      have hprefix := ih ⟨hnil, fun d hd => hcs.2 d (by simp [hd])⟩ (fun h => absurd h hhead)
      have hpos : 0 < numeralValue cs := by
        by_contra hzero
        rw [Nat.eq_zero_of_not_pos hzero, Nat.toDigits_zero] at hprefix
        exact hhead (by rw [← hprefix]; rfl)
      rw [← Nat.toDigits_append_toDigits (by decide) hpos hlt, hprefix,
        Nat.toDigits_of_lt_base hlt, hchar]

/-- **Printing a number gives the one numeral of its value without a leading zero.** -/
theorem eq_toDigits_iff {cs : List Char} {n : ℕ} :
    cs = Nat.toDigits 10 n ↔ IsNumeral cs ∧ NoLeadingZero cs ∧ numeralValue cs = n := by
  constructor
  · rintro rfl
    exact ⟨isNumeral_toDigits n, noLeadingZero_toDigits n, Nat.ofDigitChars_ten_toDigits⟩
  · rintro ⟨hcs, hlead, rfl⟩
    exact (toDigits_numeralValue hcs hlead).symm

end AnyPlug
