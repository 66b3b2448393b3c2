import Mathlib

/-!
# Numerals of a radix

Reading a text of digits as a number, whatever the digits are: `digit` says which characters are
digits and of which value. A number printed in the radix, with zeros before it or not, is read back
(`readDigits_toDigits`, `readDigits_leftpad`).
-/

namespace AnyPlug

/-- The value of the digits of a text after digits of the value `acc`. -/
def readDigits (digit : Char → Option ℕ) (radix : ℕ) : ℕ → List Char → Option ℕ
  | acc, [] => some acc
  | acc, c :: cs => (digit c).bind fun d => readDigits digit radix (acc * radix + d) cs

section Digits

variable {digit : Char → Option ℕ} {radix : ℕ}

@[simp] theorem readDigits_nil (acc : ℕ) : readDigits digit radix acc [] = some acc := rfl

theorem readDigits_cons_of_eq {c : Char} {d : ℕ} (h : digit c = some d) (acc : ℕ) (cs : List Char) :
    readDigits digit radix acc (c :: cs) = readDigits digit radix (acc * radix + d) cs := by
  rw [readDigits, h, Option.bind_some]

theorem readDigits_append (acc : ℕ) (cs ds : List Char) :
    readDigits digit radix acc (cs ++ ds) =
      (readDigits digit radix acc cs).bind fun n => readDigits digit radix n ds := by
  induction cs generalizing acc with
  | nil => rfl
  | cons c cs ih =>
    rw [List.cons_append, readDigits, readDigits]
    cases digit c with
    | none => rfl
    | some d => exact ih _

/-- `digit` reads the digits that numbers are printed with. -/
def ReadsDigits (digit : Char → Option ℕ) (radix : ℕ) : Prop :=
  ∀ d < radix, digit (Nat.digitChar d) = some d

/-- **A number as it is printed is read back.** -/
theorem readDigits_toDigits (hdigit : ReadsDigits digit radix) (hradix : 1 < radix) (n : ℕ) :
    readDigits digit radix 0 (Nat.toDigits radix n) = some n := by
  induction n using Nat.strong_induction_on with
  | _ n ih =>
    by_cases hlt : n < radix
    · rw [Nat.toDigits_of_lt_base hlt, readDigits_cons_of_eq (hdigit n hlt), readDigits_nil,
        Nat.zero_mul, Nat.zero_add]
    · have hle : radix ≤ n := Nat.le_of_not_lt hlt
      have hdiv : n / radix < n := Nat.div_lt_self (by omega) hradix
      rw [Nat.toDigits_of_base_le hradix hle, readDigits_append, ih _ hdiv, Option.bind_some,
        readDigits_cons_of_eq (hdigit _ (Nat.mod_lt n (by omega))), readDigits_nil,
        Nat.div_add_mod']

/-- A printed number is made of digits of the radix. -/
theorem exists_digitChar_of_mem_toDigits {n : ℕ} (hradix : 1 < radix) {c : Char}
    (hc : c ∈ Nat.toDigits radix n) : ∃ d < radix, c = Nat.digitChar d := by
  induction n using Nat.strong_induction_on with
  | _ n ih =>
    by_cases hlt : n < radix
    · rw [Nat.toDigits_of_lt_base hlt, List.mem_singleton] at hc
      exact ⟨n, hlt, hc⟩
    · rw [Nat.toDigits_of_base_le hradix (Nat.le_of_not_lt hlt), List.mem_append] at hc
      rcases hc with hc | hc
      · exact ih _ (Nat.div_lt_self (by omega) hradix) hc
      · exact ⟨n % radix, Nat.mod_lt n (by omega), List.mem_singleton.1 hc⟩

/-- Zeros before a numeral do not change its value. -/
theorem readDigits_leftpad (hzero : digit '0' = some 0) (width : ℕ) (cs : List Char) :
    readDigits digit radix 0 (cs.leftpad width '0') = readDigits digit radix 0 cs := by
  have hzeros (k : ℕ) : readDigits digit radix 0 (List.replicate k '0') = some 0 := by
    induction k with
    | zero => rfl
    | succ k ih => rw [List.replicate_succ, readDigits_cons_of_eq hzero, Nat.zero_mul, ih]
  rw [List.leftpad, readDigits_append, hzeros, Option.bind_some]

end Digits

/-! ## Hexadecimal -/

/-- The value of a hexadecimal digit: `0` to `9`, `a` to `f` or `A` to `F`. -/
def hexDigit (c : Char) : Option ℕ :=
  if 48 ≤ c.toNat ∧ c.toNat ≤ 57 then some (c.toNat - 48)
  else if 97 ≤ c.toNat ∧ c.toNat ≤ 102 then some (c.toNat - 97 + 10)
  else if 65 ≤ c.toNat ∧ c.toNat ≤ 70 then some (c.toNat - 65 + 10)
  else none

theorem bounds_of_hexDigit {c : Char} {x : ℕ} (h : hexDigit c = some x) :
    c.toNat < 128 ∧ x < 16 := by
  unfold hexDigit at h
  split at h
  · have hx := Option.some.inj h
    omega
  · split at h
    · have hx := Option.some.inj h
      omega
    · split at h
      · have hx := Option.some.inj h
        omega
      · cases h

theorem readsDigits_hexDigit : ReadsDigits hexDigit 16 := by
  unfold ReadsDigits
  decide

/-- The lower-case hexadecimal text of a number, with zeros before it up to the width. -/
def hexText (width n : ℕ) : List Char := (Nat.toDigits 16 n).leftpad width '0'

theorem hexText_ne_nil (width n : ℕ) : hexText width n ≠ [] :=
  List.append_ne_nil_of_right_ne_nil _ Nat.toDigits_ne_nil

theorem exists_digitChar_of_mem_hexText {width n : ℕ} {c : Char} (h : c ∈ hexText width n) :
    ∃ d < 16, c = Nat.digitChar d := by
  rcases List.mem_append.1 h with hzero | hdigit
  · exact ⟨0, by decide, List.eq_of_mem_replicate hzero⟩
  · exact exists_digitChar_of_mem_toDigits (by decide) hdigit

end AnyPlug
