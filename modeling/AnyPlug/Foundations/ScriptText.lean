import AnyPlug.Foundations.Radix

/-!
# Texts of a script

The functions of the JavaScript standard library on texts: `trim`, `split`, `includes` and
`parseInt` of radix 16. A text is its characters. The library works on UTF-16 units, which makes no
difference where it splits at characters of the basic plane.

`parseInt` reads the digits at the front of a text and ignores the rest. A number as it is printed
is read back (`parseHex_hexText`).
-/

namespace AnyPlug

namespace Script

/-! ## Whitespace -/

/-- White space and line terminators. -/
def isSpace (c : Char) : Bool :=
  let n := c.toNat
  (9 ≤ n && n ≤ 13) || n == 0x20 || n == 0xA0 || n == 0x1680 || (0x2000 ≤ n && n ≤ 0x200A) ||
    n == 0x2028 || n == 0x2029 || n == 0x202F || n == 0x205F || n == 0x3000 || n == 0xFEFF

/-- `String.trim`. -/
def trim (s : List Char) : List Char := (s.dropWhile isSpace).rdropWhile isSpace

/-- There is nothing to trim at either end. -/
theorem trim_eq_self {s : List Char} (hhead : ∀ c ∈ s.head?, isSpace c = false)
    (hlast : ∀ c ∈ s.getLast?, isSpace c = false) : trim s = s := by
  have hdrop : s.dropWhile isSpace = s := by
    cases s with
    | nil => rfl
    | cons c s => rw [List.dropWhile_cons_of_neg (by simp [hhead c rfl])]
  rw [trim, hdrop, List.rdropWhile_eq_self_iff]
  intro hne h
  rw [hlast _ (List.getLast?_eq_getLast_of_ne_nil hne)] at h
  cases h

theorem trim_of_forall {s : List Char} (h : ∀ c ∈ s, isSpace c = false) : trim s = s :=
  trim_eq_self (fun c hc => h c (List.mem_of_mem_head? hc))
    fun c hc => h c (List.mem_of_mem_getLast? hc)

theorem mem_dropWhile {α : Type*} {p : α → Bool} {s : List α} {c : α} (h : c ∈ s)
    (hc : p c = false) : c ∈ s.dropWhile p := by
  rw [← List.takeWhile_append_dropWhile (p := p) (l := s), List.mem_append] at h
  refine h.resolve_left fun htake => ?_
  rw [List.mem_takeWhile_imp htake] at hc
  cases hc

/-- Only spaces are trimmed. -/
theorem mem_trim {s : List Char} {c : Char} (h : c ∈ s) (hc : isSpace c = false) :
    c ∈ trim s := by
  rw [trim, List.rdropWhile, List.mem_reverse]
  exact mem_dropWhile (List.mem_reverse.2 (mem_dropWhile h hc)) hc

/-! ## Parts -/

/-- `split`. -/
def split (separator : Char) (s : List Char) : List (List Char) := s.splitOn separator

/-- `includes`. -/
def includes (s part : List Char) : Bool := decide (part <:+: s)

/-- `replace` of a pattern that matches a prefix, by nothing. -/
def replacePrefix (pre s : List Char) : List Char := if pre <+: s then s.drop pre.length else s

theorem replacePrefix_append (pre s : List Char) : replacePrefix pre (pre ++ s) = s := by
  rw [replacePrefix, if_pos (List.prefix_append pre s), List.drop_left]

/-- `value || other`: an absent value and an empty text count as false. -/
def orElse (value : Option (List Char)) (other : List Char) : List Char :=
  match value with
  | none | some [] => other
  | some s => s

theorem orElse_some {s : List Char} (h : s ≠ []) (other : List Char) :
    orElse (some s) other = s := by
  cases s with
  | nil => exact absurd rfl h
  | cons c s => rfl

/-! ## Numbers -/

/-- A sign before the digits. -/
def readSign (s : List Char) : Bool × List Char :=
  if s.head? = some '-' then (true, s.tail)
  else if s.head? = some '+' then (false, s.tail)
  else (false, s)

/-- `0x` before the digits. -/
def dropRadix (s : List Char) : List Char :=
  if ['0', 'x'] <+: s ∨ ['0', 'X'] <+: s then s.drop 2 else s

/-- `parseInt(s, 16)`, or nothing for `NaN`. -/
def parseHex (s : List Char) : Option ℤ :=
  let (negative, s) := readSign (s.dropWhile isSpace)
  let digits := (dropRadix s).takeWhile fun c => (hexDigit c).isSome
  if digits = [] then none
  else (readDigits hexDigit 16 0 digits).map fun n => if negative then -(n : ℤ) else n

/-- `parseInt(s, 16) || 0`. -/
def hexOrZero (s : List Char) : ℤ := (parseHex s).getD 0

/-- A hexadecimal digit is neither a space nor a sign nor an `x`. -/
theorem digitChar_spec {d : ℕ} (h : d < 16) :
    isSpace (Nat.digitChar d) = false ∧ Nat.digitChar d ≠ '-' ∧ Nat.digitChar d ≠ '+' ∧
      Nat.digitChar d ≠ 'x' ∧ Nat.digitChar d ≠ 'X' := by
  revert d
  decide

theorem not_isSpace_of_mem_hexText {width n : ℕ} {c : Char} (h : c ∈ hexText width n) :
    isSpace c = false := by
  obtain ⟨d, hd, rfl⟩ := exists_digitChar_of_mem_hexText h
  exact (digitChar_spec hd).1

theorem readSign_hexText (width n : ℕ) : readSign (hexText width n) = (false, hexText width n) := by
  have hne {c : Char} (hc : (hexText width n).head? = some c) : c ≠ '-' ∧ c ≠ '+' := by
    obtain ⟨d, hd, rfl⟩ := exists_digitChar_of_mem_hexText (List.mem_of_mem_head? hc)
    exact ⟨(digitChar_spec hd).2.1, (digitChar_spec hd).2.2.1⟩
  rw [readSign, if_neg fun h => (hne h).1 rfl, if_neg fun h => (hne h).2 rfl]

theorem dropRadix_hexText (width n : ℕ) : dropRadix (hexText width n) = hexText width n := by
  have hne {c : Char} (hc : c ∈ hexText width n) : c ≠ 'x' ∧ c ≠ 'X' := by
    obtain ⟨d, hd, rfl⟩ := exists_digitChar_of_mem_hexText hc
    exact ⟨(digitChar_spec hd).2.2.2.1, (digitChar_spec hd).2.2.2.2⟩
  rw [dropRadix, if_neg]
  rintro (h | h)
  · exact (hne (h.subset (List.mem_cons_of_mem _ (List.mem_singleton.2 rfl)))).1 rfl
  · exact (hne (h.subset (List.mem_cons_of_mem _ (List.mem_singleton.2 rfl)))).2 rfl

/-- **A number in hexadecimal digits is read back.** -/
theorem parseHex_hexText (width n : ℕ) : parseHex (hexText width n) = some (n : ℤ) := by
  have hdigits : ∀ c ∈ hexText width n, (hexDigit c).isSome = true := by
    intro c hc
    obtain ⟨d, hd, rfl⟩ := exists_digitChar_of_mem_hexText hc
    rw [readsDigits_hexDigit d hd]
    rfl
  have hread : readDigits hexDigit 16 0 (hexText width n) = some n := by
    rw [hexText, readDigits_leftpad rfl, readDigits_toDigits readsDigits_hexDigit (by decide)]
  have hspace : (hexText width n).dropWhile isSpace = hexText width n := by
    cases hs : hexText width n with
    | nil => rfl
    | cons c cs =>
      have hc : isSpace c = false := not_isSpace_of_mem_hexText (hs ▸ List.mem_cons_self)
      rw [List.dropWhile_cons_of_neg (by simp [hc])]
  rw [parseHex, hspace, readSign_hexText]
  dsimp only
  rw [dropRadix_hexText, List.takeWhile_eq_self_iff.2 hdigits, if_neg (hexText_ne_nil width n),
    hread]
  rfl

theorem hexOrZero_hexText (width n : ℕ) : hexOrZero (hexText width n) = n := by
  rw [hexOrZero, parseHex_hexText, Option.getD_some]

end Script

end AnyPlug
