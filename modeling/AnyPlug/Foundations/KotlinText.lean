import AnyPlug.Foundations.Decimal
import AnyPlug.Foundations.Radix

/-!
# Kotlin texts

The functions of the Kotlin standard library on texts: `trim`, `split`, `toIntOrNull`, `toString` of
a number, and the order of `compareTo`. A text is its characters. The library works on UTF-16 units,
which makes a difference for `compareTo` and for digits outside the basic plane only.

A number as it is printed is read back (`toIntOrNull_intText`, `toIntOrNull_hexText`).
-/

namespace AnyPlug

namespace Kotlin

/-! ## Whitespace -/

/-- `Char.isWhitespace`: a space, line or paragraph separator, or one of the control characters that
count as such. -/
def isWhitespace (c : Char) : Bool :=
  let n := c.toNat
  (9 ≤ n && n ≤ 13) || (0x1C ≤ n && n ≤ 0x20) || n == 0xA0 || n == 0x1680 ||
    (0x2000 ≤ n && n ≤ 0x200A) || n == 0x2028 || n == 0x2029 || n == 0x202F || n == 0x205F ||
    n == 0x3000

/-- `String.trim`. -/
def trim (s : List Char) : List Char := (s.dropWhile isWhitespace).rdropWhile isWhitespace

/-- `String.isBlank`. -/
def isBlank (s : List Char) : Bool := s.all isWhitespace

/-- The text neither begins nor ends with whitespace. -/
def Trimmed (s : List Char) : Prop :=
  (∀ c ∈ s.head?, isWhitespace c = false) ∧ ∀ c ∈ s.getLast?, isWhitespace c = false

theorem trim_eq_self {s : List Char} (h : Trimmed s) : trim s = s := by
  have hhead : s.dropWhile isWhitespace = s := by
    cases s with
    | nil => rfl
    | cons c s => rw [List.dropWhile_cons_of_neg (by simp [h.1 c rfl])]
  rw [trim, hhead, List.rdropWhile_eq_self_iff]
  intro hne hlast
  rw [h.2 _ (List.getLast?_eq_getLast_of_ne_nil hne)] at hlast
  cases hlast

/-! ## Splitting -/

/-- `split(delimiter)`. -/
def split (delimiter : Char) (s : List Char) : List (List Char) := s.splitOn delimiter

/-- `split(delimiter, limit = 2)`: one part, or the part before the first delimiter and the one
after it. -/
def splitTwo (delimiter : Char) (s : List Char) : List (List Char) :=
  if delimiter ∈ s then
    [s.takeWhile (· != delimiter), (s.dropWhile (· != delimiter)).tail]
  else [s]

/-- `contains`. -/
def contains (s part : List Char) : Bool := decide (part <:+: s)

/-- `removePrefix`. -/
def removePrefix (pre s : List Char) : List Char := if pre <+: s then s.drop pre.length else s

/-- The text before the first place where a delimiter stands. -/
def beforeFirst (delimiter : List Char) : List Char → Option (List Char)
  | [] => if delimiter = [] then some [] else none
  | c :: cs =>
    if delimiter <+: c :: cs then some [] else (beforeFirst delimiter cs).map (c :: ·)

/-- `substringBefore(delimiter, missingDelimiterValue)`. -/
def substringBefore (delimiter missing s : List Char) : List Char :=
  (beforeFirst delimiter s).getD missing

theorem splitTwo_append {delimiter : Char} {key value : List Char} (h : delimiter ∉ key) :
    splitTwo delimiter (key ++ delimiter :: value) = [key, value] := by
  have hall : ∀ c ∈ key, (c != delimiter) = true := fun c hc =>
    bne_iff_ne.2 fun heq => h (heq ▸ hc)
  rw [splitTwo, if_pos (by simp), List.takeWhile_append_of_pos hall,
    List.dropWhile_append_of_pos hall, List.takeWhile_cons_of_neg (by simp),
    List.dropWhile_cons_of_neg (by simp), List.append_nil, List.tail_cons]

theorem removePrefix_append (pre s : List Char) : removePrefix pre (pre ++ s) = s := by
  rw [removePrefix, if_pos (List.prefix_append pre s), List.drop_left]

/-! ## Lists -/

section Chunked

variable {α : Type*}

/-- `chunked`, for a size that is positive. -/
def chunked (size : ℕ) : List α → List (List α)
  | [] => []
  | x :: xs => (x :: xs.take (size - 1)) :: chunked size (xs.drop (size - 1))
termination_by xs => xs.length
decreasing_by
  rw [List.length_drop, List.length_cons]
  omega

theorem flatten_chunked (size : ℕ) (xs : List α) : (chunked size xs).flatten = xs := by
  induction xs using chunked.induct size with
  | case1 => simp [chunked]
  | case2 x xs ih => rw [chunked, List.flatten_cons, ih, List.cons_append, List.take_append_drop]

theorem length_le_of_mem_chunked {size : ℕ} (hsize : 0 < size) {xs batch : List α}
    (h : batch ∈ chunked size xs) : batch.length ≤ size := by
  induction xs using chunked.induct size with
  | case1 => simp [chunked] at h
  | case2 x xs ih =>
    rw [chunked, List.mem_cons] at h
    rcases h with rfl | h
    · rw [List.length_cons, List.length_take]
      omega
    · exact ih h

end Chunked

/-! ## Numbers -/

/-- The zeros of the decimal digits of the basic plane. Each is followed by the other nine. -/
def digitZeros : List ℕ :=
  [0x0030, 0x0660, 0x06F0, 0x07C0, 0x0966, 0x09E6, 0x0A66, 0x0AE6, 0x0B66, 0x0BE6, 0x0C66, 0x0CE6,
    0x0D66, 0x0DE6, 0x0E50, 0x0ED0, 0x0F20, 0x1040, 0x1090, 0x17E0, 0x1810, 0x1946, 0x19D0, 0x1A80,
    0x1A90, 0x1B50, 0x1BB0, 0x1C40, 0x1C50, 0xA620, 0xA8D0, 0xA900, 0xA9D0, 0xA9F0, 0xAA50, 0xABF0,
    0xFF10]

/-- The value of a digit or of a letter, of the basic plane or of full width. -/
def digitValue (c : Char) : Option ℕ :=
  let n := c.toNat
  match digitZeros.find? fun z => z ≤ n && n < z + 10 with
  | some z => some (n - z)
  | none =>
    if 65 ≤ n ∧ n ≤ 90 then some (n - 65 + 10)
    else if 97 ≤ n ∧ n ≤ 122 then some (n - 97 + 10)
    else if 0xFF21 ≤ n ∧ n ≤ 0xFF3A then some (n - 0xFF21 + 10)
    else if 0xFF41 ≤ n ∧ n ≤ 0xFF5A then some (n - 0xFF41 + 10)
    else none

/-- `Character.digit`. -/
def digitOf (radix : ℕ) (c : Char) : Option ℕ := (digitValue c).filter (· < radix)

/-- An integer, if it is an `Int`. -/
def toInt32 (n : ℤ) : Option Int32 :=
  if -2 ^ 31 ≤ n ∧ n < 2 ^ 31 then some (Int32.ofInt n) else none

/-- `String.toIntOrNull(radix)`. A first character before the digits has to be a sign. -/
def toIntOrNull (radix : ℕ) : List Char → Option Int32
  | [] => none
  | c :: cs =>
    if c.toNat < 48 then
      if cs = [] then none
      else if c = '-' then
        (readDigits (digitOf radix) radix 0 cs).bind fun n => toInt32 (-(n : ℤ))
      else if c = '+' then (readDigits (digitOf radix) radix 0 cs).bind fun n => toInt32 n
      else none
    else (readDigits (digitOf radix) radix 0 (c :: cs)).bind fun n => toInt32 n

/-- `Int.toString`. -/
def intText (x : Int32) : List Char :=
  if x.toInt < 0 then '-' :: Nat.toDigits 10 x.toInt.natAbs else Nat.toDigits 10 x.toInt.natAbs

theorem readsDigits_digitOf_ten : ReadsDigits (digitOf 10) 10 := by
  unfold ReadsDigits
  decide

theorem readsDigits_digitOf_sixteen : ReadsDigits (digitOf 16) 16 := by
  unfold ReadsDigits
  decide

theorem toInt32_toInt (x : Int32) : toInt32 x.toInt = some x := by
  rw [toInt32, if_pos ⟨x.le_toInt, x.toInt_lt⟩, Int32.ofInt_toInt]

/-- A numeral that begins with a digit has no sign. -/
theorem toIntOrNull_of_digits {radix : ℕ} {s : List Char} {n : ℕ}
    (hhead : ∀ c ∈ s.head?, 48 ≤ c.toNat) (hne : s ≠ [])
    (h : readDigits (digitOf radix) radix 0 s = some n) : toIntOrNull radix s = toInt32 n := by
  cases s with
  | nil => exact absurd rfl hne
  | cons c cs =>
    rw [toIntOrNull, if_neg (by have := hhead c rfl; omega), h, Option.bind_some]

theorem le_toNat_digitChar {d : ℕ} (h : d < 16) : 48 ≤ (Nat.digitChar d).toNat := by
  revert d
  decide

/-- **A number as it is printed is read back.** -/
theorem toIntOrNull_intText (x : Int32) : toIntOrNull 10 (intText x) = some x := by
  have hread := readDigits_toDigits readsDigits_digitOf_ten (by decide) x.toInt.natAbs
  unfold intText
  split
  · rename_i hneg
    rw [toIntOrNull, if_pos (by decide), if_neg Nat.toDigits_ne_nil, if_pos rfl, hread,
      Option.bind_some]
    have habs : -(x.toInt.natAbs : ℤ) = x.toInt := by omega
    rw [habs, toInt32_toInt]
  · rename_i hnonneg
    have hhead : ∀ c ∈ (Nat.toDigits 10 x.toInt.natAbs).head?, 48 ≤ c.toNat := by
      intro c hc
      obtain ⟨d, hd, rfl⟩ :=
        exists_digitChar_of_mem_toDigits (by decide) (List.mem_of_mem_head? hc)
      exact le_toNat_digitChar (by omega)
    rw [toIntOrNull_of_digits hhead Nat.toDigits_ne_nil hread]
    have habs : (x.toInt.natAbs : ℤ) = x.toInt := by omega
    rw [habs, toInt32_toInt]

/-- **A number in hexadecimal digits is read back.** -/
theorem toIntOrNull_hexText (width : ℕ) {n : ℕ} (h : n < 2 ^ 31) :
    toIntOrNull 16 (hexText width n) = some (Int32.ofInt n) := by
  have hhead : ∀ c ∈ (hexText width n).head?, 48 ≤ c.toNat := by
    intro c hc
    obtain ⟨d, hd, rfl⟩ := exists_digitChar_of_mem_hexText (List.mem_of_mem_head? hc)
    exact le_toNat_digitChar hd
  have hread : readDigits (digitOf 16) 16 0 (hexText width n) = some n := by
    rw [hexText, readDigits_leftpad rfl,
      readDigits_toDigits readsDigits_digitOf_sixteen (by decide)]
  rw [toIntOrNull_of_digits hhead (hexText_ne_nil width n) hread, toInt32, if_pos (by omega)]

theorem intText_injective : Function.Injective intText := by
  intro x y h
  have hread := toIntOrNull_intText x
  rw [h, toIntOrNull_intText] at hread
  exact (Option.some.inj hread).symm

/-- A printed number is made of digits, after a sign. -/
theorem mem_intText {x : Int32} {c : Char} (h : c ∈ intText x) : c = '-' ∨ c.isDigit = true := by
  have hdigits := (isNumeral_toDigits x.toInt.natAbs).2
  unfold intText at h
  split at h
  · exact (List.mem_cons.1 h).imp_right (hdigits c)
  · exact .inr (hdigits c h)

/-! ## The order of texts -/

/-- The UTF-16 units of a character. -/
def utf16Units (c : Char) : List ℕ :=
  let n := c.toNat
  if n < 0x10000 then [n]
  else [0xD800 + (n - 0x10000) / 0x400, 0xDC00 + (n - 0x10000) % 0x400]

/-- What `compareTo` looks at, one after another. -/
def compareUnits (s : String) : List ℕ := s.toList.flatMap utf16Units

/-- `compareTo` is not positive. -/
def TextLE (s t : String) : Prop := compareUnits s ≤ compareUnits t

instance (s t : String) : Decidable (TextLE s t) := inferInstanceAs (Decidable (_ ≤ _))

instance : Std.Total TextLE := ⟨fun s t => le_total (compareUnits s) (compareUnits t)⟩

instance : IsTrans String TextLE := ⟨fun _ _ _ hst htu => le_trans hst htu⟩

end Kotlin

end AnyPlug
