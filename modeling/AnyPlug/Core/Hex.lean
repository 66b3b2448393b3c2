import AnyPlug.Foundations.Radix
import AnyPlug.Foundations.Utf8

/-!
# Hexadecimal keys

The text of a public key (`hex_encode` and `hex_decode` of `usbip-core/src/crypto.rs`). The decoder
slices the text at every second byte, which panics inside a character, and reads each slice with
`u8::from_str_radix`, which takes a plus sign. `hexDecode_exact_iff` says which texts are decoded as
they should be.
-/

namespace AnyPlug

/-- The digits of an unsigned number: a plus sign before them is dropped. -/
def unsignedDigits : List Char → List Char
  | '+' :: digits => digits
  | digits => digits

def byteOfNat (n : ℕ) : Option UInt8 := if n < 256 then some (UInt8.ofNat n) else none

/-- `u8::from_str_radix(src, 16).ok()`. -/
def fromStrRadix16 (src : List Char) : Option UInt8 :=
  if src = [] ∨ src = ['+'] ∨ src = ['-'] then none
  else (readDigits hexDigit 16 0 (unsignedDigits src)).bind byteOfNat

def hexEncode (bytes : Bytes) : String :=
  String.ofList (bytes.flatMap fun b => hexText 2 b.toNat)

/-- The slices of two bytes at the given offsets, each read as a byte, up to the first that is no
byte; `none` stands for the panic of a slice. -/
def hexDecodeAt (s : List Char) : List ℕ → Option (Option Bytes)
  | [] => some (some [])
  | i :: is => do
    let pair ← sliceBytes s i (i + 2)
    match fromStrRadix16 pair with
    | none => some none
    | some b => (hexDecodeAt s is).map (Option.map (b :: ·))

/-- `hex_decode`, every slice checked: the outer `none` stands for the panic of the source. -/
def hexDecodeChecked (s : String) : Option (Option Bytes) :=
  if utf8Len s.toList % 2 ≠ 0 then some none
  else hexDecodeAt s.toList (List.range' 0 (utf8Len s.toList / 2) 2)

/-! ## What a text spells -/

/-- The text is made of two hexadecimal digits, of either case, for each byte. -/
def Spells : List Char → Bytes → Prop
  | [], [] => True
  | high :: low :: cs, b :: bs =>
    (∃ x y, hexDigit high = some x ∧ hexDigit low = some y ∧ b.toNat = 16 * x + y) ∧ Spells cs bs
  | _, _ => False

/-- A text of pairs that are read as a byte each: two hexadecimal digits, or a plus sign and one. -/
def ReadsAsBytes : List Char → Prop
  | [] => True
  | high :: low :: cs =>
    (high = '+' ∨ (hexDigit high).isSome) ∧ (hexDigit low).isSome ∧ ReadsAsBytes cs
  | [_] => False

/-- Pairs that make up the whole text have no plus sign, and where they end before the text does the
next two bytes do not split a character. -/
def DecodesExactly (s : List Char) : Prop :=
  ∀ read rest, s = read ++ rest → ReadsAsBytes read →
    (rest = [] → '+' ∉ read) ∧ (rest ≠ [] → IsCharBoundary rest 2)

/-! ## Pairs -/

theorem utf8Size_eq_one {c : Char} (h : c.toNat < 128) : c.utf8Size = 1 := by
  unfold Char.utf8Size
  rw [if_pos]
  rw [UInt32.le_iff_toNat_le]
  exact Nat.le_of_lt_succ h

theorem utf8Size_of_hexDigit {c : Char} {x : ℕ} (h : hexDigit c = some x) : c.utf8Size = 1 :=
  utf8Size_eq_one (bounds_of_hexDigit h).1

/-- The two ways of a pair to be read as a byte. -/
def IsPair (high low : Char) (b : UInt8) : Prop :=
  ∃ y, hexDigit low = some y ∧
    (high = '+' ∧ b.toNat = y ∨ ∃ x, hexDigit high = some x ∧ b.toNat = 16 * x + y)

theorem hexDigit_plus : hexDigit '+' = none := rfl

theorem unsignedDigits_of_ne {c : Char} (h : c ≠ '+') (cs : List Char) :
    unsignedDigits (c :: cs) = c :: cs := by
  unfold unsignedDigits
  split
  · rename_i digits heq
    exact absurd (List.cons.inj heq).1 h
  · rfl

theorem byteOfNat_eq_some {n : ℕ} {b : UInt8} : byteOfNat n = some b ↔ b.toNat = n := by
  unfold byteOfNat
  split
  · rename_i hlt
    rw [Option.some.injEq, ← UInt8.toNat_inj, UInt8.toNat_ofNat', Nat.mod_eq_of_lt hlt, eq_comm]
  · rename_i hge
    have hlt := b.toNat_lt
    exact ⟨nofun, fun h => absurd (h ▸ hlt) hge⟩

theorem readDigits_one (c : Char) {n : ℕ} :
    readDigits hexDigit 16 0 [c] = some n ↔ hexDigit c = some n := by
  rw [readDigits, Option.bind_eq_some_iff]
  simp

theorem readDigits_two (high low : Char) {n : ℕ} :
    readDigits hexDigit 16 0 [high, low] = some n ↔
      ∃ x y, hexDigit high = some x ∧ hexDigit low = some y ∧ n = 16 * x + y := by
  rw [readDigits, Option.bind_eq_some_iff]
  simp only [readDigits, Option.bind_eq_some_iff, Option.some.injEq, Nat.zero_mul, Nat.zero_add,
    Nat.mul_comm 16, @eq_comm _ n, exists_and_left]

theorem fromStrRadix16_pair {high low : Char} {b : UInt8} :
    fromStrRadix16 [high, low] = some b ↔ IsPair high low b := by
  have hshort : ¬ ([high, low] = [] ∨ [high, low] = ['+'] ∨ [high, low] = ['-']) := by simp
  rw [fromStrRadix16, if_neg hshort, Option.bind_eq_some_iff, IsPair]
  simp only [byteOfNat_eq_some]
  by_cases hplus : high = '+'
  · subst hplus
    have hdigits : unsignedDigits ['+', low] = [low] := rfl
    simp [hdigits, readDigits_one, hexDigit_plus]
  · rw [unsignedDigits_of_ne hplus]
    simp only [readDigits_two, hplus, false_and, false_or]
    constructor
    · rintro ⟨n, ⟨x, y, hx, hy, rfl⟩, hb⟩
      exact ⟨y, hy, x, hx, hb⟩
    · rintro ⟨y, hy, x, hx, hb⟩
      exact ⟨_, ⟨x, y, hx, hy, rfl⟩, hb⟩

theorem fromStrRadix16_wide {c : Char} (h : c.utf8Size = 2) : fromStrRadix16 [c] = none := by
  have hdigit : hexDigit c = none := by
    cases hx : hexDigit c with
    | none => rfl
    | some x =>
      rw [utf8Size_of_hexDigit hx] at h
      cases h
  unfold fromStrRadix16
  split
  · rfl
  · have hplus : c ≠ '+' := by
      rintro rfl
      exact absurd h (by decide)
    rw [unsignedDigits_of_ne hplus, readDigits, hdigit, Option.bind_none, Option.bind_none]

/-- The pair that is read as a byte. -/
theorem exists_isPair {high low : Char} (hhigh : high = '+' ∨ (hexDigit high).isSome)
    (hlow : (hexDigit low).isSome) : ∃ b, IsPair high low b := by
  have hbyte {n : ℕ} (hn : n < 256) : (UInt8.ofNat n).toNat = n := by
    rw [UInt8.toNat_ofNat', Nat.mod_eq_of_lt hn]
  obtain ⟨y, hy⟩ := Option.isSome_iff_exists.1 hlow
  have hylt := (bounds_of_hexDigit hy).2
  rcases hhigh with hplus | hhigh
  · exact ⟨UInt8.ofNat y, y, hy, .inl ⟨hplus, hbyte (by omega)⟩⟩
  · obtain ⟨x, hx⟩ := Option.isSome_iff_exists.1 hhigh
    have hxlt := (bounds_of_hexDigit hx).2
    exact ⟨UInt8.ofNat (16 * x + y), y, hy, .inr ⟨x, hx, hbyte (by omega)⟩⟩

namespace IsPair

variable {high low : Char} {b : UInt8}

theorem utf8Size (h : IsPair high low b) : high.utf8Size = 1 ∧ low.utf8Size = 1 := by
  obtain ⟨y, hy, ⟨rfl, -⟩ | ⟨x, hx, -⟩⟩ := h
  · exact ⟨by decide, utf8Size_of_hexDigit hy⟩
  · exact ⟨utf8Size_of_hexDigit hx, utf8Size_of_hexDigit hy⟩

theorem takeBytes (h : IsPair high low b) (cs : List Char) :
    takeBytes 2 (high :: low :: cs) = some [high, low] := by
  rw [takeBytes_eq_some]
  refine ⟨?_, cs, rfl⟩
  simp [h.utf8Size.1, h.utf8Size.2]

theorem readsAsBytes_cons (h : IsPair high low b) (cs : List Char) :
    ReadsAsBytes (high :: low :: cs) ↔ ReadsAsBytes cs := by
  obtain ⟨y, hy, hhigh⟩ := h
  have hread : high = '+' ∨ (hexDigit high).isSome := by
    rcases hhigh with ⟨hplus, -⟩ | ⟨x, hx, -⟩
    · exact .inl hplus
    · exact .inr (by rw [hx, Option.isSome_some])
  rw [ReadsAsBytes, hy]
  exact ⟨fun h => h.2.2, fun h => ⟨hread, rfl, h⟩⟩

theorem plus_notMem_cons (h : IsPair high low b) (cs : List Char) :
    '+' ∉ high :: low :: cs ↔ high ≠ '+' ∧ '+' ∉ cs := by
  obtain ⟨y, hy, -⟩ := h
  have hlow : low ≠ '+' := by
    rintro rfl
    cases hy
  simp [hlow.symm, eq_comm]

/-- What follows a pair is spelt by the bytes after the pair's own, which no plus sign spells. -/
theorem spells_cons (h : IsPair high low b) (cs : List Char) (bs : Bytes) :
    Spells (high :: low :: cs) bs ↔ high ≠ '+' ∧ ∃ tail, bs = b :: tail ∧ Spells cs tail := by
  obtain ⟨y, hy, hhigh⟩ := h
  cases bs with
  | nil => simp [Spells]
  | cons a tail =>
    rw [Spells]
    rcases hhigh with ⟨rfl, -⟩ | ⟨x, hx, hb⟩
    · simp [hexDigit_plus]
    · have hne : high ≠ '+' := by
        rintro rfl
        cases hx
      have hbyte : a.toNat = 16 * x + y ↔ a = b := by rw [← hb, UInt8.toNat_inj]
      simp [hx, hy, hne, hbyte]

end IsPair

/-- Two bytes are one character or two. -/
theorem pair_cases {pair : List Char} (h : utf8Len pair = 2) :
    (∃ c, pair = [c] ∧ c.utf8Size = 2) ∨ ∃ high low, pair = [high, low] := by
  match pair with
  | [] => cases h
  | [c] => exact .inl ⟨c, rfl, by simpa using h⟩
  | [high, low] => exact .inr ⟨high, low, rfl⟩
  | a :: b :: c :: cs =>
    have ha := a.utf8Size_pos
    have hb := b.utf8Size_pos
    have hc := c.utf8Size_pos
    simp only [utf8Len_cons] at h
    omega

/-- Where the next two bytes are a slice, it is read as a byte or begins no such pair. -/
theorem slice_cases {rest pair : List Char} (h : takeBytes 2 rest = some pair) :
    (∃ high low cs b, rest = high :: low :: cs ∧ IsPair high low b ∧ pair = [high, low] ∧
      fromStrRadix16 pair = some b) ∨
    fromStrRadix16 pair = none ∧
      ∀ high low cs b, rest = high :: low :: cs → ¬ IsPair high low b := by
  obtain ⟨hlen, cs, rfl⟩ := takeBytes_eq_some.1 h
  cases hread : fromStrRadix16 pair with
  | none =>
    refine .inr ⟨rfl, fun high low cs' b heq hpair => ?_⟩
    rw [heq, hpair.takeBytes] at h
    rw [← Option.some.inj h, fromStrRadix16_pair.2 hpair] at hread
    cases hread
  | some b =>
    rcases pair_cases hlen with ⟨c, rfl, hwide⟩ | ⟨high, low, rfl⟩
    · rw [fromStrRadix16_wide hwide] at hread
      cases hread
    · exact .inl ⟨high, low, cs, b, rfl, fromStrRadix16_pair.1 hread, rfl, rfl⟩

/-! ## The loop -/

/-- The result is the one byte string the text spells, if it spells one and no plus sign has been
read before. -/
def IsExact (plus : Prop) (rest : List Char) (result : Option (Option Bytes)) : Prop :=
  ∃ r, result = some r ∧ ∀ bs, r = some bs ↔ ¬ plus ∧ Spells rest bs

/-- `DecodesExactly` of what is left of a text. -/
def RestExact (plus : Prop) (rest : List Char) : Prop :=
  ∀ read left, rest = read ++ left → ReadsAsBytes read →
    (left = [] → ¬ plus ∧ '+' ∉ read) ∧ (left ≠ [] → IsCharBoundary left 2)

theorem decodesExactly_iff (s : List Char) : DecodesExactly s ↔ RestExact False s := by
  unfold DecodesExactly RestExact
  simp only [not_false_eq_true, true_and]

section Steps

variable {plus : Prop}

theorem restExact_nil : RestExact plus [] ↔ ¬ plus := by
  constructor
  · exact fun h => ((h [] [] rfl trivial).1 rfl).1
  · intro h read left heq hread
    obtain ⟨rfl, rfl⟩ := List.append_eq_nil_iff.1 heq.symm
    exact ⟨fun _ => ⟨h, List.not_mem_nil⟩, fun hne => absurd rfl hne⟩

/-- A pair that is read is taken off the text. -/
theorem restExact_pair {high low : Char} {b : UInt8} (h : IsPair high low b) (cs : List Char) :
    RestExact plus (high :: low :: cs) ↔ RestExact (plus ∨ high = '+') cs := by
  constructor
  · intro hrest read left heq hread
    have hall := hrest (high :: low :: read) left (by rw [heq]; rfl)
      ((h.readsAsBytes_cons read).2 hread)
    refine ⟨fun hleft => ?_, hall.2⟩
    obtain ⟨hplus, hnone⟩ := hall.1 hleft
    obtain ⟨hhigh, hnone⟩ := (h.plus_notMem_cons read).1 hnone
    exact ⟨not_or.2 ⟨hplus, hhigh⟩, hnone⟩
  · intro hrest read left heq hread
    match read, heq with
    | [], heq =>
      obtain rfl : high :: low :: cs = left := heq
      exact ⟨nofun, fun _ => isCharBoundary_iff.2 ⟨_, h.takeBytes cs⟩⟩
    | [_], _ => exact hread.elim
    | _ :: _ :: read, heq =>
      obtain ⟨rfl, htail⟩ := List.cons.inj heq
      obtain ⟨rfl, hcs⟩ := List.cons.inj htail
      have hall := hrest read left hcs ((h.readsAsBytes_cons read).1 hread)
      refine ⟨fun hleft => ?_, hall.2⟩
      obtain ⟨hplus, hnone⟩ := hall.1 hleft
      exact ⟨fun hp => hplus (.inl hp),
        (h.plus_notMem_cons read).2 ⟨fun hhigh => hplus (.inr hhigh), hnone⟩⟩

/-- Where no pair can be read the next boundary decides. -/
theorem restExact_stuck {rest : List Char} (hne : rest ≠ [])
    (h : ∀ high low cs b, rest = high :: low :: cs → ¬ IsPair high low b) :
    RestExact plus rest ↔ IsCharBoundary rest 2 := by
  constructor
  · exact fun hrest => (hrest [] rest rfl trivial).2 hne
  · intro hbound read left heq hread
    match read, heq with
    | [], heq =>
      obtain rfl : rest = left := heq
      exact ⟨fun hnil => absurd hnil hne, fun _ => hbound⟩
    | [_], _ => exact hread.elim
    | high :: low :: read, heq =>
      obtain ⟨b, hpair⟩ := exists_isPair hread.1 hread.2.1
      exact absurd hpair (h high low _ b heq)

theorem isExact_nil : IsExact plus [] (some (some [])) ↔ ¬ plus := by
  constructor
  · rintro ⟨r, hr, h⟩
    exact ((h []).1 (Option.some.inj hr).symm).1
  · intro hplus
    refine ⟨some [], rfl, fun bs => ?_⟩
    cases bs with
    | nil => exact ⟨fun _ => ⟨hplus, trivial⟩, fun _ => rfl⟩
    | cons b bs => exact ⟨nofun, fun h => h.2.elim⟩

theorem isExact_pair {high low : Char} {b : UInt8} (h : IsPair high low b) (cs : List Char)
    (result : Option (Option Bytes)) :
    IsExact plus (high :: low :: cs) (result.map (Option.map (b :: ·))) ↔
      IsExact (plus ∨ high = '+') cs result := by
  have hcons (r : Option Bytes) (bs : Bytes) : r.map (b :: ·) = some (b :: bs) ↔ r = some bs := by
    simp
  unfold IsExact
  simp only [h.spells_cons, not_or]
  constructor
  · rintro ⟨r, hr, hall⟩
    obtain ⟨r', rfl, rfl⟩ := Option.map_eq_some_iff.1 hr
    refine ⟨r', rfl, fun bs => ?_⟩
    rw [← hcons, hall (b :: bs)]
    simp [and_assoc]
  · rintro ⟨r, rfl, hall⟩
    refine ⟨r.map (b :: ·), rfl, fun bs => ?_⟩
    rw [Option.map_eq_some_iff]
    simp only [hall, and_assoc]
    constructor
    · rintro ⟨tail, hplus, hhigh, hspells, rfl⟩
      exact ⟨hplus, hhigh, tail, rfl, hspells⟩
    · rintro ⟨hplus, hhigh, tail, rfl, hspells⟩
      exact ⟨tail, hplus, hhigh, hspells, rfl⟩

theorem isExact_stuck {rest : List Char} (hne : rest ≠ [])
    (h : ∀ high low cs b, rest = high :: low :: cs → ¬ IsPair high low b) :
    IsExact plus rest (some none) := by
  refine ⟨none, rfl, fun bs => ⟨nofun, ?_⟩⟩
  rintro ⟨-, hspells⟩
  match rest, bs with
  | [], _ => exact absurd rfl hne
  | [_], _ => exact hspells.elim
  | _ :: _ :: _, [] => exact hspells.elim
  | high :: low :: cs, b :: bs =>
    obtain ⟨⟨x, y, hx, hy, hb⟩, -⟩ := hspells
    exact absurd ⟨y, hy, .inr ⟨x, hx, hb⟩⟩ (h high low cs b rfl)

end Steps

/-- **The loop is exact on what is left of a text** as long as the text is. The induction is on the
number of slices left. -/
theorem isExact_hexDecodeAt (k : ℕ) {plus : Prop} (done rest : List Char)
    (hlen : utf8Len rest = 2 * k) :
    IsExact plus rest (hexDecodeAt (done ++ rest) (List.range' (utf8Len done) k 2)) ↔
      RestExact plus rest := by
  induction k generalizing plus done rest with
  | zero =>
    obtain rfl := utf8Len_eq_zero.1 hlen
    rw [restExact_nil, List.range'_zero, hexDecodeAt, isExact_nil]
  | succ k ih =>
    have hne : rest ≠ [] := by
      rintro rfl
      cases hlen
    rw [List.range'_succ, hexDecodeAt, sliceBytes_append]
    cases hslice : takeBytes 2 rest with
    | none =>
      refine iff_of_false (fun h => by obtain ⟨r, hr, -⟩ := h; cases hr) fun h => ?_
      obtain ⟨pair, hpair⟩ := isCharBoundary_iff.1 ((h [] rest rfl trivial).2 hne)
      rw [hslice] at hpair
      cases hpair
    | some pair =>
      rcases slice_cases hslice with ⟨high, low, cs, b, rfl, hpair, rfl, hread⟩ | ⟨hread, hstuck⟩
      · have hsize := hpair.utf8Size
        have hdone : utf8Len (done ++ [high, low]) = utf8Len done + 2 := by
          simp [utf8Len_append, hsize.1, hsize.2]
        have hcs : utf8Len cs = 2 * k := by
          simp only [utf8Len_cons, hsize.1, hsize.2] at hlen
          omega
        have htail := @ih (plus ∨ high = '+') (done ++ [high, low]) cs hcs
        rw [hdone, List.append_assoc] at htail
        simp only [Option.bind_eq_bind, Option.bind_some, hread]
        rw [isExact_pair hpair, restExact_pair hpair]
        exact htail
      · simp only [Option.bind_eq_bind, Option.bind_some, hread]
        rw [restExact_stuck hne hstuck]
        exact iff_of_true (isExact_stuck hne hstuck) (isCharBoundary_iff.2 ⟨pair, hslice⟩)

/-! ## Texts that spell a byte string -/

theorem spells_nil {cs : List Char} : Spells cs [] ↔ cs = [] := by
  match cs with
  | [] => exact iff_of_true trivial rfl
  | [_] => exact iff_of_false id (by simp)
  | _ :: _ :: _ => exact iff_of_false id (by simp)

theorem isPair_of_digits {high low : Char} {b : UInt8} {x y : ℕ} (hx : hexDigit high = some x)
    (hy : hexDigit low = some y) (hb : b.toNat = 16 * x + y) : IsPair high low b :=
  ⟨y, hy, .inr ⟨x, hx, hb⟩⟩

theorem restExact_of_spells {cs : List Char} {bs : Bytes} (h : Spells cs bs) :
    RestExact False cs := by
  induction bs generalizing cs with
  | nil =>
    obtain rfl := spells_nil.1 h
    exact restExact_nil.2 not_false
  | cons b bs ih =>
    match cs with
    | [] => exact h.elim
    | [_] => exact h.elim
    | high :: low :: cs =>
      obtain ⟨⟨x, y, hx, hy, hb⟩, hrest⟩ := h
      have hhigh : high ≠ '+' := by
        rintro rfl
        cases hx
      rw [restExact_pair (isPair_of_digits hx hy hb), false_or, eq_false hhigh]
      exact ih hrest

theorem utf8Len_of_spells {cs : List Char} {bs : Bytes} (h : Spells cs bs) :
    utf8Len cs = 2 * bs.length := by
  induction bs generalizing cs with
  | nil =>
    obtain rfl := spells_nil.1 h
    rfl
  | cons b bs ih =>
    match cs with
    | [] => exact h.elim
    | [_] => exact h.elim
    | high :: low :: cs =>
      obtain ⟨⟨x, y, hx, hy, hb⟩, hrest⟩ := h
      have hsize := (isPair_of_digits hx hy hb).utf8Size
      rw [utf8Len_cons, utf8Len_cons, hsize.1, hsize.2, ih hrest, List.length_cons]
      omega

/-- A text of an even number of bytes is decoded exactly if and only if nothing in it misleads the
slices. -/
theorem isExact_hexDecodeChecked {s : String} (h : utf8Len s.toList % 2 = 0) :
    IsExact False s.toList (hexDecodeChecked s) ↔ DecodesExactly s.toList := by
  rw [hexDecodeChecked, if_neg (not_not_intro h), decodesExactly_iff]
  exact isExact_hexDecodeAt (utf8Len s.toList / 2) [] s.toList (by omega)

/-- **A text that spells a byte string is decoded to it.** -/
theorem hexDecodeChecked_of_spells {s : String} {bs : Bytes} (h : Spells s.toList bs) :
    hexDecodeChecked s = some (some bs) := by
  have heven : utf8Len s.toList % 2 = 0 := by
    rw [utf8Len_of_spells h]
    omega
  obtain ⟨r, hr, hall⟩ := (isExact_hexDecodeChecked heven).2
    ((decodesExactly_iff _).2 (restExact_of_spells h))
  rw [hr, (hall bs).2 ⟨not_false, h⟩]

theorem hexText_two (b : UInt8) :
    hexText 2 b.toNat = [Nat.digitChar (b.toNat / 16), Nat.digitChar (b.toNat % 16)] := by
  revert b
  decide +kernel

theorem spells_hexEncode (bytes : Bytes) : Spells (hexEncode bytes).toList bytes := by
  rw [hexEncode, String.toList_ofList]
  induction bytes with
  | nil => trivial
  | cons b bytes ih =>
    have hlt := b.toNat_lt
    rw [List.flatMap_cons, hexText_two]
    exact ⟨⟨_, _, readsDigits_hexDigit _ (by omega), readsDigits_hexDigit _ (by omega),
      (Nat.div_add_mod _ _).symm⟩, ih⟩

/-- **`hex_decode` accepts exactly the texts that spell a byte string, without a panic, if and only
if** the text has an odd number of bytes or nothing in it misleads the slices: the pairs that are
read as bytes are not the whole text with a plus sign in it, and the first two bytes after them do
not split a character. It inverts `hex_encode`. -/
theorem hexDecode_exact_iff (s : String) (bytes : Bytes) :
    ((∃ r, hexDecodeChecked s = some r ∧ ∀ b, r = some b ↔ Spells s.toList b) ↔
      utf8Len s.toList % 2 = 1 ∨ DecodesExactly s.toList) ∧
      hexDecodeChecked (hexEncode bytes) = some (some bytes) := by
  refine ⟨?_, hexDecodeChecked_of_spells (spells_hexEncode bytes)⟩
  rcases Nat.mod_two_eq_zero_or_one (utf8Len s.toList) with heven | hodd
  · have hexact := isExact_hexDecodeChecked heven
    simp only [IsExact, not_false_eq_true, true_and] at hexact
    rw [hexact, heven]
    exact ⟨.inr, fun h => h.resolve_left (by decide)⟩
  · refine iff_of_true ⟨none, ?_, fun b => ⟨nofun, fun hspells => ?_⟩⟩ (.inl hodd)
    · rw [hexDecodeChecked, if_pos (by omega)]
    · rw [utf8Len_of_spells hspells] at hodd
      omega

/-- A slice splits the character of two bytes at an odd offset. -/
theorem not_hexDecode_exact :
    ¬ ∀ s : String, ∃ r, hexDecodeChecked s = some r ∧ ∀ b, r = some b ↔ Spells s.toList b := by
  intro h
  obtain ⟨r, hr, -⟩ := h "aéb"
  have hpanic : hexDecodeChecked "aéb" = none := by decide
  rw [hpanic] at hr
  cases hr

example : hexDecodeChecked "+f" = some (some [15]) := by decide

end AnyPlug
