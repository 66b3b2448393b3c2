import AnyPlug.Foundations.FixedCodec

/-!
# Decoding UTF-8

The two conversions of bytes to text of the Rust standard library. Both walk over the bytes by
characters and maximal ill-formed subparts: `fromUtf8` fails on an ill-formed subpart,
`fromUtf8Lossy` puts U+FFFD in its place.
-/

namespace AnyPlug

/-- The continuation bytes `10xxxxxx`. -/
def isContinuation (b : UInt8) : Bool := 0x80 ≤ b && b ≤ 0xBF

/-- The second bytes that make a well-formed three-byte sequence with the lead byte `a`: no
overlong form and no surrogate. -/
def isSecondOfThree (a b : UInt8) : Bool :=
  if a = 0xE0 then 0xA0 ≤ b && b ≤ 0xBF
  else if a = 0xED then 0x80 ≤ b && b ≤ 0x9F
  else isContinuation b

/-- The second bytes that make a well-formed four-byte sequence with the lead byte `a`: no
overlong form and no code point above U+10FFFF. -/
def isSecondOfFour (a b : UInt8) : Bool :=
  if a = 0xF0 then 0x90 ≤ b && b ≤ 0xBF
  else if a = 0xF4 then 0x80 ≤ b && b ≤ 0x8F
  else isContinuation b

/-- The payload bits of a byte below a lead or continuation mark. -/
def payload (mark : ℕ) (b : UInt8) : ℕ := b.toNat - mark

/-- The first character of a byte string, or `none` for a maximal ill-formed subpart, and the
bytes after it. -/
def utf8Next : Bytes → Option Char × Bytes
  | [] => (none, [])
  | a :: rest =>
    if a < 0x80 then (some (Char.ofNat a.toNat), rest)
    else if 0xC2 ≤ a && a ≤ 0xDF then
      match rest with
      | b :: rest₁ =>
        if isContinuation b then
          (some (Char.ofNat (payload 0xC0 a * 64 + payload 0x80 b)), rest₁)
        else (none, rest)
      | [] => (none, rest)
    else if 0xE0 ≤ a && a ≤ 0xEF then
      match rest with
      | b :: rest₁ =>
        if isSecondOfThree a b then
          match rest₁ with
          | c :: rest₂ =>
            if isContinuation c then
              (some (Char.ofNat (payload 0xE0 a * 4096 + payload 0x80 b * 64 + payload 0x80 c)),
                rest₂)
            else (none, rest₁)
          | [] => (none, rest₁)
        else (none, rest)
      | [] => (none, rest)
    else if 0xF0 ≤ a && a ≤ 0xF4 then
      match rest with
      | b :: rest₁ =>
        if isSecondOfFour a b then
          match rest₁ with
          | c :: rest₂ =>
            if isContinuation c then
              match rest₂ with
              | d :: rest₃ =>
                if isContinuation d then
                  (some (Char.ofNat (payload 0xF0 a * 262144 + payload 0x80 b * 4096 +
                    payload 0x80 c * 64 + payload 0x80 d)), rest₃)
                else (none, rest₂)
              | [] => (none, rest₂)
            else (none, rest₁)
          | [] => (none, rest₁)
        else (none, rest)
      | [] => (none, rest)
    else (none, rest)

/-- The characters and ill-formed subparts of a byte string, at most `n` of them. -/
def utf8ChunksN : ℕ → Bytes → List (Option Char)
  | 0, _ => []
  | _ + 1, [] => []
  | n + 1, bs => (utf8Next bs).1 :: utf8ChunksN n (utf8Next bs).2

/-- The characters and maximal ill-formed subparts of a byte string. Each takes at least one byte,
so the length is enough. -/
def utf8Chunks (bs : Bytes) : List (Option Char) := utf8ChunksN bs.length bs

/-- `core::str::from_utf8`. -/
def fromUtf8 (bs : Bytes) : Option String := ((utf8Chunks bs).mapM id).map String.ofList

/-- `String::from_utf8_lossy`. -/
def fromUtf8Lossy (bs : Bytes) : String :=
  String.ofList ((utf8Chunks bs).map fun c => c.getD '\uFFFD')

example : fromUtf8Lossy [0x31, 0x2D, 0x31] = "1-1" := by decide

/-- The bytes before the first zero byte, or all of them. -/
def beforeNul (bs : Bytes) : Bytes := bs.takeWhile (· ≠ 0)

/-! ## Slices of a text -/

/-- `str::len`: the number of bytes of a text. -/
def utf8Len (cs : List Char) : ℕ := (cs.map Char.utf8Size).sum

/-- `str::is_char_boundary`. -/
def IsCharBoundary (cs : List Char) (n : ℕ) : Prop :=
  ∃ before after, cs = before ++ after ∧ utf8Len before = n

/-- The text of the first `n` bytes, or `none` where that splits a character or is out of range. -/
def takeBytes : ℕ → List Char → Option (List Char)
  | 0, _ => some []
  | _ + 1, [] => none
  | n + 1, c :: cs =>
    if c.utf8Size ≤ n + 1 then (takeBytes (n + 1 - c.utf8Size) cs).map (c :: ·) else none

/-- The text after the first `n` bytes, or `none` where that splits a character or is out of
range. -/
def dropBytes : ℕ → List Char → Option (List Char)
  | 0, cs => some cs
  | _ + 1, [] => none
  | n + 1, c :: cs => if c.utf8Size ≤ n + 1 then dropBytes (n + 1 - c.utf8Size) cs else none

/-- `&s[i..j]`, every boundary checked: `none` stands for the panic. -/
def sliceBytes (cs : List Char) (i j : ℕ) : Option (List Char) :=
  (dropBytes i cs).bind (takeBytes (j - i))

@[simp] theorem utf8Len_nil : utf8Len [] = 0 := rfl

@[simp] theorem utf8Len_cons (c : Char) (cs : List Char) :
    utf8Len (c :: cs) = c.utf8Size + utf8Len cs := by
  rw [utf8Len, List.map_cons, List.sum_cons, utf8Len]

theorem utf8Len_append (cs ds : List Char) : utf8Len (cs ++ ds) = utf8Len cs + utf8Len ds := by
  rw [utf8Len, List.map_append, List.sum_append, utf8Len, utf8Len]

theorem utf8Len_eq_zero {cs : List Char} : utf8Len cs = 0 ↔ cs = [] := by
  cases cs with
  | nil => simp
  | cons c cs =>
    have hpos := c.utf8Size_pos
    simp
    omega

theorem takeBytes_eq_some {n : ℕ} {cs before : List Char} :
    takeBytes n cs = some before ↔ utf8Len before = n ∧ before <+: cs := by
  induction n, cs using takeBytes.induct generalizing before with
  | case1 cs =>
    rw [takeBytes, Option.some.injEq, eq_comm, utf8Len_eq_zero]
    exact ⟨fun h => ⟨h, h ▸ List.nil_prefix⟩, And.left⟩
  | case2 n =>
    rw [takeBytes, List.prefix_nil]
    refine ⟨nofun, ?_⟩
    rintro ⟨hlen, rfl⟩
    cases hlen
  | case3 n c cs hle ih =>
    have hpos := c.utf8Size_pos
    rw [takeBytes, if_pos hle, Option.map_eq_some_iff]
    constructor
    · rintro ⟨tail, htail, rfl⟩
      obtain ⟨hlen, hprefix⟩ := ih.1 htail
      rw [utf8Len_cons]
      exact ⟨by omega, (List.prefix_cons_inj c).2 hprefix⟩
    · rintro ⟨hlen, hprefix⟩
      cases before with
      | nil => cases hlen
      | cons d tail =>
        obtain ⟨rfl, htail⟩ := List.cons_prefix_cons.1 hprefix
        rw [utf8Len_cons] at hlen
        exact ⟨tail, ih.2 ⟨by omega, htail⟩, rfl⟩
  | case4 n c cs hlt =>
    rw [takeBytes, if_neg hlt]
    refine ⟨nofun, ?_⟩
    rintro ⟨hlen, hprefix⟩
    cases before with
    | nil => cases hlen
    | cons d tail =>
      obtain ⟨rfl, -⟩ := List.cons_prefix_cons.1 hprefix
      rw [utf8Len_cons] at hlen
      omega

theorem dropBytes_append (before after : List Char) :
    dropBytes (utf8Len before) (before ++ after) = some after := by
  induction before with
  | nil => cases after <;> rfl
  | cons c before ih =>
    have hpos := c.utf8Size_pos
    obtain ⟨n, hn⟩ : ∃ n, utf8Len (c :: before) = n + 1 :=
      ⟨utf8Len (c :: before) - 1, by rw [utf8Len_cons]; omega⟩
    have hrest : n + 1 - c.utf8Size = utf8Len before := by
      rw [← hn, utf8Len_cons, Nat.add_sub_cancel_left]
    rw [hn, List.cons_append, dropBytes, if_pos (by rw [← hn, utf8Len_cons]; omega), hrest, ih]

/-- **A slice that starts at a boundary** is what can be taken there. -/
theorem sliceBytes_append (before after : List Char) (n : ℕ) :
    sliceBytes (before ++ after) (utf8Len before) (utf8Len before + n) = takeBytes n after := by
  rw [sliceBytes, dropBytes_append, Option.bind_some, Nat.add_sub_cancel_left]

theorem isCharBoundary_iff {cs : List Char} {n : ℕ} :
    IsCharBoundary cs n ↔ ∃ before, takeBytes n cs = some before := by
  simp only [takeBytes_eq_some]
  constructor
  · rintro ⟨before, after, rfl, hlen⟩
    exact ⟨before, hlen, List.prefix_append before after⟩
  · rintro ⟨before, hlen, after, rfl⟩
    exact ⟨before, after, rfl, hlen⟩

end AnyPlug
