import Mathlib

/-!
# Fixed-width byte codecs

A `FixedCodec α` writes every value of `α` as exactly `size` bytes and reads it back from the
front of a byte string, whatever follows. Its laws say that the codec is a bijection between `α`
and the byte strings of length `size`: writing then reading is the identity
(`decode_encode_append`), reading then writing gives back the bytes read (`encode_of_decode`), and
reading fails only for lack of bytes (`isSome_decode`).

Codecs compose: `prod` lays two values out next to each other and `congr` transports a codec along
an equivalence, which is how a packed record gets its codec from the codecs of its fields.
-/

namespace AnyPlug

/-- A byte string. -/
abbrev Bytes := List UInt8

/-- A codec of constant width: a bijection between `α` and the byte strings of length `size`. -/
structure FixedCodec (α : Type) where
  size : ℕ
  encode : α → Bytes
  decode : Bytes → Option (α × Bytes)
  length_encode : ∀ a, (encode a).length = size
  decode_encode_append : ∀ a rest, decode (encode a ++ rest) = some (a, rest)
  encode_of_decode : ∀ {bs a rest}, decode bs = some (a, rest) → encode a ++ rest = bs
  isSome_decode : ∀ {bs}, size ≤ bs.length → (decode bs).isSome

namespace FixedCodec

attribute [simp] length_encode decode_encode_append

variable {α β : Type}

@[simp] theorem decode_encode (c : FixedCodec α) (a : α) :
    c.decode (c.encode a) = some (a, []) := by
  simpa using c.decode_encode_append a []

/-- Two byte strings that start with encodings are equal when the values and the rests are. -/
theorem encode_append_inj (c : FixedCodec α) {a b : α} {x y : Bytes}
    (h : c.encode a ++ x = c.encode b ++ y) : a = b ∧ x = y := by
  have hd := c.decode_encode_append a x
  rw [h, c.decode_encode_append b y] at hd
  obtain ⟨rfl, rfl⟩ := Prod.mk.inj (Option.some.inj hd)
  exact ⟨rfl, rfl⟩

/-- A byte string that is long enough is the encoding of some value followed by the rest. -/
theorem exists_encode_append (c : FixedCodec α) {bs : Bytes} (h : c.size ≤ bs.length) :
    ∃ a rest, c.encode a ++ rest = bs := by
  obtain ⟨⟨a, rest⟩, hd⟩ := Option.isSome_iff_exists.1 (c.isSome_decode h)
  exact ⟨a, rest, c.encode_of_decode hd⟩

/-- A byte string of the codec's width is an encoding. -/
theorem exists_encode (c : FixedCodec α) {bs : Bytes} (h : bs.length = c.size) :
    ∃ a, c.encode a = bs := by
  obtain ⟨a, rest, rfl⟩ := c.exists_encode_append (Nat.le_of_eq h.symm)
  have hr : rest = [] := by simpa using h
  exact ⟨a, by simp [hr]⟩

/-! ## Integers -/

/-- One byte. -/
def u8 : FixedCodec UInt8 where
  size := 1
  encode a := [a]
  decode
    | [] => none
    | a :: rest => some (a, rest)
  length_encode _ := rfl
  decode_encode_append _ _ := rfl
  encode_of_decode {bs} {a} {rest} h := by
    cases bs with
    | nil => simp at h
    | cons b bs => simp_all
  isSome_decode {bs} h := by
    cases bs with
    | nil => simp at h
    | cons b bs => rfl

/-- A 16-bit integer, most significant byte first. -/
def u16be : FixedCodec UInt16 where
  size := 2
  encode x := [.ofNat (x.toNat / 256), .ofNat x.toNat]
  decode
    | a :: b :: rest => some (.ofNat (a.toNat * 256 + b.toNat), rest)
    | _ => none
  length_encode _ := rfl
  decode_encode_append x rest := by
    have hx := x.toNat_lt
    simp only [List.cons_append, List.nil_append, Option.some.injEq, Prod.mk.injEq, and_true]
    apply UInt16.toNat_inj.1
    simp only [UInt8.toNat_ofNat', UInt16.toNat_ofNat']
    omega
  encode_of_decode {bs} {x} {rest} h := by
    match bs, h with
    | a :: b :: bs, h =>
      have ha := a.toNat_lt
      have hb := b.toNat_lt
      simp only [Option.some.injEq, Prod.mk.injEq] at h
      obtain ⟨rfl, rfl⟩ := h
      simp only [List.cons_append, List.nil_append, List.cons.injEq, and_true]
      constructor <;> apply UInt8.toNat_inj.1 <;>
        simp only [UInt8.toNat_ofNat', UInt16.toNat_ofNat'] <;> omega
  isSome_decode {bs} h := by
    match bs, h with
    | _ :: _ :: _, _ => rfl

/-- A 32-bit integer, most significant byte first. -/
def u32be : FixedCodec UInt32 where
  size := 4
  encode x := [.ofNat (x.toNat / 16777216), .ofNat (x.toNat / 65536), .ofNat (x.toNat / 256),
    .ofNat x.toNat]
  decode
    | a :: b :: c :: d :: rest =>
      some (.ofNat (a.toNat * 16777216 + b.toNat * 65536 + c.toNat * 256 + d.toNat), rest)
    | _ => none
  length_encode _ := rfl
  decode_encode_append x rest := by
    have hx := x.toNat_lt
    simp only [List.cons_append, List.nil_append, Option.some.injEq, Prod.mk.injEq, and_true]
    apply UInt32.toNat_inj.1
    simp only [UInt8.toNat_ofNat', UInt32.toNat_ofNat']
    omega
  encode_of_decode {bs} {x} {rest} h := by
    match bs, h with
    | a :: b :: c :: d :: bs, h =>
      have ha := a.toNat_lt
      have hb := b.toNat_lt
      have hc := c.toNat_lt
      have hd := d.toNat_lt
      simp only [Option.some.injEq, Prod.mk.injEq] at h
      obtain ⟨rfl, rfl⟩ := h
      simp only [List.cons_append, List.nil_append, List.cons.injEq, and_true]
      refine ⟨?_, ?_, ?_, ?_⟩ <;> apply UInt8.toNat_inj.1 <;>
        simp only [UInt8.toNat_ofNat', UInt32.toNat_ofNat'] <;> omega
  isSome_decode {bs} h := by
    match bs, h with
    | _ :: _ :: _ :: _ :: _, _ => rfl

/-! ## Byte arrays, products and records -/

/-- An array of `n` bytes. -/
def bytes (n : ℕ) : FixedCodec (Vector UInt8 n) where
  size := n
  encode v := v.toList
  decode bs :=
    if h : n ≤ bs.length then some (⟨(bs.take n).toArray, by simp [h]⟩, bs.drop n) else none
  length_encode v := v.length_toList
  decode_encode_append v rest := by
    have h : n ≤ (v.toList ++ rest).length := by simp
    rw [dif_pos h]
    congr 2
    · apply Vector.toList_inj.1
      show (v.toList ++ rest).take n = v.toList
      exact List.take_left' v.length_toList
    · exact List.drop_left' v.length_toList
  encode_of_decode {bs} {v} {rest} h := by
    split at h
    · simp only [Option.some.injEq, Prod.mk.injEq] at h
      obtain ⟨rfl, rfl⟩ := h
      exact List.take_append_drop n bs
    · simp at h
  isSome_decode {bs} h := by
    rw [dif_pos h]
    rfl

/-- Two values next to each other. -/
def prod (c : FixedCodec α) (d : FixedCodec β) : FixedCodec (α × β) where
  size := c.size + d.size
  encode p := c.encode p.1 ++ d.encode p.2
  decode bs := do
    let (a, bs) ← c.decode bs
    let (b, rest) ← d.decode bs
    return ((a, b), rest)
  length_encode p := by simp
  decode_encode_append p rest := by
    simp [List.append_assoc]
  encode_of_decode {bs} {p} {rest} h := by
    simp only [Option.bind_eq_bind, Option.bind_eq_some_iff, Option.pure_def, Option.some.injEq,
      Prod.exists, Prod.mk.injEq] at h
    obtain ⟨a, bs', hc, b, rest', hd, rfl, rfl⟩ := h
    rw [List.append_assoc, d.encode_of_decode hd, c.encode_of_decode hc]
  isSome_decode {bs} h := by
    obtain ⟨a, bs', rfl⟩ := c.exists_encode_append (Nat.le_trans (Nat.le_add_right _ _) h)
    have hd : d.size ≤ bs'.length := by
      rw [List.length_append, c.length_encode] at h
      omega
    obtain ⟨b, rest, rfl⟩ := d.exists_encode_append hd
    simp

/-- The codec of a type from the codec of an equivalent one. -/
def congr (c : FixedCodec α) (e : α ≃ β) : FixedCodec β where
  size := c.size
  encode b := c.encode (e.symm b)
  decode bs := (c.decode bs).map fun p => (e p.1, p.2)
  length_encode b := c.length_encode _
  decode_encode_append b rest := by simp
  encode_of_decode {bs} {b} {rest} h := by
    simp only [Option.map_eq_some_iff, Prod.mk.injEq, Prod.exists] at h
    obtain ⟨a, rest', hc, rfl, rfl⟩ := h
    rw [e.symm_apply_apply, c.encode_of_decode hc]
  isSome_decode {bs} h := by
    rw [Option.isSome_map]
    exact c.isSome_decode h

end FixedCodec

/-! ## Checked slices -/

/-- The slice `&b[i..j]`, or `none` where it is out of range. -/
def slice (b : Bytes) (i j : ℕ) : Option Bytes :=
  if i ≤ j ∧ j ≤ b.length then some ((b.drop i).take (j - i)) else none

theorem slice_take {b : Bytes} {n : ℕ} (h : n ≤ b.length) : slice b 0 n = some (b.take n) := by
  rw [slice, if_pos ⟨Nat.zero_le n, h⟩, List.drop_zero, Nat.sub_zero]

theorem slice_drop {b : Bytes} {n : ℕ} (h : n ≤ b.length) :
    slice b n b.length = some (b.drop n) := by
  rw [slice, if_pos ⟨h, le_rfl⟩, List.take_of_length_le (by rw [List.length_drop])]

theorem slice_add {b : Bytes} {i n : ℕ} (h : i + n ≤ b.length) :
    slice b i (i + n) = some ((b.drop i).take n) := by
  rw [slice, if_pos ⟨Nat.le_add_right i n, h⟩, Nat.add_sub_cancel_left]

end AnyPlug
