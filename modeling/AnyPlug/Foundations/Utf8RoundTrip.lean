import AnyPlug.Foundations.Utf8

/-!
# Encoding UTF-8

The bytes of a text are decoded to the text: `utf8Next` takes one encoded character off
(`utf8Next_utf8EncodeChar`), whichever of the four lengths it has.
-/

namespace AnyPlug

/-- The bytes of a text. -/
def utf8Bytes (s : String) : Bytes := s.toList.flatMap String.utf8EncodeChar

/-! ## One character -/

section Sequences

variable {a b c d : UInt8} {rest : Bytes}

theorem isContinuation_iff : isContinuation b = true ↔ 0x80 ≤ b.toNat ∧ b.toNat ≤ 0xBF := by
  simp [isContinuation, UInt8.le_iff_toNat_le]

theorem isSecondOfThree_iff : isSecondOfThree a b = true ↔
    (0x80 ≤ b.toNat ∧ b.toNat ≤ 0xBF) ∧ (a.toNat = 0xE0 → 0xA0 ≤ b.toNat) ∧
      (a.toNat = 0xED → b.toNat ≤ 0x9F) := by
  have h₁ : a = 0xE0 ↔ a.toNat = 0xE0 := by rw [← UInt8.toNat_inj]; rfl
  have h₂ : a = 0xED ↔ a.toNat = 0xED := by rw [← UInt8.toNat_inj]; rfl
  unfold isSecondOfThree
  split
  · rename_i ha
    have ha := h₁.1 ha
    simp [UInt8.le_iff_toNat_le]
    omega
  · rename_i ha
    have ha := mt h₁.2 ha
    split
    · rename_i ha'
      have ha' := h₂.1 ha'
      simp [UInt8.le_iff_toNat_le]
      omega
    · rename_i ha'
      have ha' := mt h₂.2 ha'
      rw [isContinuation_iff]
      simp [ha, ha']

theorem isSecondOfFour_iff : isSecondOfFour a b = true ↔
    (0x80 ≤ b.toNat ∧ b.toNat ≤ 0xBF) ∧ (a.toNat = 0xF0 → 0x90 ≤ b.toNat) ∧
      (a.toNat = 0xF4 → b.toNat ≤ 0x8F) := by
  have h₁ : a = 0xF0 ↔ a.toNat = 0xF0 := by rw [← UInt8.toNat_inj]; rfl
  have h₂ : a = 0xF4 ↔ a.toNat = 0xF4 := by rw [← UInt8.toNat_inj]; rfl
  unfold isSecondOfFour
  split
  · rename_i ha
    have ha := h₁.1 ha
    simp [UInt8.le_iff_toNat_le]
    omega
  · rename_i ha
    have ha := mt h₁.2 ha
    split
    · rename_i ha'
      have ha' := h₂.1 ha'
      simp [UInt8.le_iff_toNat_le]
      omega
    · rename_i ha'
      have ha' := mt h₂.2 ha'
      rw [isContinuation_iff]
      simp [ha, ha']

theorem within_iff {lo hi : UInt8} : (decide (lo ≤ a) && decide (a ≤ hi)) = true ↔
    lo.toNat ≤ a.toNat ∧ a.toNat ≤ hi.toNat := by
  simp [UInt8.le_iff_toNat_le]

/-- A byte from 0xC2 on is no character of its own. -/
theorem not_lt_of_lead (ha : 0xC2 ≤ a.toNat) : ¬ a < 0x80 := by
  rw [UInt8.lt_iff_toNat_lt]
  exact fun h => absurd (h.trans_le (by decide)) (not_lt.2 ha)

theorem utf8Next_one (ha : a.toNat < 0x80) :
    utf8Next (a :: rest) = (some (Char.ofNat a.toNat), rest) := by
  rw [utf8Next.eq_def]
  exact if_pos (UInt8.lt_iff_toNat_lt.2 ha)

theorem utf8Next_two (ha : 0xC2 ≤ a.toNat ∧ a.toNat ≤ 0xDF) (hb : isContinuation b = true) :
    utf8Next (a :: b :: rest) =
      (some (Char.ofNat (payload 0xC0 a * 64 + payload 0x80 b)), rest) := by
  have h₁ := not_lt_of_lead ha.1
  have h₂ : (decide (0xC2 ≤ a) && decide (a ≤ 0xDF)) = true := within_iff.2 ha
  simp only [utf8Next, if_neg h₁, h₂, if_pos, hb]

theorem utf8Next_three (ha : 0xE0 ≤ a.toNat ∧ a.toNat ≤ 0xEF) (hb : isSecondOfThree a b = true)
    (hc : isContinuation c = true) :
    utf8Next (a :: b :: c :: rest) =
      (some (Char.ofNat (payload 0xE0 a * 4096 + payload 0x80 b * 64 + payload 0x80 c)), rest) := by
  have h₁ := not_lt_of_lead (le_trans (by decide) ha.1)
  have h₂ : ¬ (decide (0xC2 ≤ a) && decide (a ≤ 0xDF)) = true := fun h =>
    absurd (within_iff.1 h).2 (not_le.2 (lt_of_lt_of_le (by decide) ha.1))
  have h₃ : (decide (0xE0 ≤ a) && decide (a ≤ 0xEF)) = true := within_iff.2 ha
  simp only [utf8Next, if_neg h₁, if_neg h₂, h₃, if_pos, hb, hc]

theorem utf8Next_four (ha : 0xF0 ≤ a.toNat ∧ a.toNat ≤ 0xF4) (hb : isSecondOfFour a b = true)
    (hc : isContinuation c = true) (hd : isContinuation d = true) :
    utf8Next (a :: b :: c :: d :: rest) =
      (some (Char.ofNat (payload 0xF0 a * 262144 + payload 0x80 b * 4096 + payload 0x80 c * 64 +
        payload 0x80 d)), rest) := by
  have h₁ := not_lt_of_lead (le_trans (by decide) ha.1)
  have h₂ : ¬ (decide (0xC2 ≤ a) && decide (a ≤ 0xDF)) = true := fun h =>
    absurd (within_iff.1 h).2 (not_le.2 (lt_of_lt_of_le (by decide) ha.1))
  have h₃ : ¬ (decide (0xE0 ≤ a) && decide (a ≤ 0xEF)) = true := fun h =>
    absurd (within_iff.1 h).2 (not_le.2 (lt_of_lt_of_le (by decide) ha.1))
  have h₄ : (decide (0xF0 ≤ a) && decide (a ≤ 0xF4)) = true := within_iff.2 ha
  simp only [utf8Next, if_neg h₁, if_neg h₂, if_neg h₃, h₄, if_pos, hb, hc, hd]

end Sequences

theorem payload_ofNat {mark n : ℕ} (h : n + mark < 256) :
    payload mark (UInt8.ofNat (n + mark)) = n := by
  rw [payload, UInt8.toNat_ofNat', Nat.mod_eq_of_lt h, Nat.add_sub_cancel]

/-- **The first character of encoded bytes** is the one that was encoded. -/
theorem utf8Next_utf8EncodeChar (c : Char) (rest : Bytes) :
    utf8Next (String.utf8EncodeChar c ++ rest) = (some c, rest) := by
  have hbyte {n : ℕ} (hn : n < 256) : (UInt8.ofNat n).toNat = n := by
    rw [UInt8.toNat_ofNat', Nat.mod_eq_of_lt hn]
  have hcont (n : ℕ) : isContinuation (UInt8.ofNat (n % 64 + 0x80)) = true := by
    rw [isContinuation_iff, hbyte (by omega)]
    omega
  have hchar {n : ℕ} (hn : n = c.val.toNat) : Char.ofNat n = c := by
    rw [hn]
    exact Char.ofNat_toNat c
  have hvalid : c.val.toNat < 0xD800 ∨ 0xDFFF < c.val.toNat ∧ c.val.toNat < 0x110000 := c.valid
  unfold String.utf8EncodeChar
  dsimp only
  split
  · rw [List.singleton_append, utf8Next_one (by rw [hbyte (by omega)]; omega), hbyte (by omega),
      hchar rfl]
  · split
    · simp only [List.cons_append, List.nil_append]
      rw [utf8Next_two (by rw [hbyte (by omega)]; omega) (hcont _), payload_ofNat (by omega),
        payload_ofNat (by omega), hchar (by omega)]
    · split
      · simp only [List.cons_append, List.nil_append]
        rw [utf8Next_three (by rw [hbyte (by omega)]; omega) ?_ (hcont _), payload_ofNat (by omega),
          payload_ofNat (by omega), payload_ofNat (by omega), hchar (by omega)]
        rw [isSecondOfThree_iff, hbyte (by omega), hbyte (by omega)]
        omega
      · simp only [List.cons_append, List.nil_append]
        rw [utf8Next_four (by rw [hbyte (by omega)]; omega) ?_ (hcont _) (hcont _),
          payload_ofNat (by omega), payload_ofNat (by omega), payload_ofNat (by omega),
          payload_ofNat (by omega), hchar (by omega)]
        rw [isSecondOfFour_iff, hbyte (by omega), hbyte (by omega)]
        omega

/-! ## Texts -/

theorem utf8ChunksN_succ {bs : Bytes} (h : bs ≠ []) (n : ℕ) :
    utf8ChunksN (n + 1) bs = (utf8Next bs).1 :: utf8ChunksN n (utf8Next bs).2 := by
  cases bs with
  | nil => exact absurd rfl h
  | cons b bs => rfl

theorem utf8ChunksN_utf8EncodeChar (n : ℕ) (cs : List Char)
    (hn : (cs.flatMap String.utf8EncodeChar).length ≤ n) :
    utf8ChunksN n (cs.flatMap String.utf8EncodeChar) = cs.map some := by
  induction cs generalizing n with
  | nil => cases n <;> rfl
  | cons c cs ih =>
    have hpos : 0 < (String.utf8EncodeChar c).length := by
      rw [String.length_utf8EncodeChar]
      exact c.utf8Size_pos
    rw [List.flatMap_cons] at hn ⊢
    rw [List.length_append] at hn
    cases n with
    | zero => omega
    | succ n =>
      have hne := List.append_ne_nil_of_left_ne_nil (List.length_pos_iff.1 hpos)
        (cs.flatMap String.utf8EncodeChar)
      rw [utf8ChunksN_succ hne, utf8Next_utf8EncodeChar, ih n (by omega), List.map_cons]

/-- **The bytes of a text are decoded to it.** -/
theorem fromUtf8Lossy_utf8Bytes (s : String) : fromUtf8Lossy (utf8Bytes s) = s := by
  rw [fromUtf8Lossy, utf8Chunks, utf8Bytes, utf8ChunksN_utf8EncodeChar _ _ le_rfl, List.map_map]
  have hid : (fun c : Option Char => c.getD '\uFFFD') ∘ some = id := rfl
  rw [hid, List.map_id, String.ofList_toList]

end AnyPlug
