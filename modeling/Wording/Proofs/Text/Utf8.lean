import Wording.Text.Utf8

/-! # Texts and their bytes

The UTF-8 of a text is read as the text, and only the UTF-8 of a text is read as this text, so that a text is read from
bytes exactly when they are its standard encoding (`decodeUtf8_eq_ok_iff`). All other bytes are refused.

The bytes of a character have one of four forms, by their number and by the bits that each of them holds. `FormOf` says
what they are; that a form is read as its character (`FormOf.decodeUtf8From_append`) and that what is read has a form
(`FormOf.append_eq`) are proved once for each of the four, and the texts follow by induction on the characters and on
the bytes.
-/

set_option autoImplicit false

namespace Wording.Text

/-! ## Bytes and numbers -/

theorem toUInt8_of_eq {n : Nat} {b : UInt8} (h : n = b.toNat) : n.toUInt8 = b := by
  rw [h]
  exact UInt8.ofNat_toNat

theorem toNat_toUInt8_of_lt {n : Nat} (h : n < 256) : n.toUInt8.toNat = n := UInt8.toNat_ofNat_of_lt' h

/-- The number of a character lies below the halves of pairs or behind them. -/
theorem toNat_range (c : Char) : c.toNat < 0xD800 ∨ 0xDFFF < c.toNat ∧ c.toNat < 0x110000 := c.valid

theorem toNat_ofNat_of_range {n : Nat} (h : n < 0xD800 ∨ 0xDFFF < n ∧ n < 0x110000) : (Char.ofNat n).toNat = n := by
  rw [Char.ofNat, dif_pos h]
  rfl

/-- A continuation byte has bits exactly when it lies between its bounds. -/
theorem tailBits?_eq_some_iff {least greatest : Nat} {b : UInt8} {bits : Nat} :
    tailBits? least greatest b = some bits ↔
      (least ≤ b.toNat ∧ b.toNat ≤ greatest) ∧ b.toNat - 0x80 = bits := by
  rw [tailBits?]
  split
  next h =>
    rw [Bool.and_eq_true, decide_eq_true_eq, decide_eq_true_eq] at h
    rw [Option.some.injEq, and_iff_right h]
  next h =>
    rw [Bool.and_eq_true, decide_eq_true_eq, decide_eq_true_eq] at h
    exact iff_of_false nofun fun hbits => h hbits.1

/-! ## The forms of a character -/

/-- That bytes have one of the four forms, and that a character has the number whose bits they hold. The bounds of the
second byte leave out the numbers that need fewer bytes, the halves of pairs, and what lies behind the last
character. -/
inductive FormOf : Char → List UInt8 → Prop where
  | one {a : UInt8} (first : a.toNat < 0x80) : FormOf (Char.ofNat a.toNat) [a]
  | two {a b : UInt8} {x : Nat} (least : ¬ a.toNat < 0xC2) (first : a.toNat < 0xE0)
      (second : tailBits? 0x80 0xBF b = some x) : FormOf (Char.ofNat ((a.toNat - 0xC0) * 64 + x)) [a, b]
  | three {a b c : UInt8} {x y : Nat} (least : ¬ a.toNat < 0xE0) (first : a.toNat < 0xF0)
      (second : tailBits? (secondOfThree a.toNat).1 (secondOfThree a.toNat).2 b = some x)
      (third : tailBits? 0x80 0xBF c = some y) :
      FormOf (Char.ofNat ((a.toNat - 0xE0) * 4096 + x * 64 + y)) [a, b, c]
  | four {a b c d : UInt8} {x y z : Nat} (least : ¬ a.toNat < 0xF0) (first : a.toNat < 0xF5)
      (second : tailBits? (secondOfFour a.toNat).1 (secondOfFour a.toNat).2 b = some x)
      (third : tailBits? 0x80 0xBF c = some y) (fourth : tailBits? 0x80 0xBF d = some z) :
      FormOf (Char.ofNat ((a.toNat - 0xF0) * 262144 + x * 4096 + y * 64 + z)) [a, b, c, d]

theorem FormOf.encodeChar_eq {c : Char} {bytes : List UInt8} (h : FormOf c bytes) : encodeChar c = bytes := by
  cases h with
  | one first => rw [encodeChar, toNat_ofNat_of_range (by omega), if_pos first, toUInt8_of_eq rfl]
  | @two a b x least first second =>
    have hb := tailBits?_eq_some_iff.mp second
    generalize hn : (a.toNat - 0xC0) * 64 + x = n
    rw [encodeChar, toNat_ofNat_of_range (by omega), if_neg (by omega), if_pos (by omega),
      toUInt8_of_eq (b := a) (by omega), toUInt8_of_eq (b := b) (by omega)]
  | @three a b c x y least first second third =>
    have hb := tailBits?_eq_some_iff.mp second
    have hc := tailBits?_eq_some_iff.mp third
    generalize hn : (a.toNat - 0xE0) * 4096 + x * 64 + y = n
    have hrange : 0x800 ≤ n ∧ n < 0x10000 ∧ (n < 0xD800 ∨ 0xDFFF < n) ∧ 0x80 ≤ b.toNat ∧ b.toNat ≤ 0xBF := by
      unfold secondOfThree at hb
      split at hb
      · omega
      · split at hb <;> omega
    rw [encodeChar, toNat_ofNat_of_range (by omega), if_neg (by omega), if_neg (by omega), if_pos (by omega),
      toUInt8_of_eq (b := a) (by omega), toUInt8_of_eq (b := b) (by omega), toUInt8_of_eq (b := c) (by omega)]
  | @four a b c d x y z least first second third fourth =>
    have hb := tailBits?_eq_some_iff.mp second
    have hc := tailBits?_eq_some_iff.mp third
    have hd := tailBits?_eq_some_iff.mp fourth
    generalize hn : (a.toNat - 0xF0) * 262144 + x * 4096 + y * 64 + z = n
    have hrange : 0x10000 ≤ n ∧ n < 0x110000 ∧ 0x80 ≤ b.toNat ∧ b.toNat ≤ 0xBF := by
      unfold secondOfFour at hb
      split at hb
      · omega
      · split at hb <;> omega
    rw [encodeChar, toNat_ofNat_of_range (by omega), if_neg (by omega), if_neg (by omega), if_neg (by omega),
      toUInt8_of_eq (b := a) (by omega), toUInt8_of_eq (b := b) (by omega), toUInt8_of_eq (b := c) (by omega),
      toUInt8_of_eq (b := d) (by omega)]

/-- The bytes of a character have one of the forms. -/
theorem formOf_encodeChar (c : Char) : FormOf c (encodeChar c) := by
  have hrange := toNat_range c
  rw [← Char.ofNat_toNat c]
  generalize c.toNat = n at hrange
  rw [encodeChar, toNat_ofNat_of_range hrange]
  have hlast : tailBits? 0x80 0xBF (0x80 + n % 64).toUInt8 = some (n % 64) := by
    rw [tailBits?_eq_some_iff, toNat_toUInt8_of_lt (by omega)]
    omega
  have hmiddle : tailBits? 0x80 0xBF (0x80 + n / 64 % 64).toUInt8 = some (n / 64 % 64) := by
    rw [tailBits?_eq_some_iff, toNat_toUInt8_of_lt (by omega)]
    omega
  split
  next hone =>
    have hfirst : n.toUInt8.toNat = n := toNat_toUInt8_of_lt (by omega)
    have hform := FormOf.one (a := n.toUInt8) (by omega)
    rwa [hfirst] at hform
  next hone =>
  split
  next htwo =>
    have hfirst : (0xC0 + n / 64).toUInt8.toNat = 0xC0 + n / 64 := toNat_toUInt8_of_lt (by omega)
    have hform := FormOf.two (a := (0xC0 + n / 64).toUInt8) (by omega) (by omega) hlast
    have hbits : (0xC0 + n / 64 - 0xC0) * 64 + n % 64 = n := by omega
    rwa [hfirst, hbits] at hform
  next htwo =>
  split
  next hthree =>
    have hfirst : (0xE0 + n / 4096).toUInt8.toNat = 0xE0 + n / 4096 := toNat_toUInt8_of_lt (by omega)
    have hform := FormOf.three (a := (0xE0 + n / 4096).toUInt8) (b := (0x80 + n / 64 % 64).toUInt8)
      (x := n / 64 % 64) (by omega) (by omega) ?_ hlast
    · have hbits : (0xE0 + n / 4096 - 0xE0) * 4096 + n / 64 % 64 * 64 + n % 64 = n := by omega
      rwa [hfirst, hbits] at hform
    · rw [hfirst, tailBits?_eq_some_iff, toNat_toUInt8_of_lt (by omega), secondOfThree]
      split
      · omega
      · split <;> omega
  next hthree =>
    have hfirst : (0xF0 + n / 262144).toUInt8.toNat = 0xF0 + n / 262144 := toNat_toUInt8_of_lt (by omega)
    have hform := FormOf.four (a := (0xF0 + n / 262144).toUInt8) (b := (0x80 + n / 4096 % 64).toUInt8)
      (x := n / 4096 % 64) (by omega) (by omega) ?_ hmiddle hlast
    · have hbits : (0xF0 + n / 262144 - 0xF0) * 262144 + n / 4096 % 64 * 4096 + n / 64 % 64 * 64 + n % 64 = n := by
        omega
      rwa [hfirst, hbits] at hform
    · rw [hfirst, tailBits?_eq_some_iff, toNat_toUInt8_of_lt (by omega), secondOfFour]
      split
      · omega
      · split <;> omega

/-! ## Reading -/

/-- Bytes of a form are read as their character, and what stands behind them is read from the position behind them. -/
theorem FormOf.decodeUtf8From_append {c : Char} {bytes : List UInt8} (h : FormOf c bytes) (position : Nat)
    (rest : List UInt8) :
    decodeUtf8From position (bytes ++ rest) =
      (decodeUtf8From (position + bytes.length) rest).map (c :: ·) := by
  cases h with
  | one first =>
    rw [List.cons_append, decodeUtf8From.eq_def]
    simp only [if_pos first]
    rfl
  | two least first second =>
    rw [List.cons_append, decodeUtf8From.eq_def]
    simp only [List.cons_append, second]
    rw [if_neg (by omega), if_neg least, if_pos first]
    rfl
  | three least first second third =>
    rw [List.cons_append, decodeUtf8From.eq_def]
    simp only [List.cons_append, second, third]
    rw [if_neg (by omega), if_neg (by omega), if_neg least, if_pos first]
    rfl
  | four least first second third fourth =>
    rw [List.cons_append, decodeUtf8From.eq_def]
    simp only [List.cons_append, second, third, fourth]
    rw [if_neg (by omega), if_neg (by omega), if_neg (by omega), if_neg least, if_pos first]
    rfl

/-- The UTF-8 of a text is read as the text, from every position. -/
theorem decodeUtf8From_encodeUtf8 (t : Text) (position : Nat) : decodeUtf8From position (encodeUtf8 t) = .ok t := by
  induction t generalizing position with
  | nil => rfl
  | cons c cs ih =>
    rw [encodeUtf8, List.flatMap_cons, (formOf_encodeChar c).decodeUtf8From_append, ← encodeUtf8, ih]
    rfl

/-- A character in front of what is read from the bytes behind its own stands for the bytes of both. -/
theorem FormOf.append_eq {c : Char} {front back : List UInt8} (h : FormOf c front) {position : Nat}
    (hback : ∀ {t}, decodeUtf8From position back = .ok t → back = encodeUtf8 t) {t : Text}
    (ht : (do pure (c :: (← decodeUtf8From position back)) : Except Utf8Error Text) = .ok t) :
    front ++ back = encodeUtf8 t := by
  cases hrest : decodeUtf8From position back with
  | error fault =>
    rw [hrest] at ht
    cases ht
  | ok later =>
    rw [hrest] at ht
    cases ht
    rw [hback hrest, ← h.encodeChar_eq, encodeUtf8, encodeUtf8, List.flatMap_cons]

/-- Only the UTF-8 of a text is read as this text. -/
theorem eq_encodeUtf8_of_decodeUtf8From {position : Nat} {bytes : List UInt8} {t : Text}
    (h : decodeUtf8From position bytes = .ok t) : bytes = encodeUtf8 t := by
  fun_induction decodeUtf8From position bytes generalizing t
  case case1 =>
    cases h
    rfl
  case case2 first ih => exact (FormOf.one first).append_eq ih h
  case case6 least first _ _ _ second ih => exact (FormOf.two least first second).append_eq ih h
  case case11 least first _ _ second _ _ _ third ih => exact (FormOf.three least first second third).append_eq ih h
  case case18 least first _ _ second _ _ third _ _ _ fourth ih =>
    exact (FormOf.four least first second third fourth).append_eq ih h
  -- All other bytes are refused.
  all_goals cases h

/-! ## The standard encoding -/

theorem encodeChar_eq_utf8EncodeChar (c : Char) : encodeChar c = String.utf8EncodeChar c := by
  have hrange := toNat_range c
  have hnumber : c.val.toNat = c.toNat := rfl
  simp only [encodeChar, String.utf8EncodeChar, hnumber, Nat.toUInt8_eq]
  generalize c.toNat = n at *
  have hlast : n % 64 + 128 = 0x80 + n % 64 := Nat.add_comm _ _
  have hmiddle : n / 64 % 64 + 128 = 0x80 + n / 64 % 64 := Nat.add_comm _ _
  split
  · exact (if_pos (by omega)).symm
  split
  next =>
    have hfirst : n / 64 % 32 + 192 = 0xC0 + n / 64 := by omega
    rw [if_neg (by omega), if_pos (by omega), hfirst, hlast]
  split
  next =>
    have hfirst : n / 4096 % 16 + 224 = 0xE0 + n / 4096 := by omega
    rw [if_neg (by omega), if_neg (by omega), if_pos (by omega), hfirst, hmiddle, hlast]
  next =>
    have hfirst : n / 262144 % 8 + 240 = 0xF0 + n / 262144 := by omega
    have hsecond : n / 4096 % 64 + 128 = 0x80 + n / 4096 % 64 := Nat.add_comm _ _
    rw [if_neg (by omega), if_neg (by omega), if_neg (by omega), hfirst, hsecond, hmiddle, hlast]

/-- A text is read from bytes exactly when they are its standard encoding. -/
theorem decodeUtf8_eq_ok_iff {bytes : List UInt8} {t : Text} :
    decodeUtf8 bytes = .ok t ↔ bytes.toByteArray = t.utf8Encode := by
  rw [List.utf8Encode, List.toByteArray_inj, ← funext encodeChar_eq_utf8EncodeChar]
  constructor
  · exact eq_encodeUtf8_of_decodeUtf8From
  · rintro rfl
    exact decodeUtf8From_encodeUtf8 t 0

theorem exists_decodeUtf8_eq_error {bytes : List UInt8} (h : ¬ bytes.toByteArray.IsValidUTF8) :
    ∃ fault, decodeUtf8 bytes = .error fault := by
  cases hread : decodeUtf8 bytes with
  | error fault => exact ⟨fault, rfl⟩
  | ok t => exact absurd ⟨t, decodeUtf8_eq_ok_iff.mp hread⟩ h

end Wording.Text
