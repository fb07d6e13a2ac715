/-
# Text as bytes and back

The bytes that a text is encoded as are read as that text: the first unit of an encoded
character is the character, with what follows it left.

Key theorems: `firstUnit_encodeChar`, `decode_encode`.
-/
import IdentityTypes.Text.Utf8
import Mathlib.Data.List.Basic

namespace IdentityTypes.Text

theorem toNat_toUInt8 {n : Nat} (h : n < 0x100) : n.toUInt8.toNat = n :=
  UInt8.toNat_ofNat_of_lt' h

theorem isTail_iff {x : UInt8} : isTail x = true ↔ 0x80 ≤ x.toNat ∧ x.toNat ≤ 0xBF := by
  simp [isTail, UInt8.le_iff_toNat_le]

/-- A tail byte is a second byte unless it says, after one of four first bytes, what
other bytes say. -/
theorem isSecond_of_isTail {b x : UInt8} (hx : isTail x = true)
    (hlong : b.toNat = 0xE0 → 0xA0 ≤ x.toNat) (hsurrogate : b.toNat = 0xED → x.toNat ≤ 0x9F)
    (hlonger : b.toNat = 0xF0 → 0x90 ≤ x.toNat) (hbeyond : b.toNat = 0xF4 → x.toNat ≤ 0x8F) :
    isSecond b x = true := by
  obtain ⟨hlow, hhigh⟩ := isTail_iff.mp hx
  unfold isSecond
  split_ifs with h1 h2 h3 h4
  · rw [beq_iff_eq] at h1
    subst h1
    simpa [UInt8.le_iff_toNat_le] using ⟨hlong rfl, hhigh⟩
  · rw [beq_iff_eq] at h2
    subst h2
    simpa [UInt8.le_iff_toNat_le] using ⟨hlow, hsurrogate rfl⟩
  · rw [beq_iff_eq] at h3
    subst h3
    simpa [UInt8.le_iff_toNat_le] using ⟨hlonger rfl, hhigh⟩
  · rw [beq_iff_eq] at h4
    subst h4
    simpa [UInt8.le_iff_toNat_le] using ⟨hlow, hbeyond rfl⟩
  · exact hx

section Units

variable {b x y z : UInt8} {rest : List UInt8}

theorem firstUnit_one (hb : b.toNat < 0x80) :
    firstUnit b rest = .char (Char.ofNat b.toNat) rest := by
  have h1 : b < 0x80 := UInt8.lt_iff_toNat_lt.mpr hb
  rw [firstUnit.eq_def, if_pos h1]

theorem firstUnit_two (hlow : 0xC2 ≤ b.toNat) (hhigh : b.toNat ≤ 0xDF) (hx : isTail x = true) :
    firstUnit b (x :: rest) =
      .char (Char.ofNat ((b.toNat - 0xC0) * 0x40 + (x.toNat - 0x80))) rest := by
  have h1 : ¬ b < 0x80 := fun h => absurd (UInt8.lt_iff_toNat_lt.mp h) (by simp; omega)
  have h2 : (0xC2 ≤ b && b ≤ 0xDF) = true := by simp [UInt8.le_iff_toNat_le, hlow, hhigh]
  rw [firstUnit.eq_def, if_neg h1, if_pos h2]
  simp only [hx, if_true]

theorem firstUnit_three (hlow : 0xE0 ≤ b.toNat) (hhigh : b.toNat ≤ 0xEF)
    (hx : isSecond b x = true) (hy : isTail y = true) :
    firstUnit b (x :: y :: rest) =
      .char (Char.ofNat ((b.toNat - 0xE0) * 0x1000 + (x.toNat - 0x80) * 0x40 +
        (y.toNat - 0x80))) rest := by
  have h1 : ¬ b < 0x80 := fun h => absurd (UInt8.lt_iff_toNat_lt.mp h) (by simp; omega)
  have h2 : ¬ (0xC2 ≤ b && b ≤ 0xDF) = true := by simp [UInt8.le_iff_toNat_le]; omega
  have h3 : (0xE0 ≤ b && b ≤ 0xEF) = true := by simp [UInt8.le_iff_toNat_le, hlow, hhigh]
  rw [firstUnit.eq_def, if_neg h1, if_neg h2, if_pos h3]
  simp [hx, hy]

theorem firstUnit_four (hlow : 0xF0 ≤ b.toNat) (hhigh : b.toNat ≤ 0xF4)
    (hx : isSecond b x = true) (hy : isTail y = true) (hz : isTail z = true) :
    firstUnit b (x :: y :: z :: rest) =
      .char (Char.ofNat ((b.toNat - 0xF0) * 0x40000 + (x.toNat - 0x80) * 0x1000 +
        (y.toNat - 0x80) * 0x40 + (z.toNat - 0x80))) rest := by
  have h1 : ¬ b < 0x80 := fun h => absurd (UInt8.lt_iff_toNat_lt.mp h) (by simp; omega)
  have h2 : ¬ (0xC2 ≤ b && b ≤ 0xDF) = true := by simp [UInt8.le_iff_toNat_le]; omega
  have h3 : ¬ (0xE0 ≤ b && b ≤ 0xEF) = true := by simp [UInt8.le_iff_toNat_le]; omega
  have h4 : (0xF0 ≤ b && b ≤ 0xF4) = true := by simp [UInt8.le_iff_toNat_le, hlow, hhigh]
  rw [firstUnit.eq_def, if_neg h1, if_neg h2, if_neg h3, if_pos h4]
  simp [hx, hy, hz]

end Units

/-- A character is the first unit of its encoding. -/
theorem firstUnit_encodeChar (c : Char) (rest : List UInt8) :
    ∃ b bs, encodeChar c ++ rest = b :: bs ∧ firstUnit b bs = .char c rest := by
  have hc : Char.ofNat c.toNat = c := Char.ofNat_toNat c
  have hvalid : c.toNat < 0xD800 ∨ 0xDFFF < c.toNat ∧ c.toNat < 0x110000 := c.valid
  have htail : ∀ m, (0x80 + m % 0x40).toUInt8.toNat = 0x80 + m % 0x40 := fun m =>
    toNat_toUInt8 (by omega)
  have his : ∀ m, isTail (0x80 + m % 0x40).toUInt8 = true := fun m =>
    isTail_iff.mpr ⟨by rw [htail]; omega, by rw [htail]; omega⟩
  unfold encodeChar
  generalize c.toNat = n at hc hvalid
  dsimp only
  split_ifs with h1 h2 h3
  · have hb : n.toUInt8.toNat = n := toNat_toUInt8 (by omega)
    exact ⟨_, rest, rfl, by rw [firstUnit_one (by omega), hb, hc]⟩
  · have hb : (0xC0 + n / 0x40).toUInt8.toNat = 0xC0 + n / 0x40 := toNat_toUInt8 (by omega)
    have hn : n / 0x40 * 0x40 + n % 0x40 = n := by omega
    refine ⟨_, _ :: rest, rfl, ?_⟩
    rw [firstUnit_two (by omega) (by omega) (his n), hb, htail, Nat.add_sub_cancel_left,
      Nat.add_sub_cancel_left, hn, hc]
  · have hb : (0xE0 + n / 0x1000).toUInt8.toNat = 0xE0 + n / 0x1000 := toNat_toUInt8 (by omega)
    have hn : n / 0x1000 * 0x1000 + n / 0x40 % 0x40 * 0x40 + n % 0x40 = n := by omega
    have hsecond := isSecond_of_isTail (b := (0xE0 + n / 0x1000).toUInt8) (his (n / 0x40))
      (by rw [hb, htail]; omega) (by rw [hb, htail]; omega) (by rw [hb, htail]; omega)
      (by rw [hb, htail]; omega)
    refine ⟨_, _ :: _ :: rest, rfl, ?_⟩
    rw [firstUnit_three (by omega) (by omega) hsecond (his n), hb, htail, htail,
      Nat.add_sub_cancel_left, Nat.add_sub_cancel_left, Nat.add_sub_cancel_left, hn, hc]
  · have hb : (0xF0 + n / 0x40000).toUInt8.toNat = 0xF0 + n / 0x40000 := toNat_toUInt8 (by omega)
    have hn : n / 0x40000 * 0x40000 + n / 0x1000 % 0x40 * 0x1000 + n / 0x40 % 0x40 * 0x40 +
        n % 0x40 = n := by omega
    have hsecond := isSecond_of_isTail (b := (0xF0 + n / 0x40000).toUInt8) (his (n / 0x1000))
      (by rw [hb, htail]; omega) (by rw [hb, htail]; omega) (by rw [hb, htail]; omega)
      (by rw [hb, htail]; omega)
    refine ⟨_, _ :: _ :: _ :: rest, rfl, ?_⟩
    rw [firstUnit_four (by omega) (by omega) hsecond (his (n / 0x40)) (his n), hb, htail, htail,
      htail, Nat.add_sub_cancel_left, Nat.add_sub_cancel_left, Nat.add_sub_cancel_left,
      Nat.add_sub_cancel_left, hn, hc]

theorem decodeFrom_flatMap_encodeChar (cs : List Char) : ∀ index,
    decodeFrom index (cs.flatMap encodeChar) = .ok cs := by
  induction cs with
  | nil =>
    intro index
    rw [List.flatMap_nil, decodeFrom]
  | cons c cs ih =>
    intro index
    obtain ⟨b, bs, hbytes, hfirst⟩ := firstUnit_encodeChar c (cs.flatMap encodeChar)
    rw [List.flatMap_cons, hbytes, decodeFrom]
    split
    · rename_i hread
      rw [hfirst] at hread
      cases hread
      rw [ih]
      rfl
    · rename_i hread
      rw [hfirst] at hread
      cases hread
    · rename_i hread
      rw [hfirst] at hread
      cases hread

/-- Encoded text is read as the text. -/
theorem decode_encode (s : String) : decode (encode s) = .ok s := by
  rw [decode, encode, decodeFrom_flatMap_encodeChar, Except.map, String.ofList_toList]

end IdentityTypes.Text
