import LayoutQuery.Text.Utf8
import Mathlib.Data.List.Basic
import Mathlib.Tactic.SplitIfs

/-! # Encoding and decoding
A text comes back from its bytes. Each lead byte decides how many bytes are taken, and the bytes of
one character are taken as that character whatever follows them. -/
namespace LayoutQuery.Text

variable {a b c d : UInt8} {n offset : Nat} {rest : List UInt8}

theorem isContinuation_iff : isContinuation b = true ↔ 0x80 ≤ b.toNat ∧ b.toNat < 0xC0 := by
  simp [isContinuation, UInt8.le_iff_toNat_le, UInt8.lt_iff_toNat_lt]

theorem isSecond_iff : isSecond a b = true ↔ (0x80 ≤ b.toNat ∧ b.toNat < 0xC0) ∧
    (a.toNat = 0xE0 → 0xA0 ≤ b.toNat) ∧ (a.toNat = 0xED → b.toNat < 0xA0) ∧
    (a.toNat = 0xF0 → 0x90 ≤ b.toNat) ∧ (a.toNat = 0xF4 → b.toNat < 0x90) := by
  simp only [isSecond, Bool.and_eq_true, isContinuation_iff, Bool.not_eq_true',
    Bool.and_eq_false_iff, beq_eq_false_iff_ne, ne_eq, ← UInt8.toNat_inj,
    decide_eq_false_iff_not, UInt8.le_iff_toNat_le, UInt8.lt_iff_toNat_lt, UInt8.reduceToNat]
  omega

/-! ## How many bytes a lead byte takes -/

theorem decodeFrom_one (ha : a.toNat < 0x80) :
    decodeFrom offset (a :: rest) =
      (Char.ofNat a.toNat :: ·) <$> decodeFrom (offset + 1) rest := by
  have hone : a < 0x80 := UInt8.lt_iff_toNat_lt.mpr ha
  rw [decodeFrom.eq_def]
  simp only [hone, if_true]

/-- A lead byte of more than one byte. -/
theorem not_single (ha : 0xC2 ≤ a.toNat) (ha' : a.toNat < 0xF5) :
    ¬ a < 0x80 ∧ (decide (a < 0xC2) || decide (0xF5 ≤ a)) = false := by
  simp only [UInt8.lt_iff_toNat_lt, UInt8.le_iff_toNat_le, UInt8.reduceToNat, Bool.or_eq_false_iff,
    decide_eq_false_iff_not]
  omega

theorem decodeFrom_two (ha : 0xC2 ≤ a.toNat) (ha' : a.toNat < 0xE0) (hb : isSecond a b = true) :
    decodeFrom offset (a :: b :: rest) =
      (assemble (a.toNat - 0xC0) [b] :: ·) <$> decodeFrom (offset + 2) rest := by
  obtain ⟨hone, hlead⟩ := not_single ha (by omega)
  have htwo : a < 0xE0 := UInt8.lt_iff_toNat_lt.mpr ha'
  rw [decodeFrom.eq_def]
  simp [hone, hlead, hb, htwo]

theorem decodeFrom_three (ha : 0xE0 ≤ a.toNat) (ha' : a.toNat < 0xF0) (hb : isSecond a b = true)
    (hc : isContinuation c = true) :
    decodeFrom offset (a :: b :: c :: rest) =
      (assemble (a.toNat - 0xE0) [b, c] :: ·) <$> decodeFrom (offset + 3) rest := by
  obtain ⟨hone, hlead⟩ := not_single (a := a) (by omega) (by omega)
  have htwo : ¬ a < 0xE0 := by
    rw [UInt8.lt_iff_toNat_lt]
    exact Nat.not_lt.mpr ha
  have hthree : a < 0xF0 := UInt8.lt_iff_toNat_lt.mpr ha'
  rw [decodeFrom.eq_def]
  simp [hone, hlead, hb, htwo, hc, hthree]

theorem decodeFrom_four (ha : 0xF0 ≤ a.toNat) (ha' : a.toNat < 0xF5) (hb : isSecond a b = true)
    (hc : isContinuation c = true) (hd : isContinuation d = true) :
    decodeFrom offset (a :: b :: c :: d :: rest) =
      (assemble (a.toNat - 0xF0) [b, c, d] :: ·) <$> decodeFrom (offset + 4) rest := by
  obtain ⟨hone, hlead⟩ := not_single (a := a) (by omega) ha'
  have hthree : ¬ a < 0xF0 := by
    rw [UInt8.lt_iff_toNat_lt]
    exact Nat.not_lt.mpr ha
  have htwo : ¬ a < 0xE0 := by
    rw [UInt8.lt_iff_toNat_lt]
    exact Nat.not_lt.mpr (by simp only [UInt8.reduceToNat]; omega)
  rw [decodeFrom.eq_def]
  simp [hone, hlead, hb, htwo, hc, hthree, hd]

/-! ## Encoding and back -/

theorem toNat_byte (h : n < 256) : (UInt8.ofNat n).toNat = n :=
  UInt8.toNat_ofNat_of_lt' h

theorem toNat_tail (n : Nat) : (UInt8.ofNat (0x80 + n % 64)).toNat = 0x80 + n % 64 :=
  toNat_byte (by omega)

theorem isContinuation_tail (n : Nat) : isContinuation (UInt8.ofNat (0x80 + n % 64)) = true := by
  rw [isContinuation_iff, toNat_tail]
  omega

theorem char_range (c : Char) :
    c.toNat < 0xD800 ∨ 0xDFFF < c.toNat ∧ c.toNat < 0x110000 := c.valid

theorem assemble_eq {lead : Nat} {tail : List UInt8} {c : Char}
    (h : tail.foldl (fun n b => 64 * n + (b.toNat - 0x80)) lead = c.toNat) :
    assemble lead tail = c := by
  rw [assemble, h, Char.ofNat_toNat]

/-- The bytes of a character are read as that character, whatever follows them. -/
theorem decodeFrom_encodeChar (c : Char) (offset : Nat) (rest : List UInt8) :
    decodeFrom offset (encodeChar c ++ rest) =
      (c :: ·) <$> decodeFrom (offset + (encodeChar c).length) rest := by
  have hrange := char_range c
  simp only [encodeChar]
  split_ifs with hone htwo hthree
  · have ha : (UInt8.ofNat c.toNat).toNat = c.toNat := toNat_byte (by omega)
    rw [List.singleton_append, decodeFrom_one (by rwa [ha]), ha, Char.ofNat_toNat]
    rfl
  · have ha : (UInt8.ofNat (0xC0 + c.toNat / 64)).toNat = 0xC0 + c.toNat / 64 :=
      toNat_byte (by omega)
    have hb : isSecond (UInt8.ofNat (0xC0 + c.toNat / 64)) (UInt8.ofNat (0x80 + c.toNat % 64)) =
        true := by
      rw [isSecond_iff, ha, toNat_tail]
      omega
    have hvalue : assemble (0xC0 + c.toNat / 64 - 0xC0) [UInt8.ofNat (0x80 + c.toNat % 64)] = c := by
      apply assemble_eq
      simp only [List.foldl, toNat_tail]
      omega
    rw [List.cons_append, List.singleton_append, decodeFrom_two (by omega) (by omega) hb, ha, hvalue]
    rfl
  · have ha : (UInt8.ofNat (0xE0 + c.toNat / 4096)).toNat = 0xE0 + c.toNat / 4096 :=
      toNat_byte (by omega)
    have hb : isSecond (UInt8.ofNat (0xE0 + c.toNat / 4096))
        (UInt8.ofNat (0x80 + c.toNat / 64 % 64)) = true := by
      rw [isSecond_iff, ha, toNat_tail]
      omega
    have hvalue : assemble (0xE0 + c.toNat / 4096 - 0xE0)
        [UInt8.ofNat (0x80 + c.toNat / 64 % 64), UInt8.ofNat (0x80 + c.toNat % 64)] = c := by
      apply assemble_eq
      simp only [List.foldl, toNat_tail]
      omega
    rw [List.cons_append, List.cons_append, List.singleton_append,
      decodeFrom_three (by omega) (by omega) hb (isContinuation_tail _), ha, hvalue]
    rfl
  · have ha : (UInt8.ofNat (0xF0 + c.toNat / 262144)).toNat = 0xF0 + c.toNat / 262144 :=
      toNat_byte (by omega)
    have hb : isSecond (UInt8.ofNat (0xF0 + c.toNat / 262144))
        (UInt8.ofNat (0x80 + c.toNat / 4096 % 64)) = true := by
      rw [isSecond_iff, ha, toNat_tail]
      omega
    have hvalue : assemble (0xF0 + c.toNat / 262144 - 0xF0)
        [UInt8.ofNat (0x80 + c.toNat / 4096 % 64), UInt8.ofNat (0x80 + c.toNat / 64 % 64),
          UInt8.ofNat (0x80 + c.toNat % 64)] = c := by
      apply assemble_eq
      simp only [List.foldl, toNat_tail]
      omega
    rw [List.cons_append, List.cons_append, List.cons_append, List.singleton_append,
      decodeFrom_four (by omega) (by omega) hb (isContinuation_tail _) (isContinuation_tail _), ha,
      hvalue]
    rfl

theorem decodeFrom_encode (cs : List Char) (offset : Nat) :
    decodeFrom offset (encode cs) = .ok cs := by
  induction cs generalizing offset with
  | nil => rfl
  | cons c cs ih =>
    rw [encode, List.flatMap_cons, decodeFrom_encodeChar, ← encode, ih]
    rfl

theorem decode_encode (cs : List Char) : decode (encode cs) = .ok cs := decodeFrom_encode cs 0

/-- The bytes are those that strings have anyway. -/
theorem encodeChar_eq (c : Char) : encodeChar c = String.utf8EncodeChar c := by
  have hrange := char_range c
  have hval : c.val.toNat = c.toNat := rfl
  simp only [encodeChar, String.utf8EncodeChar, hval]
  split_ifs <;> try omega
  · rfl
  · have hlead : c.toNat / 64 % 32 = c.toNat / 64 := Nat.mod_eq_of_lt (by omega)
    simp only [Nat.add_comm, hlead]
  · have hlead : c.toNat / 4096 % 16 = c.toNat / 4096 := Nat.mod_eq_of_lt (by omega)
    simp only [Nat.add_comm, hlead]
  · have hlead : c.toNat / 262144 % 8 = c.toNat / 262144 := Nat.mod_eq_of_lt (by omega)
    simp only [Nat.add_comm, hlead]

theorem encode_toList (s : String) : encode s.toList = s.toUTF8.data.toList := by
  have hencode : encode s.toList = s.toList.flatMap String.utf8EncodeChar :=
    List.flatMap_congr fun c _ => encodeChar_eq c
  rw [hencode, String.toUTF8, ← String.utf8Encode_toList, List.utf8Encode, List.data_toByteArray]

theorem decode_toUTF8 (s : String) : decode s.toUTF8.data.toList = .ok s.toList := by
  rw [← encode_toList, decode_encode]

end LayoutQuery.Text
