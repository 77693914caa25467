import Mathlib
import GrammarLoader.Text.Utf8

/-! # UTF-8 bytes of strings

`Text.Utf8.encode` is the byte list of a string, character by character. Two facts
about it carry the rest of the library's proofs. Comparing two strings byte by byte in
their UTF-8 form gives the same answer as comparing them character by character, as
`String`'s `<` does: the encoding sends a smaller code point to a smaller lead byte
when the lengths of the two sequences differ, and to a smaller run of six-bit digits
when they agree. And `Text.Utf8.decode` reads every encoded string back: each
sequence the encoder writes passes the decoder's checks on lead and continuation
bytes, overlong forms and surrogates, and its bits reassemble the code point.
-/

namespace GrammarLoader.Text.Utf8

theorem toList_loop (bs : ByteArray) (i : Nat) (r : List UInt8) (h : i ≤ bs.size) :
    ByteArray.toList.loop bs i r = r.reverse ++ bs.data.toList.drop i := by
  fun_induction ByteArray.toList.loop bs i r with
  | case1 i r hi ih =>
      rw [ih (by omega)]
      have hi' : i < bs.data.toList.length := by simpa [← ByteArray.size_data] using hi
      simp only [List.reverse_cons, List.append_assoc, List.singleton_append]
      congr 1
      rw [List.drop_eq_getElem_cons hi']
      cases bs with
      | mk data =>
          have hd : i < data.size := hi
          simp [ByteArray.get!, getElem!_pos data i hd]
  | case2 i r hi =>
      have past : bs.data.toList.length ≤ i := by simpa [← ByteArray.size_data] using hi
      rw [List.drop_of_length_le past, List.append_nil]

/-- The bytes of a string are its characters' sequences, one after another. -/
theorem encode_eq_flatMap (s : String) :
    encode s = s.toList.flatMap String.utf8EncodeChar := by
  rw [encode, ByteArray.toList, toList_loop _ _ _ (Nat.zero_le _)]
  simp [← String.utf8Encode_toList, List.utf8Encode]

/-- A code point is below the surrogates, or above them and below `0x110000`. -/
theorem val_toNat_valid (c : Char) :
    c.val.toNat < 0xd800 ∨ 0xdfff < c.val.toNat ∧ c.val.toNat < 0x110000 := by
  have h := c.valid
  simp only [UInt32.isValidChar, Nat.isValidChar] at h
  exact h

private theorem div_4096 (v : Nat) : v / 4096 = v / 64 / 64 := by
  rw [Nat.div_div_eq_div_mul]

private theorem div_262144 (v : Nat) : v / 262144 = v / 64 / 64 / 64 := by
  rw [Nat.div_div_eq_div_mul, Nat.div_div_eq_div_mul]

/-- The sequence of a smaller code point is smaller, and neither is a prefix of the
other, so whatever follows them does not matter. -/
theorem utf8EncodeChar_append_lt {c d : Char} (h : c < d) (X Y : List UInt8) :
    String.utf8EncodeChar c ++ X < String.utf8EncodeChar d ++ Y := by
  have hcd : c.val.toNat < d.val.toNat := h
  have hc := val_toNat_valid c
  have hd := val_toNat_valid d
  -- the digits of a four-byte sequence are nested quotients; omega needs them as one
  -- chain of divisions by 64
  simp only [String.utf8EncodeChar, div_4096, div_262144]
  split_ifs <;> by_cases hXY : X < Y <;>
    simp only [List.cons_append, List.nil_append, List.cons_lt_cons_iff, UInt8.lt_iff_toNat_lt,
      ← UInt8.toNat_inj, UInt8.toNat_ofNat', hXY, and_true, and_false, or_false] <;> omega

theorem append_lt_append_left_iff (L : List UInt8) {A B : List UInt8} :
    L ++ A < L ++ B ↔ A < B := by
  induction L with
  | nil => rfl
  | cons b L ih => simpa using ih

theorem flatMap_lt_flatMap_iff (l m : List Char) :
    l.flatMap String.utf8EncodeChar < m.flatMap String.utf8EncodeChar ↔ l < m := by
  induction l generalizing m with
  | nil =>
      cases m with
      | nil => simp
      | cons d m =>
          have hd : String.utf8EncodeChar d ≠ [] := String.utf8EncodeChar_ne_nil
          obtain ⟨b, bs, hb⟩ := List.exists_cons_of_ne_nil hd
          simp [hb]
  | cons c l ih =>
      cases m with
      | nil =>
          simp
      | cons d m =>
          simp only [List.flatMap_cons]
          rcases Nat.lt_trichotomy c.val.toNat d.val.toNat with hlt | heq | hgt
          · have hlt : c < d := UInt32.lt_iff_toNat_lt.mpr hlt
            exact iff_of_true (utf8EncodeChar_append_lt hlt _ _) (List.cons_lt_cons_iff.mpr (.inl hlt))
          · obtain rfl : c = d := Char.ext (UInt32.toNat_inj.mp heq)
            rw [append_lt_append_left_iff, ih, List.cons_lt_cons_self]
          · have hgt : d < c := UInt32.lt_iff_toNat_lt.mpr hgt
            refine iff_of_false (List.lt_asymm (utf8EncodeChar_append_lt hgt _ _)) ?_
            exact List.lt_asymm (List.cons_lt_cons_iff.mpr (.inl hgt))

/-- Byte order on the UTF-8 forms of two strings is the strings' own order. -/
theorem encode_lt_encode_iff (s t : String) : encode s < encode t ↔ s < t := by
  rw [encode_eq_flatMap, encode_eq_flatMap]
  exact flatMap_lt_flatMap_iff s.toList t.toList

/-! ## Decoding encoded text -/

theorem low6_eq (b : UInt8) : low6 b = b.toNat % 64 := by
  simp only [low6, UInt8.toNat_and]
  exact Nat.and_two_pow_sub_one_eq_mod b.toNat 6

theorem toNat_and_eq_mod (b : UInt8) (k : Nat) (hk : k ≤ 8) :
    (b &&& UInt8.ofNat (2 ^ k - 1)).toNat = b.toNat % 2 ^ k := by
  rw [UInt8.toNat_and, UInt8.toNat_ofNat', Nat.mod_eq_of_lt (by
    have : 2 ^ k ≤ 2 ^ 8 := Nat.pow_le_pow_right (by omega) hk
    omega)]
  exact Nat.and_two_pow_sub_one_eq_mod b.toNat k

set_option maxRecDepth 2000 in
private theorem and_192_iff : ∀ n < 256, (n &&& 192 = 128 ↔ n / 64 = 2) := by decide

theorem isCont_iff (b : UInt8) : isCont b = true ↔ b.toNat / 64 = 2 := by
  simp only [isCont, beq_iff_eq, ← UInt8.toNat_inj, UInt8.toNat_and, UInt8.reduceToNat]
  exact and_192_iff b.toNat b.toNat_lt

theorem decodeFrom_one {b0 : UInt8} (pos : Nat) (rest : List UInt8) (h0 : b0.toNat < 0x80) :
    decodeFrom pos (b0 :: rest) = (decodeFrom (pos + 1) rest).map (Char.ofNat b0.toNat :: ·) := by
  rw [decodeFrom.eq_def]
  simp only [UInt8.lt_iff_toNat_lt, UInt8.reduceToNat]
  rw [if_pos h0]

theorem decodeFrom_two {b0 b1 : UInt8} (pos : Nat) (rest : List UInt8)
    (h0 : 0xC2 ≤ b0.toNat ∧ b0.toNat ≤ 0xDF) (h1 : b1.toNat / 64 = 2) :
    decodeFrom pos (b0 :: b1 :: rest) =
      (decodeFrom (pos + 2) rest).map (Char.ofNat (b0.toNat % 32 * 64 + b1.toNat % 64) :: ·) := by
  have hb1 : isCont b1 = true := (isCont_iff b1).mpr h1
  have hlow : (b0 &&& 0x1F).toNat = b0.toNat % 32 := toNat_and_eq_mod b0 5 (by omega)
  rw [decodeFrom.eq_def]
  simp only [UInt8.lt_iff_toNat_lt, UInt8.le_iff_toNat_le, UInt8.reduceToNat, hb1, hlow, low6_eq]
  rw [if_neg (by omega), if_pos (by simp; omega)]
  simp

theorem decodeFrom_three {b0 b1 b2 : UInt8} (pos : Nat) (rest : List UInt8)
    (h0 : 0xE0 ≤ b0.toNat ∧ b0.toNat ≤ 0xEF) (h1 : secondOf3Ok b0 b1 = true)
    (h2 : b2.toNat / 64 = 2) :
    decodeFrom pos (b0 :: b1 :: b2 :: rest) =
      (decodeFrom (pos + 3) rest).map
        (Char.ofNat (b0.toNat % 16 * 4096 + b1.toNat % 64 * 64 + b2.toNat % 64) :: ·) := by
  have hb2 : isCont b2 = true := (isCont_iff b2).mpr h2
  have hlow : (b0 &&& 0x0F).toNat = b0.toNat % 16 := toNat_and_eq_mod b0 4 (by omega)
  rw [decodeFrom.eq_def]
  simp only [UInt8.lt_iff_toNat_lt, UInt8.le_iff_toNat_le, UInt8.reduceToNat, h1, hb2, hlow, low6_eq]
  rw [if_neg (by omega), if_neg (by simp; omega), if_pos (by simp; omega)]
  simp

theorem decodeFrom_four {b0 b1 b2 b3 : UInt8} (pos : Nat) (rest : List UInt8)
    (h0 : 0xF0 ≤ b0.toNat ∧ b0.toNat ≤ 0xF4) (h1 : secondOf4Ok b0 b1 = true)
    (h2 : b2.toNat / 64 = 2) (h3 : b3.toNat / 64 = 2) :
    decodeFrom pos (b0 :: b1 :: b2 :: b3 :: rest) =
      (decodeFrom (pos + 4) rest).map
        (Char.ofNat (b0.toNat % 8 * 262144 + b1.toNat % 64 * 4096 + b2.toNat % 64 * 64 +
          b3.toNat % 64) :: ·) := by
  have hb2 : isCont b2 = true := (isCont_iff b2).mpr h2
  have hb3 : isCont b3 = true := (isCont_iff b3).mpr h3
  have hlow : (b0 &&& 0x07).toNat = b0.toNat % 8 := toNat_and_eq_mod b0 3 (by omega)
  rw [decodeFrom.eq_def]
  simp only [UInt8.lt_iff_toNat_lt, UInt8.le_iff_toNat_le, UInt8.reduceToNat, h1, hb2, hb3, hlow,
    low6_eq]
  rw [if_neg (by omega), if_neg (by simp; omega), if_neg (by simp; omega), if_pos (by simp; omega)]
  simp

theorem secondOf3Ok_iff (b0 b1 : UInt8) :
    secondOf3Ok b0 b1 = true ↔
      if b0.toNat = 0xE0 then 0xA0 ≤ b1.toNat ∧ b1.toNat ≤ 0xBF
      else if b0.toNat = 0xED then 0x80 ≤ b1.toNat ∧ b1.toNat ≤ 0x9F
      else b1.toNat / 64 = 2 := by
  simp only [secondOf3Ok, beq_iff_eq, ← UInt8.toNat_inj, UInt8.reduceToNat, UInt8.le_iff_toNat_le]
  split_ifs <;> simp [isCont_iff]

theorem secondOf4Ok_iff (b0 b1 : UInt8) :
    secondOf4Ok b0 b1 = true ↔
      if b0.toNat = 0xF0 then 0x90 ≤ b1.toNat ∧ b1.toNat ≤ 0xBF
      else if b0.toNat = 0xF4 then 0x80 ≤ b1.toNat ∧ b1.toNat ≤ 0x8F
      else b1.toNat / 64 = 2 := by
  simp only [secondOf4Ok, beq_iff_eq, ← UInt8.toNat_inj, UInt8.reduceToNat, UInt8.le_iff_toNat_le]
  split_ifs <;> simp [isCont_iff]

/-- Decoding reads a character's own sequence back as that character. -/
theorem decodeFrom_utf8EncodeChar (pos : Nat) (c : Char) (rest : List UInt8) :
    decodeFrom pos (String.utf8EncodeChar c ++ rest) =
      (decodeFrom (pos + (String.utf8EncodeChar c).length) rest).map (c :: ·) := by
  have hc := val_toNat_valid c
  have back : ∀ n, n = c.val.toNat → Char.ofNat n = c := by
    rintro n rfl
    exact Char.ofNat_toNat c
  simp only [String.utf8EncodeChar, div_4096, div_262144]
  split_ifs with h1 h2 h3 <;> simp only [List.cons_append, List.nil_append]
  · rw [decodeFrom_one pos rest (by simp only [UInt8.toNat_ofNat']; omega),
      back _ (by simp only [UInt8.toNat_ofNat']; omega)]
    rfl
  · rw [decodeFrom_two pos rest (by simp only [UInt8.toNat_ofNat']; omega)
        (by simp only [UInt8.toNat_ofNat']; omega),
      back _ (by simp only [UInt8.toNat_ofNat']; omega)]
    rfl
  · rw [decodeFrom_three pos rest (by simp only [UInt8.toNat_ofNat']; omega) ?second3
        (by simp only [UInt8.toNat_ofNat']; omega),
      back _ (by simp only [UInt8.toNat_ofNat']; omega)]
    · rfl
    · rw [secondOf3Ok_iff]
      simp only [UInt8.toNat_ofNat']
      split_ifs <;> omega
  · rw [decodeFrom_four pos rest (by simp only [UInt8.toNat_ofNat']; omega) ?second4
        (by simp only [UInt8.toNat_ofNat']; omega) (by simp only [UInt8.toNat_ofNat']; omega),
      back _ (by simp only [UInt8.toNat_ofNat']; omega)]
    · rfl
    · rw [secondOf4Ok_iff]
      simp only [UInt8.toNat_ofNat']
      split_ifs <;> omega

theorem decodeFrom_flatMap (pos : Nat) (cs : List Char) :
    decodeFrom pos (cs.flatMap String.utf8EncodeChar) = .ok cs := by
  induction cs generalizing pos with
  | nil => rfl
  | cons c cs ih =>
      rw [List.flatMap_cons, decodeFrom_utf8EncodeChar, ih]
      rfl

/-- A string's bytes decode to the string. -/
theorem decode_encode (s : String) : decode (encode s) = .ok s := by
  rw [decode, encode_eq_flatMap, decodeFrom_flatMap]
  simp [Except.map]

end GrammarLoader.Text.Utf8
