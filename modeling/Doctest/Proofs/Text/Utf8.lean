/-
# What is encoded is read back

| code point | first byte | bits of the code point | row of the table |
| --- | --- | --- | --- |
| to `7F` | all of it | 7 | one byte |
| to `7FF` | `C0` and the bits from 6 on | 5 and 6 | two bytes |
| to `FFFF` | `E0` and the bits from 12 on | 4, 6 and 6 | three bytes, by first byte |
| to `10FFFF` | `F0` and the bits from 18 on | 3, 6, 6 and 6 | four bytes, by first byte |

So the reader takes exactly the sequence of one character (`takeChar_encodeChar`), and a text is
what the lenient reader makes of its bytes (`decodeLenient_encode`): a path that encodes a text is
shown as that text.
-/

import Doctest.Path

namespace Doctest
namespace Text

theorem toNat_ofNat {v : Nat} (h : v < 256) : (UInt8.ofNat v).toNat = v := by
  rw [UInt8.toNat_ofNat', Nat.mod_eq_of_lt h]

theorem takeFollowing_cons {n lo hi code v : Nat} (hlo : lo ≤ v) (hhi : v ≤ hi) (hv : v < 256)
    {bs : Bytes} {t : Taken}
    (ht : takeFollowing n 0x80 0xbf (code * 64 + (v - 0x80)) bs = t) :
    takeFollowing (n + 1) lo hi code (.ofNat v :: bs) = ⟨t.char?, t.count + 1⟩ := by
  rw [takeFollowing, toNat_ofNat hv, if_pos ⟨hlo, hhi⟩, ht]

theorem takeChar_of_ofByte? {v n lo hi bits : Nat} (hv : v < 256)
    (hl : Lead.ofByte? v = some ⟨n, lo, hi, bits⟩) (bs : Bytes) :
    takeChar (.ofNat v) bs = takeFollowing n lo hi bits bs := by
  rw [takeChar, toNat_ofNat hv, hl]

/-- The row of the table for a sequence of three bytes, and that it lets the second one through. -/
theorem exists_ofByte?_three {v : Nat} (hlo : 0x7ff < v) (hhi : v ≤ 0xffff)
    (hvalid : v < 0xd800 ∨ 0xdfff < v) :
    ∃ lo hi, Lead.ofByte? (v / 4096 % 16 + 224) = some ⟨2, lo, hi, v / 4096⟩ ∧
      lo ≤ v / 64 % 64 + 128 ∧ v / 64 % 64 + 128 ≤ hi := by
  unfold Lead.ofByte?
  rcases (by omega : v / 4096 = 0 ∨ v / 4096 = 0xd ∨
      0 < v / 4096 ∧ v / 4096 < 16 ∧ v / 4096 ≠ 0xd) with h | h | ⟨h, h', h''⟩
  · exact ⟨0xa0, 0xbf, by simp [h], by omega, by omega⟩
  · exact ⟨0x80, 0x9f, by simp [h], by omega, by omega⟩
  · refine ⟨0x80, 0xbf, ?_, by omega, by omega⟩
    rw [if_neg (by omega), if_neg (by omega), if_neg (by omega), if_neg (by omega),
      if_pos (by omega)]
    simp only [Option.some.injEq, Lead.mk.injEq, true_and]
    omega

/-- The row of the table for a sequence of four bytes, and that it lets the second one through. -/
theorem exists_ofByte?_four {v : Nat} (hlo : 0xffff < v) (hhi : v < 0x110000) :
    ∃ lo hi, Lead.ofByte? (v / 262144 % 8 + 240) = some ⟨3, lo, hi, v / 262144⟩ ∧
      lo ≤ v / 4096 % 64 + 128 ∧ v / 4096 % 64 + 128 ≤ hi := by
  unfold Lead.ofByte?
  rcases (by omega : v / 262144 = 0 ∨ v / 262144 = 4 ∨
      0 < v / 262144 ∧ v / 262144 < 4) with h | h | ⟨h, h'⟩
  · exact ⟨0x90, 0xbf, by simp [h], by omega, by omega⟩
  · exact ⟨0x80, 0x8f, by simp [h], by omega, by omega⟩
  · refine ⟨0x80, 0xbf, ?_, by omega, by omega⟩
    rw [if_neg (by omega), if_neg (by omega), if_neg (by omega), if_neg (by omega),
      if_neg (by omega), if_neg (by omega), if_pos (by omega)]
    simp only [Option.some.injEq, Lead.mk.injEq, true_and]
    omega

/-- **The sequence of a character is taken, and nothing after it.** -/
theorem takeChar_encodeChar (c : Char) (rest : Bytes) :
    ∃ b bs, String.utf8EncodeChar c = b :: bs ∧ takeChar b (bs ++ rest) = ⟨some c, bs.length⟩ := by
  have hvalid : c.val.toNat < 0xd800 ∨ 0xdfff < c.val.toNat ∧ c.val.toNat < 0x110000 := c.valid
  have hchar : ∀ v, v = c.val.toNat → takeFollowing 0 0x80 0xbf v rest = ⟨some c, 0⟩ := by
    rintro _ rfl
    exact congrArg (Taken.mk · 0) (congrArg some (Char.ofNat_toNat c))
  unfold String.utf8EncodeChar
  generalize c.val.toNat = v at hvalid hchar ⊢
  dsimp only
  -- The code point is put together again from its groups of six bits.
  split
  · rename_i h1
    exact ⟨_, _, rfl, (takeChar_of_ofByte? (by omega) (if_pos h1) _).trans (hchar v rfl)⟩
  split
  · rename_i h1 h2
    have hl : Lead.ofByte? (v / 64 % 32 + 192) =
        some ⟨1, 0x80, 0xbf, v / 64 % 32 + 192 - 0xc0⟩ := by
      rw [Lead.ofByte?, if_neg (by omega), if_pos (by omega)]
    exact ⟨_, _, rfl, (takeChar_of_ofByte? (by omega) hl _).trans
      (takeFollowing_cons (by omega) (by omega) (by omega) (hchar _ (by omega)))⟩
  split
  · rename_i h1 h2 h3
    obtain ⟨lo, hi, hl, hlo, hhi⟩ := exists_ofByte?_three (by omega) h3 (by omega)
    exact ⟨_, _, rfl, (takeChar_of_ofByte? (by omega) hl _).trans
      (takeFollowing_cons hlo hhi (by omega)
        (takeFollowing_cons (by omega) (by omega) (by omega) (hchar _ (by omega))))⟩
  · rename_i h1 h2 h3
    obtain ⟨lo, hi, hl, hlo, hhi⟩ := exists_ofByte?_four (v := v) (by omega) (by omega)
    exact ⟨_, _, rfl, (takeChar_of_ofByte? (by omega) hl _).trans
      (takeFollowing_cons hlo hhi (by omega)
        (takeFollowing_cons (by omega) (by omega) (by omega)
          (takeFollowing_cons (by omega) (by omega) (by omega) (hchar _ (by omega)))))⟩

/-- **A text is what its bytes are read as.** -/
theorem decodeLenient_encode (t : Text) : decodeLenient (encode t) = t := by
  induction t with
  | nil => rw [encode, List.flatMap_nil, decodeLenient]
  | cons c t ih =>
    obtain ⟨b, bs, hbytes, htake⟩ := takeChar_encodeChar c (encode t)
    have hencode : encode (c :: t) = b :: (bs ++ encode t) := by
      rw [encode, List.flatMap_cons, hbytes]
      rfl
    rw [hencode, decodeLenient, htake, List.drop_left, ih]
    rfl

end Text

namespace Path

/-- **A path that encodes a text is shown as that text.** -/
@[simp] theorem display_ofText (t : Text) : display (ofText t) = t := Text.decodeLenient_encode t

end Path
end Doctest
