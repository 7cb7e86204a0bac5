import RefNav.Text.Utf8

/-! # Bytes of texts

The bytes of a text are those in which a string is kept, so a text can be told
from its bytes.
-/

namespace RefNav.Text.Utf8

theorem encodeChar_eq_utf8EncodeChar (c : Char) : encodeChar c = String.utf8EncodeChar c := by
  have bound : c.toNat < 0x110000 := by
    rcases c.valid with low | ⟨_, high⟩
    · exact Nat.lt_trans low (by decide)
    · exact high
  have value : c.val.toNat = c.toNat := rfl
  have two : c.toNat < 0x800 → c.toNat / 64 % 32 = c.toNat / 64 := by omega
  have three : c.toNat < 0x10000 → c.toNat / 4096 % 16 = c.toNat / 4096 := by omega
  have four : c.toNat / 262144 % 8 = c.toNat / 262144 := by omega
  simp only [encodeChar, String.utf8EncodeChar, value, Nat.add_comm 0x80, Nat.add_comm 0xC0,
    Nat.add_comm 0xE0, Nat.add_comm 0xF0]
  split
  next small => rw [if_pos (by omega)]
  split
  next small => rw [if_neg (by omega), if_pos (by omega), two small]
  split
  next small => rw [if_neg (by omega), if_neg (by omega), if_pos (by omega), three small]
  next => rw [if_neg (by omega), if_neg (by omega), if_neg (by omega), four]

/-- The bytes of a string are those that it is kept in. -/
theorem encode_toList (s : String) : encode s.toList = s.toUTF8.data.toList := by
  have bytes : s.toUTF8 = s.toList.utf8Encode := by
    rw [String.toUTF8_eq_toByteArray, ← String.toByteArray_ofList, String.ofList_toList]
  rw [bytes, List.utf8Encode, List.data_toByteArray, encode, funext encodeChar_eq_utf8EncodeChar]

theorem encode_toList_inj {s t : String} : encode s.toList = encode t.toList ↔ s = t := by
  constructor
  · intro same
    rw [encode_toList, encode_toList] at same
    apply String.toByteArray_inj.mp
    exact ByteArray.ext (Array.ext' same)
  · rintro rfl
    rfl

end RefNav.Text.Utf8
