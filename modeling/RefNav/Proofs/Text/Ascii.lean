import RefNav.Proofs.Text.Lines
import RefNav.Text.Utf8

/-! # ASCII texts

A text of ASCII characters is stored one byte a character and read back as it was, and without
carriage returns its line breaks stay as they are.
-/

namespace RefNav.Text

namespace Utf8

theorem encodeChar_ascii {c : Char} (h : c.toNat < 0x80) :
    encodeChar c = [UInt8.ofNat c.toNat] := by
  simp [encodeChar, h]

theorem step_ascii {c : Char} (h : c.toNat < 0x80) (rest : List UInt8) :
    step (UInt8.ofNat c.toNat) rest = .char c 1 := by
  have byte : (UInt8.ofNat c.toNat).toNat = c.toNat := by
    rw [UInt8.toNat_ofNat']
    omega
  simp [step, byte, continuations?, h, leadBits, continueWith, Char.ofNat_toNat]

theorem steps_encode_ascii {cs : List Char} (h : ∀ c ∈ cs, c.toNat < 0x80) :
    steps 0 (encode cs) = cs.map fun c => .char c 1 := by
  induction cs with
  | nil => rfl
  | cons c cs ih =>
      have here := h c List.mem_cons_self
      have later := ih fun d hd => h d (List.mem_cons_of_mem c hd)
      have split : encode (c :: cs) = UInt8.ofNat c.toNat :: encode cs := by
        simp [encode, encodeChar_ascii here]
      rw [split, steps, step_ascii here, List.map_cons, ← later]
      rfl

theorem collect_chars (position : Nat) (cs : List Char) :
    collect position (cs.map fun c => .char c 1) = .ok cs := by
  induction cs generalizing position with
  | nil => rfl
  | cons c cs ih =>
      rw [List.map_cons, collect, ih]
      rfl

/-- A text of ASCII characters is read back from its bytes. -/
theorem decodeStrict_encode_ascii {cs : List Char} (h : ∀ c ∈ cs, c.toNat < 0x80) :
    decodeStrict (encode cs) = .ok cs := by
  rw [decodeStrict, steps_encode_ascii h, collect_chars]

end Utf8

theorem unifyBreaks_eq_self {cs : List Char} (h : '\r' ∉ cs) : unifyBreaks cs = cs := by
  fun_induction unifyBreaks cs with
  | case1 => rfl
  | case2 rest ih => simp at h
  | case3 rest _ ih => simp at h
  | case4 c rest _ _ ih =>
      rw [ih fun later => h (List.mem_cons_of_mem c later)]

end RefNav.Text
