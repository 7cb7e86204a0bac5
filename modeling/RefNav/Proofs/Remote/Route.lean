import Mathlib.Computability.Language
import RefNav.Json.Reader
import RefNav.Proofs.Reference.Grammar
import RefNav.Proofs.Text.Utf8
import RefNav.Remote.Connection

/-! # Routes

The name of a namespace becomes one segment of a path.  The segment is written
with characters that mean nothing else in a URL and with escapes, and taking the
escapes back gives the bytes of the name, so that no two names share a route.
-/

namespace RefNav.Text.Percent

open RefNav.Grammar
open scoped Computability

/-! ## Reading escapes -/

/-- Take back the escapes of a text: a percent sign and two hexadecimal digits stand for a
byte, and every other character for its own bytes. -/
def decode : List Char → List UInt8
  | '%' :: a :: b :: rest =>
      match Json.hexValue? a, Json.hexValue? b with
      | some high, some low => UInt8.ofNat (16 * high + low) :: decode rest
      | _, _ => Utf8.encodeChar '%' ++ decode (a :: b :: rest)
  | c :: rest => Utf8.encodeChar c ++ decode rest
  | [] => []

/-- A character that stands for itself in every part of a URL. -/
def isPlain (c : Char) : Bool :=
  c.isAlphanum || c = '_' || c = '.' || c = '-' || c = '~'

/-- An upper-case hexadecimal digit. -/
def isUpperHex (c : Char) : Bool :=
  ('0' ≤ c && c ≤ '9') || ('A' ≤ c && c ≤ 'F')

/-- Plain characters and escapes with upper-case digits. -/
def segments : Language Char :=
  (oneOf isPlain + exactly "%" * oneOf isUpperHex * oneOf isUpperHex)∗

theorem isPlain_of_isUnreserved {c : Char} (h : isUnreserved c = true) : isPlain c = true := by
  have upper : ('A' ≤ c && c ≤ 'Z') = c.isUpper := (Bool.decide_and _ _).symm
  have letters : isLetter c = c.isAlpha := by
    rw [isLetter, upper, Bool.or_comm]
    rfl
  have both : isLetterOrDigit c = c.isAlphanum := congrArg (· || isDigit c) letters
  rwa [isPlain, ← both]

theorem isUpperHex_hexDigit {n : Nat} (h : n < 16) : isUpperHex (hexDigit n) = true := by
  have all : ∀ n < 16, isUpperHex (hexDigit n) = true := by decide
  exact all n h

theorem hexValue?_hexDigit {n : Nat} (h : n < 16) : Json.hexValue? (hexDigit n) = some n := by
  have all : ∀ n < 16, Json.hexValue? (hexDigit n) = some n := by decide
  exact all n h

/-! ## Bytes and their escapes -/

/-- A byte is kept as a plain character or written as an escape. -/
theorem encodeByte_cases (b : UInt8) :
    (∃ c, isPlain c = true ∧ Utf8.encodeChar c = [b] ∧ encodeByte (fun _ => false) b = [c]) ∨
      encodeByte (fun _ => false) b = escape b := by
  unfold encodeByte
  dsimp only
  split
  next kept =>
    simp only [Bool.or_false, Bool.and_eq_true, decide_eq_true_eq] at kept
    have code : (Char.ofNat b.toNat).toNat = b.toNat := by
      rw [Char.ofNat, dif_pos (.inl (by omega))]
      rfl
    refine .inl ⟨_, isPlain_of_isUnreserved kept.2, ?_, rfl⟩
    rw [Utf8.encodeChar, code, if_pos kept.1, UInt8.ofNat_toNat]
  next => exact .inr rfl

theorem encodeByte_mem (b : UInt8) : encodeByte (fun _ => false) b ∈
    oneOf isPlain + exactly "%" * oneOf isUpperHex * oneOf isUpperHex := by
  have small : b.toNat < 256 := b.toNat_lt
  rcases encodeByte_cases b with ⟨c, plain, _, kept⟩ | escaped
  · rw [kept]
    exact .inl ⟨c, plain, rfl⟩
  · rw [escaped]
    exact .inr ⟨_, ⟨_, rfl, _, ⟨_, isUpperHex_hexDigit (by omega), rfl⟩, rfl⟩, _,
      ⟨_, isUpperHex_hexDigit (by omega), rfl⟩, rfl⟩

theorem decode_cons {c : Char} (h : c ≠ '%') (rest : List Char) :
    decode (c :: rest) = Utf8.encodeChar c ++ decode rest := by
  rw [decode]
  rintro a b tail rfl
  exact absurd rfl h

theorem decode_encodeByte (b : UInt8) (rest : List Char) :
    decode (encodeByte (fun _ => false) b ++ rest) = b :: decode rest := by
  have small : b.toNat < 256 := b.toNat_lt
  rcases encodeByte_cases b with ⟨c, plain, bytes, kept⟩ | escaped
  · have noEscape : c ≠ '%' := by
      rintro rfl
      exact absurd plain (by decide)
    rw [kept, List.singleton_append, decode_cons noEscape, bytes, List.singleton_append]
  · have digits : 16 * (b.toNat / 16) + b.toNat % 16 = b.toNat := Nat.div_add_mod _ 16
    rw [escaped, escape, List.cons_append, List.cons_append, List.singleton_append, decode,
      hexValue?_hexDigit (by omega), hexValue?_hexDigit (by omega)]
    dsimp only
    rw [digits, UInt8.ofNat_toNat]

theorem encode_mem_segments (cs : List Char) : encode (fun _ => false) cs ∈ segments := by
  rw [segments, Language.mem_kstar]
  refine ⟨(Utf8.encode cs).map (encodeByte fun _ => false), rfl, fun part hpart => ?_⟩
  obtain ⟨b, _, rfl⟩ := List.mem_map.mp hpart
  exact encodeByte_mem b

/-- Taking the escapes back gives the bytes that were written. -/
theorem decode_encode (cs : List Char) : decode (encode (fun _ => false) cs) = Utf8.encode cs := by
  unfold encode
  induction Utf8.encode cs with
  | nil => rfl
  | cons b bytes ih => rw [List.flatMap_cons, decode_encodeByte, ih]

/-- A segment has no character of a URL's own. -/
theorem not_mem_of_mem_segments {s : List Char} {d : Char} (h : s ∈ segments)
    (plain : isPlain d = false) (hex : isUpperHex d = false) (percent : d ≠ '%') : d ∉ s := by
  obtain ⟨parts, rfl, each⟩ := Language.mem_kstar.mp h
  intro hd
  obtain ⟨part, hpart, hd⟩ := List.mem_flatten.mp hd
  rcases each part hpart with
    ⟨c, hc, rfl⟩ | ⟨_, ⟨_, rfl, _, ⟨a, ha, rfl⟩, rfl⟩, _, ⟨b, hb, rfl⟩, rfl⟩
  · rw [List.mem_singleton.mp hd, hc] at plain
    cases plain
  · rcases (by simpa using hd : d = '%' ∨ d = a ∨ d = b) with rfl | rfl | rfl
    · exact percent rfl
    · rw [ha] at hex
      cases hex
    · rw [hb] at hex
      cases hex

end RefNav.Text.Percent

namespace RefNav.Route

open RefNav.Text RefNav.Text.Percent

theorem definition_str (name : String) :
    definition (.str name) = .ok ("/namespaces/" ++ segment name ++ "/resolveDefinition") :=
  rfl

theorem segment_mem_segments (name : String) : (segment name).toList ∈ segments := by
  rw [Percent.segment, String.toList_ofList]
  exact encode_mem_segments _

theorem decode_segment (name : String) :
    decode (segment name).toList = name.toUTF8.data.toList := by
  rw [Percent.segment, String.toList_ofList, decode_encode, Utf8.encode_toList]

theorem segment_inj {name other : String} : segment name = segment other ↔ name = other := by
  constructor
  · intro same
    have bytes := congrArg (fun s => decode s.toList) same
    rw [decode_segment, decode_segment, ← Utf8.encode_toList, ← Utf8.encode_toList] at bytes
    exact Utf8.encode_toList_inj.mp bytes
  · rintro rfl
    rfl

theorem splitOn_path {s : List Char} (noSlash : '/' ∉ s) :
    ("/namespaces/".toList ++ s ++ "/resolveDefinition".toList).splitOn '/' =
      [[], "namespaces".toList, s, "resolveDefinition".toList] := by
  have joined : "/namespaces/".toList ++ s ++ "/resolveDefinition".toList =
      ['/'].intercalate [[], "namespaces".toList, s, "resolveDefinition".toList] := by
    simp
  rw [joined]
  apply List.splitOn_intercalate
  · intro part hpart
    simp only [List.mem_cons, List.not_mem_nil, or_false] at hpart
    rcases hpart with rfl | rfl | rfl | rfl
    · decide
    · decide
    · exact noSlash
    · decide
  · simp

/-- The route of a namespace has one segment for its name.  It is made of plain characters and
escapes, gives the bytes of the name when these are taken back, and leaves the path with its own
three slashes and neither a question mark nor a hash sign.  Different names have different
routes. -/
theorem definition_lossless (name : String) :
    ∃ s path : String, definition (.str name) = .ok path ∧
      path = "/namespaces/" ++ s ++ "/resolveDefinition" ∧
      s.toList ∈ segments ∧
      decode s.toList = name.toUTF8.data.toList ∧
      path.toList.splitOn '/' = [[], "namespaces".toList, s.toList, "resolveDefinition".toList] ∧
      '?' ∉ path.toList ∧ '#' ∉ path.toList ∧
      ∀ other : String, definition (.str other) = .ok path ↔ other = name := by
  have within := segment_mem_segments name
  have free : ∀ d ∈ ['/', '?', '#'], d ∉ (segment name).toList := by
    intro d special
    have own : isPlain d = false ∧ isUpperHex d = false ∧ d ≠ '%' := by
      simp only [List.mem_cons, List.not_mem_nil, or_false] at special
      rcases special with rfl | rfl | rfl <;> decide
    exact not_mem_of_mem_segments within own.1 own.2.1 own.2.2
  refine ⟨segment name, _, definition_str name, rfl, within, decode_segment name, ?_, ?_, ?_,
    fun other => ?_⟩
  · rw [String.toList_append, String.toList_append]
    exact splitOn_path (free '/' (by decide))
  · simp [free '?' (by decide)]
  · simp [free '#' (by decide)]
  · rw [definition_str]
    simp [segment_inj]

end RefNav.Route
