import RefNav.Text.Letter
import RefNav.Text.Utf8

/-! # Percent escapes

A text becomes part of a URL path by writing every byte of its UTF-8 form that
is not an unreserved character, nor declared safe, as a percent sign and two
upper-case hexadecimal digits.
-/

namespace RefNav.Text.Percent

/-- Characters that stand for themselves in every part of a URL. -/
def isUnreserved (c : Char) : Bool :=
  isLetterOrDigit c || c = '_' || c = '.' || c = '-' || c = '~'

/-- An upper-case hexadecimal digit. -/
def hexDigit (n : Nat) : Char :=
  if n < 10 then Char.ofNat (48 + n) else Char.ofNat (55 + n)

/-- The escape of one byte. -/
def escape (b : UInt8) : List Char :=
  ['%', hexDigit (b.toNat / 16), hexDigit (b.toNat % 16)]

/-- A byte, as itself if it is the code of a kept character. -/
def encodeByte (safe : Char → Bool) (b : UInt8) : List Char :=
  let c := Char.ofNat b.toNat
  if b.toNat < 0x80 && (isUnreserved c || safe c) then [c] else escape b

/-- Escape a text; the characters that `safe` accepts are kept as well. -/
def encode (safe : Char → Bool) (cs : List Char) : List Char :=
  (Utf8.encode cs).flatMap (encodeByte safe)

/-- Escape a string as one segment of a path, so that no slash is left. -/
def segment (s : String) : String :=
  String.ofList (encode (fun _ => false) s.toList)

/-- Escape a string as a path, keeping its slashes. -/
def path (s : String) : String :=
  String.ofList (encode (· = '/') s.toList)

end RefNav.Text.Percent
