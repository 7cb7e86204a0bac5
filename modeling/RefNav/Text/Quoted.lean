import RefNav.Text.Printable

/-! # Quoted texts

Messages show a text between quotes so that its ends and its invisible
characters can be seen.  The quote is an apostrophe unless the text holds an
apostrophe and no double quote.  The backslash, the quote in use, and the
characters that are not printable are escaped.
-/

namespace RefNav.Text

/-- The lower-case hexadecimal digits of a number, padded with zeros on the left. -/
def hexPadded (width n : Nat) : List Char :=
  let digits := Nat.toDigits 16 n
  List.replicate (width - digits.length) '0' ++ digits

/-- A character inside a text quoted with `quote`. -/
def quotedChar (quote c : Char) : List Char :=
  if c = quote || c = '\\' then ['\\', c]
  else if c = '\n' then ['\\', 'n']
  else if c = '\r' then ['\\', 'r']
  else if c = '\t' then ['\\', 't']
  else if isPrintable c then [c]
  else if c.toNat < 0x100 then '\\' :: 'x' :: hexPadded 2 c.toNat
  else if c.toNat < 0x10000 then '\\' :: 'u' :: hexPadded 4 c.toNat
  else '\\' :: 'U' :: hexPadded 8 c.toNat

/-- The quote used for a text. -/
def quoteFor (cs : List Char) : Char :=
  if cs.contains '\'' && !cs.contains '"' then '"' else '\''

/-- A text between quotes. -/
def quotedChars (cs : List Char) : List Char :=
  quoteFor cs :: cs.flatMap (quotedChar (quoteFor cs)) ++ [quoteFor cs]

/-- A string between quotes. -/
def quoted (s : String) : String :=
  String.ofList (quotedChars s.toList)

end RefNav.Text
