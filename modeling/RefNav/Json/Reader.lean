import RefNav.Json.Value
import RefNav.Text.Letter

/-! # Reading JSON

The reader takes one value from a text with white space around it.  Besides the
standard grammar it accepts `NaN`, `Infinity` and `-Infinity`; a repeated key
keeps its first place and its last value.  Half of a surrogate pair on its own is
kept in a string; a key has U+FFFD in its place.  A refusal names its cause and the
offset of the character at which it arose.
-/

namespace RefNav.Json

open RefNav.Number RefNav.Text

/-- What is wrong with the text at some offset. -/
inductive Defect where
  | expectingValue
  | extraData
  | expectingComma
  | expectingColon
  | expectingName
  | unterminatedString
  | controlCharacter
  | invalidEscape
  | invalidUnicodeEscape
  | byteOrderMark
deriving Repr, DecidableEq

/-- The wording of a defect. -/
def Defect.message : Defect → String
  | .expectingValue => "Expecting value"
  | .extraData => "Extra data"
  | .expectingComma => "Expecting ',' delimiter"
  | .expectingColon => "Expecting ':' delimiter"
  | .expectingName => "Expecting property name enclosed in double quotes"
  | .unterminatedString => "Unterminated string starting at"
  | .controlCharacter => "Invalid control character at"
  | .invalidEscape => "Invalid \\escape"
  | .invalidUnicodeEscape => "Invalid \\uXXXX escape"
  | .byteOrderMark => "Unexpected UTF-8 BOM (decode using utf-8-sig)"

/-- Why a text is refused. -/
inductive ReadFault where
  /-- The text breaks the grammar at an offset. -/
  | malformed (defect : Defect) (offset : Nat)
  /-- An integer has more digits than are converted. -/
  | tooManyDigits (digits : Nat)
  /-- Arrays or objects are nested too deeply; `kind` names the innermost. -/
  | tooDeep (kind : String)
deriving Repr, DecidableEq

/-- A place in the text: its offset and the characters from there on. -/
structure Cursor where
  offset : Nat
  rest : List Char
deriving Repr, DecidableEq

/-- White space of the JSON grammar. -/
def isSpace (c : Char) : Bool :=
  c = ' ' || c = '\t' || c = '\n' || c = '\r'

/-- Move past white space. -/
def Cursor.skip (c : Cursor) : Cursor :=
  ⟨c.offset + (c.rest.takeWhile isSpace).length, c.rest.dropWhile isSpace⟩

/-- Move past a known number of characters. -/
def Cursor.advance (c : Cursor) (n : Nat) : Cursor :=
  ⟨c.offset + n, c.rest.drop n⟩

/-- Outcome of reading something at a cursor. -/
abbrev Reading (α : Type) := Except ReadFault (α × Cursor)

/-- The value of a hexadecimal digit. -/
def hexValue? (c : Char) : Option Nat :=
  if '0' ≤ c ∧ c ≤ '9' then some (c.toNat - 48)
  else if 'a' ≤ c ∧ c ≤ 'f' then some (c.toNat - 87)
  else if 'A' ≤ c ∧ c ≤ 'F' then some (c.toNat - 55)
  else none

/-- The number that four hexadecimal digits write. -/
def hexFour? (a b c d : Char) : Option Nat := do
  let a ← hexValue? a
  let b ← hexValue? b
  let c ← hexValue? c
  let d ← hexValue? d
  return 4096 * a + 256 * b + 16 * c + d

/-- Is the code unit the first of a surrogate pair? -/
def isHighSurrogate (n : Nat) : Bool :=
  0xD800 ≤ n && n ≤ 0xDBFF

/-- Is the code unit the second of a surrogate pair? -/
def isLowSurrogate (n : Nat) : Bool :=
  0xDC00 ≤ n && n ≤ 0xDFFF

/-- The code point of a code unit that is not part of a pair. -/
def ofUnit (n : Nat) : CodePoint :=
  if isHighSurrogate n || isLowSurrogate n then .half ⟨Fin.ofNat 0x800 (n - 0xD800)⟩
  else .char (Char.ofNat n)

/-- The character of a surrogate pair. -/
def ofPair (high low : Nat) : Char :=
  Char.ofNat (0x10000 + (high - 0xD800) * 1024 + (low - 0xDC00))

/-- The escape that follows a backslash at `offset`: its code point and the number
of characters after the backslash that it takes.  At least one character has to
follow a code-unit escape. -/
def readEscape (start offset : Nat) : List Char → Except ReadFault (CodePoint × Nat)
  | [] => .error (.malformed .unterminatedString start)
  | 'u' :: a :: b :: c :: d :: after :: more =>
      match hexFour? a b c d with
      | none => .error (.malformed .invalidUnicodeEscape (offset + 1))
      | some high =>
          match isHighSurrogate high, after, more with
          | true, '\\', 'u' :: e :: f :: g :: h :: _ :: _ =>
              match hexFour? e f g h with
              | none => .error (.malformed .invalidUnicodeEscape (offset + 7))
              | some low =>
                  if isLowSurrogate low then .ok (.char (ofPair high low), 11)
                  else .ok (ofUnit high, 5)
          | _, _, _ => .ok (ofUnit high, 5)
  | 'u' :: _ => .error (.malformed .invalidUnicodeEscape (offset + 1))
  | '"' :: _ => .ok (.char '"', 1)
  | '\\' :: _ => .ok (.char '\\', 1)
  | '/' :: _ => .ok (.char '/', 1)
  | 'b' :: _ => .ok (.char '\x08', 1)
  | 'f' :: _ => .ok (.char '\x0c', 1)
  | 'n' :: _ => .ok (.char '\n', 1)
  | 'r' :: _ => .ok (.char '\r', 1)
  | 't' :: _ => .ok (.char '\t', 1)
  | _ :: _ => .error (.malformed .invalidEscape offset)

/-- Put a code point in front of a text that was read. -/
def consReading (p : CodePoint) : Reading (List CodePoint) → Reading (List CodePoint)
  | .ok (ps, cur) => .ok (p :: ps, cur)
  | .error f => .error f

/-- The code points of a string up to its closing quote.  `start` is the offset of
the opening quote, `taken` the number of characters an escape still covers. -/
def readChars (start : Nat) : Nat → Nat → List Char → Reading (List CodePoint)
  | _, _, [] => .error (.malformed .unterminatedString start)
  | taken + 1, offset, _ :: rest => readChars start taken (offset + 1) rest
  | 0, offset, c :: rest =>
      if c = '"' then .ok ([], ⟨offset + 1, rest⟩)
      else if c = '\\' then
        match readEscape start offset rest with
        | .error f => .error f
        | .ok (decoded, size) => consReading decoded (readChars start size (offset + 1) rest)
      else if c.toNat < 0x20 then .error (.malformed .controlCharacter offset)
      else consReading (.char c) (readChars start 0 (offset + 1) rest)

/-- A string whose opening quote stands at the cursor. -/
def readString (cur : Cursor) : Reading (List CodePoint) :=
  readChars cur.offset 0 (cur.offset + 1) (cur.rest.drop 1)

/-- The key that a string makes. -/
def keyOf (points : List CodePoint) : String :=
  String.ofList (points.map CodePoint.shown)

@[simp]
theorem keyOf_map_char (cs : List Char) : keyOf (cs.map .char) = String.ofList cs := by
  have kept : CodePoint.shown ∘ CodePoint.char = id := rfl
  rw [keyOf, List.map_map, kept, List.map_id]

/-- The value of ASCII digits. -/
def digitsValue (cs : List Char) : Nat :=
  cs.foldl (fun n c => 10 * n + (c.toNat - 48)) 0

/-- The digits of the whole part of a number: a lone zero, or digits that do not
start with one. -/
def wholeDigits : List Char → List Char
  | '0' :: _ => ['0']
  | cs => cs.takeWhile isDigit

/-- The digits after a decimal point, if there are any. -/
def fractionDigits : List Char → List Char
  | '.' :: rest => rest.takeWhile isDigit
  | _ => []

/-- The exponent of a number: whether it is negative, its digits, and the number
of characters it takes. -/
def exponentPart? : List Char → Option (Bool × List Char × Nat)
  | e :: rest =>
      if e = 'e' || e = 'E' then
        let negative := rest.head? = some '-'
        let signed := negative || rest.head? = some '+'
        let digits := (if signed then rest.drop 1 else rest).takeWhile isDigit
        if digits.isEmpty then none
        else some (negative, digits, digits.length + (if signed then 2 else 1))
      else none
  | [] => none

/-- A number at the cursor. -/
def readNumber (cur : Cursor) : Reading Json :=
  let negative := cur.rest.head? = some '-'
  let body := if negative then cur.rest.drop 1 else cur.rest
  let whole := wholeDigits body
  let afterWhole := body.drop whole.length
  let fraction := fractionDigits afterWhole
  let fractionSize := if fraction.isEmpty then 0 else fraction.length + 1
  let exponent := exponentPart? (afterWhole.drop fractionSize)
  let size := (if negative then 1 else 0) + whole.length + fractionSize
  if whole.isEmpty then .error (.malformed .expectingValue cur.offset)
  else
    match fraction.isEmpty, exponent with
    | true, none =>
        if maxDigits < whole.length then .error (.tooManyDigits whole.length)
        else
          let n : Int := digitsValue whole
          .ok (.int (if negative then -n else n), cur.advance size)
    | _, exponent =>
        let (down, digits, width) := exponent.getD (false, [], 0)
        let e : Int := digitsValue digits
        let scale := (if down then -e else e) - fraction.length
        .ok (.float (Decimal.toBinary negative (digitsValue (whole ++ fraction)) scale),
          cur.advance (size + width))

/-- The literal words and their values. -/
def words : List (List Char × Json) :=
  [("null".toList, .null), ("true".toList, .bool true), ("false".toList, .bool false),
   ("NaN".toList, .float .nan), ("Infinity".toList, .float (.infinite false)),
   ("-Infinity".toList, .float (.infinite true))]

/-- A literal word or a number at the cursor. -/
def readScalar (cur : Cursor) : Reading Json :=
  match words.find? fun w => w.1.isPrefixOf cur.rest with
  | some (word, value) => .ok (value, cur.advance word.length)
  | none => readNumber cur

mutual

/-- One value at the cursor, with `depth` containers open around it. -/
def readValue (fuel depth : Nat) (cur : Cursor) : Reading Json :=
  match fuel with
  | 0 => .error (.malformed .expectingValue cur.offset)
  | fuel + 1 =>
      match cur.rest with
      | [] => .error (.malformed .expectingValue cur.offset)
      | c :: _ =>
          if c = '"' then
            match readString cur with
            | .ok (points, next) => .ok (ofPoints points, next)
            | .error f => .error f
          else if c = '[' then
            if maxDepth ≤ depth then .error (.tooDeep "array")
            else
              let inner := (cur.advance 1).skip
              if inner.rest.head? = some ']' then .ok (.arr [], inner.advance 1)
              else
                match readItems fuel (depth + 1) inner with
                | .ok (items, next) => .ok (.arr items, next)
                | .error f => .error f
          else if c = '\x7b' then
            if maxDepth ≤ depth then .error (.tooDeep "object")
            else
              let inner := (cur.advance 1).skip
              if inner.rest.head? = some '\x7d' then .ok (.obj [], inner.advance 1)
              else
                match readMembers fuel (depth + 1) inner with
                | .ok (members, next) => .ok (.obj (Members.ofPairs members), next)
                | .error f => .error f
          else readScalar cur

/-- The items of an array up to its closing bracket. -/
def readItems (fuel depth : Nat) (cur : Cursor) : Reading (List Json) :=
  match fuel with
  | 0 => .error (.malformed .expectingValue cur.offset)
  | fuel + 1 =>
      match readValue fuel depth cur with
      | .error f => .error f
      | .ok (value, next) =>
          let next := next.skip
          if next.rest.head? = some ']' then .ok ([value], next.advance 1)
          else if next.rest.head? = some ',' then
            match readItems fuel depth (next.advance 1).skip with
            | .ok (items, last) => .ok (value :: items, last)
            | .error f => .error f
          else .error (.malformed .expectingComma next.offset)

/-- The members of an object up to its closing brace. -/
def readMembers (fuel depth : Nat) (cur : Cursor) : Reading (List (String × Json)) :=
  match fuel with
  | 0 => .error (.malformed .expectingValue cur.offset)
  | fuel + 1 =>
      if cur.rest.head? ≠ some '"' then .error (.malformed .expectingName cur.offset)
      else
        match readString cur with
        | .error f => .error f
        | .ok (points, colon) =>
            let colon := colon.skip
            if colon.rest.head? ≠ some ':' then .error (.malformed .expectingColon colon.offset)
            else
              match readValue fuel depth (colon.advance 1).skip with
              | .error f => .error f
              | .ok (value, next) =>
                  let next := next.skip
                  if next.rest.head? = some '\x7d' then
                    .ok ([(keyOf points, value)], next.advance 1)
                  else if next.rest.head? = some ',' then
                    match readMembers fuel depth (next.advance 1).skip with
                    | .ok (members, last) => .ok ((keyOf points, value) :: members, last)
                    | .error f => .error f
                  else .error (.malformed .expectingComma next.offset)

end

/-- The value that a whole text writes. -/
def readText (text : List Char) : Except ReadFault Json :=
  if text.head? = some '\ufeff' then .error (.malformed .byteOrderMark 0)
  else
    match readValue (2 * text.length + 2) 0 (Cursor.mk 0 text).skip with
    | .error f => .error f
    | .ok (value, next) =>
        let last := next.skip
        if last.rest.isEmpty then .ok value else .error (.malformed .extraData last.offset)

/-- The value that a string writes. -/
def read (text : String) : Except ReadFault Json :=
  readText text.toList

/-- Line and column, counted from one, of an offset in a text. -/
def lineColumn (text : List Char) (offset : Nat) : Nat × Nat :=
  let before := text.take offset
  (before.count '\n' + 1, (before.reverse.takeWhile (· ≠ '\n')).length + 1)

/-- The wording of a refusal of the given text. -/
def ReadFault.message (text : List Char) : ReadFault → String
  | .malformed defect offset =>
      let (line, column) := lineColumn text offset
      defect.message ++ s!": line {line} column {column} (char {offset})"
  | .tooManyDigits n =>
      s!"Exceeds the limit ({maxDigits} digits) for integer string conversion: "
        ++ s!"value has {n} digits; "
        ++ "use sys.set_int_max_str_digits() to increase the limit"
  | .tooDeep kind =>
      s!"maximum recursion depth exceeded while decoding a JSON {kind} from a unicode string"

end RefNav.Json
