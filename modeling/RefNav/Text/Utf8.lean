/-! # UTF-8

Texts are stored as bytes.  Decoding walks the bytes once and yields, for each
step, either a character or a defect that covers the longest run of bytes that
begins a character, or one byte where none does.  A strict reader refuses the
first defect, a lenient reader shows U+FFFD in its place.
-/

namespace RefNav.Text.Utf8

/-- The bytes of one character. -/
def encodeChar (c : Char) : List UInt8 :=
  let n := c.toNat
  if n < 0x80 then [UInt8.ofNat n]
  else if n < 0x800 then [UInt8.ofNat (0xC0 + n / 64), UInt8.ofNat (0x80 + n % 64)]
  else if n < 0x10000 then
    [UInt8.ofNat (0xE0 + n / 4096), UInt8.ofNat (0x80 + n / 64 % 64), UInt8.ofNat (0x80 + n % 64)]
  else
    [UInt8.ofNat (0xF0 + n / 262144), UInt8.ofNat (0x80 + n / 4096 % 64),
     UInt8.ofNat (0x80 + n / 64 % 64), UInt8.ofNat (0x80 + n % 64)]

/-- The bytes of a text. -/
def encode (cs : List Char) : List UInt8 :=
  cs.flatMap encodeChar

/-- Why bytes do not form a character. -/
inductive Defect where
  | invalidStart
  | invalidContinuation
  | unexpectedEnd
deriving Repr, DecidableEq

/-- The wording of a defect. -/
def Defect.message : Defect → String
  | .invalidStart => "invalid start byte"
  | .invalidContinuation => "invalid continuation byte"
  | .unexpectedEnd => "unexpected end of data"

/-- The second bytes that may follow a lead byte, for leads of two or more bytes. -/
def secondRange (lead : Nat) : Nat × Nat :=
  if lead = 0xE0 then (0xA0, 0xBF)
  else if lead = 0xED then (0x80, 0x9F)
  else if lead = 0xF0 then (0x90, 0xBF)
  else if lead = 0xF4 then (0x80, 0x8F)
  else (0x80, 0xBF)

/-- How many continuation bytes a lead byte asks for; `none` if it leads nothing. -/
def continuations? (lead : Nat) : Option Nat :=
  if lead < 0x80 then some 0
  else if lead < 0xC2 then none
  else if lead < 0xE0 then some 1
  else if lead < 0xF0 then some 2
  else if lead < 0xF5 then some 3
  else none

/-- One step of decoding. -/
inductive Step where
  /-- A character and the number of bytes it took. -/
  | char (c : Char) (size : Nat)
  /-- A defect and the number of bytes it covers. -/
  | defect (d : Defect) (size : Nat)
deriving Repr, DecidableEq

/-- The number of bytes that a step covers. -/
def Step.size : Step → Nat
  | .char _ n => n
  | .defect _ n => n

/-- Collect the continuation bytes after a lead.  `range` bounds the next byte,
`value` holds the bits so far and `seen` counts the bytes taken. -/
def continueWith (range : Nat × Nat) (value seen : Nat) : Nat → List UInt8 → Step
  | 0, _ => .char (Char.ofNat value) seen
  | _ + 1, [] => .defect .unexpectedEnd seen
  | k + 1, b :: rest =>
      if range.1 ≤ b.toNat ∧ b.toNat ≤ range.2 then
        continueWith (0x80, 0xBF) (value * 64 + b.toNat % 64) (seen + 1) k rest
      else .defect .invalidContinuation seen

/-- The bits of a character that its lead byte carries. -/
def leadBits (lead : Nat) : Nat → Nat
  | 0 => lead
  | 1 => lead % 32
  | 2 => lead % 16
  | _ => lead % 8

/-- Decode the character at the start of a non-empty byte sequence. -/
def step (lead : UInt8) (rest : List UInt8) : Step :=
  match continuations? lead.toNat with
  | none => .defect .invalidStart 1
  | some k => continueWith (secondRange lead.toNat) (leadBits lead.toNat k) 1 k rest

/-- All steps of decoding.  `skip` counts the bytes that the step before still
covers. -/
def steps (skip : Nat) : List UInt8 → List Step
  | [] => []
  | b :: rest =>
      match skip with
      | k + 1 => steps k rest
      | 0 => step b rest :: steps ((step b rest).size - 1) rest

/-- The character shown in place of undecodable bytes. -/
def replacement : Char := '\ufffd'

/-- The character that a lenient reader takes from a step. -/
def Step.lenient : Step → Char
  | .char c _ => c
  | .defect _ _ => replacement

/-- Decode with every defect shown as U+FFFD. -/
def decodeLenient (bytes : List UInt8) : List Char :=
  (steps 0 bytes).map Step.lenient

/-- A defect found by the strict reader: the bytes it covers and its cause. -/
structure DecodeFault where
  defect : Defect
  position : Nat
  size : Nat
  first : UInt8
deriving Repr, DecidableEq

/-- Read characters off the steps up to the first defect. -/
def collect (position : Nat) : List Step → Except (Defect × Nat × Nat) (List Char)
  | [] => .ok []
  | .char c n :: rest => (collect (position + n) rest).map (c :: ·)
  | .defect d n :: _ => .error (d, position, n)

/-- Decode and refuse the first defect. -/
def decodeStrict (bytes : List UInt8) : Except DecodeFault (List Char) :=
  match collect 0 (steps 0 bytes) with
  | .ok cs => .ok cs
  | .error (d, position, size) => .error ⟨d, position, size, bytes.getD position 0⟩

/-- Two lower-case hexadecimal digits of a byte. -/
def hexByte (b : UInt8) : String :=
  String.ofList [Nat.digitChar (b.toNat / 16), Nat.digitChar (b.toNat % 16)]

/-- The wording of a decoding fault. -/
def DecodeFault.message (f : DecodeFault) : String :=
  let place :=
    if f.size = 1 then
      s!"byte 0x{hexByte f.first} in position {f.position}"
    else
      s!"bytes in position {f.position}-{f.position + f.size - 1}"
  s!"'utf-8' codec can't decode {place}: {f.defect.message}"

end RefNav.Text.Utf8
