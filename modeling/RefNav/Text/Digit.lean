import RefNav.Text.Blank

/-! # Integers in text

An integer is written with decimal digits of any script, an optional sign, and
single underscores between digits; white space around it is ignored, the
information separators excepted.  Numbers of more than 4300 digits are refused.
-/

namespace RefNav.Text

/-- Code points of the digit zero in each script that has decimal digits; the
other nine digits follow it. -/
def zeroDigits : List Nat :=
  [48, 1632, 1776, 1984, 2406, 2534, 2662, 2790, 2918, 3046, 3174, 3302, 3430, 3558, 3664, 3792,
   3872, 4160, 4240, 6112, 6160, 6470, 6608, 6784, 6800, 6992, 7088, 7232, 7248, 42528, 43216,
   43264, 43472, 43504, 43600, 44016, 65296, 66720, 68912, 69734, 69872, 69942, 70096, 70384,
   70736, 70864, 71248, 71360, 71472, 71904, 72016, 72784, 73040, 73120, 92768, 92864, 93008,
   120782, 120792, 120802, 120812, 120822, 123200, 123632, 125264, 130032]

/-- The value of a decimal digit of any script. -/
def digitValue? (c : Char) : Option Nat :=
  (zeroDigits.find? fun z => z ≤ c.toNat && c.toNat ≤ z + 9).map (c.toNat - ·)

/-- Is this a decimal digit of some script? -/
def isDecimal (c : Char) : Bool :=
  (digitValue? c).isSome

/-- The longest number of digits that is converted to an integer. -/
def maxDigits : Nat := 4300

/-- Why a text is not read as an integer. -/
inductive IntegerFault where
  /-- The text does not have the form of an integer. -/
  | malformed
  /-- The number has more digits than are converted. -/
  | tooLong (digits : Nat)
deriving Repr, DecidableEq

/-- White space allowed around an integer. -/
def isIntegerBlank (c : Char) : Bool :=
  isBlank c && !(28 ≤ c.toNat && c.toNat ≤ 31)

/-- The digit values of a text of digits with single underscores between them. -/
def digitGroups? : List Char → Option (List Nat)
  | [] => none
  | [c] => (digitValue? c).map ([·])
  | c :: '_' :: rest => do
      let d ← digitValue? c
      let ds ← digitGroups? rest
      return d :: ds
  | c :: rest => do
      let d ← digitValue? c
      let ds ← digitGroups? rest
      return d :: ds

/-- The number with the given decimal digits, most significant first. -/
def ofDigits (ds : List Nat) : Nat :=
  ds.foldl (fun n d => 10 * n + d) 0

/-- Read the digits of an integer after its sign. -/
def readMagnitude (cs : List Char) : Except IntegerFault Nat :=
  match digitGroups? cs with
  | none => .error .malformed
  | some ds => if maxDigits < ds.length then .error (.tooLong ds.length) else .ok (ofDigits ds)

/-- Read an integer with an optional sign. -/
def readSigned : List Char → Except IntegerFault Int
  | '-' :: rest => (readMagnitude rest).map fun n => -(n : Int)
  | '+' :: rest => (readMagnitude rest).map fun n => (n : Int)
  | cs => (readMagnitude cs).map fun n => (n : Int)

/-- Read an integer, ignoring white space around it. -/
def readInteger (s : String) : Except IntegerFault Int :=
  let cs := s.toList.dropWhile isIntegerBlank
  readSigned (cs.reverse.dropWhile isIntegerBlank).reverse

/-- The decimal digits of a natural number, most significant first. -/
def natDigits (n : Nat) : List Char :=
  Nat.toDigits 10 n

/-- An integer in decimal notation. -/
def showInt : Int → String
  | .ofNat n => String.ofList (natDigits n)
  | .negSucc n => String.ofList ('-' :: natDigits (n + 1))

end RefNav.Text
