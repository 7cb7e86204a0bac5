import RefNav.Number.Binary64

/-! # Decimal text of doubles

Reading takes the double nearest to a decimal.  Writing takes the fewest digits
that read back as the same double, and of those the decimal nearest to it.
-/

namespace RefNav.Number.Decimal

open RefNav.Number

/-- The number of decimal digits of a positive number. -/
def digitCount (n : Nat) : Nat :=
  (Nat.toDigits 10 n).length

/-- The double nearest to `digits * 10 ^ exponent`.  A decimal whose size is far
outside the range of doubles is an infinity or zero without being computed. -/
def toBinary (negative : Bool) (digits : Nat) (exponent : Int) : Binary64 :=
  let top : Int := (digitCount digits : Int) + exponent
  if digits = 0 then .zero negative
  else if 400 < top then .infinite negative
  else if top < -400 then .zero negative
  else
    let scaled := scaleTen digits 1 exponent
    .ofRatio negative scaled.1 scaled.2

/-- The numbers between which every real rounds to the given double, as
numerators over the common denominator `2 ^ (2 - exponent)` or one. -/
structure Interval where
  low : Nat
  value : Nat
  high : Nat
  den : Nat
  /-- Do the ends round to the double as well? -/
  closed : Bool

/-- The interval of a positive double.  At a power of two the numbers below are
twice as dense as those above. -/
def interval (mantissa : Nat) (exponent : Int) : Interval :=
  let narrow := mantissa = Nat.pow 2 52 ∧ Binary64.minExponent < exponent
  let unit := scale 1 4 exponent
  { low := (4 * mantissa - (if narrow then 1 else 2)) * unit.1
    value := 4 * mantissa * unit.1
    high := (4 * mantissa + 2) * unit.1
    den := unit.2
    closed := mantissa % 2 = 0 }

/-- Does `n * 10 ^ exponent` round to the double? -/
def Interval.holds (i : Interval) (n : Nat) (exponent : Int) : Bool :=
  let grid := scaleTen n 1 exponent
  let x := grid.1 * i.den
  let low := i.low * grid.2
  let high := i.high * grid.2
  if i.closed then low ≤ x && x ≤ high else low < x && x < high

/-- The decimal exponent `p` with `10 ^ (p - 1) ≤ num / den < 10 ^ p`, found from
an estimate that is at most one too small. -/
def magnitude (num den : Nat) : Int :=
  let estimate : Int := (digitCount num : Int) - (digitCount den : Int)
  let scaled := scaleTen num den (-estimate)
  if scaled.1 < scaled.2 then estimate else estimate + 1

/-- The candidate with `count` digits: of the two neighbours of the value on the
decimal grid the nearer one that reads back, ties going to the even one. -/
def candidate? (i : Interval) (point : Int) (count : Nat) : Option (Nat × Int) :=
  let e : Int := point - count
  let scaled := scaleTen i.value i.den (-e)
  let low := scaled.1 / scaled.2
  let near := roundHalfEven scaled.1 scaled.2
  let far := if near = low then low + 1 else low
  if i.holds near e then some (near, e)
  else if i.holds far e then some (far, e)
  else none

/-- The first candidate that reads back, trying `fuel` digit counts from `count` on. -/
def search (i : Interval) (point : Int) : Nat → Nat → Nat × Int
  | 0, _ => (0, 0)
  | fuel + 1, count =>
      match candidate? i point count with
      | some d => d
      | none => search i point fuel (count + 1)

/-- The shortest decimal `digits * 10 ^ exponent` that reads back as a positive
double; seventeen digits always suffice. -/
def shortest (mantissa : Nat) (exponent : Int) : Nat × Int :=
  let i := interval mantissa exponent
  search i (magnitude i.value i.den) 17 1

/-- Digits without their trailing zeros, which the exponent takes over. -/
def stripZeros (digits : List Char) : List Char :=
  (digits.reverse.dropWhile (· = '0')).reverse

/-- Two digits at least. -/
def exponentDigits (n : Nat) : List Char :=
  if n < 10 then ['0', Nat.digitChar n] else Nat.toDigits 10 n

/-- Write digits with the decimal point after `point` of them.  Numbers from
`10 ^ -4` up to `10 ^ 16` are written positionally and always show a point. -/
def layout (digits : List Char) (point : Int) : List Char :=
  if -4 < point ∧ point ≤ 16 then
    if point ≤ 0 then '0' :: '.' :: List.replicate (-point).toNat '0' ++ digits
    else if digits.length ≤ point.toNat then
      digits ++ List.replicate (point.toNat - digits.length) '0' ++ ['.', '0']
    else digits.take point.toNat ++ '.' :: digits.drop point.toNat
  else
    let mark := if 0 < point then '+' else '-'
    let fraction := if digits.length = 1 then [] else '.' :: digits.drop 1
    digits.take 1 ++ fraction ++ 'e' :: mark :: exponentDigits (point - 1).natAbs

/-- The shortest text of a positive double. -/
def positiveText (mantissa : Nat) (exponent : Int) : List Char :=
  let d := shortest mantissa exponent
  let digits := Nat.toDigits 10 d.1
  layout (stripZeros digits) ((digits.length : Int) + d.2)

/-- The shortest text of a double that reads back as the same double. -/
def text : Binary64 → String
  | .finite s m e =>
      let body := if m = 0 then ['0', '.', '0'] else positiveText m e
      String.ofList (if s then '-' :: body else body)
  | .infinite s => if s then "-inf" else "inf"
  | .nan => "nan"

/-- The digits of `n / 10 ^ places` with exactly `places` digits after the point. -/
def pointed (n places : Nat) : List Char :=
  let digits := Nat.toDigits 10 n
  let padded := List.replicate (places + 1 - digits.length) '0' ++ digits
  let whole := padded.length - places
  if places = 0 then padded else padded.take whole ++ '.' :: padded.drop whole

/-- A double with a fixed number of places, a half going to the even neighbour. -/
def fixed (places : Nat) : Binary64 → String
  | .finite s m e =>
      let r := Binary64.ratio m e
      let body := pointed (roundHalfEven (r.1 * Nat.pow 10 places) r.2) places
      String.ofList (if s then '-' :: body else body)
  | .infinite s => if s then "-inf" else "inf"
  | .nan => "nan"

end RefNav.Number.Decimal
