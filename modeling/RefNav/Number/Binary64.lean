import RefNav.Number.Rounding

/-! # Double-precision numbers

A finite double is a signed mantissa below `2 ^ 53` times a power of two whose
exponent is at least `-1074`; the mantissa is at least `2 ^ 52` unless the
exponent is the least one.  Every operation computes the exact rational result
and rounds it once, so all of them are ordinary functions on integers.
-/

namespace RefNav.Number

/-- A double-precision number. -/
inductive Binary64 where
  /-- The value `mantissa * 2 ^ exponent`, negated if `negative`. -/
  | finite (negative : Bool) (mantissa : Nat) (exponent : Int)
  | infinite (negative : Bool)
  | nan
deriving Repr, DecidableEq, Inhabited

namespace Binary64

/-- The least exponent of a finite double. -/
def minExponent : Int := -1074

/-- The greatest exponent of a finite double. -/
def maxExponent : Int := 971

/-- Zero with the given sign. -/
def zero (negative : Bool) : Binary64 :=
  .finite negative 0 minExponent

/-- A mantissa rounded up to `2 ^ 53` moves to the next exponent; an exponent
above the greatest one is an infinity. -/
def normalise (negative : Bool) (mantissa : Nat) (exponent : Int) : Binary64 :=
  let m := if mantissa = Nat.pow 2 53 then Nat.pow 2 52 else mantissa
  let e := if mantissa = Nat.pow 2 53 then exponent + 1 else exponent
  if maxExponent < e then .infinite negative else .finite negative m e

/-- The exponent at which a positive quotient has a mantissa of 53 bits, but not
below the least exponent. -/
def exponentOf (num den : Nat) : Int :=
  let guess : Int := (num.log2 : Int) - (den.log2 : Int) - 52
  let scaled := scale num den (-guess)
  let exact := if scaled.1 < scaled.2 * Nat.pow 2 52 then guess - 1 else guess
  max exact minExponent

/-- The double nearest to `num / den` with the given sign. -/
def ofRatio (negative : Bool) (num den : Nat) : Binary64 :=
  if num = 0 then zero negative
  else
    let e := exponentOf num den
    let scaled := scale num den (-e)
    normalise negative (roundHalfEven scaled.1 scaled.2) e

/-- The double nearest to an integer; `none` if the integer is too large for a
finite one. -/
def ofInt? (n : Int) : Option Binary64 :=
  match ofRatio (n < 0) n.natAbs 1 with
  | .finite s m e => some (.finite s m e)
  | _ => none

/-- Numerator and denominator of the magnitude of a finite double. -/
def ratio (mantissa : Nat) (exponent : Int) : Nat × Nat :=
  scale mantissa 1 exponent

/-- A finite double divided by a positive integer that a double holds exactly. -/
def divNat (x : Binary64) (d : Nat) : Binary64 :=
  match x with
  | .finite s m e => ofRatio s (ratio m e).1 ((ratio m e).2 * d)
  | other => other

/-- The double nearest to one tenth. -/
def tenth : Binary64 :=
  .finite false 7205759403792794 (-56)

/-- The product of two finite doubles; other operands give no number. -/
def mul : Binary64 → Binary64 → Binary64
  | .finite s m e, .finite t n f =>
      ofRatio (s != t) ((ratio m e).1 * (ratio n f).1) ((ratio m e).2 * (ratio n f).2)
  | _, _ => .nan

/-- Is a finite double greater than a natural number? -/
def gtNat (x : Binary64) (n : Nat) : Bool :=
  match x with
  | .finite s m e => !s && (ratio m e).2 * n < (ratio m e).1
  | .infinite s => !s
  | .nan => false

/-- Is a finite double less than a natural number? -/
def ltNat (x : Binary64) (n : Nat) : Bool :=
  match x with
  | .finite s m e => if s then m ≠ 0 || n ≠ 0 else (ratio m e).1 < (ratio m e).2 * n
  | .infinite s => s
  | .nan => false

/-- A natural number that a double holds exactly. -/
def ofSmall (n : Nat) : Binary64 :=
  ofRatio false n 1

/-- Is the number different from zero?  No number counts as different. -/
def isNonzero : Binary64 → Bool
  | .finite _ m _ => m ≠ 0
  | _ => true

/-- The greatest integer that is not above a finite double. -/
def floor? : Binary64 → Option Int
  | .finite s m e =>
      let r := ratio m e
      some (if s then -(((r.1 + (r.2 - 1)) / r.2 : Nat) : Int) else ((r.1 / r.2 : Nat) : Int))
  | _ => none

/-- The integer part of a finite double. -/
def truncate? : Binary64 → Option Int
  | .finite s m e =>
      let r := ratio m e
      let n : Int := (r.1 / r.2 : Nat)
      some (if s then -n else n)
  | _ => none

/-- The bits of the interchange format, most significant first. -/
def bits : Binary64 → Nat
  | .finite s m e =>
      let sign := if s then Nat.pow 2 63 else 0
      if m < Nat.pow 2 52 then sign + m
      else sign + (e + 1075).toNat * Nat.pow 2 52 + (m - Nat.pow 2 52)
  | .infinite s => (if s then Nat.pow 2 63 else 0) + 2047 * Nat.pow 2 52
  | .nan => 2047 * Nat.pow 2 52 + Nat.pow 2 51

end Binary64

end RefNav.Number
