import RelationPaging.Binary64
import RelationPaging.Text.Decimal

/-!
# Rounding to binary

The number of the format *binary64* nearest to a quotient of natural numbers, and of two equally
near ones the one with the even significand.  The products and quotients of the format, and the
number that a decimal denotes, are all defined by rounding an exact result in this way.

All arithmetic is exact, on natural numbers.  The quotient is divided by the power of two that
leaves 53 bits before the point (fewer near zero), and the rounded result, shifted by the
exponent, is the place of the number in the order of magnitudes.  When rounding carries into a
further bit, this sum moves on to the next exponent of its own accord.  A place beyond the
largest finite number means an overflow.
-/

namespace RelationPaging.Binary64

/-- The quotient rounded to the nearest integer, a half to the even neighbour. -/
def divideToEven (numerator denominator : Nat) : Nat :=
  let quotient := numerator / denominator
  let twice := 2 * (numerator % denominator)
  if twice < denominator then quotient
  else if denominator < twice then quotient + 1
  else quotient + quotient % 2

/-- The exponent of two under which a quotient of positive integers has 53 bits before the
point, but no less than the exponent of the least positive number. -/
def scaleOf (numerator denominator : Nat) : Int :=
  let estimate : Int := (numerator.log2 : Int) - denominator.log2
  let tooHigh : Bool :=
    if 0 ≤ estimate then numerator < denominator <<< estimate.toNat
    else numerator <<< (-estimate).toNat < denominator
  let log2 : Int := if tooHigh then estimate - 1 else estimate
  max (log2 - 52) (-1074)

/-- The place, in the order of magnitudes, of the number nearest to a quotient. -/
def nearestPlace (numerator denominator : Nat) : Nat :=
  if numerator = 0 then 0
  else
    let scale := scaleOf numerator denominator
    let significand :=
      if 0 ≤ scale then divideToEven numerator (denominator <<< scale.toNat)
      else divideToEven (numerator <<< (-scale).toNat) denominator
    (scale + 1074).toNat * leadingBit + significand

/-- A power of ten. -/
def tens (exponent : Nat) : Nat := Nat.pow 10 exponent

/-- A quotient of natural numbers, as a pair with positive denominator. -/
abbrev Quotient := Nat × Nat

/-- The value `n * 2 ^ e` as a quotient. -/
def timesPowerOfTwo (n : Nat) (e : Int) : Quotient :=
  if 0 ≤ e then (n <<< e.toNat, 1) else (n, 1 <<< (-e).toNat)

namespace Finite

/-- The number nearest to a quotient, with the given sign; there is none after an overflow. -/
def nearest? (negative : Bool) (value : Quotient) : Option Finite :=
  atPlace? negative (nearestPlace value.1 value.2)

/-- The rounded product of two magnitudes, with the sign of the first one. -/
def times? (x y : Finite) : Option Finite :=
  nearest? x.negative
    (timesPowerOfTwo (x.significand * y.significand) (x.exponent2 + y.exponent2))

/-- The rounded quotient of two magnitudes, with the sign of the first one. -/
def dividedBy? (x y : Finite) : Option Finite :=
  let (n, d) := timesPowerOfTwo x.significand (x.exponent2 - y.exponent2)
  nearest? x.negative (n, d * y.significand)

end Finite

/-! ## Decimals -/

/-- The number nearest to `± digits * 10 ^ exponent`.  Exponents that put the magnitude beyond
`10 ^ 310` or below `10 ^ (-330)` are settled without computing the power. -/
def ofDecimal (negative : Bool) (digits : Nat) (exponent : Int) : Binary64 :=
  let magnitude : Int := exponent + (Nat.toDigits 10 digits).length
  if digits = 0 ∨ magnitude < -330 then finite (.zero negative)
  else if 310 < magnitude then infinite negative
  else
    let value : Quotient :=
      if 0 ≤ exponent then (digits * tens exponent.toNat, 1)
      else (digits, tens (-exponent).toNat)
    match Finite.nearest? negative value with
    | some value => finite value
    | none => infinite negative

/-! ## Reading a decimal text -/

/-- A sign in front of a number, absent or written. -/
def takeSign : List Char → Bool × List Char
  | '-' :: cs => (true, cs)
  | '+' :: cs => (false, cs)
  | cs => (false, cs)

/-- An exponent part, absent or a marker, an optional sign and one or more digits. -/
def readExponent? : List Char → Option Int
  | [] => some 0
  | marker :: cs =>
    if marker = 'e' ∨ marker = 'E' then
      let (negative, digits) := takeSign cs
      (Text.readNatural? digits).map fun n => if negative then -(n : Int) else n
    else none

/-- Reads a number: an optional sign, then `inf`, `infinity` or `nan` in any letter case, or
digits with an optional point among, before or after them and an optional exponent. -/
def read? (text : String) : Option Binary64 :=
  let (negative, cs) := takeSign text.toList
  let word := cs.map Char.toLower
  if word = "inf".toList ∨ word = "infinity".toList then some (infinite negative)
  else if word = "nan".toList then some notANumber
  else
    let (whole, rest) := cs.span Char.isDigit
    let (places, rest) :=
      match rest with
      | '.' :: rest => rest.span Char.isDigit
      | rest => ([], rest)
    if whole.isEmpty && places.isEmpty then none
    else
      (readExponent? rest).map fun exponent =>
        ofDecimal negative (Text.decimalValue (whole ++ places)) (exponent - places.length)

end RelationPaging.Binary64
