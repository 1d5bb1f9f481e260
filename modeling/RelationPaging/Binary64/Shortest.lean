import RelationPaging.Binary64.Rounding

/-!
# The shortest decimal of a number

Among the decimals that denote a given finite number, the ones with the fewest significant
digits, and of those the nearest to the number.  Seventeen digits always suffice.

A decimal denotes the number when it lies in the interval of reals that round to it, whose
ends belong to it iff the significand is even.  For one, two, … digits the two neighbours of
the number on that decimal grid are tested against the interval: if any point of the grid lies
in the interval then one of these two does, so the first grid with a hit has the fewest digits.
-/

namespace RelationPaging.Binary64

/-- What is taken when two shortest decimals are equally near. -/
inductive TieRule where
  | toEven
  | up
  deriving DecidableEq, Repr

/-- A positive decimal: the digits, without trailing zeros, and the position of the point.
The value is `0.digits * 10 ^ point`. -/
structure ShortDecimal where
  digits : List Char
  point : Int
  deriving DecidableEq, Repr

/-- The value divided by `10 ^ e`. -/
def dividePowerOfTen : Quotient → Int → Quotient
  | (n, d), e => if 0 ≤ e then (n, d * tens e.toNat) else (n * tens (-e).toNat, d)

/-- The least `e` such that a positive quotient is below `10 ^ e`. -/
def decimalPoint (value : Quotient) : Int :=
  let estimate : Int :=
    ((Nat.toDigits 10 value.1).length : Int) - (Nat.toDigits 10 value.2).length
  let (n, d) := dividePowerOfTen value estimate
  if n < d then estimate else estimate + 1

namespace Finite

/-- Four times the distance from a number to the lower end of its interval, in units of the
last place.  Just above a power of two the numbers below lie closer together. -/
def lowerQuarters (x : Finite) : Nat :=
  if x.fraction.val = 0 ∧ 1 < x.exponent.val then 1 else 2

/-- One unit in the last place, counted in steps of the decimal grid with a given number of
digits, as a quotient. -/
def unitOnGrid (x : Finite) (point : Int) (count : Nat) : Quotient :=
  dividePowerOfTen (timesPowerOfTwo 1 x.exponent2) (point - count)

/-- Whether a grid point rounds to the number.  Both are given as numerators over one
denominator, over which one unit in the last place has the numerator `unit`. -/
def isRoundedFrom (x : Finite) (unit candidate : Nat) : Bool :=
  let n := x.significand * unit
  let lower := 4 * n - x.lowerQuarters * unit
  let upper := 4 * n + 2 * unit
  if x.significand % 2 = 0 then lower ≤ 4 * candidate && 4 * candidate ≤ upper
  else lower < 4 * candidate && 4 * candidate < upper

/-- The hit among the two neighbours of the number on the grid of a given number of digits. -/
def onGrid? (x : Finite) (tie : TieRule) (point : Int) (count : Nat) : Option Nat :=
  let (unit, step) := x.unitOnGrid point count
  let n := x.significand * unit
  let below := n / step
  let above := below + 1
  match x.isRoundedFrom unit (below * step), x.isRoundedFrom unit (above * step) with
  | false, false => none
  | true, false => some below
  | false, true => some above
  | true, true =>
    let toBelow := n - below * step
    let toAbove := above * step - n
    if toBelow < toAbove then some below
    else if toAbove < toBelow then some above
    else match tie with
      | .up => some above
      | .toEven => if below % 2 = 0 then some below else some above

/-- Drops the zeros at the end of a list of digits, but never the first digit. -/
def stripZeros (digits : List Char) : List Char :=
  match digits with
  | [] => []
  | first :: rest => first :: (rest.reverse.dropWhile (· == '0')).reverse

/-- The first hit on the grids of `count`, `count + 1`, … digits, for at most `tries` grids; at
the last one the neighbour below stands in for a hit, which is never needed from seventeen
digits on. -/
def firstHit (x : Finite) (tie : TieRule) (point : Int) : (tries count : Nat) → Nat × Nat
  | 0, count =>
    let (unit, step) := x.unitOnGrid point count
    (x.significand * unit / step, count)
  | tries + 1, count =>
    match x.onGrid? tie point count with
    | some digits => (digits, count)
    | none => x.firstHit tie point tries (count + 1)

/-- The shortest decimal of a number other than zero. -/
def shortest (x : Finite) (tie : TieRule) : ShortDecimal :=
  let point := decimalPoint (timesPowerOfTwo x.significand x.exponent2)
  let (hit, count) := x.firstHit tie point 17 1
  let digits := Nat.toDigits 10 hit
  -- a neighbour above may be a power of ten, one digit longer than the grid
  ⟨stripZeros digits, point + (digits.length - count : Int)⟩

end Finite

end RelationPaging.Binary64
