import RelationPaging.Binary64.Rounding

/-!
# Scaling by powers of ten

A word times a power of ten, computed in the arithmetic of the format *binary64*: the word is
rounded, and then multiplied or divided by the rounded power.  The largest power of ten of the
format is `10 ^ 308`; smaller scales are reached by dividing more than once.

Because several roundings follow each other, the result may lie next to the number that is
nearest to the exact value.  It is the exact nearest number when the word has at most 53 bits
and the power at most 22 tens, since then at most one operation rounds.
-/

namespace RelationPaging.Binary64.Finite

/-- The largest exponent of a power of ten of the format. -/
def largestPower : Nat := 308

/-- The number nearest to a power of ten; there is none beyond the largest power. -/
def powerOfTen? (exponent : Nat) : Option Finite :=
  if exponent ≤ largestPower then nearest? false (tens exponent, 1) else none

/-- A number times a power of ten, which may overflow.  Zero stays zero whatever the power.
`steps` bounds the divisions by the largest power: two of them take every word to zero. -/
def timesPowerOfTen? (x : Finite) (exponent : Int) (steps : Nat) : Option Finite :=
  match powerOfTen? exponent.natAbs with
  | some power => if 0 ≤ exponent then x.times? power else x.dividedBy? power
  | none =>
    if x.isZero then some x
    else if 0 ≤ exponent then none
    else
      match steps with
      | 0 => some (zero x.negative)
      | steps + 1 =>
        match (powerOfTen? largestPower).bind x.dividedBy? with
        | some smaller => smaller.timesPowerOfTen? (exponent + largestPower) steps
        | none => none

/-- A word times a power of ten; there is none after an overflow. -/
def ofWord? (negative : Bool) (word : Nat) (exponent : Int) : Option Finite :=
  (nearest? negative (word, 1)).bind fun x => x.timesPowerOfTen? exponent 3

end RelationPaging.Binary64.Finite
