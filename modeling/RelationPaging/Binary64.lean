/-!
# Binary floating point numbers of 64 bits

The values of the interchange format *binary64*: finite numbers, the two infinities, and one
not-a-number (its payload is never shown, so it is not kept).  A finite number is given by its
three fields.  The stored exponent is below 2047, the pattern that is taken by infinities and
not-a-number, so every combination of fields is one finite number and zero has two of them.

The magnitude of a finite number is `significand * 2 ^ exponent2`.
-/

namespace RelationPaging

/-- The weight of the leading bit of a significand, `2 ^ 52`. -/
abbrev Binary64.leadingBit : Nat := 0x10000000000000

/-- A finite number: sign, stored exponent and stored fraction. -/
structure Binary64.Finite where
  negative : Bool
  exponent : Fin 2047
  fraction : Fin Binary64.leadingBit
  deriving DecidableEq, Repr

/-- A number in the format *binary64*. -/
inductive Binary64 where
  | finite (value : Binary64.Finite)
  | infinite (negative : Bool)
  | notANumber
  deriving DecidableEq, Repr

namespace Binary64

/-- Whether a number is neither an infinity nor not-a-number. -/
def isFinite : Binary64 → Bool
  | finite _ => true
  | infinite _ => false
  | notANumber => false

namespace Finite

/-- The integral significand.  Numbers with stored exponent zero lack the leading bit. -/
def significand (x : Finite) : Nat :=
  if x.exponent.val = 0 then x.fraction.val else leadingBit + x.fraction.val

/-- The exponent of two that goes with the integral significand. -/
def exponent2 (x : Finite) : Int :=
  max x.exponent.val 1 - 1075

/-- Zero, of either sign. -/
def isZero (x : Finite) : Bool :=
  x.significand = 0

/-- Zero with the given sign. -/
def zero (negative : Bool) : Finite :=
  ⟨negative, 0, 0⟩

/-- The number at a place in the order of magnitudes: place `0` is zero, place `1` the least
positive number, and each place is one step above the one before it.  Places from
`2047 * leadingBit` on hold no finite number. -/
def atPlace? (negative : Bool) (place : Nat) : Option Finite :=
  if h : place / leadingBit < 2047 then
    some
      { negative
        exponent := ⟨place / leadingBit, h⟩
        fraction := ⟨place % leadingBit, Nat.mod_lt _ (by decide)⟩ }
  else none

end Finite

end Binary64

end RelationPaging
