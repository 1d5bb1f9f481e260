import RelationPaging.Binary64.Layout

/-!
# Numbers of JSON

A number written without fraction and exponent is kept as an integer as long as it fits a
signed or an unsigned 64-bit word; every other number is kept in the format *binary64*.  Only
the first kind counts rows.  The two kinds never coincide: `1` and `1.0` are different numbers
and are written differently.
-/

namespace RelationPaging.Json

/-- An integer that fits a signed or an unsigned 64-bit word. -/
structure Word where
  value : Int
  least : -0x8000000000000000 ≤ value := by omega
  most : value < 0x10000000000000000 := by omega
  deriving DecidableEq, Repr

/-- A number in a JSON text. -/
inductive Number where
  | whole (word : Word)
  | real (value : Binary64.Finite)
  deriving DecidableEq, Repr

namespace Number

/-- An integer as a number, if it fits a word. -/
def ofInt? (n : Int) : Option Number :=
  if h : -0x8000000000000000 ≤ n ∧ n < 0x10000000000000000 then some (whole ⟨n, h.1, h.2⟩) else none

/-- A 64-bit natural number as a number. -/
def ofCount (n : UInt64) : Number :=
  whole ⟨n.toNat, by omega, by have := n.toNat_lt; omega⟩

/-- The 64-bit natural number that a number is, if it is one.  A real number is none, even if
its value is integral. -/
def count? : Number → Option UInt64
  | whole word => if 0 ≤ word.value then some (UInt64.ofNat word.value.toNat) else none
  | real _ => none

@[simp] theorem count?_ofCount (n : UInt64) : (ofCount n).count? = some n := by
  simp [ofCount, count?]

/-- The characters of a number: an integer in decimal, a real number in the layout of JSON. -/
def chars : Number → List Char
  | whole word =>
    if word.value < 0 then '-' :: Nat.toDigits 10 (-word.value).toNat
    else Nat.toDigits 10 word.value.toNat
  | real value => value.chars .json

/-- The text of a number. -/
def text (n : Number) : String :=
  String.ofList n.chars

end Number

end RelationPaging.Json
