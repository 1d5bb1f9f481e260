/-!
# Natural numbers in decimal

Reading and writing of natural numbers in ASCII decimal digits.  Writing uses no leading
zero; reading admits any number of them.  A *count* is the text of a 64-bit natural number:
at most one leading plus sign, then one or more digits, with a value below `2 ^ 64`.
-/

namespace RelationPaging.Text

/-- The value of a list of decimal digits, the most significant digit first. -/
def decimalValue (digits : List Char) : Nat :=
  digits.foldl (fun value digit => 10 * value + (digit.toNat - 48)) 0

/-- Reads one or more decimal digits and nothing else. -/
def readNatural? (cs : List Char) : Option Nat :=
  if !cs.isEmpty && cs.all Char.isDigit then some (decimalValue cs) else none

/-- Drops one leading plus sign. -/
def dropPlus : List Char → List Char
  | '+' :: cs => cs
  | cs => cs

/-- Reads a count.  A value of `2 ^ 64` or more has no count, so it is refused and not
wrapped. -/
def readCount? (cs : List Char) : Option UInt64 :=
  (readNatural? (dropPlus cs)).bind fun n =>
    if n < UInt64.size then some (UInt64.ofNat n) else none

/-- The decimal text of a count, without sign or leading zero. -/
def showCount (n : UInt64) : String :=
  toString n.toNat

end RelationPaging.Text
