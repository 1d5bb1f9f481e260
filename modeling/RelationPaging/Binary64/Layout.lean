import RelationPaging.Binary64.Shortest

/-!
# Layout of numbers in text

A finite number is written with the digits of its shortest decimal, either positionally with
at least one digit on each side of the point, or as one digit before the point, the remaining
ones after it, and an exponent of ten.  A `Layout` fixes where the positional form ends and how
an exponent is marked.

Two layouts are in use: `Layout.json` for numbers inside JSON texts and `Layout.literal` for
floating point literals of a batch.
-/

namespace RelationPaging.Binary64

/-- How a number is laid out.  A number whose leading digit stands for `10 ^ e` is written
positionally when `lowest ≤ e ≤ 15`. -/
structure Layout where
  /-- The least power of ten of a leading digit that is written positionally. -/
  lowest : Int
  /-- What stands between the exponent mark and a non-negative exponent. -/
  positiveSign : List Char
  /-- The choice between two shortest decimals that are equally near. -/
  tie : TieRule

/-- Numbers in JSON are positional from `0.00001` up to below `10 ^ 16`, and a non-negative
exponent has a plus sign. -/
def Layout.json : Layout := ⟨-5, ['+'], .toEven⟩

/-- Literals are positional from `0.0001` up to below `10 ^ 16`, and a non-negative exponent
has no sign. -/
def Layout.literal : Layout := ⟨-4, [], .up⟩

/-- The positional form of a decimal. -/
def positional (d : ShortDecimal) : List Char :=
  if d.point ≤ 0 then ['0', '.'] ++ List.replicate (-d.point).toNat '0' ++ d.digits
  else
    let before := d.point.toNat
    if d.digits.length ≤ before then
      d.digits ++ List.replicate (before - d.digits.length) '0' ++ ['.', '0']
    else d.digits.take before ++ ['.'] ++ d.digits.drop before

/-- The form of a decimal with an exponent. -/
def scientific (layout : Layout) (d : ShortDecimal) : List Char :=
  let exponent := d.point - 1
  let mark :=
    if 0 ≤ exponent then 'e' :: layout.positiveSign ++ Nat.toDigits 10 exponent.toNat
    else 'e' :: '-' :: Nat.toDigits 10 (-exponent).toNat
  match d.digits with
  | first :: second :: more => first :: '.' :: second :: more ++ mark
  | digits => digits ++ mark

namespace Finite

/-- The magnitude of a finite number in a layout. -/
def magnitudeChars (layout : Layout) (x : Finite) : List Char :=
  if x.isZero then ['0', '.', '0']
  else
    let d := x.shortest layout.tie
    let leading := d.point - 1
    if layout.lowest ≤ leading ∧ leading ≤ 15 then positional d else scientific layout d

/-- The characters of a finite number in a layout. -/
def chars (layout : Layout) (x : Finite) : List Char :=
  if x.negative then '-' :: x.magnitudeChars layout else x.magnitudeChars layout

end Finite

/-- The text of a number in a layout.  Infinities and not-a-number are words. -/
def text (layout : Layout) : Binary64 → String
  | finite x => String.ofList (x.chars layout)
  | infinite false => "inf"
  | infinite true => "-inf"
  | notANumber => "NaN"

end RelationPaging.Binary64
