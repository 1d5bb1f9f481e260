/-!
# White space and blank text

The characters that carry the Unicode property `White_Space`, and the two notions built on
them: the trimmed form of a text and blankness.  A predicate that is blank contributes
nothing to a conjunction, and a count given as text is read from its trimmed form.

The property is wider than ASCII white space (no-break space, ideographic space, the line
and paragraph separators, NEXT LINE) and leaves out look-alikes that are not separators:
ZERO WIDTH SPACE, the byte order mark and the information separators U+001C to U+001F.
-/

namespace RelationPaging.Text

/-- The ranges of code points with the property `White_Space`, in increasing order. -/
def whiteSpaceRanges : List (Nat × Nat) :=
  [(0x9, 0xD), (0x20, 0x20), (0x85, 0x85), (0xA0, 0xA0), (0x1680, 0x1680), (0x2000, 0x200A),
   (0x2028, 0x2029), (0x202F, 0x202F), (0x205F, 0x205F), (0x3000, 0x3000)]

/-- Whether a character has the property `White_Space`. -/
def isWhiteSpace (c : Char) : Bool :=
  whiteSpaceRanges.any fun (low, high) => low ≤ c.toNat && c.toNat ≤ high

/-- The characters of a text without the white space at both ends. -/
def trim (cs : List Char) : List Char :=
  ((cs.dropWhile isWhiteSpace).reverse.dropWhile isWhiteSpace).reverse

/-- A text is blank when it holds no character besides white space. -/
def isBlank (s : String) : Bool :=
  s.toList.all isWhiteSpace

/-! ## Facts about the class -/

/-- The class has twenty-five members, counted by its ranges. -/
example : (whiteSpaceRanges.map fun (low, high) => high + 1 - low).sum = 25 := by decide

end RelationPaging.Text
