import RelationPaging.Casing

/-!
# Sort directions
-/

namespace RelationPaging

/-- The direction in which a column is sorted. -/
inductive SortDirection where
  | ascending
  | descending
  deriving DecidableEq, Repr

namespace SortDirection

/-- The keyword of a direction. -/
def keyword : SortDirection → String
  | ascending => "ASC"
  | descending => "DESC"

/-- The opposite direction.  A page is read backwards by sorting in reverse. -/
def reverse : SortDirection → SortDirection
  | ascending => descending
  | descending => ascending

/-- Whether larger values come first. -/
def isDescending : SortDirection → Bool
  | ascending => false
  | descending => true

/-- Reads a keyword in any letter case. -/
def parse? (s : String) : Option SortDirection :=
  [("asc", ascending), ("desc", descending)].lookup (Casing.lower.apply s)

/-- The wording of the refusal of anything else. -/
def parseFailure : String := "sort direction must be ASC or DESC"

@[simp] theorem isDescending_reverse (d : SortDirection) :
    d.reverse.isDescending = !d.isDescending := by
  cases d <;> rfl

end SortDirection

end RelationPaging
