import RelationPaging.Batch
import RelationPaging.Cursor
import RelationPaging.Dialect.Spelling

/-!
# Conditions on key columns

The condition that picks the rows behind a cursor, first as a tree and then as text.

`Condition.after` compares the columns of a key with the values of a cursor in lexicographic
order.  A dialect that compares row values gets one comparison of two rows; for the others
`Condition.expanded` spells the lexicographic order out: the first column decides, or it is
equal and the remaining columns decide.
-/

namespace RelationPaging

/-! ## Values of a cursor -/

/-- A value that has a literal: a JSON value that is neither an array nor an object. -/
inductive Scalar where
  | null
  | bool (value : Bool)
  | number (value : Json.Number)
  | text (value : String)
  deriving DecidableEq, Repr

namespace Scalar

/-- The scalar that a JSON value is. -/
def ofJson : Json → Except CursorError Scalar
  | .null => .ok null
  | .bool b => .ok (bool b)
  | .number n => .ok (number n)
  | .string s => .ok (text s)
  | .array items => .error (.notScalar (.array items))
  | .object members => .error (.notScalar (.object members))

/-- The literal of a scalar. -/
def literal : Scalar → String
  | null => "NULL"
  | bool true => "TRUE"
  | bool false => "FALSE"
  | number n => n.text
  | text s => textLiteral s

end Scalar

/-! ## Conditions -/

/-- A comparison of two values. -/
inductive Comparison where
  | less
  | equal
  | greater
  deriving DecidableEq, Repr

/-- The operator of a comparison. -/
def Comparison.symbol : Comparison → String
  | less => "<"
  | equal => "="
  | greater => ">"

/-- What lies behind a row: smaller values in descending order, larger ones otherwise. -/
def Comparison.behind (descending : Bool) : Comparison :=
  if descending then less else greater

/-- A condition on the columns of one table. -/
inductive Condition where
  | blank
  | compare (column : String) (comparison : Comparison) (value : Scalar)
  | compareRows (columns : List String) (comparison : Comparison) (values : List Scalar)
  | both (left right : Condition)
  | either (left right : Condition)
  deriving DecidableEq, Repr

namespace Condition

/-- The lexicographic order of columns and values, spelled out column by column. -/
def expanded (comparison : Comparison) : List String → List Scalar → Condition
  | [column], [value] => compare column comparison value
  | column :: columns, value :: values =>
    either (compare column comparison value)
      (both (compare column .equal value) (expanded comparison columns values))
  | _, _ => blank

/-- The rows behind the given values of the key columns. -/
def after (comparesRows : Bool) (columns : List String) (values : List Scalar)
    (descending : Bool) : Condition :=
  let comparison := Comparison.behind descending
  if comparesRows then compareRows columns comparison values
  else expanded comparison columns values

/-- Parts separated by commas, in parentheses. -/
def row (parts : List String) : String :=
  "(" ++ String.intercalate ", " parts ++ ")"

/-- The text of a condition, where `reference` gives the reference of a column. -/
def render (reference : String → String) : Condition → String
  | blank => ""
  | compare column comparison value =>
    reference column ++ " " ++ comparison.symbol ++ " " ++ value.literal
  | compareRows columns comparison values =>
    row (columns.map reference) ++ " " ++ comparison.symbol ++ " "
      ++ row (values.map Scalar.literal)
  | both left right => "(" ++ left.render reference ++ " AND " ++ right.render reference ++ ")"
  | either left right => "(" ++ left.render reference ++ " OR " ++ right.render reference ++ ")"

end Condition

/-- The condition for the rows of a table behind the given values of its key columns. -/
def Spelling.keysetCondition (s : Spelling) (aliasName : String) (columns : List String)
    (values : List Json) (descending : Bool) : Except CursorError String := do
  let scalars ← values.mapM Scalar.ofJson
  return (Condition.after s.comparesRows columns scalars descending).render (s.column aliasName)

end RelationPaging
