import RelationPaging.Batch
import RelationPaging.Dialect.Spelling

/-!
# The temporary table of a batch

The keys of a batch scope become the rows of a table of values with one column.  A scope
without keys has no rows to write, so every dialect spells a table without rows in its own way.
Key columns are compared with the values as they are, except that a column is cast to text
before it is compared with text.
-/

namespace RelationPaging.Spelling

/-- One row of a table of values. -/
def valueRow (s : Spelling) (value : BatchValue) : String :=
  s.rowKeyword ++ "(" ++ value.literal ++ ")"

/-- A table with one row for each value of a scope. -/
def valuesTable (s : Spelling) (scope : BatchScope) (column : String) : String :=
  "FROM (VALUES " ++ String.intercalate ", " (scope.values.map s.valueRow) ++ ") "
    ++ s.temporaryAlias ++ "(" ++ s.quote column ++ ")"

/-- The temporary table of a scope. -/
def table (s : Spelling) (scope : BatchScope) (column : String) : String :=
  if scope.isEmpty then s.emptyTable column else s.valuesTable scope column

theorem table_eq_valuesTable (s : Spelling) {scope : BatchScope} (hne : scope.values ≠ [])
    (column : String) : s.table scope column = s.valuesTable scope column := by
  rw [table, BatchScope.isEmpty, List.isEmpty_eq_false_iff.2 hne]
  rfl

/-- A column reference in the form in which it is compared with values like `sample`. -/
def cast (s : Spelling) (reference : String) (sample : BatchValue) : String :=
  match sample.kind with
  | .text => "CAST(" ++ reference ++ " AS " ++ s.textType ++ ")"
  | .integer => reference
  | .floating => reference

end RelationPaging.Spelling
