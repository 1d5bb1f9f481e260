import RelationPaging.Dialect

/-!
# The dialects that are built in

PostgreSQL has the common spellings.  MySQL quotes identifiers with backticks, has no keyword
for all rows and asks for the largest count instead, casts to `CHAR`, and writes `ROW` in front
of each row of a table of values.  DB2 folds to upper case, has neither boolean literals nor
comparisons of rows, joins texts by an operator, and cuts pages with `OFFSET` and `FETCH
FIRST`, each of which it leaves out when there is nothing to say.
-/

namespace RelationPaging.Dialect

/-! ## Spellings -/

/-- The spellings of PostgreSQL. -/
def postgresqlSpelling (casing : Casing) : Spelling where
  name := .postgresql
  casing := casing
  quote := quoteDoubling '"'

/-- The largest count, with which MySQL asks for all rows. -/
def mysqlUnbounded : String := "18446744073709551615"

/-- The spellings of MySQL. -/
def mysqlSpelling (casing : Casing) : Spelling where
  name := .mysql
  casing := casing
  quote := quoteDoubling '\x60'
  textType := "CHAR"
  limitClause := limitClauseWith mysqlUnbounded
  rowKeyword := "ROW"
  emptyTable column :=
    emptyTableFrom "NULL" " FROM DUAL" (quoteDoubling '\x60' column) "FALSE"
      (quoteDoubling '\x60' (casing.apply temporaryTable))

/-- The clause of DB2 that cuts a page: its two parts, each if there is one. -/
def db2LimitClause (limit : PageLimit) (offset : Option UInt64) : String :=
  let skip := (offset.map fun n => "OFFSET " ++ Text.showCount n ++ " ROWS").toList
  let fetch :=
    match limit with
    | .all => []
    | .rows n => ["FETCH FIRST " ++ Text.showCount n ++ " ROWS ONLY"]
  String.intercalate " " (skip ++ fetch)

/-- The spellings of DB2. -/
def db2Spelling (casing : Casing) : Spelling where
  name := .db2
  casing := casing
  quote := quoteDoubling '"'
  textType := "VARCHAR(255)"
  trueLiteral := "1 = 1"
  falseLiteral := "1 = 0"
  limitClause := db2LimitClause
  compositeKey references := "NULLIF(" ++ String.intercalate " || " references ++ ", '')"
  emptyTable column :=
    emptyTableFrom "CAST(NULL AS INTEGER)" " FROM SYSIBM.SYSDUMMY1" (quoteDoubling '"' column)
      "1 = 0" (quoteDoubling '"' (casing.apply temporaryTable))

/-! ## Dialects -/

/-- The spellings of the dialect with a given name. -/
def spellingOf (name : DialectName) (casing : Casing) : Spelling :=
  match name with
  | .postgresql => postgresqlSpelling casing
  | .mysql => mysqlSpelling casing
  | .db2 => db2Spelling casing

/-- The built-in dialect with a given name that folds identifiers in a given way. -/
def standard (name : DialectName) (casing : Casing) : Dialect :=
  ofSpelling (spellingOf name casing)

@[simp] theorem spellingOf_casing (name : DialectName) (casing : Casing) :
    (spellingOf name casing).casing = casing := by
  cases name <;> rfl

/-- A column is referred to by two identifiers with a dot between them. -/
theorem column_spellingOf (name : DialectName) (casing : Casing) (aliasName column : String) :
    (spellingOf name casing).column aliasName column =
      (spellingOf name casing).quote aliasName ++ "." ++ (spellingOf name casing).quote column := by
  cases name <;> rfl

/-- The alias of the temporary table is folded and quoted like any other. -/
theorem temporaryAlias_spellingOf (name : DialectName) (casing : Casing) :
    (spellingOf name casing).temporaryAlias =
      (spellingOf name casing).quote (casing.apply temporaryTable) := by
  cases name <;> rfl

end RelationPaging.Dialect
