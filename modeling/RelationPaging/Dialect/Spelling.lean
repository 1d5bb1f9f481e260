import RelationPaging.Dialect.Name
import RelationPaging.Paging
import RelationPaging.Text.Decimal

/-!
# How a dialect spells

The spellings from which SQL text is put together: identifiers, literals, types, and the clause
that cuts a page.  Identifiers are folded by `casing` before they are handed to a spelling;
`quote` only puts them between quotes.

The default values are the spellings of standard SQL as PostgreSQL has them, so that a dialect
states only where it differs.
-/

namespace RelationPaging

/-! ## Common spellings -/

/-- An identifier between quotes, with the quotes in it doubled. -/
def quoteDoubling (quote : Char) (name : String) : String :=
  String.ofList (quote :: name.toList.flatMap (fun c => if c = quote then [quote, quote] else [c])
    ++ [quote])

/-- A limit clause with the keyword `LIMIT`, in which the text `unbounded` stands for all rows,
followed by the offset if there is one. -/
def limitClauseWith (unbounded : String) (limit : PageLimit) (offset : Option UInt64) : String :=
  let rows :=
    match limit with
    | .all => unbounded
    | .rows n => Text.showCount n
  match offset with
  | some n => "LIMIT " ++ rows ++ " OFFSET " ++ Text.showCount n
  | none => "LIMIT " ++ rows

/-- One scalar over several columns, absent if they are all empty. -/
def nullIfConcat (references : List String) : String :=
  "NULLIF(CONCAT(" ++ String.intercalate ", " references ++ "), '')"

/-- A table without rows and with one column, from a query over the given source. -/
def emptyTableFrom (value source column falseLiteral aliasName : String) : String :=
  "FROM (SELECT " ++ value ++ " AS " ++ column ++ source ++ " WHERE " ++ falseLiteral ++ ") "
    ++ aliasName

/-- The alias of the temporary table that holds a batch scope, before it is folded. -/
def temporaryTable : String := "temp"

/-- The column that counts all rows, before it is folded. -/
def totalColumn : String := "$total"

/-! ## Spellings -/

/-- The spellings of a dialect. -/
structure Spelling where
  /-- The dialect that is spelled. -/
  name : DialectName
  /-- How identifiers are folded before they are quoted. -/
  casing : Casing := name.defaultCasing
  /-- An identifier between quotes. -/
  quote : String → String
  /-- A column of a table given by its alias. -/
  column : String → String → String := fun aliasName column =>
    quote aliasName ++ "." ++ quote column
  /-- The type to which a column is cast when it is compared with text. -/
  textType : String := "TEXT"
  /-- The condition that always holds. -/
  trueLiteral : String := "TRUE"
  /-- The condition that never holds. -/
  falseLiteral : String := "FALSE"
  /-- Whether row values can be compared. -/
  comparesRows : Bool := name.comparesRows
  /-- The clause that cuts a page out of the rows. -/
  limitClause : PageLimit → Option UInt64 → String := limitClauseWith "ALL"
  /-- One scalar over several columns, given by their references. -/
  compositeKey : List String → String := nullIfConcat
  /-- What stands in front of each row of a table of values. -/
  rowKeyword : String := ""
  /-- The alias of the temporary table. -/
  temporaryAlias : String := quote (casing.apply temporaryTable)
  /-- A temporary table without rows, with the given column. -/
  emptyTable : String → String := fun column =>
    emptyTableFrom "NULL" "" (quote column) falseLiteral temporaryAlias

namespace Spelling

/-- One scalar over key columns of a table. -/
def compositeKeyOf (s : Spelling) (aliasName : String) (keys : List String) : String :=
  s.compositeKey (keys.map (s.column aliasName))

/-- The name of the column that counts all rows. -/
def total (s : Spelling) : String :=
  s.quote (s.casing.apply totalColumn)

/-- The columns of an order with their directions. -/
def orderColumns (s : Spelling) (order : PageOrder) : String :=
  String.intercalate ", "
    (order.columns.map fun (column, direction) =>
      s.column order.table column ++ " " ++ direction.keyword)

end Spelling

end RelationPaging
