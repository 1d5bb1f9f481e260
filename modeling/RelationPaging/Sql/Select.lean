import RelationPaging.Dialect.Spelling
import RelationPaging.Text.Blank

/-!
# The select of a page

One page of a relation is a subquery: the columns of the table, the table, an extra join that
brings in the relation's own table where the page is read from a junction, the conjunction of
the predicates, the order, and the clause that cuts the page.  The subquery either starts a
`FROM` clause or is attached laterally to what precedes it.
-/

namespace RelationPaging

/-! ## Joins -/

/-- Whether rows without a partner are kept. -/
inductive JoinKind where
  | inner
  | left
  deriving DecidableEq, Repr

/-- The keywords of a join. -/
def JoinKind.keyword : JoinKind → String
  | inner => "JOIN"
  | left => "LEFT JOIN"

/-- A join inside a subquery. -/
structure ExtraJoin where
  table : String
  aliasName : String
  condition : String
  deriving DecidableEq, Repr

/-- How a subquery is attached to what precedes it. -/
structure Attachment where
  kind : JoinKind
  condition : String
  extra : Option ExtraJoin := none
  deriving DecidableEq, Repr

/-! ## Selects -/

/-- A page to be selected from a table. -/
structure PageSelect where
  table : String
  aliasName : String
  predicates : List String
  order : PageOrder
  limit : PageLimit
  attachment : Option Attachment := none
  deriving DecidableEq, Repr

namespace Spelling

/-- The conjunction of the predicates that are not blank; without any, the condition that
always holds. -/
def conjunction (s : Spelling) (predicates : List String) : String :=
  match predicates.filter fun predicate => !Text.isBlank predicate with
  | [] => s.trueLiteral
  | predicates => String.intercalate " AND " predicates

/-- The lines of the subquery of a page.  A page with an offset also counts all rows. -/
def selectLines (s : Spelling) (page : PageSelect) (offset : Option UInt64) : List String :=
  let aliasName := s.quote page.aliasName
  let total := if offset.isSome then ", count(*) OVER () AS " ++ s.total else ""
  let extra := page.attachment.bind (·.extra)
  let cut := s.limitClause page.limit offset
  ["  SELECT " ++ aliasName ++ ".*" ++ total, "  FROM " ++ page.table ++ " " ++ aliasName]
    ++ (extra.map fun join =>
      "  LEFT JOIN " ++ join.table ++ " " ++ s.quote join.aliasName ++ " ON "
        ++ join.condition).toList
    ++ ["  WHERE " ++ s.conjunction page.predicates]
    ++ (if page.order.columns.isEmpty then [] else ["  ORDER BY " ++ s.orderColumns page.order])
    ++ (if cut.isEmpty then [] else ["  " ++ cut])

/-- The text of the select of a page. -/
def select (s : Spelling) (page : PageSelect) (offset : Option UInt64) : String :=
  let body := String.intercalate "\n" (s.selectLines page offset)
  let aliasName := s.quote page.aliasName
  match page.attachment with
  | some attachment =>
    attachment.kind.keyword ++ " LATERAL (\n" ++ body ++ "\n) " ++ aliasName ++ " ON "
      ++ attachment.condition
  | none => "FROM (\n" ++ body ++ "\n) " ++ aliasName

/-- The join that brings in the target of a batched relation behind its junction. -/
def trailingJoin (s : Spelling) (table aliasName condition : String) : String :=
  "LEFT JOIN " ++ table ++ " AS " ++ s.quote aliasName ++ " ON " ++ condition

end Spelling

end RelationPaging
