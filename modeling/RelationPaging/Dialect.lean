import RelationPaging.Paging.Keyset
import RelationPaging.Paging.Offset
import RelationPaging.Sql.Select
import RelationPaging.Sql.TemporaryTable

/-!
# Dialects

What planning asks of a dialect: its spellings, and the operations that may refuse their input.
A dialect is open: any record of these functions is one.  `Dialect.ofSpelling` builds the
dialect that does everything in the common way on given spellings, in which no operation
refuses anything but unusable paging arguments.
-/

namespace RelationPaging

/-- A dialect of SQL. -/
structure Dialect extends Spelling where
  /-- A column reference in the form in which it is compared with values like a sample. -/
  castTo : String → BatchValue → Except PlanError String
  /-- The temporary table of a batch scope, with the given column. -/
  temporary : BatchScope → String → Except PlanError String
  /-- The select of a page by keyset. -/
  keysetSelect : PageSelect → Except PlanError String
  /-- The select of a page by offset. -/
  offsetSelect : PageSelect → UInt64 → Except PlanError String
  /-- The decision on a page by keyset. -/
  interpretKeyset : PagingTarget → Except PlanError KeysetPaging
  /-- The decision on a page by offset. -/
  interpretOffset : PagingTarget → Except PlanError OffsetPaging

namespace Dialect

/-- The dialect that does everything in the common way. -/
def ofSpelling (s : Spelling) : Dialect where
  toSpelling := s
  castTo reference sample := .ok (s.cast reference sample)
  temporary scope column := .ok (s.table scope column)
  keysetSelect page := .ok (s.select page none)
  offsetSelect page offset := .ok (s.select page (some offset))
  interpretKeyset := s.keysetPaging
  interpretOffset := s.offsetPaging

/-- The condition under which a row belongs to a parent in the temporary table.  A scope without
keys has no value to compare with, and its rows belong to nobody. -/
def batchCondition (d : Dialect) (aliasName : String) (key : BatchKey) (scope : BatchScope) :
    Except PlanError String :=
  match scope.sample? with
  | none => .ok d.falseLiteral
  | some sample => do
    let operand ← d.castTo (d.column aliasName key.child) sample
    return operand ++ " = " ++ d.temporaryAlias ++ "." ++ d.quote key.parent

/-- The select of a page as it was decided. -/
def pageSelect (d : Dialect) (table aliasName : String) (predicates : List String)
    (pagination : Pagination) (attachment : Option Attachment) : Except PlanError String :=
  let page : PageSelect :=
    { table, aliasName, predicates, attachment
      order := pagination.order
      limit := pagination.limit }
  match pagination with
  | .keyset _ => d.keysetSelect page
  | .offset paging => d.offsetSelect page paging.offset

/-- The decision on the page of a relation by the declaration that pages it.  The columns belong
to the table that carries the declaration, as far as its alias is given. -/
def paginate (d : Dialect) (relation : Relation) (declaration : Declaration)
    (relationAlias : String) (junctionAlias : Option String) : Except PlanError Pagination :=
  let aliasName :=
    match declaration.owner, junctionAlias with
    | .junction, some junctionAlias => junctionAlias
    | _, _ => relationAlias
  match declaration with
  | .keyset key _ => (d.interpretKeyset (.ofSortKey relation aliasName key)).map .keyset
  | .offset order _ => (d.interpretOffset (.ofOrderBy relation aliasName order)).map .offset

end Dialect

end RelationPaging
