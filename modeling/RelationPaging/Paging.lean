import RelationPaging.Relation
import RelationPaging.Relation.Declaration

/-!
# Pages

What an interpreter of paging arguments is given and what it gives back: the target, which
names the table and its declaration, and the decision about the page, which fixes how many rows
are taken, in which order, and where they start.
-/

namespace RelationPaging

/-- How many rows a page takes. -/
inductive PageLimit where
  | all
  | rows (count : UInt64)
  deriving DecidableEq, Repr

/-- The order of a page: columns of one table, each with its direction.  The table is given by
its alias. -/
structure PageOrder where
  table : String
  columns : List (String × SortDirection)
  deriving DecidableEq, Repr

/-- A page that starts behind a row of given key, if there is one. -/
structure KeysetPaging where
  limit : PageLimit
  order : PageOrder
  condition : Option String
  deriving DecidableEq, Repr

/-- A page that starts at a position. -/
structure OffsetPaging where
  limit : PageLimit
  offset : UInt64
  order : PageOrder
  deriving DecidableEq, Repr

/-- The decision about a page. -/
inductive Pagination where
  | keyset (paging : KeysetPaging)
  | offset (paging : OffsetPaging)
  deriving DecidableEq, Repr

namespace Pagination

/-- The way of paging. -/
def mode : Pagination → PagingMode
  | keyset _ => .keyset
  | offset _ => .offset

/-- The order of the page. -/
def order : Pagination → PageOrder
  | keyset paging => paging.order
  | offset paging => paging.order

/-- How many rows the page takes. -/
def limit : Pagination → PageLimit
  | keyset paging => paging.limit
  | offset paging => paging.limit

/-- The predicate that a page adds to the others. -/
def condition : Pagination → Option String
  | keyset paging => paging.condition
  | offset _ => none

end Pagination

/-- What an interpreter has to know: the table by its alias, the arguments, and the declaration. -/
structure PagingTarget where
  aliasName : String
  arguments : Arguments
  sortKey : Option SortKey := none
  orderBy : Option OrderBy := none
  hasPageInfo : Bool := false

namespace PagingTarget

/-- The target of paging a relation by a sort key. -/
def ofSortKey (relation : Relation) (aliasName : String) (key : SortKey) : PagingTarget where
  aliasName := aliasName
  arguments := relation.arguments
  sortKey := some key
  hasPageInfo := relation.hasPageInfo

/-- The target of paging a relation by an order. -/
def ofOrderBy (relation : Relation) (aliasName : String) (order : OrderBy) : PagingTarget where
  aliasName := aliasName
  arguments := relation.arguments
  orderBy := some order
  hasPageInfo := relation.hasPageInfo

end PagingTarget

end RelationPaging
