import RelationPaging.Relation

/-!
# Which declaration pages a relation

A relation and its junction may each declare a sort key and an order.  One of the four is used:
a sort key before an order, and the relation's own before that of the junction.  A sort key is
paged by keyset, an order by offset.
-/

namespace RelationPaging

/-- The two ways of paging. -/
inductive PagingMode where
  | keyset
  | offset
  deriving DecidableEq, Repr

/-- The word for a way of paging. -/
def PagingMode.text : PagingMode → String
  | keyset => "keyset"
  | offset => "offset"

/-- The table that carries a declaration. -/
inductive Owner where
  | relation
  | junction
  deriving DecidableEq, Repr

/-- A declaration that pages a relation, and the table that carries it. -/
inductive Declaration where
  | keyset (key : SortKey) (owner : Owner)
  | offset (order : OrderBy) (owner : Owner)
  deriving DecidableEq, Repr

namespace Declaration

/-- The way of paging that a declaration asks for. -/
def mode : Declaration → PagingMode
  | keyset .. => .keyset
  | offset .. => .offset

/-- The table that carries a declaration. -/
def owner : Declaration → Owner
  | keyset _ owner => owner
  | offset _ owner => owner

end Declaration

/-- The declaration that pages a relation, if there is one. -/
def Relation.declaration? (relation : Relation) : Option Declaration :=
  let junctionKey := relation.junction.bind (·.sortKey)
  let junctionOrder := relation.junction.bind (·.orderBy)
  (relation.sortKey.map (.keyset · .relation))
    <|> (junctionKey.map (.keyset · .junction))
    <|> (relation.orderBy.map (.offset · .relation))
    <|> (junctionOrder.map (.offset · .junction))

end RelationPaging
