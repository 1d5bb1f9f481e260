import RelationPaging.Json
import RelationPaging.SortDirection

/-!
# Relations

A relation is a table that is asked for in a nested query, together with what is known about
how its rows hang together with those of its parent: the arguments it was asked with, how its
pages are declared, and the callbacks that filter it and join it.  A relation between many and
many passes through a *junction*, a table of its own with its own declarations and callbacks.

A callback is a function of what it is told about the query.  Anything else it depends on is
part of the function.
-/

namespace RelationPaging

/-- The arguments that a relation was asked with, in canonical order. -/
abbrev Arguments := Json.Members

/-! ## Declarations -/

/-- A sort key: columns whose values identify a row, sorted in one direction. -/
structure SortKey where
  direction : SortDirection
  columns : List String
  deriving DecidableEq, Repr

/-- An order: columns, each with its own direction. -/
structure OrderBy where
  columns : List (String × SortDirection)
  deriving DecidableEq, Repr

/-- How a relation is loaded for many parents: the column that refers to the parent, and the
column of the parent that it refers to. -/
structure BatchKey where
  child : String
  parent : String
  deriving DecidableEq, Repr

/-! ## Callbacks -/

/-- What a callback answers: a predicate, no predicate, or the reason why it failed. -/
abbrev CallbackAnswer := Except String (Option String)

/-- A filter is told the alias of its table and the arguments. -/
abbrev Filter := (aliasName : String) → Arguments → CallbackAnswer

/-- A join is told the aliases of the two tables and the arguments. -/
abbrev JoinOn := (parent child : String) → Arguments → CallbackAnswer

/-- The two joins of a junction. -/
structure JunctionJoins where
  toJunction : JoinOn
  toTarget : JoinOn

/-- A call of a callback, with the aliases that it was told. -/
inductive Invocation where
  | join (parent child : String)
  | junctionJoin (parent junction : String)
  | targetJoin (junction target : String)
  | junctionFilter (aliasName : String)
  | filter (aliasName : String)
  deriving DecidableEq, Repr

namespace Invocation

/-- The part that the callback plays, in the words of messages. -/
def role : Invocation → String
  | join .. => "sql_join"
  | junctionJoin .. => "junction sql_joins[0]"
  | targetJoin .. => "junction sql_joins[1]"
  | junctionFilter .. => "junction where"
  | filter .. => "where"

/-- The alias for which the callback was asked: the table that is joined or filtered. -/
def subject : Invocation → String
  | join _ child => child
  | junctionJoin _ junction => junction
  | targetJoin _ target => target
  | junctionFilter aliasName => aliasName
  | filter aliasName => aliasName

end Invocation

/-! ## Relations and junctions -/

/-- The table between a relation and its parent. -/
structure Junction where
  table : String
  aliasName : String
  batchKey : Option BatchKey := none
  joins : Option JunctionJoins := none
  filter : Option Filter := none
  sortKey : Option SortKey := none
  orderBy : Option OrderBy := none

/-- A relation.  `hasPageInfo` asks for one more row than the page has, so that the existence of
a next page is known. -/
structure Relation where
  table : String
  aliasName : String
  arguments : Arguments := []
  sortKey : Option SortKey := none
  orderBy : Option OrderBy := none
  hasPageInfo : Bool := false
  filter : Option Filter := none
  join : Option JoinOn := none
  batchKey : Option BatchKey := none
  junction : Option Junction := none

/-- A relation with one argument bound anew. -/
def Relation.withArgument (relation : Relation) (key : String) (value : Json) : Relation :=
  { relation with arguments := relation.arguments.insert key value }

end RelationPaging
