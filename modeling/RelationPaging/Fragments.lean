/-!
# Fragments of a query

The `FROM` and `JOIN` fragments of the query that is being built, in the order in which they
were emitted.  Fragments are only ever added at the end.
-/

namespace RelationPaging

/-- The fragments of a query. -/
structure Fragments where
  toList : List String := []
  deriving DecidableEq, Repr

namespace Fragments

/-- No fragments. -/
def empty : Fragments := {}

/-- Adds a fragment. -/
def push (fragments : Fragments) (fragment : String) : Fragments :=
  ⟨fragments.toList ++ [fragment]⟩

/-- Adds further fragments in order. -/
def append (fragments : Fragments) (more : List String) : Fragments :=
  ⟨fragments.toList ++ more⟩

/-- How many fragments there are. -/
def size (fragments : Fragments) : Nat := fragments.toList.length

/-- Whether there are no fragments. -/
def isEmpty (fragments : Fragments) : Bool := fragments.toList.isEmpty

/-- The fragments on lines of their own, ready to follow the list of a select. -/
def sql (fragments : Fragments) : String :=
  String.intercalate "\n" fragments.toList

@[simp] theorem toList_empty : empty.toList = [] := rfl

@[simp] theorem toList_push (fragments : Fragments) (fragment : String) :
    (fragments.push fragment).toList = fragments.toList ++ [fragment] := rfl

@[simp] theorem toList_append (fragments : Fragments) (more : List String) :
    (fragments.append more).toList = fragments.toList ++ more := rfl

end Fragments

end RelationPaging
