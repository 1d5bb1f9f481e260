import RelationPaging.Binary64.Layout

/-!
# Batch scopes

A batched relation is loaded for many parents in one round trip.  Its scope is the list of the
parents' keys, in order, each of which becomes one row of a temporary table.  A valid scope
holds values of one kind, all of which have a literal form.
-/

namespace RelationPaging

/-- A parent key. -/
inductive BatchValue where
  | integer (value : Int64)
  | floating (value : Binary64)
  | text (value : String)
  deriving DecidableEq, Repr

/-- The kind of a parent key, which decides how a column is compared with it. -/
inductive BatchKind where
  | integer
  | floating
  | text
  deriving DecidableEq, Repr

/-- The word for a kind in messages. -/
def BatchKind.word : BatchKind → String
  | integer => "integer"
  | floating => "float"
  | text => "text"

/-! ## Literals -/

/-- A text literal: single quotes around the text, with the quotes in it doubled. -/
def textLiteral (s : String) : String :=
  String.ofList ('\'' :: s.toList.flatMap (fun c => if c = '\'' then ['\'', '\''] else [c])
    ++ ['\''])

namespace BatchValue

/-- The kind of a value. -/
def kind : BatchValue → BatchKind
  | integer _ => .integer
  | floating _ => .floating
  | text _ => .text

/-- Whether a value has a literal form: infinities and not-a-number have none. -/
def isFinite : BatchValue → Bool
  | integer _ => true
  | floating x => x.isFinite
  | text _ => true

/-- The literal of a value. -/
def literal : BatchValue → String
  | integer n => toString n.toInt
  | floating x => x.text .literal
  | text s => textLiteral s

end BatchValue

/-! ## Scopes -/

/-- The parent keys of one round trip. -/
structure BatchScope where
  values : List BatchValue
  deriving DecidableEq, Repr

namespace BatchScope

/-- How many parents a scope has. -/
def size (scope : BatchScope) : Nat := scope.values.length

/-- Whether a scope has no parents. -/
def isEmpty (scope : BatchScope) : Bool := scope.values.isEmpty

/-- The value that stands for the whole scope when a cast is chosen. -/
def sample? (scope : BatchScope) : Option BatchValue := scope.values.head?

/-- Why a scope is not valid. -/
inductive Defect where
  | nonFinite (value : BatchValue)
  | mixed (first other : BatchKind)
  deriving DecidableEq, Repr

/-- The common kind of the values, if there is any value.  The first kind that differs from that
of the first value is a defect. -/
def commonKind (scope : BatchScope) : Except Defect (Option BatchKind) :=
  match scope.values.map BatchValue.kind with
  | [] => .ok none
  | first :: others =>
    match others.find? (· != first) with
    | some other => .error (.mixed first other)
    | none => .ok (some first)

/-- Checks a scope and gives its kind.  A value without a literal form is reported before mixed
kinds are. -/
def validate (scope : BatchScope) : Except Defect (Option BatchKind) :=
  match scope.values.find? (!·.isFinite) with
  | some value => .error (.nonFinite value)
  | none => scope.commonKind

end BatchScope

end RelationPaging
