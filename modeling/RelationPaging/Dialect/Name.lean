import RelationPaging.Casing

/-!
# Names of dialects

The dialects that are told apart by name, what is known about each from its name alone, and the
reading of a name typed by hand: letter case does not matter, and two of the dialects go by
further names.
-/

namespace RelationPaging

/-- The name of a dialect of SQL. -/
inductive DialectName where
  | postgresql
  | mysql
  | db2
  deriving DecidableEq, Repr

namespace DialectName

/-- All dialects, in the order in which they are listed. -/
def all : List DialectName := [postgresql, mysql, db2]

/-- The canonical spelling. -/
def text : DialectName → String
  | postgresql => "postgresql"
  | mysql => "mysql"
  | db2 => "db2"

/-- Whether the dialect compares row values, as in `(a, b) > (1, 2)`. -/
def comparesRows : DialectName → Bool
  | postgresql => true
  | mysql => true
  | db2 => false

/-- The casing to which the dialect folds names that are not quoted. -/
def defaultCasing : DialectName → Casing
  | postgresql => .identity
  | mysql => .identity
  | db2 => .upper

/-- The spellings that are read as a name, in lower case. -/
def spellings : List (String × DialectName) :=
  [("postgresql", postgresql), ("postgres", postgresql), ("pg", postgresql), ("mysql", mysql),
   ("db2", db2), ("ibm_db2", db2)]

/-- Reads a name in any letter case. -/
def parse? (s : String) : Option DialectName :=
  spellings.lookup (Casing.lower.apply s)

/-- The wording of the refusal of an unknown name. -/
def parseFailure : String := "unknown dialect"

/-- The position of a dialect in the list of all of them. -/
def index (name : DialectName) : Nat := all.idxOf name

end DialectName

end RelationPaging
