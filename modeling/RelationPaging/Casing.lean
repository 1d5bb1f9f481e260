/-!
# Casing of identifiers

A database folds identifiers that are written without quotes to one letter case.  Identifiers
are therefore brought to that case before they are quoted, so that quoted and unquoted
references meet.  Only the letters of ASCII are folded.
-/

namespace RelationPaging

/-- How identifiers are folded before they are quoted. -/
inductive Casing where
  | identity
  | upper
  | lower
  deriving DecidableEq, Repr

namespace Casing

/-- The folded form of one character. -/
def foldChar : Casing → Char → Char
  | identity, c => c
  | upper, c => c.toUpper
  | lower, c => c.toLower

/-- The folded form of an identifier. -/
def apply (casing : Casing) (name : String) : String :=
  String.ofList (name.toList.map casing.foldChar)

/-- The name of a casing, as configuration files have it. -/
def name : Casing → String
  | identity => "identity"
  | upper => "upper"
  | lower => "lower"

end Casing

end RelationPaging
