import RelationPaging.Assembly
import RelationPaging.Batch
import RelationPaging.Cursor
import RelationPaging.Relation
import RelationPaging.Text.Quoted

/-!
# Why a relation cannot be planned

The causes for which planning fails, each with what a message about it needs, and the wording
of the messages.
-/

namespace RelationPaging

/-- What a shape needs and was not given. -/
inductive MissingInput where
  | parentAlias
  | joinCondition
  | join
  | junctionJoins
  | batchScope
  | batchKey
  | batchCondition
  | ownTableCondition
  | targetCondition
  deriving DecidableEq, Repr

/-- The words for what is missing. -/
def MissingInput.text : MissingInput → String
  | parentAlias => "a parent alias"
  | joinCondition => "a join condition"
  | join => "an sql_join callback"
  | junctionJoins => "junction sql_joins callbacks"
  | batchScope => "a batch scope"
  | batchKey => "an sql_batch descriptor"
  | batchCondition => "a batch key condition"
  | ownTableCondition => "a join condition back to its own table"
  | targetCondition => "a join condition for its target table"

/-- A name in a message. -/
def backticked (name : String) : String :=
  "\x60" ++ name ++ "\x60"

/-- Why paging arguments were refused. -/
inductive ArgumentError where
  | notCount (name : String) (found : Json)
  | notCursor (name : String) (found : Json)
  | noColumns (aliasName : String)
  | bothCounts
  | cursorAgainst (cursor count : String)
  | backwardOffset
  deriving DecidableEq, Repr

/-- A value as a refusal shows it: a string is quoted as text, all else is JSON. -/
def shownArgument : Json → String
  | .string s => Text.quoted s
  | found => found.text

/-- The wording of a refusal. -/
def ArgumentError.message : ArgumentError → String
  | notCount name found =>
    backticked name ++ " must be a non-negative integer, got " ++ shownArgument found
  | notCursor name found => backticked name ++ " must be a cursor string, got " ++ found.text
  | noColumns aliasName => "sort key for " ++ backticked aliasName ++ " names no columns"
  | bothCounts => "\x60first\x60 and \x60last\x60 cannot be combined"
  | cursorAgainst cursor count =>
    backticked cursor ++ " cannot be combined with " ++ backticked count
  | backwardOffset =>
    "backward pagination is not supported with offsets, declare a sort key instead"

/-- Why a dialect refused what it was given. -/
inductive DialectError where
  | noSortKey (aliasName : String)
  | noOrderBy (aliasName : String)
  | refused (reason : String)
  deriving DecidableEq, Repr

/-- The wording of a refusal by a dialect. -/
def DialectError.message : DialectError → String
  | noSortKey aliasName => "keyset paging for " ++ backticked aliasName ++ " without a sort key"
  | noOrderBy aliasName => "offset paging for " ++ backticked aliasName ++ " without an order by"
  | refused reason => reason

/-- Why a relation cannot be planned. -/
inductive PlanError where
  | missingPagination (aliasName : String)
  | missingInput (aliasName : String) (what : MissingInput)
  | batchScope (aliasName : String) (defect : BatchScope.Defect)
  | cursor (cause : CursorError)
  | argument (cause : ArgumentError)
  | callback (call : Invocation) (reason : String)
  | outOfOrder (cause : Assembly.OutOfOrder)
  | dialect (cause : DialectError)
  deriving DecidableEq, Repr

/-- The wording of a failure. -/
def PlanError.message : PlanError → String
  | missingPagination aliasName =>
    "relation " ++ backticked aliasName ++ " declares neither a sort key nor an order by"
  | missingInput aliasName what =>
    "relation " ++ backticked aliasName ++ " is missing " ++ what.text
  | batchScope aliasName (.mixed first other) =>
    "batch scope for " ++ backticked aliasName ++ " mixes " ++ first.word ++ " and " ++ other.word
      ++ " values"
  | batchScope aliasName (.nonFinite value) =>
    "batch scope for " ++ backticked aliasName ++ " holds " ++ value.literal
      ++ ", which has no SQL literal"
  | cursor cause => "Invalid cursor: " ++ cause.message
  | argument cause => "Invalid pagination argument: " ++ cause.message
  | callback call reason =>
    call.role ++ " callback for " ++ backticked call.subject ++ " failed: " ++ reason
  | outOfOrder cause =>
    "predicate assembly expected " ++ cause.expected.text ++ " but was asked for "
      ++ cause.found.text
  | dialect cause => "Dialect error: " ++ cause.message

end RelationPaging
