import RelationPaging.Paging.Argument
import RelationPaging.Sql.Condition

/-!
# Paging by keyset

A page by keyset is cut after a number of rows and starts behind the row of a cursor.  `first`
goes with `after` and reads in the declared direction; `last` goes with `before` and reads in
the opposite one.  One row more than asked for is taken, so that the caller sees whether a
further page follows.  A cursor of the other direction is refused; without a count there is no
page to cut, so all rows are taken and cursors are not looked at.

Cursors are read against the columns as they are declared; the SQL text uses the columns in the
casing of the dialect.
-/

namespace RelationPaging

/-- A page that is read from one end: how many rows, in which direction, and the names of the
arguments that concern it. -/
structure PageEnd where
  rows : UInt64
  backward : Bool
  deriving DecidableEq, Repr

namespace PageEnd

/-- The argument that counts the rows of the page. -/
def countName (e : PageEnd) : String := if e.backward then "last" else "first"

/-- The argument that holds the cursor behind which the page starts. -/
def cursorName (e : PageEnd) : String := if e.backward then "before" else "after"

/-- The argument that may not be given. -/
def refusedName (e : PageEnd) : String := if e.backward then "after" else "before"

end PageEnd

namespace Arguments

/-- The page that the arguments ask for, if they count rows. -/
def pageEnd (arguments : Arguments) : Except ArgumentError (Option PageEnd) := do
  let first ← arguments.count "first"
  let last ← arguments.count "last"
  match first, last with
  | some _, some _ => .error .bothCounts
  | some n, none => .ok (some ⟨n, false⟩)
  | none, some n => .ok (some ⟨n, true⟩)
  | none, none => .ok none

/-- The cursor behind which a page starts, if there is one. -/
def startCursor (arguments : Arguments) (pageEnd : PageEnd) :
    Except ArgumentError (Option String) := do
  let refused ← arguments.cursor pageEnd.refusedName
  if refused.isSome then .error (.cursorAgainst pageEnd.refusedName pageEnd.countName)
  else arguments.cursor pageEnd.cursorName

end Arguments

namespace SortKey

/-- The direction in which a page is read. -/
def directionFor (key : SortKey) (pageEnd : Option PageEnd) : SortDirection :=
  if pageEnd.any (·.backward) then key.direction.reverse else key.direction

/-- The order of a page under the alias of its table. -/
def pageOrder (key : SortKey) (casing : Casing) (aliasName : String) (direction : SortDirection) :
    PageOrder :=
  ⟨aliasName, key.columns.map fun column => (casing.apply column, direction)⟩

end SortKey

namespace Spelling

/-- The condition for the rows behind the row of a cursor. -/
def behindCursor (s : Spelling) (aliasName : String) (key : SortKey) (direction : SortDirection)
    (cursor : String) : Except CursorError String := do
  let values ← Cursor.keysetValues cursor key.columns
  s.keysetCondition aliasName (key.columns.map s.casing.apply) values direction.isDescending

/-- The rows that a page takes, and the condition on where it starts. -/
def keysetWindow (s : Spelling) (target : PagingTarget) (key : SortKey)
    (pageEnd : Option PageEnd) : Except PlanError (PageLimit × Option String) :=
  match pageEnd with
  | none => .ok (.all, none)
  | some pageEnd => do
    let limit := PageLimit.rows (oneMore pageEnd.rows)
    match ← (target.arguments.startCursor pageEnd).mapError .argument with
    | none => .ok (limit, none)
    | some cursor =>
      let direction := key.directionFor (some pageEnd)
      let condition ← (s.behindCursor target.aliasName key direction cursor).mapError .cursor
      .ok (limit, some condition)

/-- Decides on a page by keyset. -/
def keysetPaging (s : Spelling) (target : PagingTarget) : Except PlanError KeysetPaging :=
  match target.sortKey with
  | none => .error (.dialect (.noSortKey target.aliasName))
  | some key =>
    if key.columns.isEmpty then .error (.argument (.noColumns target.aliasName))
    else do
      let pageEnd ← target.arguments.pageEnd.mapError .argument
      let (limit, condition) ← s.keysetWindow target key pageEnd
      return {
        limit
        order := key.pageOrder s.casing target.aliasName (key.directionFor pageEnd)
        condition }

end Spelling

end RelationPaging
