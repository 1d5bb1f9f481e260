import RelationPaging.Paging.Argument
import RelationPaging.Dialect.Spelling

/-!
# Paging by offset

A page by offset is cut after a number of rows and starts behind the position of a cursor.
Only `first` and `after` are understood: there is no position to count back from, so `last` is
refused.  Without `first` all rows are taken from the start.  Positions and counts stop at the
largest 64-bit number and do not wrap.
-/

namespace RelationPaging

namespace OrderBy

/-- The order of a page under the alias of its table. -/
def pageOrder (order : OrderBy) (casing : Casing) (aliasName : String) : PageOrder :=
  ⟨aliasName, order.columns.map fun (column, direction) => (casing.apply column, direction)⟩

end OrderBy

namespace PagingTarget

/-- The rows that a page takes: the ones asked for, and one more to see whether a further page
follows. -/
def offsetLimit (target : PagingTarget) (rows : UInt64) : PageLimit :=
  .rows (if target.hasPageInfo then oneMore rows else rows)

/-- The position at which a page starts. -/
def offsetStart (target : PagingTarget) : Except PlanError UInt64 := do
  match ← (target.arguments.cursor "after").mapError .argument with
  | none => .ok 0
  | some cursor => do
    let position ← (Cursor.toOffset cursor).mapError .cursor
    .ok (oneMore position)

/-- The rows that a page takes, and the position at which it starts. -/
def offsetWindow (target : PagingTarget) : Except PlanError (PageLimit × UInt64) := do
  match ← (target.arguments.count "first").mapError .argument with
  | none => .ok (.all, 0)
  | some rows => do
    let offset ← target.offsetStart
    .ok (target.offsetLimit rows, offset)

end PagingTarget

namespace Spelling

/-- Decides on a page by offset. -/
def offsetPaging (s : Spelling) (target : PagingTarget) : Except PlanError OffsetPaging :=
  match target.orderBy with
  | none => .error (.dialect (.noOrderBy target.aliasName))
  | some order => do
    let last ← (target.arguments.count "last").mapError .argument
    if last.isSome then .error (.argument .backwardOffset)
    else
      let (limit, offset) ← target.offsetWindow
      return { limit, offset, order := order.pageOrder s.casing target.aliasName }

end Spelling

end RelationPaging
