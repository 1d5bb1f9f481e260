import RelationPaging.PlanError
import RelationPaging.Text.Decimal

/-!
# Paging arguments

A page is asked for by the arguments `first` and `last`, which count rows, and `after` and
`before`, which hold cursors.  An argument that is missing or null is not given.  A count is an
integer that fits an unsigned 64-bit word, or a text of one with white space around it; a
cursor is a text.
-/

namespace RelationPaging.Arguments

/-- The value of an argument that is given. -/
def given? (arguments : Arguments) (name : String) : Option Json :=
  (arguments.get? name).filter (· != .null)

/-- The count that a value denotes. -/
def countOf? : Json → Option UInt64
  | .number n => n.count?
  | .string s => Text.readCount? (Text.trim s.toList)
  | _ => none

/-- Reads an argument that counts rows. -/
def count (arguments : Arguments) (name : String) : Except ArgumentError (Option UInt64) :=
  match arguments.given? name with
  | none => .ok none
  | some found =>
    match countOf? found with
    | some n => .ok (some n)
    | none => .error (.notCount name found)

/-- Reads an argument that holds a cursor. -/
def cursor (arguments : Arguments) (name : String) : Except ArgumentError (Option String) :=
  match arguments.given? name with
  | none => .ok none
  | some (.string s) => .ok (some s)
  | some found => .error (.notCursor name found)

end RelationPaging.Arguments

namespace RelationPaging

/-- One row more than a count.  The largest count stays as it is. -/
def oneMore (n : UInt64) : UInt64 :=
  if n = UInt64.ofNat (UInt64.size - 1) then n else n + 1

/-- In natural numbers, `oneMore` adds one up to the largest count. -/
theorem toNat_oneMore (n : UInt64) : (oneMore n).toNat = min (n.toNat + 1) (UInt64.size - 1) := by
  have hn := n.toNat_lt_size
  unfold oneMore
  split
  · next h => subst h; decide
  · next h =>
    have : n.toNat ≠ UInt64.size - 1 := fun e => h (UInt64.toNat_inj.1 (by rw [e]; decide))
    rw [UInt64.toNat_add]
    simp only [UInt64.size, UInt64.reduceToNat] at *
    omega

end RelationPaging
