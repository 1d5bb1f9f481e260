import RelationPaging.Proofs.Sql.Formula
import RelationPaging.Sql.Condition

/-!
# Three-valued truth

A comparison with NULL is neither true nor false, so conditions have three truth values, and `AND`
and `OR` combine them as SQL does: a false part makes a conjunction false and a true part makes an
alternative true, whatever the other part is.

A comparison of two rows is decided by the leftmost pair of items that are not equal
(`Comparison.rowTruth`).  `expandedTruth` is the same comparison spelled out by `AND` and `OR`, and
`expandedTruth_eq` says that nothing changes, NULL included.
-/

namespace RelationPaging

/-! ## Truth values -/

namespace Sql

/-- The truth of a condition. -/
inductive Truth where
  | yes
  | no
  | unknown
  deriving DecidableEq, Repr

namespace Truth

/-- The truth of a conjunction. -/
def both : Truth → Truth → Truth
  | no, _ => no
  | _, no => no
  | yes, yes => yes
  | _, _ => unknown

/-- The truth of an alternative. -/
def either : Truth → Truth → Truth
  | yes, _ => yes
  | _, yes => yes
  | no, no => no
  | _, _ => unknown

@[simp] theorem no_both (t : Truth) : no.both t = no := by
  cases t <;> rfl

@[simp] theorem yes_both (t : Truth) : yes.both t = t := by
  cases t <;> rfl

@[simp] theorem no_either (t : Truth) : no.either t = t := by
  cases t <;> rfl

/-- A conjunction with an unknown part is not true, so it adds nothing to an unknown one. -/
theorem unknown_either_unknown_both (t : Truth) : unknown.either (unknown.both t) = unknown := by
  cases t <;> rfl

end Truth

/-- The truth of a formula, if all its atoms have one. -/
def Formula.truth? (v : List Token → Option Truth) : Formula → Option Truth
  | atom tokens => v tokens
  | both left right => do return (← left.truth? v).both (← right.truth? v)
  | either left right => do return (← left.truth? v).either (← right.truth? v)

end Sql

/-! ## Comparisons -/

open Sql (Truth)

/-- How two rows are ordered, given how their items are: by the leftmost items that differ. -/
def lexicographic (orderings : List Ordering) : Ordering :=
  orderings.foldr Ordering.then .eq

namespace Comparison

/-- How two values are ordered of which the comparison is true. -/
def ordering : Comparison → Ordering
  | less => .lt
  | equal => .eq
  | greater => .gt

/-- The truth of a comparison of two values that are ordered in a given way, or of which one is
NULL. -/
def truth (comparison : Comparison) : Option Ordering → Truth
  | none => .unknown
  | some o => if o = comparison.ordering then .yes else .no

/-- The truth of a comparison of two rows, given how their items are ordered.  The leftmost pair of
items that are not known to be equal decides. -/
def rowTruth (comparison : Comparison) (orderings : List (Option Ordering)) : Truth :=
  comparison.truth ((orderings.find? (· != some .eq)).getD (some .eq))

/-- The truth of the same comparison, spelled out item by item. -/
def expandedTruth (comparison : Comparison) : List (Option Ordering) → Truth
  | [] => comparison.truth (some .eq)
  | [o] => comparison.truth o
  | o :: os => (comparison.truth o).either ((equal.truth o).both (expandedTruth comparison os))

/-- A comparison that excludes equality. -/
def IsStrict (comparison : Comparison) : Prop :=
  comparison ≠ equal

instance (comparison : Comparison) : Decidable comparison.IsStrict :=
  inferInstanceAs (Decidable (_ ≠ _))

theorem isStrict_behind (descending : Bool) : (behind descending).IsStrict := by
  cases descending <;> decide

variable {comparison : Comparison}

theorem rowTruth_cons_equal (orderings : List (Option Ordering)) :
    comparison.rowTruth (some .eq :: orderings) = comparison.rowTruth orderings := by
  simp [rowTruth]

theorem rowTruth_cons_of_ne {o : Option Ordering} (h : o ≠ some .eq)
    (orderings : List (Option Ordering)) :
    comparison.rowTruth (o :: orderings) = comparison.truth o := by
  simp [rowTruth, h]

theorem rowTruth_singleton (o : Option Ordering) :
    comparison.rowTruth [o] = comparison.truth o := by
  by_cases h : o = some .eq
  · rw [h]
    rfl
  · exact rowTruth_cons_of_ne h []

theorem truth_equal_of_isStrict (h : comparison.IsStrict) :
    comparison.truth (some .eq) = .no := by
  cases comparison with
  | less => rfl
  | equal => exact absurd rfl h
  | greater => rfl

/-- Two values that differ decide, in one way or the other. -/
theorem truth_eq_of_ne {o : Ordering} (h : o ≠ .eq) : equal.truth (some o) = .no :=
  if_neg h

/-- **Spelling a comparison of rows out does not change its truth.** -/
theorem expandedTruth_eq (h : comparison.IsStrict) (orderings : List (Option Ordering)) :
    comparison.expandedTruth orderings = comparison.rowTruth orderings := by
  induction orderings with
  | nil => rfl
  | cons o orderings ih =>
    cases orderings with
    | nil => exact (rowTruth_singleton o).symm
    | cons o' orderings =>
      have hunfold : comparison.expandedTruth (o :: o' :: orderings) =
          (comparison.truth o).either
            ((equal.truth o).both (comparison.expandedTruth (o' :: orderings))) := rfl
      rw [hunfold, ih]
      cases o with
      | none =>
        rw [rowTruth_cons_of_ne (o := none) (by simp)]
        exact Truth.unknown_either_unknown_both _
      | some o =>
        by_cases ho : o = .eq
        · subst ho
          rw [rowTruth_cons_equal, truth_equal_of_isStrict h, Truth.no_either]
          exact Truth.yes_both _
        · have hne : some o ≠ some Ordering.eq := fun heq => ho (Option.some.inj heq)
          rw [rowTruth_cons_of_ne hne, truth_eq_of_ne ho, Truth.no_both]
          cases hdecided : comparison.truth (some o) with
          | yes => rfl
          | no => rfl
          | unknown => rfl

/-! ## Without NULL -/

/-- Without NULL, rows are compared in lexicographic order. -/
theorem rowTruth_map_some (comparison : Comparison) (orderings : List Ordering) :
    comparison.rowTruth (orderings.map some) =
      comparison.truth (some (lexicographic orderings)) := by
  induction orderings with
  | nil => rfl
  | cons o orderings ih =>
    by_cases ho : o = .eq
    · subst ho
      rw [List.map_cons, rowTruth_cons_equal, ih]
      rfl
    · have hne : some o ≠ some Ordering.eq := fun heq => ho (Option.some.inj heq)
      have hthen : lexicographic (o :: orderings) = o := by
        cases o with
        | lt => rfl
        | eq => exact absurd rfl ho
        | gt => rfl
      rw [List.map_cons, rowTruth_cons_of_ne hne, hthen]

/-- A comparison of NULL with anything is unknown where it decides. -/
example : Comparison.less.rowTruth [some .eq, none, some .lt] = .unknown := by decide

end Comparison

end RelationPaging
