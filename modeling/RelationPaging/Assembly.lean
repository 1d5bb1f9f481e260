import RelationPaging.Text.Blank

/-!
# Assembling the predicates of a relation

The predicates of a relation are collected in a fixed order: what joins it to its parent, the
filter of the junction, the filter of the relation, and the condition of the page.  The order
is kept by a state machine with one phase for each step, which refuses every step that is not
the next one.  A refused step leaves the assembly as it was.

Predicates that are missing or blank contribute nothing, so that no empty operand gets between
two `AND`s; all others are kept as they are.
-/

namespace RelationPaging

namespace Assembly

/-- What an assembly is waiting for. -/
inductive Phase where
  | awaitingStructural
  | awaitingJunctionFilter
  | awaitingRelationFilter
  | emitting
  | done
  deriving DecidableEq, Repr

namespace Phase

/-- The phase after the step of a phase. -/
def next : Phase → Phase
  | awaitingStructural => awaitingJunctionFilter
  | awaitingJunctionFilter => awaitingRelationFilter
  | awaitingRelationFilter => emitting
  | emitting => done
  | done => done

/-- The name of a phase. -/
def text : Phase → String
  | awaitingStructural => "AwaitingStructural"
  | awaitingJunctionFilter => "AwaitingJunctionFilter"
  | awaitingRelationFilter => "AwaitingNodeFilter"
  | emitting => "Emitting"
  | done => "Done"

end Phase

/-- A step was taken in the wrong phase: the phase that the assembly is in, and the one that the
step belongs to. -/
structure OutOfOrder where
  expected : Phase
  found : Phase
  deriving DecidableEq, Repr

end Assembly

/-- Predicates on the way to a `WHERE` clause. -/
structure Assembly where
  phase : Assembly.Phase := .awaitingStructural
  predicates : List String := []
  deriving DecidableEq, Repr

namespace Assembly

/-- The predicates among the answers: those that are there and not blank. -/
def contributions (answers : List (Option String)) : List String :=
  answers.filterMap fun answer => answer.filter fun predicate => !Text.isBlank predicate

/-- Goes on from a phase to the next one.  An assembly that is in another phase stays as it is. -/
def advance (assembly : Assembly) (phase : Phase) : Except OutOfOrder Unit × Assembly :=
  if assembly.phase = phase then (.ok (), { assembly with phase := phase.next })
  else (.error ⟨assembly.phase, phase⟩, assembly)

/-- Takes the step of a phase: the outcome, and the assembly afterwards, which lives on whether the
step was taken or refused. -/
def step (assembly : Assembly) (phase : Phase) (answers : List (Option String)) :
    Except OutOfOrder Unit × Assembly :=
  match assembly.advance phase with
  | (.ok (), next) => (.ok (), { next with predicates := next.predicates ++ contributions answers })
  | refused => refused

/-- Takes the predicates that join the relation to its parent. -/
def structural (assembly : Assembly) (answers : List (Option String)) :
    Except OutOfOrder Unit × Assembly :=
  assembly.step .awaitingStructural answers

/-- Takes the filter of the junction. -/
def junctionFilter (assembly : Assembly) (answer : Option String) :
    Except OutOfOrder Unit × Assembly :=
  assembly.step .awaitingJunctionFilter [answer]

/-- Takes the filter of the relation. -/
def relationFilter (assembly : Assembly) (answer : Option String) :
    Except OutOfOrder Unit × Assembly :=
  assembly.step .awaitingRelationFilter [answer]

/-- Takes the condition of the page. -/
def pagination (assembly : Assembly) (answer : Option String) :
    Except OutOfOrder Unit × Assembly :=
  assembly.step .emitting [answer]

/-- The predicates in order, once every step has been taken. -/
def finish (assembly : Assembly) : Except OutOfOrder (List String) :=
  if assembly.phase = .done then .ok assembly.predicates else .error ⟨assembly.phase, .done⟩

/-! ## Facts about steps -/

@[simp] theorem contributions_nil : contributions [] = [] := rfl

theorem contributions_append (xs ys : List (Option String)) :
    contributions (xs ++ ys) = contributions xs ++ contributions ys := by
  simp [contributions]

/-- A step is taken in its own phase and refused in any other one, where it changes nothing. -/
theorem step_eq (assembly : Assembly) (phase : Phase) (answers : List (Option String)) :
    assembly.step phase answers =
      if assembly.phase = phase then
        (.ok (), ⟨phase.next, assembly.predicates ++ contributions answers⟩)
      else (.error ⟨assembly.phase, phase⟩, assembly) := by
  by_cases hphase : assembly.phase = phase
  · rw [step, advance, if_pos hphase, if_pos hphase]
  · rw [step, advance, if_neg hphase, if_neg hphase]

end Assembly

end RelationPaging
