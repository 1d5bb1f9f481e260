import RelationPaging.Assembly
import Mathlib.Data.List.ReduceOption

/-!
# Assemblies under any calls

An assembly that is called in any order, with calls that fail and are followed by further ones,
still collects its predicates in the fixed order.  `Call.apply` is one call, `run` a sequence of
calls in which each one gets the assembly that the one before it left, and `accepted` the calls of
the sequence that succeed.

The invariant is `Stands`: the accepted calls are those of the phases in front of the current one,
and the predicates are what they handed over.  An accepted call keeps it (`Stands.append`), and a
refused one leaves the assembly as it was (`Call.apply_eq`), so a whole run keeps it (`Stands.run`),
and `calls_in_order` reads off it what is left of a run.
-/

namespace RelationPaging.Assembly

/-! ## Calls -/

/-- A call of an assembly, with what it hands over. -/
inductive Call where
  | structural (answers : List (Option String))
  | junctionFilter (answer : Option String)
  | relationFilter (answer : Option String)
  | pagination (answer : Option String)
  deriving DecidableEq, Repr

namespace Call

/-- The phase in which a call is expected. -/
def phase : Call → Phase
  | structural _ => .awaitingStructural
  | junctionFilter _ => .awaitingJunctionFilter
  | relationFilter _ => .awaitingRelationFilter
  | pagination _ => .emitting

/-- What a call hands over. -/
def payload : Call → List (Option String)
  | structural answers => answers
  | junctionFilter answer => [answer]
  | relationFilter answer => [answer]
  | pagination answer => [answer]

/-- The outcome of a call on an assembly, and the assembly afterwards. -/
def apply (call : Call) (assembly : Assembly) : Except OutOfOrder Unit × Assembly :=
  match call with
  | structural answers => assembly.structural answers
  | junctionFilter answer => assembly.junctionFilter answer
  | relationFilter answer => assembly.relationFilter answer
  | pagination answer => assembly.pagination answer

/-- All calls are the same step, each in a phase of its own. -/
theorem apply_eq_step (call : Call) (assembly : Assembly) :
    call.apply assembly = assembly.step call.phase call.payload := by
  cases call <;> rfl

theorem phase_ne_done (call : Call) : call.phase ≠ .done := by
  cases call <;> rintro ⟨⟩

end Call

/-- The assembly after a sequence of calls, whichever of them fail. -/
def run (assembly : Assembly) (calls : List Call) : Assembly :=
  calls.foldl (fun assembly call => (call.apply assembly).2) assembly

/-- The calls of a sequence that succeed. -/
def accepted (assembly : Assembly) : List Call → List Call
  | [] => []
  | call :: calls =>
    match call.apply assembly with
    | (.ok (), next) => call :: accepted next calls
    | (.error _, next) => accepted next calls

/-! ## Phases -/

/-- The phases in front of a phase, in their order. -/
def Phase.before : Phase → List Phase
  | awaitingStructural => []
  | awaitingJunctionFilter => [awaitingStructural]
  | awaitingRelationFilter => [awaitingStructural, awaitingJunctionFilter]
  | emitting => [awaitingStructural, awaitingJunctionFilter, awaitingRelationFilter]
  | done => [awaitingStructural, awaitingJunctionFilter, awaitingRelationFilter, emitting]

theorem Phase.before_next {phase : Phase} (h : phase ≠ done) :
    phase.next.before = phase.before ++ [phase] := by
  cases phase with
  | done => exact absurd rfl h
  | awaitingStructural | awaitingJunctionFilter | awaitingRelationFilter | emitting => rfl

theorem Phase.before_prefix (phase : Phase) : phase.before <+: done.before := by
  cases phase <;> decide

theorem Phase.eq_of_before_eq {p q : Phase} (h : p.before = q.before) : p = q := by
  have hlength := congrArg List.length h
  cases p <;> cases q <;> first | rfl | cases hlength

/-! ## One call -/

/-- A text that is not blank: it has a character besides white space. -/
def IsVisible (text : String) : Prop :=
  ∃ c ∈ text.toList, Text.isWhiteSpace c = false

instance (text : String) : Decidable (IsVisible text) :=
  inferInstanceAs (Decidable (∃ c ∈ text.toList, Text.isWhiteSpace c = false))

/-- What answers contribute is the texts among them that are not blank. -/
theorem contributions_eq_filter (answers : List (Option String)) :
    contributions answers = answers.reduceOption.filter (IsVisible ·) := by
  have hvisible : ∀ text, (!Text.isBlank text) = decide (IsVisible text) := by
    intro text
    rw [Bool.eq_iff_iff, decide_eq_true_iff]
    simp [Text.isBlank, IsVisible]
  rw [List.reduceOption, List.filter_filterMap]
  simp only [contributions, hvisible, id_eq]

/-- A call succeeds in its own phase and in no other. -/
theorem Call.apply_eq (call : Call) (assembly : Assembly) :
    call.apply assembly =
      if call.phase = assembly.phase then
        (.ok (), ⟨assembly.phase.next, assembly.predicates ++ contributions call.payload⟩)
      else (.error ⟨assembly.phase, call.phase⟩, assembly) := by
  rw [call.apply_eq_step, step_eq]
  by_cases hphase : call.phase = assembly.phase
  · rw [if_pos hphase.symm, if_pos hphase, hphase]
  · rw [if_neg (Ne.symm hphase), if_neg hphase]

/-! ## Any calls -/

theorem run_cons (assembly : Assembly) (call : Call) (calls : List Call) :
    assembly.run (call :: calls) = (call.apply assembly).2.run calls := rfl

/-- Where an assembly stands after some calls were accepted: in front of it are the phases of these
calls, and it holds what they contributed. -/
structure Stands (taken : List Call) (assembly : Assembly) : Prop where
  phases : taken.map Call.phase = assembly.phase.before
  predicates : assembly.predicates = contributions (taken.flatMap Call.payload)

theorem stands_fresh : Stands [] {} := ⟨rfl, rfl⟩

/-- An accepted call is the next one. -/
theorem Stands.append {taken : List Call} {assembly : Assembly} (h : Stands taken assembly)
    {call : Call} (hphase : call.phase = assembly.phase) :
    Stands (taken ++ [call])
      ⟨assembly.phase.next, assembly.predicates ++ contributions call.payload⟩ := by
  have hdone : assembly.phase ≠ .done := hphase ▸ call.phase_ne_done
  constructor
  · rw [List.map_append, h.phases, Phase.before_next hdone, ← hphase]
    rfl
  · rw [List.flatMap_append, contributions_append, List.flatMap_singleton, h.predicates]

/-- Whichever calls fail, the assembly stands behind the accepted ones. -/
theorem Stands.run {taken : List Call} {assembly : Assembly} (h : Stands taken assembly)
    (calls : List Call) :
    Stands (taken ++ assembly.accepted calls) (assembly.run calls) := by
  induction calls generalizing taken assembly with
  | nil => rwa [accepted, List.append_nil]
  | cons call calls ih =>
    have happly := call.apply_eq assembly
    rw [run_cons, accepted]
    by_cases hphase : call.phase = assembly.phase
    · rw [if_pos hphase] at happly
      have hrest := ih (h.append hphase)
      rw [List.append_assoc, List.singleton_append] at hrest
      simpa only [happly] using hrest
    · rw [if_neg hphase] at happly
      simpa only [happly] using ih h

theorem accepted_sublist (assembly : Assembly) (calls : List Call) :
    (assembly.accepted calls).Sublist calls := by
  induction calls generalizing assembly with
  | nil => exact List.Sublist.slnil
  | cons call calls ih =>
    rw [accepted]
    split
    · exact (ih _).cons_cons call
    · exact (ih _).cons call

/-- **An assembly takes its calls in one order only.**  After any calls on a new assembly, the next
call succeeds if and only if it belongs to the current phase, and otherwise it fails with the
current phase and its own and changes nothing.  The accepted calls come in the order of the phases,
without a gap; the predicates are the texts they handed over, the blank ones left out; and the
assembly is finished if and only if all four calls were accepted. -/
theorem calls_in_order (calls : List Call) :
    (∀ call : Call, call.apply (run {} calls) =
      if call.phase = (run {} calls).phase then
        (.ok (), ⟨call.phase.next, (run {} calls).predicates ++
          call.payload.reduceOption.filter (IsVisible ·)⟩)
      else (.error ⟨(run {} calls).phase, call.phase⟩, run {} calls)) ∧
    (accepted {} calls).Sublist calls ∧
    (accepted {} calls).map Call.phase <+:
      [.awaitingStructural, .awaitingJunctionFilter, .awaitingRelationFilter, .emitting] ∧
    (run {} calls).phase.before = (accepted {} calls).map Call.phase ∧
    (run {} calls).predicates =
      ((accepted {} calls).flatMap Call.payload).reduceOption.filter (IsVisible ·) ∧
    (run {} calls).finish =
      if (accepted {} calls).map Call.phase =
          [.awaitingStructural, .awaitingJunctionFilter, .awaitingRelationFilter, .emitting] then
        .ok (run {} calls).predicates
      else .error ⟨(run {} calls).phase, .done⟩ := by
  have hstands : Stands (accepted {} calls) (run {} calls) := stands_fresh.run calls
  refine ⟨fun call => ?_, accepted_sublist _ _, ?_, hstands.phases.symm, ?_, ?_⟩
  · rw [Call.apply_eq, contributions_eq_filter]
    by_cases hphase : call.phase = (run {} calls).phase
    · rw [if_pos hphase, if_pos hphase, hphase]
    · rw [if_neg hphase, if_neg hphase]
  · rw [hstands.phases]
    exact Phase.before_prefix _
  · rw [hstands.predicates, contributions_eq_filter]
  · have hall : Phase.done.before = [.awaitingStructural, .awaitingJunctionFilter,
        .awaitingRelationFilter, .emitting] := rfl
    rw [hstands.phases, finish, ← hall]
    by_cases hdone : (run {} calls).phase = .done
    · rw [if_pos hdone, if_pos (congrArg Phase.before hdone)]
    · rw [if_neg hdone, if_neg (mt Phase.eq_of_before_eq hdone)]

/-- A call that comes too early leaves no trace. -/
example : run {} [.relationFilter (some "late"), .structural [none, some "t.id = p.id"]] =
    ⟨.awaitingJunctionFilter, ["t.id = p.id"]⟩ := by decide +kernel

end RelationPaging.Assembly
