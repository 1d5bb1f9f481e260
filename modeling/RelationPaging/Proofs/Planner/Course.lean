import RelationPaging.Proofs.Planner.Failure
import Mathlib.Data.List.Nodup

/-!
# The course of a planning

A planning goes one of four ways: it is turned down for want of a declaration, an input is missing,
a callback fails, or all callbacks answer and what is left is done without them.  `Planner.Course`
has one constructor for each way, with the outcome and the log of calls that it leads to, and
`Planner.course` says that there is no other way.

The log of a planning is read off its course.  In the first two ways nothing is called, in the
third one the log ends with the call that failed, and in the last one it is all of the expected
calls.  An error tells which way a planning went if it is planning's own (`FitsLog`); a dialect that
gives back such an error for an operation of the planning can break this
(`not_forall_calls_of_refused`).
-/

namespace RelationPaging.Planner

variable (planner : Planner) (relation : Relation) (request : Request)

/-! ## The four ways -/

/-- The ways in which the planning of a relation can go. -/
inductive Course : Planning Draft → Prop
  /-- The relation has no declaration and needs one. -/
  | undeclared (hrefused : ¬ planner.Admits relation) :
      Course (.fail (.missingPagination relation.aliasName))
  /-- An input that the shape needs is not there. -/
  | unmet {error : PlanError} (hadmits : planner.Admits relation)
      (hneeds : (planner.task relation request).needs = .error error) : Course (.fail error)
  /-- A callback fails, after the ones before it have answered. -/
  | interrupted {before after : List Invocation} {call : Invocation} {reason : String}
      (hadmits : planner.Admits relation) (hinputs : planner.HasInputs relation request)
      (hexpected : planner.expectedCalls relation request = before ++ call :: after)
      (hbefore : ∀ earlier ∈ before, relation.Resolves earlier)
      (hcall : relation.answer? call = some (.error reason)) :
      Course ⟨.error (.callback call reason), before ++ [call]⟩
  /-- All callbacks answer, and the outcome is that of the second half. -/
  | concluded (hadmits : planner.Admits relation) (hinputs : planner.HasInputs relation request)
      (hresolve : ∀ call ∈ planner.expectedCalls relation request, relation.Resolves call) :
      Course ⟨(planner.task relation request).conclude relation.declaration?
        (planner.attached relation request) (planner.junctionFilterAnswer relation request)
        (planner.filterAnswer relation), planner.expectedCalls relation request⟩

variable {planner relation request}

theorem draft_eq_of_admits (h : planner.Admits relation) :
    planner.draft relation request = (planner.task relation request).run relation.declaration? := by
  unfold draft
  rcases h with hdeclared | hskip
  · obtain ⟨declaration, hdeclaration⟩ := Option.isSome_iff_exists.1 hdeclared
    simp [hdeclaration]
  · simp [hskip]

theorem draft_eq_of_not_admits (h : ¬ planner.Admits relation) :
    planner.draft relation request = .fail (.missingPagination relation.aliasName) := by
  unfold draft
  cases hdeclaration : relation.declaration? with
  | some declaration => exact absurd (.inl (by rw [hdeclaration]; rfl)) h
  | none =>
    cases hpolicy : planner.policy with
    | skip => exact absurd (.inr hpolicy) h
    | error => rfl

/-- Once the inputs are there, a call that does not fail resolves. -/
theorem resolves_of_forall_ne (hinputs : planner.HasInputs relation request) {call : Invocation}
    (hmem : call ∈ planner.expectedCalls relation request)
    (hne : ∀ reason, relation.answer? call ≠ some (.error reason)) : relation.Resolves call := by
  obtain ⟨answer, hanswer⟩ := planner.exists_answer?_of_mem_expectedCalls hinputs hmem
  cases answer with
  | error reason => exact absurd hanswer (hne reason)
  | ok text => exact ⟨text, hanswer⟩

variable (planner relation request)

/-- The first half of a planning lacks an input, or is cut short by a callback, or asks all of the
expected calls. -/
theorem asked_cases :
    (∃ error, (planner.task relation request).needs = .error error ∧
        (planner.task relation request).asked = .fail error) ∨
      planner.HasInputs relation request ∧
        ((∃ before call after reason,
            planner.expectedCalls relation request = before ++ call :: after ∧
              (∀ earlier ∈ before, relation.Resolves earlier) ∧
              relation.answer? call = some (.error reason) ∧
              (planner.task relation request).asked =
                ⟨.error (.callback call reason), before ++ [call]⟩) ∨
          (∀ call ∈ planner.expectedCalls relation request, relation.Resolves call) ∧
            (planner.task relation request).asked =
              ⟨.ok (planner.attached relation request,
                planner.junctionFilterAnswer relation request, planner.filterAnswer relation),
                planner.expectedCalls relation request⟩) := by
  rw [asked_eq]
  cases hneeds : (planner.task relation request).needs with
  | error error => exact .inl ⟨error, rfl, rfl⟩
  | ok =>
    have hinputs := planner.needs_eq_ok_iff.1 hneeds
    refine .inr ⟨hinputs, ?_⟩
    -- nothing is left that can fail but the callbacks themselves
    rw [Planning.ofExcept_ok_bind]
    rcases Planning.askAll_eq relation (planner.expectedCalls relation request) with
      ⟨hanswers, hasked⟩ | ⟨before, call, after, reason, hexpected, hanswers, hcall, hasked⟩
    · refine .inr ⟨fun call hmem => resolves_of_forall_ne hinputs hmem (hanswers call hmem), ?_⟩
      rw [hasked, Planning.bind_def, Planning.andThen_of_ok _ rfl]
      simp
    · refine .inl ⟨before, call, after, reason, hexpected, fun earlier hmem => ?_, hcall, ?_⟩
      · exact resolves_of_forall_ne hinputs (hexpected ▸ List.mem_append_left _ hmem)
          (hanswers earlier hmem)
      · rw [hasked, Planning.bind_def, Planning.andThen_of_error _ rfl]

/-- **There is no other way.** -/
theorem course : planner.Course relation request (planner.draft relation request) := by
  by_cases hadmits : planner.Admits relation
  · rw [draft_eq_of_admits hadmits, Task.run_eq_asked]
    rcases planner.asked_cases relation request with
      ⟨error, hneeds, hasked⟩ | ⟨hinputs, hinterrupted | ⟨hresolve, hasked⟩⟩
    · rw [hasked]
      exact .unmet hadmits hneeds
    · obtain ⟨before, call, after, reason, hexpected, hbefore, hcall, hasked⟩ := hinterrupted
      rw [hasked, Planning.bind_def, Planning.andThen_of_error _ rfl]
      exact .interrupted hadmits hinputs hexpected hbefore hcall
    · rw [hasked, Planning.bind_def, Planning.andThen_of_ok _ rfl]
      simpa using Course.concluded hadmits hinputs hresolve
  · rw [draft_eq_of_not_admits hadmits]
    exact .undeclared hadmits

/-! ## Failures in the second half -/

/-- Planning fails when no callback is left to be asked: the paging arguments are not interpreted,
or the fragments are not rendered. -/
inductive FailsLate (error : PlanError) : Prop
  | interpreting {answers : Attaching × Option String × Option String}
      (hadmits : planner.Admits relation)
      (hasked : (planner.task relation request).asked.outcome = .ok answers)
      (h : (planner.task relation request).paginate relation.declaration? = .error error)
  | rendering {attaching : Attaching} {junctionFilter filter : Option String}
      {pagination : Option Pagination} {predicates : List String}
      (hadmits : planner.Admits relation)
      (hasked : (planner.task relation request).asked.outcome =
        .ok (attaching, junctionFilter, filter))
      (hpaginate : (planner.task relation request).paginate relation.declaration? = .ok pagination)
      (hassemble : Task.assemble attaching junctionFilter filter
        (pagination.bind (·.condition)) = .ok predicates)
      (h : (planner.task relation request).render attaching predicates pagination = .error error)

variable {planner relation request}

/-- Once the last callback has answered, all of the expected calls have been made. -/
theorem asked_of_outcome_eq_ok {answers : Attaching × Option String × Option String}
    (h : (planner.task relation request).asked.outcome = .ok answers) :
    planner.HasInputs relation request ∧
      (planner.task relation request).asked =
        ⟨.ok answers, planner.expectedCalls relation request⟩ := by
  rcases planner.asked_cases relation request with
    ⟨error, -, hasked⟩ | ⟨hinputs, ⟨_, _, _, _, -, -, -, hasked⟩ | ⟨-, hasked⟩⟩
  · rw [hasked] at h
    cases h
  · rw [hasked] at h
    cases h
  · rw [hasked] at h
    cases h
    exact ⟨hinputs, hasked⟩

theorem draft_eq_conclude (hadmits : planner.Admits relation)
    {answers : Attaching × Option String × Option String}
    (h : (planner.task relation request).asked.outcome = .ok answers) :
    planner.draft relation request =
      ⟨(planner.task relation request).conclude relation.declaration? answers.1 answers.2.1
        answers.2.2, planner.expectedCalls relation request⟩ := by
  rw [draft_eq_of_admits hadmits, Task.run_eq_asked, (asked_of_outcome_eq_ok h).2,
    Planning.bind_def, Planning.andThen_of_ok _ rfl]
  simp

/-- A failure in the second half is the outcome, and all of the expected calls have been made. -/
theorem FailsLate.draft_eq {error : PlanError} (h : planner.FailsLate relation request error) :
    planner.draft relation request =
      ⟨.error error, planner.expectedCalls relation request⟩ := by
  cases h with
  | interpreting hadmits hasked h =>
    rw [draft_eq_conclude hadmits hasked, Task.conclude, Except.bind_eq_error_iff.2 (.inl h)]
  | rendering hadmits hasked hpaginate hassemble h =>
    rw [draft_eq_conclude hadmits hasked]
    refine congrArg (Planning.mk · _) (Except.bind_eq_error_iff.2 (.inr ⟨_, hpaginate, ?_⟩))
    refine Except.bind_eq_error_iff.2 (.inr ⟨_, hassemble, ?_⟩)
    exact Except.bind_eq_error_iff.2 (.inl h)

/-- When all callbacks answer, they have all been asked. -/
theorem asked_eq_of_resolves (hinputs : planner.HasInputs relation request)
    (hresolve : ∀ call ∈ planner.expectedCalls relation request, relation.Resolves call) :
    (planner.task relation request).asked =
      ⟨.ok (planner.attached relation request, planner.junctionFilterAnswer relation request,
        planner.filterAnswer relation), planner.expectedCalls relation request⟩ := by
  rcases planner.asked_cases relation request with
    ⟨error, hneeds, -⟩ | ⟨-, ⟨_, call, _, reason, hexpected, -, hcall, -⟩ | ⟨-, hasked⟩⟩
  · cases (planner.needs_eq_ok_iff.2 hinputs).symm.trans hneeds
  · obtain ⟨text, hanswer⟩ := hresolve call (by simp [hexpected])
    cases hanswer.symm.trans hcall
  · exact hasked

/-- After the last callback has answered, a failure is one in the second half. -/
theorem failsLate_of_conclude (hadmits : planner.Admits relation)
    {answers : Attaching × Option String × Option String}
    (hasked : (planner.task relation request).asked.outcome = .ok answers) {error : PlanError}
    (h : (planner.task relation request).conclude relation.declaration? answers.1 answers.2.1
      answers.2.2 = .error error) : planner.FailsLate relation request error := by
  rcases Except.bind_eq_error_iff.1 h with hpaginate | ⟨pagination, hpaginate, h⟩
  · exact .interpreting hadmits hasked hpaginate
  rcases Except.bind_eq_error_iff.1 h with hassemble | ⟨predicates, hassemble, h⟩
  · rw [Task.assemble_eq] at hassemble
    cases hassemble
  rcases Except.bind_eq_error_iff.1 h with hrender | ⟨_, -, h⟩
  · exact .rendering hadmits hasked hpaginate hassemble hrender
  · cases h

/-! ## Refusals of the dialect -/

/-- An input that is missing ends the planning before any callback is asked. -/
theorem draft_eq_of_needs (hadmits : planner.Admits relation) {error : PlanError}
    (h : (planner.task relation request).needs = .error error) :
    planner.draft relation request = .fail error := by
  rw [draft_eq_of_admits hadmits, Task.run_eq_asked]
  rcases planner.asked_cases relation request with ⟨_, hneeds, hasked⟩ | ⟨hinputs, -⟩
  · cases h.symm.trans hneeds
    rw [hasked, Planning.bind_def, Planning.andThen_of_error _ rfl]
    rfl
  · cases (planner.needs_eq_ok_iff.2 hinputs).symm.trans h

/-- A batch whose condition is not written lacks it. -/
theorem needs_eq_error_of_batchCondition
    (hbatched : (relation.shape request.isRoot).isBatched = true) {error : PlanError}
    (h : (planner.task relation request).batchCondition
      (planner.task relation request).keyedAlias = .error error) :
    (planner.task relation request).needs = .error error := by
  unfold Task.needs
  rcases Shape.isBatched_iff.1 hbatched with hshape | hshape
  · rw [task_shape, hshape]
    exact Except.bind_eq_error_iff.2 (.inl h)
  · rw [task_shape, hshape]
    exact Except.bind_eq_error_iff.2 (.inl h)

theorem GetsAnswers.asked_outcome_eq (h : planner.GetsAnswers relation request) :
    (planner.task relation request).asked.outcome =
      .ok (planner.attached relation request, planner.junctionFilterAnswer relation request,
        planner.filterAnswer relation) :=
  congrArg Planning.outcome (asked_eq_of_resolves h.inputs h.resolves)

theorem GetsAnswers.failsLate_of_render (h : planner.GetsAnswers relation request)
    {pagination : Option Pagination} {error : PlanError}
    (hpaginate : (planner.task relation request).paginate relation.declaration? = .ok pagination)
    (hrender : (planner.task relation request).render (planner.attached relation request)
      (Assembly.contributions [(planner.attached relation request).predicate,
        planner.junctionFilterAnswer relation request, planner.filterAnswer relation,
        pagination.bind (·.condition)]) pagination = .error error) :
    planner.FailsLate relation request error :=
  .rendering h.admits h.asked_outcome_eq hpaginate (Task.assemble_eq _ _ _ _) hrender

/-- A dialect that refuses an operation which planning asks for ends the planning there: before any
callback is asked if it is the condition of the batch, and otherwise after all of them. -/
theorem draft_eq_of_reaches {operation : Dialect.Operation} {error : PlanError}
    (h : planner.Reaches relation request operation)
    (hrefuses : planner.dialect.Refuses error operation) :
    planner.draft relation request =
      ⟨.error error, if operation.isEarly then [] else planner.expectedCalls relation request⟩ := by
  cases h with
  | @batchCondition scope key kind hadmits hbatched hscope hkey hvalid =>
    refine draft_eq_of_needs hadmits (needs_eq_error_of_batchCondition hbatched ?_)
    refine Except.bind_eq_error_iff.2
      (.inr ⟨(scope, key), Task.batchInputs_eq_ok_iff.2 ⟨hscope, hkey⟩, ?_⟩)
    exact Except.bind_eq_error_iff.2 (.inr ⟨kind, Except.mapError_eq_ok_iff.2 hvalid, hrefuses⟩)
  | paginate hanswers hdeclaration =>
    refine FailsLate.draft_eq (.interpreting hanswers.admits hanswers.asked_outcome_eq ?_)
    rw [hdeclaration]
    exact Except.bind_eq_error_iff.2 (.inl hrefuses)
  | temporary hanswers hpaginate hbatched hscope hkey =>
    refine FailsLate.draft_eq (hanswers.failsLate_of_render hpaginate ?_)
    refine Except.bind_eq_error_iff.2 (.inl ?_)
    rw [Task.renderTemporary_of_batchInputs hbatched
      (Task.batchInputs_eq_ok_iff.2 ⟨hscope, hkey⟩)]
    exact Except.map_eq_error_iff.2 hrefuses
  | pageSelect hanswers hpaginate htemporary hattachment =>
    refine FailsLate.draft_eq (hanswers.failsLate_of_render hpaginate ?_)
    refine Except.bind_eq_error_iff.2 (.inr ⟨_, htemporary, Except.bind_eq_error_iff.2 (.inl ?_)⟩)
    refine Except.bind_eq_error_iff.2 (.inr ⟨_, hattachment, ?_⟩)
    exact Except.bind_eq_error_iff.2 (.inl hrefuses)

/-! ## The log of calls -/

variable (planner relation request)

theorem roles_attachingCalls_sublist :
    ((planner.attachingCalls relation request).map Invocation.role).Sublist
      (["sql_join", "junction sql_joins[0]"] ++ ["junction sql_joins[1]"]) := by
  unfold attachingCalls
  split
  · cases request.parentAlias <;> simp [Invocation.role]
  · next junction _ _ =>
    rw [List.map_append]
    refine List.Sublist.append ?_ ?_
    · cases request.parentAlias <;> simp [Invocation.role]
    · split <;> simp [targetCall, Invocation.role]
  · split <;> simp [targetCall, Invocation.role]
  · simp

/-- The expected calls play different parts, in the order of the predicates. -/
theorem roles_expectedCalls_sublist :
    ((planner.expectedCalls relation request).map Invocation.role).Sublist
      (["sql_join", "junction sql_joins[0]"] ++ ["junction sql_joins[1]"] ++ ["junction where"]
        ++ ["where"]) := by
  rw [expectedCalls, List.map_append, List.map_append]
  refine List.Sublist.append (List.Sublist.append ?_ ?_) ?_
  · exact planner.roles_attachingCalls_sublist relation request
  · unfold junctionFilterCall?
    split
    · cases relation.junction with
      | none => simp
      | some junction => cases hfilter : junction.filter <;> simp [hfilter, Invocation.role]
    · simp
  · unfold filterCall?
    cases relation.filter <;> simp [Invocation.role]

theorem nodup_roles_expectedCalls :
    ((planner.expectedCalls relation request).map Invocation.role).Nodup :=
  (planner.roles_expectedCalls_sublist relation request).nodup (by decide)

variable {planner relation request} {drafted : Planning Draft}

/-- Whichever way a planning goes, its log is a part of the expected calls from the start. -/
theorem Course.calls_isPrefix (h : planner.Course relation request drafted) :
    drafted.calls <+: planner.expectedCalls relation request := by
  cases h with
  | undeclared => exact List.nil_prefix
  | unmet => exact List.nil_prefix
  | interrupted _ _ hexpected => exact ⟨_, by rw [hexpected, List.append_assoc]; rfl⟩
  | concluded => exact List.prefix_refl _

/-- All calls but the last one have been answered. -/
theorem Course.resolves_of_mem_dropLast (h : planner.Course relation request drafted)
    {call : Invocation} (hmem : call ∈ drafted.calls.dropLast) : relation.Resolves call := by
  cases h with
  | undeclared => cases hmem
  | unmet => cases hmem
  | interrupted _ _ _ hbefore => exact hbefore call (by simpa using hmem)
  | concluded _ _ hresolve => exact hresolve call (List.dropLast_subset _ hmem)

/-- A planning that succeeds has all that it needs, its callbacks have answered, and the draft is
that of the second half. -/
theorem Course.of_ok (h : planner.Course relation request drafted) {draft : Draft}
    (hok : drafted.outcome = .ok draft) :
    planner.Admits relation ∧ planner.HasInputs relation request ∧
      (∀ call ∈ planner.expectedCalls relation request, relation.Resolves call) ∧
      drafted.calls = planner.expectedCalls relation request ∧
      (planner.task relation request).conclude relation.declaration?
        (planner.attached relation request) (planner.junctionFilterAnswer relation request)
        (planner.filterAnswer relation) = .ok draft := by
  cases h with
  | undeclared => cases hok
  | unmet => cases hok
  | interrupted => cases hok
  | concluded hadmits hinputs hresolve => exact ⟨hadmits, hinputs, hresolve, rfl, hok⟩

/-- A planning that fails has called nothing, for want of a declaration or of an input, or has
ended with the call of a callback that fails, or fails in its second half. -/
theorem Course.of_error (h : planner.Course relation request drafted) {error : PlanError}
    (herror : drafted.outcome = .error error) :
    drafted.calls = [] ∧ (error = .missingPagination relation.aliasName ∨
        planner.InputError relation request error) ∨
      (∃ call reason, error = .callback call reason ∧ drafted.calls.getLast? = some call ∧
        relation.answer? call = some (.error reason)) ∨
      planner.FailsLate relation request error ∧
        planner.ConclusionError relation request error := by
  cases h with
  | undeclared =>
    cases herror
    exact .inl ⟨rfl, .inl rfl⟩
  | unmet hadmits hneeds =>
    cases herror
    exact .inl ⟨rfl, .inr (planner.inputError_of_needs hadmits hneeds)⟩
  | @interrupted _ _ call reason _ _ _ _ hcall =>
    cases herror
    exact .inr (.inl ⟨call, reason, rfl, by simp, hcall⟩)
  | concluded hadmits hinputs hresolve =>
    have hanswers : planner.GetsAnswers relation request := ⟨hadmits, hinputs, hresolve⟩
    exact .inr (.inr ⟨failsLate_of_conclude hadmits hanswers.asked_outcome_eq herror,
      planner.conclusionError_of_conclude hanswers herror⟩)

/-! ## Main result -/

variable (planner relation request)

/-- The plan of a relation is its draft without the fragments. -/
theorem plan_fst (fragments : Fragments) :
    (planner.plan relation request fragments).1 =
      ⟨(planner.draft relation request).outcome.map (·.planned),
        (planner.draft relation request).calls⟩ := by
  cases h : (planner.draft relation request).outcome with
  | error error => rw [plan_of_error _ _ _ h]; rfl
  | ok draft => rw [plan_of_ok _ _ _ h]; rfl

theorem exists_draft_of_plan {fragments : Fragments} {planned : PlannedRelation}
    (h : (planner.plan relation request fragments).1.outcome = .ok planned) :
    ∃ draft, (planner.draft relation request).outcome = .ok draft ∧ draft.planned = planned := by
  rw [plan_fst] at h
  exact Except.map_eq_ok_iff.1 h

/-- What an error of planning says about the calls that were made: an error of a callback is that of
the last call, and an error of a missing declaration or of a batch scope precedes all calls. -/
def FitsLog (relation : Relation) (calls : List Invocation) : PlanError → Prop
  | .callback call reason =>
    calls.getLast? = some call ∧ relation.answer? call = some (.error reason)
  | .missingPagination _ => calls = []
  | .batchScope _ _ => calls = []
  | _ => True

theorem fitsLog_of_isOfArguments {relation : Relation} {calls : List Invocation}
    {error : PlanError} (h : error.isOfArguments = true) : FitsLog relation calls error := by
  cases error with
  | argument _ => trivial
  | cursor _ => trivial
  | _ => cases h

/-- An error that the dialect has not given back is planning's own and fits the log. -/
theorem fitsLog_of_not_isRefused {planning : Planning PlannedRelation} {fragments : Fragments}
    (hplanning : planning = (planner.plan relation request fragments).1) {error : PlanError}
    (h : planning.outcome = .error error) (hown : ¬ planner.IsRefused relation request error) :
    FitsLog relation planning.calls error := by
  rw [hplanning, plan_fst] at h ⊢
  rcases (planner.course relation request).of_error (Except.map_eq_error_iff.1 h) with
    ⟨hnothing, rfl | hinput⟩ | ⟨_, _, rfl, hlast, hanswer⟩ | ⟨-, hconclusion⟩
  · exact hnothing
  · cases hinput with
    | missing => trivial
    | batchScope => exact hnothing
    | refused hrefused => exact absurd hrefused hown
  · exact ⟨hlast, hanswer⟩
  · cases hconclusion with
    | missing => trivial
    | refused hrefused => exact absurd hrefused hown

/-- A planning asks its callbacks in the order of the predicates.  A dialect may give back any error
at all, so that an error says what was asked only if it is not one that the dialect gave back. -/
structure AsksInOrder (planning : Planning PlannedRelation) : Prop where
  /-- The log is a part of the expected calls from the start. -/
  isPrefix : planning.calls <+: planner.expectedCalls relation request
  /-- No callback is asked twice. -/
  once : (planning.calls.map Invocation.role).Nodup
  /-- No callback is asked after one that fails. -/
  resolves : ∀ call ∈ planning.calls.dropLast, relation.Resolves call
  /-- A planning that succeeds has made all of the expected calls. -/
  calls_of_ok : ∀ planned, planning.outcome = .ok planned →
    planning.calls = planner.expectedCalls relation request
  /-- So has a planning that fails to interpret the paging arguments or to render the fragments. -/
  calls_of_failsLate : ∀ error, planner.FailsLate relation request error →
    planning = ⟨.error error, planner.expectedCalls relation request⟩
  /-- An operation that the dialect refuses is the end of the planning, before any callback is asked
  if it is the condition of the batch, and otherwise after all of them. -/
  calls_of_reaches : ∀ operation error, planner.Reaches relation request operation →
    planner.dialect.Refuses error operation →
      planning = ⟨.error error,
        if operation.isEarly then [] else planner.expectedCalls relation request⟩
  /-- Any other planning that fails has asked nothing, or has been cut short by a callback. -/
  failure : ∀ error, planning.outcome = .error error →
    planning.calls = [] ∨
      (∃ call reason, error = .callback call reason ∧ planning.calls.getLast? = some call ∧
        relation.answer? call = some (.error reason)) ∨
      planner.FailsLate relation request error
  /-- The error of a callback, of a missing declaration or of a batch scope says what was asked,
  unless the dialect has given it back. -/
  fitsLog : ∀ error, planning.outcome = .error error →
    ¬ planner.IsRefused relation request error → FitsLog relation planning.calls error

/-- **Callbacks are asked in the order of the predicates, at most once, and never after a
failure.**  This is so for every dialect.  The error of a planning tells what was asked unless an
operation of the dialect gave it back in this planning.  With a built-in dialect every error does,
since these dialects give back errors about the paging arguments only. -/
theorem asksInOrder_plan (fragments : Fragments) :
    planner.AsksInOrder relation request (planner.plan relation request fragments).1 ∧
      ∀ name casing error, planner.dialect = .standard name casing →
        (planner.plan relation request fragments).1.outcome = .error error →
          FitsLog relation (planner.plan relation request fragments).1.calls error := by
  have hcourse := planner.course relation request
  refine ⟨?_, fun name casing error hdialect hfailed => ?_⟩
  swap
  · by_cases hrefused : planner.IsRefused relation request error
    · exact fitsLog_of_isOfArguments (hrefused.isOfArguments hdialect)
    · exact fitsLog_of_not_isRefused planner relation request rfl hfailed hrefused
  constructor
  case fitsLog =>
    exact fun error hfailed => fitsLog_of_not_isRefused planner relation request rfl hfailed
  all_goals rw [plan_fst]
  case isPrefix => exact hcourse.calls_isPrefix
  case once =>
    exact (hcourse.calls_isPrefix.sublist.map Invocation.role).nodup
      (planner.nodup_roles_expectedCalls relation request)
  case resolves => exact fun call hmem => hcourse.resolves_of_mem_dropLast hmem
  case calls_of_ok =>
    intro planned hplanned
    obtain ⟨draft, hdraft, -⟩ := Except.map_eq_ok_iff.1 hplanned
    obtain ⟨-, -, -, hcalls, -⟩ := hcourse.of_ok hdraft
    exact hcalls
  case calls_of_failsLate =>
    intro error herror
    rw [herror.draft_eq]
    rfl
  case calls_of_reaches =>
    intro operation error hreaches hrefuses
    rw [draft_eq_of_reaches hreaches hrefuses]
    rfl
  case failure =>
    intro error hfailed
    rcases hcourse.of_error (Except.map_eq_error_iff.1 hfailed) with
      ⟨hnothing, -⟩ | hcallback | ⟨hlate, -⟩
    · exact .inl hnothing
    · exact .inr (.inl hcallback)
    · exact .inr (.inr hlate)

/-! ## Dialects that refuse -/

/-- The posts of a user, which are joined to it and paged by a sort key. -/
def postsOfUser : Relation where
  table := "posts"
  aliasName := "p"
  sortKey := some ⟨.ascending, ["id"]⟩
  join := some fun user post _ => .ok (some (post ++ ".author_id = " ++ user ++ ".id"))

/-- The published posts of several users at once. -/
def publishedPosts : Relation where
  table := "posts"
  aliasName := "p"
  sortKey := some ⟨.ascending, ["id"]⟩
  filter := some fun post _ => .ok (some (post ++ ".published"))
  batchKey := some ⟨"author_id", "id"⟩

/-- A dialect that takes no sort key for a declaration. -/
def withoutKeysets : Dialect :=
  { Dialect.standard .postgresql .identity with
    interpretKeyset := fun target => .error (.missingPagination target.aliasName) }

/-- A dialect that casts no column. -/
def withoutCasts : Dialect :=
  { Dialect.standard .postgresql .identity with
    castTo := fun _ _ => .error (.dialect (.refused "no cast")) }

/-- The errors of a dialect do not always fit the log.  A dialect may report a missing declaration
when callbacks have been asked, and one that refuses to write a part of the query, the condition of
the batch, ends the planning before any of them is asked. -/
theorem not_forall_calls_of_refused :
    (¬ ∀ (planner : Planner) (relation : Relation) (request : Request) (fragments : Fragments)
        (aliasName : String),
      (planner.plan relation request fragments).1.outcome =
        .error (.missingPagination aliasName) →
      (planner.plan relation request fragments).1.calls = []) ∧
    ¬ ∀ (planner : Planner) (relation : Relation) (request : Request) (fragments : Fragments)
        (operation : Dialect.Operation) (error : PlanError),
      planner.Reaches relation request operation → planner.dialect.Refuses error operation →
      (planner.plan relation request fragments).1.outcome = .error error →
      (planner.plan relation request fragments).1.calls =
        planner.expectedCalls relation request := by
  constructor
  · intro h
    have hcalls := h ⟨withoutKeysets, .error⟩ postsOfUser
      { parentAlias := some "u", joinCondition := some "TRUE" } .empty "p" rfl
    exact absurd hcalls (by decide)
  · intro h
    have hcalls := h ⟨withoutCasts, .error⟩ publishedPosts { scope := some ⟨[.integer 1]⟩ } .empty
      _ (.dialect (.refused "no cast")) (.batchCondition (.inl rfl) rfl rfl rfl rfl) rfl rfl
    exact absurd hcalls (by decide)

end RelationPaging.Planner
