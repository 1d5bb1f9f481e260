import RelationPaging.Planner
import RelationPaging.Proofs.Outcome

/-!
# The stages of a planning that succeeds

Planning a relation is one computation that may fail at about fifteen places.  When it does not
fail, it has gone through the same stages whatever the shape: the relation was attached, the two
filters answered, the declaration was interpreted, and up to three fragments were rendered.
`Stages` holds the values of these stages, `Task.Passes` says that each of them is the outcome of
its own step, and `Planner.draft_outcome_eq_ok_iff` is the inversion of planning: it succeeds
exactly when its stages can be passed, and then the stages determine the draft.

Everything about successful plans is derived from this inversion, so that no further proof opens
`Planner.draft`, `Task.run` or `Task.render`.
-/

namespace RelationPaging

theorem Relation.require_eq_ok_iff {α : Type} {relation : Relation} {what : MissingInput}
    {input : Option α} {value : α} :
    relation.require what input = .ok value ↔ input = some value := by
  cases input <;> simp [Relation.require]

/-- The contributions are the answers that are there and not blank. -/
theorem Assembly.mem_contributions {answers : List (Option String)} {text : String} :
    text ∈ contributions answers ↔ some text ∈ answers ∧ Text.isBlank text = false := by
  simp only [contributions, List.mem_filterMap, Option.filter_eq_some_iff, Bool.not_eq_true']
  constructor
  · rintro ⟨_, hmem, rfl, hblank⟩
    exact ⟨hmem, hblank⟩
  · rintro ⟨hmem, hblank⟩
    exact ⟨some text, hmem, rfl, hblank⟩

/-! ## Fragments by kind -/

/-- The fragments that a relation adds to a query: the temporary table of its batch, the select
of its page, and the join that brings in the target behind the junction. -/
structure Emission where
  temporary : Option String := none
  select : Option String := none
  trailing : Option String := none
  deriving DecidableEq, Repr

/-- The fragments in the order in which they are emitted. -/
def Emission.toList (emission : Emission) : List String :=
  emission.temporary.toList ++ emission.select.toList ++ emission.trailing.toList

/-- The select of a page as a decision on the page asks for it. -/
def Dialect.selectOf (d : Dialect) (pagination : Pagination) (page : PageSelect) :
    Except PlanError String :=
  match pagination with
  | .keyset _ => d.keysetSelect page
  | .offset paging => d.offsetSelect page paging.offset

/-! ## Stages -/

/-- The values that a planning goes through on its way to success. -/
structure Stages where
  attaching : Attaching
  junctionFilter : Option String
  filter : Option String
  pagination : Option Pagination
  emission : Emission

namespace Stages

/-- The answers from which the predicates are assembled, in their order. -/
def answers (stages : Stages) : List (Option String) :=
  [stages.attaching.predicate, stages.junctionFilter, stages.filter,
    stages.pagination.bind (·.condition)]

/-- The predicates: the answers that are there and not blank. -/
def predicates (stages : Stages) : List String :=
  Assembly.contributions stages.answers

/-- The draft that the stages end in. -/
def draft (stages : Stages) (shape : Shape) : Draft :=
  ⟨⟨shape, stages.pagination.map (·.mode), stages.predicates⟩, stages.emission.toList⟩

end Stages

namespace Task

/-- The page that is handed to the dialect. -/
def page (task : Task) (predicates : List String) (pagination : Pagination)
    (attachment : Option Attachment) : PageSelect :=
  { table := task.source.1
    aliasName := task.source.2
    predicates, attachment
    order := pagination.order
    limit := pagination.limit }

/-- The temporary table of a batched relation; no other relation has one. -/
def RendersTemporary (task : Task) : Option String → Prop
  | none => task.shape.isBatched = false
  | some text => task.shape.isBatched = true ∧ ∃ scope key,
      task.batchInputs = .ok (scope, key) ∧
        task.dialect.temporary scope (task.dialect.casing.apply key.parent) = .ok text

/-- The select of the page of a relation that is paged. -/
def RendersSelect (task : Task) (attaching : Attaching) (predicates : List String)
    (pagination : Option Pagination) : Option String → Prop
  | none => pagination = none
  | some text => ∃ decision attachment,
      pagination = some decision ∧ task.attachment attaching = .ok attachment ∧
        task.dialect.selectOf decision (task.page predicates decision attachment) = .ok text

/-- The trailing join of a batched relation between many and many. -/
def RendersTrailing (task : Task) (attaching : Attaching) : Option String → Prop
  | none => task.shape ≠ .batchedManyToMany
  | some text => task.shape = .batchedManyToMany ∧ ∃ condition,
      (task.request.joinCondition <|> attaching.targetCondition) = some condition ∧
        text = task.dialect.trailingJoin task.relation.table task.aliases.relation condition

/-- Each value of the stages is what its own step of planning gives. -/
structure Passes (task : Task) (declaration : Option Declaration) (stages : Stages) : Prop where
  attach : task.attach.outcome = .ok stages.attaching
  junctionFilter : task.askJunctionFilter.outcome = .ok stages.junctionFilter
  filter : task.askFilter.outcome = .ok stages.filter
  paginate : task.paginate declaration = .ok stages.pagination
  temporary : task.RendersTemporary stages.emission.temporary
  select : task.RendersSelect stages.attaching stages.predicates stages.pagination
    stages.emission.select
  trailing : task.RendersTrailing stages.attaching stages.emission.trailing

variable {task : Task} {declaration : Option Declaration}

/-- Taken in their order, the steps of the assembly are never refused. -/
theorem assemble_eq (attaching : Attaching) (junctionFilter filter condition : Option String) :
    assemble attaching junctionFilter filter condition =
      .ok (Assembly.contributions [attaching.predicate, junctionFilter, filter, condition]) := by
  simp only [assemble, Assembly.structural, Assembly.junctionFilter, Assembly.relationFilter,
    Assembly.pagination, Assembly.step_eq, Assembly.finish, Assembly.Phase.next, bind, Except.bind,
    if_true, Except.mapError, List.nil_append, ← Assembly.contributions_append]
  rfl

/-! ### Rendering -/

theorem renderTemporary_eq_ok_iff {fragments : List String} :
    task.renderTemporary = .ok fragments ↔
      ∃ temporary, fragments = temporary.toList ∧ task.RendersTemporary temporary := by
  unfold renderTemporary
  cases hb : task.shape.isBatched with
  | false =>
    constructor
    · intro h
      cases h
      exact ⟨none, rfl, hb⟩
    · rintro ⟨_ | text, rfl, h⟩
      · rfl
      · simp [RendersTemporary, hb] at h
  | true =>
    simp only [if_true, Except.bind_eq_ok_iff]
    constructor
    · rintro ⟨⟨scope, key⟩, hinputs, text, htext, h⟩
      cases h
      exact ⟨some text, rfl, hb, scope, key, hinputs, htext⟩
    · rintro ⟨_ | text, rfl, h⟩
      · simp [RendersTemporary, hb] at h
      · obtain ⟨_, scope, key, hinputs, htext⟩ := h
        exact ⟨(scope, key), hinputs, text, htext, rfl⟩

/-- The page that a task hands over is the one that the dialect renders. -/
theorem pageSelect_source (predicates : List String) (pagination : Pagination)
    (attachment : Option Attachment) :
    task.dialect.pageSelect task.source.1 task.source.2 predicates pagination attachment =
      task.dialect.selectOf pagination (task.page predicates pagination attachment) := by
  cases pagination <;> rfl

theorem renderSelect_eq_ok_iff {attaching : Attaching} {predicates fragments : List String}
    {pagination : Option Pagination} :
    task.renderSelect attaching predicates pagination = .ok fragments ↔
      ∃ select, fragments = select.toList ∧
        task.RendersSelect attaching predicates pagination select := by
  cases pagination with
  | none =>
    constructor
    · intro h
      cases h
      exact ⟨none, rfl, rfl⟩
    · rintro ⟨_ | text, rfl, h⟩
      · rfl
      · obtain ⟨_, _, h, _⟩ := h
        cases h
  | some decision =>
    simp only [renderSelect, pageSelect_source, Except.bind_eq_ok_iff]
    constructor
    · rintro ⟨attachment, hattachment, text, htext, h⟩
      cases h
      exact ⟨some text, rfl, decision, attachment, rfl, hattachment, htext⟩
    · rintro ⟨_ | text, rfl, h⟩
      · cases h
      · obtain ⟨_, attachment, ⟨⟩, hattachment, htext⟩ := h
        exact ⟨attachment, hattachment, text, htext, rfl⟩

theorem renderTrailingJoin_eq_ok_iff {attaching : Attaching} {fragments : List String} :
    task.renderTrailingJoin attaching = .ok fragments ↔
      ∃ trailing, fragments = trailing.toList ∧ task.RendersTrailing attaching trailing := by
  unfold renderTrailingJoin
  by_cases hs : task.shape = .batchedManyToMany
  · simp only [hs, if_true, Except.bind_eq_ok_iff, Relation.require_eq_ok_iff]
    constructor
    · rintro ⟨condition, hcondition, h⟩
      cases h
      exact ⟨some _, rfl, hs, condition, hcondition, rfl⟩
    · rintro ⟨_ | text, rfl, h⟩
      · exact absurd hs h
      · obtain ⟨_, condition, hcondition, rfl⟩ := h
        exact ⟨condition, hcondition, rfl⟩
  · simp only [hs, if_false]
    constructor
    · intro h
      cases h
      exact ⟨none, rfl, hs⟩
    · rintro ⟨_ | text, rfl, h⟩
      · rfl
      · exact absurd h.1 hs

/-- Rendering succeeds when each of the three fragments is rendered or left out as it should. -/
theorem render_eq_ok_iff {attaching : Attaching} {predicates fragments : List String}
    {pagination : Option Pagination} :
    task.render attaching predicates pagination = .ok fragments ↔
      ∃ emission : Emission, fragments = emission.toList ∧
        task.RendersTemporary emission.temporary ∧
        task.RendersSelect attaching predicates pagination emission.select ∧
        task.RendersTrailing attaching emission.trailing := by
  simp only [render, Except.bind_eq_ok_iff, renderTemporary_eq_ok_iff, renderSelect_eq_ok_iff,
    renderTrailingJoin_eq_ok_iff]
  constructor
  · rintro ⟨_, ⟨temporary, rfl, ht⟩, _, ⟨select, rfl, hs⟩, _, ⟨trailing, rfl, hj⟩, h⟩
    cases h
    exact ⟨⟨temporary, select, trailing⟩, rfl, ht, hs, hj⟩
  · rintro ⟨emission, rfl, ht, hs, hj⟩
    exact ⟨_, ⟨_, rfl, ht⟩, _, ⟨_, rfl, hs⟩, _, ⟨_, rfl, hj⟩, rfl⟩

/-! ### Which fragments there are -/

theorem RendersTemporary.isSome_eq {temporary : Option String}
    (h : task.RendersTemporary temporary) : temporary.isSome = task.shape.isBatched := by
  cases temporary with
  | none => exact h.symm
  | some text => exact h.1.symm

theorem RendersSelect.isSome_eq {attaching : Attaching} {predicates : List String}
    {pagination : Option Pagination} {select : Option String}
    (h : task.RendersSelect attaching predicates pagination select) :
    select.isSome = pagination.isSome := by
  cases select with
  | none => rw [show pagination = none from h]; rfl
  | some text =>
    obtain ⟨decision, _, hdecision, _⟩ := h
    rw [hdecision]
    rfl

theorem RendersTrailing.isSome_eq {attaching : Attaching} {trailing : Option String}
    (h : task.RendersTrailing attaching trailing) :
    trailing.isSome = decide (task.shape = .batchedManyToMany) := by
  cases trailing with
  | none => exact (decide_eq_false h).symm
  | some text => exact (decide_eq_true h.1).symm

/-- A relation is paged when it has a declaration. -/
theorem isSome_of_paginate {pagination : Option Pagination}
    (h : task.paginate declaration = .ok pagination) :
    pagination.isSome = declaration.isSome := by
  cases declaration with
  | none =>
    cases h
    rfl
  | some declaration =>
    obtain ⟨_, _, h⟩ := Except.bind_eq_ok_iff.1 h
    cases h
    rfl

/-! ### The whole of a planning -/

theorem conclude_eq_ok_iff {attaching : Attaching} {junctionFilter filter : Option String}
    {draft : Draft} :
    task.conclude declaration attaching junctionFilter filter = .ok draft ↔
      ∃ pagination predicates fragments, task.paginate declaration = .ok pagination ∧
        predicates = Assembly.contributions [attaching.predicate, junctionFilter, filter,
          pagination.bind (·.condition)] ∧
        task.render attaching predicates pagination = .ok fragments ∧
        draft = ⟨⟨task.shape, pagination.map (·.mode), predicates⟩, fragments⟩ := by
  unfold conclude
  simp only [assemble_eq, Except.bind_eq_ok_iff]
  constructor
  · rintro ⟨pagination, hpagination, predicates, hpredicates, fragments, hfragments, h⟩
    cases hpredicates
    cases h
    exact ⟨pagination, _, fragments, hpagination, rfl, hfragments, rfl⟩
  · rintro ⟨pagination, predicates, fragments, hpagination, rfl, hfragments, rfl⟩
    exact ⟨pagination, hpagination, _, rfl, fragments, hfragments, rfl⟩

/-- Planning succeeds when its stages can be passed, and they determine the draft. -/
theorem run_outcome_eq_ok_iff {draft : Draft} :
    (task.run declaration).outcome = .ok draft ↔
      ∃ stages, task.Passes declaration stages ∧ draft = stages.draft task.shape := by
  unfold run
  simp only [Planning.bind_outcome_eq_ok_iff, Planning.outcome_ofExcept, conclude_eq_ok_iff,
    render_eq_ok_iff]
  constructor
  · rintro ⟨attaching, hattach, junctionFilter, hjunctionFilter, filter, hfilter, pagination, _,
      _, hpaginate, rfl, ⟨emission, rfl, htemporary, hselect, htrailing⟩, rfl⟩
    exact ⟨⟨attaching, junctionFilter, filter, pagination, emission⟩,
      ⟨hattach, hjunctionFilter, hfilter, hpaginate, htemporary, hselect, htrailing⟩, rfl⟩
  · rintro ⟨stages, h, rfl⟩
    exact ⟨_, h.attach, _, h.junctionFilter, _, h.filter, _, _, _, h.paginate, rfl,
      ⟨_, rfl, h.temporary, h.select, h.trailing⟩, rfl⟩

end Task

namespace Planner

variable {planner : Planner} {relation : Relation} {request : Request}

/-- A planner refuses a relation without a declaration unless its policy is to leave out the
select; any other relation is planned as a task. -/
theorem draft_outcome_eq_ok_iff {draft : Draft} :
    (planner.draft relation request).outcome = .ok draft ↔
      (relation.declaration?.isSome ∨ planner.policy = .skip) ∧
        ∃ stages, (planner.task relation request).Passes relation.declaration? stages ∧
          draft = stages.draft (planner.task relation request).shape := by
  unfold Planner.draft
  rw [← Task.run_outcome_eq_ok_iff]
  cases relation.declaration? <;> cases planner.policy <;> simp [Planning.fail]

variable (planner relation request)

/-- After a failure the fragments are those from before. -/
theorem plan_of_error {error : PlanError}
    (h : (planner.draft relation request).outcome = .error error) (fragments : Fragments) :
    planner.plan relation request fragments =
      (⟨.error error, (planner.draft relation request).calls⟩, fragments) := by
  simp [plan, h]

theorem plan_of_ok {draft : Draft} (h : (planner.draft relation request).outcome = .ok draft)
    (fragments : Fragments) :
    planner.plan relation request fragments =
      (⟨.ok draft.planned, (planner.draft relation request).calls⟩,
        fragments.append draft.fragments) := by
  simp [plan, h]

end Planner

end RelationPaging
