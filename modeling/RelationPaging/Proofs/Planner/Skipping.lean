import RelationPaging.Proofs.Planner.Course
import RelationPaging.Proofs.Planner.Qualifier

/-!
# What skipping leaves out

A relation without a declaration is planned under the policy `MissingPolicy.skip` only, and its plan
has no select.  The rest of the plan should be what it would be if the relation had a declaration,
as long as the declaration does not cut the page.  A sort key is such a declaration when the
arguments count no rows: it contributes no condition, and all rows are taken.

The comparison runs the other way.  `Relation.unsorted` takes the sort keys away from a relation,
and the steps of a planning other than the interpretation of the declaration are those of the
relation with its sort keys.  From the stages of a planning with a sort key follow those of the
planning without it, and `Planner.plan_skip_omitsSelect` reads this off at a relation to which a
sort key was added.
-/

namespace RelationPaging

/-! ## Relations with and without a sort key -/

/-- The junction without its sort key. -/
def Junction.unsorted (junction : Junction) : Junction :=
  { junction with sortKey := none }

namespace Relation

/-- The relation without the sort keys that it and its junction declare. -/
def unsorted (relation : Relation) : Relation :=
  { relation with sortKey := none, junction := relation.junction.map Junction.unsorted }

/-- The relation with a sort key, which its junction declares if it has one. -/
def sortedBy (relation : Relation) (key : SortKey) : Relation :=
  match relation.junction with
  | some junction => { relation with junction := some { junction with sortKey := some key } }
  | none => { relation with sortKey := some key }

variable {relation : Relation}

/-- Taking the sort key away again gives back a relation that declared none before. -/
theorem unsorted_sortedBy (h : relation.declaration? = none) (key : SortKey) :
    (relation.sortedBy key).unsorted = relation := by
  obtain ⟨table, aliasName, arguments, sortKey, orderBy, hasPageInfo, filter, join, batchKey,
    junction⟩ := relation
  cases sortKey with
  | some own => cases h
  | none =>
    cases junction with
    | none => rfl
    | some junction =>
      obtain ⟨_, _, _, _, _, junctionKey, _⟩ := junction
      cases junctionKey with
      | some own => cases h
      | none => rfl

/-- A sort key of the junction or of the relation itself is the declaration that counts. -/
theorem exists_declaration?_sortedBy (h : relation.declaration? = none) (key : SortKey) :
    ∃ owner, (relation.sortedBy key).declaration? = some (.keyset key owner) := by
  obtain ⟨table, aliasName, arguments, sortKey, orderBy, hasPageInfo, filter, join, batchKey,
    junction⟩ := relation
  cases sortKey with
  | some own => cases h
  | none =>
    cases junction with
    | none => exact ⟨.relation, rfl⟩
    | some junction => exact ⟨.junction, rfl⟩

@[simp] theorem arguments_sortedBy (key : SortKey) :
    (relation.sortedBy key).arguments = relation.arguments := by
  unfold sortedBy
  split <;> rfl

@[simp] theorem shape_unsorted (isRoot : Bool) :
    relation.unsorted.shape isRoot = relation.shape isRoot := by
  obtain ⟨_, _, _, _, _, _, _, _, _, junction⟩ := relation
  cases junction with
  | none => rfl
  | some junction => rfl

end Relation

/-! ## Steps that do not look at sort keys -/

namespace Task

/-- The task without the sort keys of its relation and its junction. -/
def unsorted (task : Task) : Task :=
  { task with relation := task.relation.unsorted, junction := task.junction.map Junction.unsorted }

variable {task : Task}

theorem attach_unsorted : task.unsorted.attach = task.attach := by
  obtain ⟨dialect, relation, request, shape, junction, aliases⟩ := task
  cases junction <;> cases shape <;> rfl

theorem askJunctionFilter_unsorted : task.unsorted.askJunctionFilter = task.askJunctionFilter := by
  obtain ⟨dialect, relation, request, shape, junction, aliases⟩ := task
  cases junction <;> rfl

theorem askFilter_unsorted : task.unsorted.askFilter = task.askFilter := rfl

/-- The first half of a planning is the same without sort keys. -/
theorem asked_unsorted : task.unsorted.asked = task.asked := by
  simp only [asked, attach_unsorted, askJunctionFilter_unsorted, askFilter_unsorted]

theorem batchInputs_unsorted : task.unsorted.batchInputs = task.batchInputs := by
  obtain ⟨dialect, relation, request, shape, junction, aliases⟩ := task
  cases junction <;> cases shape <;> rfl

theorem rendersTemporary_unsorted {temporary : Option String} :
    task.unsorted.RendersTemporary temporary ↔ task.RendersTemporary temporary := by
  cases temporary with
  | none => rfl
  | some text =>
    unfold RendersTemporary
    rw [batchInputs_unsorted]
    rfl

theorem rendersTrailing_unsorted {attaching : Attaching} {trailing : Option String} :
    task.unsorted.RendersTrailing attaching trailing ↔
      task.RendersTrailing attaching trailing := by
  cases trailing <;> rfl

end Task

/-! ## Pages that are not cut -/

/-- Arguments that count no rows ask for no end of the page. -/
theorem Arguments.pageEnd_eq_none {arguments : Arguments} (hfirst : arguments.given? "first" = none)
    (hlast : arguments.given? "last" = none) : arguments.pageEnd = .ok none := by
  have hcounts : arguments.count "first" = .ok none ∧ arguments.count "last" = .ok none := by
    simp only [count, hfirst, hlast, and_self]
  exact Except.bind_eq_ok_iff.2 ⟨none, hcounts.1, Except.bind_eq_ok_iff.2 ⟨none, hcounts.2, rfl⟩⟩

/-- Without an end of the page, a sort key contributes no condition. -/
theorem Task.condition_of_paginate_keyset {task : Task} {s : Spelling}
    (hs : task.dialect = .ofSpelling s) (hend : task.relation.arguments.pageEnd = .ok none)
    {key : SortKey} {owner : Owner} {pagination : Option Pagination}
    (h : task.paginate (some (.keyset key owner)) = .ok pagination) :
    pagination.bind (·.condition) = none := by
  obtain ⟨decision, hdecision, ⟨⟩⟩ := Except.bind_eq_ok_iff.1 h
  rw [hs] at hdecision
  obtain ⟨paging, hpaging, rfl⟩ := Except.map_eq_ok_iff.1 hdecision
  have hkeyset : s.keysetPaging (.ofSortKey task.relation (task.qualifier owner) key) =
      .ok paging := hpaging
  obtain ⟨_, pageEnd, -, -, hpageEnd, hwindow, -⟩ := Spelling.keysetPaging_eq_ok_iff.1 hkeyset
  cases hend.symm.trans hpageEnd
  obtain ⟨-, hcondition⟩ := Prod.mk.inj (Except.ok.inj hwindow)
  exact hcondition.symm

/-! ## Plannings with and without the select -/

/-- The fragments without the select of the page. -/
def Emission.withoutSelect (emission : Emission) : Emission :=
  { emission with select := none }

/-- The plan of a relation that is not paged. -/
def PlannedRelation.unpaged (planned : PlannedRelation) : PlannedRelation :=
  { planned with mode := none }

/-- The stages without the decision on the page and its select. -/
def Stages.unpaged (stages : Stages) : Stages :=
  { stages with pagination := none, emission := stages.emission.withoutSelect }

/-- When the page adds no predicate, the predicates do not depend on it. -/
theorem Stages.draft_unpaged {stages : Stages}
    (hcondition : stages.pagination.bind (·.condition) = none) (shape : Shape) :
    stages.unpaged.draft shape =
      ⟨(stages.draft shape).planned.unpaged, stages.emission.withoutSelect.toList⟩ := by
  simp only [draft, predicates, answers, hcondition, unpaged, PlannedRelation.unpaged,
    Option.map_none, Option.bind_none]

/-- Without sort keys, the stages can be passed without the page. -/
theorem Task.Passes.unpaged {task : Task} {declaration : Option Declaration} {stages : Stages}
    (h : task.Passes declaration stages) : task.unsorted.Passes none stages.unpaged where
  attach := by rw [attach_unsorted]; exact h.attach
  junctionFilter := by rw [askJunctionFilter_unsorted]; exact h.junctionFilter
  filter := h.filter
  paginate := rfl
  temporary := rendersTemporary_unsorted.2 h.temporary
  select := rfl
  trailing := rendersTrailing_unsorted.2 h.trailing

namespace Planner

variable {planner : Planner} {relation : Relation} {request : Request}

theorem task_unsorted :
    (planner.task relation request).unsorted = planner.task relation.unsorted request := by
  simp only [task, Relation.shape_unsorted]
  generalize relation.shape request.isRoot = shape
  obtain ⟨_, _, _, _, _, _, _, _, _, junction⟩ := relation
  cases junction with
  | none => rfl
  | some junction => cases shape <;> rfl

/-- The first half of a planning is the same for the relation without its sort keys. -/
theorem asked_relation_unsorted :
    (planner.task relation.unsorted request).asked = (planner.task relation request).asked := by
  rw [← task_unsorted, Task.asked_unsorted]

/-- The calls of a planning that succeeds are those of its first half. -/
theorem calls_eq_calls_asked {draft : Draft}
    (h : (planner.draft relation request).outcome = .ok draft) :
    (planner.draft relation request).calls = (planner.task relation request).asked.calls := by
  obtain ⟨-, hinputs, hresolve, hcalls, -⟩ := (planner.course relation request).of_ok h
  rw [hcalls, asked_eq_of_resolves hinputs hresolve]

variable {name : DialectName} {casing : Casing} {policy : MissingPolicy} {draft : Draft}

/-- The draft of a relation whose sort key does not cut the page, and what is left of it when the
sort key is taken away. -/
theorem exists_draft_unsorted {key : SortKey} {owner : Owner}
    (hkey : relation.declaration? = some (.keyset key owner))
    (hunsorted : relation.unsorted.declaration? = none)
    (hend : relation.arguments.pageEnd = .ok none)
    (hdraft : ((standard name casing policy).draft relation request).outcome = .ok draft) :
    ∃ (pagination : Pagination) (page : PageSelect) (select : String) (emission : Emission),
      (standard name casing policy).EmitsSelect relation request draft pagination page select ∧
      emission.select = some select ∧ draft.fragments = emission.toList ∧
      (standard name casing .skip).draft relation.unsorted request =
        ⟨.ok ⟨draft.planned.unpaged, emission.withoutSelect.toList⟩,
          ((standard name casing policy).draft relation request).calls⟩ := by
  obtain ⟨pagination, page, select, hemits⟩ := exists_emitsSelect hdraft (by rw [hkey]; rfl)
  obtain ⟨stages, attachment, hstages, hstagesDraft, -, hselect, -, -⟩ := hemits.emitted
  refine ⟨pagination, page, select, stages.emission, hemits, hselect, by rw [hstagesDraft]; rfl, ?_⟩
  rw [hkey] at hstages
  have hcondition : stages.pagination.bind (·.condition) = none :=
    Task.condition_of_paginate_keyset rfl hend hstages.paginate
  have hpasses : ((standard name casing .skip).task relation.unsorted request).Passes none
      stages.unpaged := by
    rw [← task_unsorted]
    exact hstages.unpaged
  have hleft : ((standard name casing .skip).draft relation.unsorted request).outcome =
      .ok ⟨draft.planned.unpaged, stages.emission.withoutSelect.toList⟩ := by
    refine draft_outcome_eq_ok_iff.2 ⟨.inr rfl, stages.unpaged, ?_, ?_⟩
    · rw [hunsorted]
      exact hpasses
    · rw [Stages.draft_unpaged hcondition, hstagesDraft, task_shape, Relation.shape_unsorted]
  have hcalls : ((standard name casing .skip).draft relation.unsorted request).calls =
      ((standard name casing policy).draft relation request).calls := by
    rw [calls_eq_calls_asked hleft, calls_eq_calls_asked hdraft, asked_relation_unsorted]
    rfl
  rw [← hleft, ← hcalls]

/-! ## Main result -/

/-- One planning succeeds and adds the select of a page to the fragments of a query.  The other one
differs from it in that this select is not added, and that the relation is not paged: the shape, the
predicates, the calls and all other fragments are the same. -/
def OmitsSelect (fragments : Fragments) (select : String)
    (paged unpaged : Planning PlannedRelation × Fragments) : Prop :=
  ∃ (planned : PlannedRelation) (calls : List Invocation) (emission : Emission),
    emission.select = some select ∧
      paged = (⟨.ok planned, calls⟩, fragments.append emission.toList) ∧
      unpaged = (⟨.ok planned.unpaged, calls⟩, fragments.append emission.withoutSelect.toList)

variable (name casing policy relation request)

/-- **Skipping leaves out the select and nothing else.**  Take a relation without a declaration
whose arguments count no rows, and suppose that planning succeeds under some policy when a sort key
is put on its junction, or on the relation if it has no junction.  One of the fragments is then the
select of a page.  Under the policy that skips, planning the relation itself differs in that this
select is left out.  A relation with a declaration is planned in the same way under both policies,
whatever the dialect. -/
theorem plan_skip_omitsSelect (fragments : Fragments) :
    (∀ key planned, relation.declaration? = none → relation.arguments.given? "first" = none →
      relation.arguments.given? "last" = none →
      ((standard name casing policy).plan (relation.sortedBy key) request fragments).1.outcome =
        .ok planned →
      ∃ draft pagination page select,
        (standard name casing policy).EmitsSelect (relation.sortedBy key) request draft pagination
          page select ∧
        OmitsSelect fragments select
          ((standard name casing policy).plan (relation.sortedBy key) request fragments)
          ((standard name casing .skip).plan relation request fragments)) ∧
    ∀ dialect, relation.declaration?.isSome = true →
      (⟨dialect, .skip⟩ : Planner).plan relation request fragments =
        (⟨dialect, .error⟩ : Planner).plan relation request fragments := by
  constructor
  · intro key planned hundeclared hfirst hlast hplanned
    obtain ⟨draft, hdraft, -⟩ := exists_draft_of_plan _ _ _ hplanned
    obtain ⟨owner, hkey⟩ := Relation.exists_declaration?_sortedBy hundeclared key
    have hunsorted : (relation.sortedBy key).unsorted = relation :=
      Relation.unsorted_sortedBy hundeclared key
    have hend : (relation.sortedBy key).arguments.pageEnd = .ok none := by
      rw [Relation.arguments_sortedBy]
      exact Arguments.pageEnd_eq_none hfirst hlast
    obtain ⟨pagination, page, select, emission, hemits, hselect, hfragments, hleft⟩ :=
      exists_draft_unsorted hkey (by rw [hunsorted]; exact hundeclared) hend hdraft
    rw [hunsorted] at hleft
    refine ⟨draft, pagination, page, select, hemits, draft.planned,
      ((standard name casing policy).draft (relation.sortedBy key) request).calls, emission,
      hselect, ?_, ?_⟩
    · rw [plan_of_ok _ _ _ hdraft, hfragments]
    · rw [plan_of_ok _ _ _ (congrArg Planning.outcome hleft), hleft]
  · intro dialect hdeclared
    have hdraft : (⟨dialect, .skip⟩ : Planner).draft relation request =
        (⟨dialect, .error⟩ : Planner).draft relation request := by
      rw [draft_eq_of_admits (.inl hdeclared), draft_eq_of_admits (.inl hdeclared)]
      rfl
    simp only [plan, hdraft]

/-- The live tags of several posts, in no order. -/
def liveTags : Relation :=
  { filteredTags with sortKey := none }

/-- Planning the live tags of several posts without an order leaves out the select that an order by
a column of the junction would add. -/
theorem plan_skip_liveTags :
    (liveTags.declaration? = none ∧ liveTags.arguments.given? "first" = none ∧
      liveTags.arguments.given? "last" = none) ∧
    (∃ draft pagination page select,
      (standard .db2 .upper .error).EmitsSelect (liveTags.sortedBy ⟨.ascending, ["tag_id"]⟩)
        ofPosts draft pagination page select ∧
      OmitsSelect {} select
        ((standard .db2 .upper .error).plan (liveTags.sortedBy ⟨.ascending, ["tag_id"]⟩) ofPosts {})
        ((standard .db2 .upper .skip).plan liveTags ofPosts {})) ∧
    (standard .db2 .upper .skip).plan filteredTags ofPosts {} =
      (standard .db2 .upper .error).plan filteredTags ofPosts {} := by
  have hplanned : ((standard .db2 .upper .error).plan
      (liveTags.sortedBy ⟨.ascending, ["tag_id"]⟩) ofPosts {}).1.outcome =
        .ok filteredTagsDraft.planned :=
    Except.toOption_eq_some_iff.1 (by decide +kernel)
  have hdeclaration : liveTags.declaration? = none := by decide
  have hcounts : liveTags.arguments.given? "first" = none ∧
      liveTags.arguments.given? "last" = none := by
    decide
  refine ⟨⟨hdeclaration, hcounts⟩, ?_, ?_⟩
  · exact (plan_skip_omitsSelect liveTags ofPosts .db2 .upper .error {}).1
      ⟨.ascending, ["tag_id"]⟩ _ hdeclaration hcounts.1 hcounts.2 hplanned
  · exact (plan_skip_omitsSelect filteredTags ofPosts .db2 .upper .error {}).2
      (.standard .db2 .upper) (by decide)

end Planner

end RelationPaging
