import RelationPaging.Proofs.Planner.Contributions
import RelationPaging.Proofs.Planner.TwoRuns

/-!
# The built-in dialects decide alike

The built-in dialects spell literals, limits, temporary tables and comparisons of rows in different
ways, and none of this decides anything.  A plan fails in one dialect exactly if it fails in the
others, with the same error, and plans that succeed differ in the spelling of what the dialect
itself writes: the fragments, the condition of the batch and the condition of the cursor.
`Planner.decideAlike_plan` says so for any two of them that fold identifiers in the same way.

The proof runs both plannings side by side.  A step that reads the relation and the request gives
the same in both runs, and a step that asks the dialect gives outcomes that are alike.
-/

namespace RelationPaging

/-! ## Interpreters -/

namespace Spelling

variable (s s' : Spelling)

/-- Which values can be compared does not depend on how the comparison is spelled. -/
theorem keysetCondition_alike (aliasName aliasName' : String) (columns columns' : List String)
    (values : List Json) (descending : Bool) :
    Except.Alike Eq (fun _ _ => True) (s.keysetCondition aliasName columns values descending)
      (s'.keysetCondition aliasName' columns' values descending) :=
  .bind_self (fun _ => rfl) _ fun _ => .ok trivial

theorem behindCursor_alike (aliasName : String) (key : SortKey) (direction : SortDirection)
    (cursor : String) :
    Except.Alike Eq (fun _ _ => True) (s.behindCursor aliasName key direction cursor)
      (s'.behindCursor aliasName key direction cursor) :=
  .bind_self (fun _ => rfl) _ fun _ => keysetCondition_alike ..

/-- Pages by keyset start behind a row in all dialects or in none. -/
theorem keysetWindow_alike (target : PagingTarget) (key : SortKey) (pageEnd : Option PageEnd) :
    Except.Alike Eq (fun window window' => window.2.isSome = window'.2.isSome)
      (s.keysetWindow target key pageEnd) (s'.keysetWindow target key pageEnd) := by
  cases pageEnd with
  | none => exact .ok rfl
  | some pageEnd =>
    refine .bind_self (fun _ => rfl) _ fun cursor => ?_
    cases cursor with
    | none => exact .ok rfl
    | some cursor =>
      have hbehind := s.behindCursor_alike s' target.aliasName key
        (key.directionFor (some pageEnd)) cursor
      exact (hbehind.mapError fun _ _ => congrArg PlanError.cursor).bind fun _ _ _ => .ok rfl

theorem keysetPaging_alike (target : PagingTarget) :
    Except.Alike Eq (fun paging paging' => paging.condition.isSome = paging'.condition.isSome)
      (s.keysetPaging target) (s'.keysetPaging target) := by
  unfold keysetPaging
  cases target.sortKey with
  | none => exact .error rfl
  | some key =>
    dsimp only
    split
    · exact .error rfl
    · refine .bind_self (fun _ => rfl) _ fun pageEnd => ?_
      exact (s.keysetWindow_alike s' target key pageEnd).bind fun _ _ hwindow => .ok hwindow

theorem offsetPaging_alike (target : PagingTarget) :
    Except.Alike Eq (fun _ _ => True) (s.offsetPaging target) (s'.offsetPaging target) := by
  unfold offsetPaging
  cases target.orderBy with
  | none => exact .error rfl
  | some order =>
    refine .bind_self (fun _ => rfl) _ fun last => ?_
    split
    · exact .error rfl
    · exact .bind_self (fun _ => rfl) _ fun _ => .ok trivial

end Spelling

namespace Dialect

variable (s s' : Spelling)

theorem paginate_alike (relation : Relation) (declaration : Declaration) (relationAlias : String)
    (junctionAlias : Option String) :
    Except.Alike Eq (fun pagination pagination' => pagination.mode = pagination'.mode)
      ((ofSpelling s).paginate relation declaration relationAlias junctionAlias)
      ((ofSpelling s').paginate relation declaration relationAlias junctionAlias) := by
  cases declaration with
  | keyset key owner => exact (s.keysetPaging_alike s' (.ofSortKey ..)).map fun _ _ _ => rfl
  | offset order owner => exact (s.offsetPaging_alike s' (.ofOrderBy ..)).map fun _ _ _ => rfl

/-- What a built-in dialect writes, it writes without fail. -/
theorem batchCondition_alike (aliasName : String) (key key' : BatchKey) (scope : BatchScope) :
    Except.Alike Eq (fun _ _ => True) ((ofSpelling s).batchCondition aliasName key scope)
      ((ofSpelling s').batchCondition aliasName key' scope) := by
  unfold batchCondition
  cases scope.sample? with
  | none => exact .ok trivial
  | some sample => exact .ok trivial

theorem pageSelect_alike (table aliasName : String) (predicates predicates' : List String)
    (pagination pagination' : Pagination) (attachment attachment' : Option Attachment) :
    Except.Alike Eq (fun _ _ => True)
      ((ofSpelling s).pageSelect table aliasName predicates pagination attachment)
      ((ofSpelling s').pageSelect table aliasName predicates' pagination' attachment') := by
  cases pagination <;> cases pagination' <;> exact .ok trivial

end Dialect

/-! ## Tasks -/

namespace Task

/-- The same task for another dialect. -/
def withDialect (task : Task) (dialect : Dialect) : Task := { task with dialect }

variable (task : Task) (s s' : Spelling)

theorem paginate_alike (declaration : Option Declaration) :
    Except.Alike Eq
      (fun pagination pagination' => pagination.map (·.mode) = pagination'.map (·.mode))
      ((task.withDialect (.ofSpelling s)).paginate declaration)
      ((task.withDialect (.ofSpelling s')).paginate declaration) := by
  cases declaration with
  | none => exact .ok rfl
  | some declaration =>
    exact (Dialect.paginate_alike s s' task.relation declaration task.aliases.relation
      task.aliases.junction).bind fun _ _ hmode => .ok (congrArg some hmode)

theorem batchCondition_alike (aliasName : String) :
    Except.Alike Eq (fun _ _ => True)
      ((task.withDialect (.ofSpelling s)).batchCondition aliasName)
      ((task.withDialect (.ofSpelling s')).batchCondition aliasName) := by
  refine .bind_self (fun _ => rfl) task.batchInputs fun inputs => ?_
  refine .bind_self (fun _ => rfl) _ fun _ => ?_
  exact Dialect.batchCondition_alike s s' aliasName _ _ inputs.1

/-- The inputs are checked alike. -/
theorem needs_alike :
    Except.Alike Eq (fun _ _ => True) (task.withDialect (.ofSpelling s)).needs
      (task.withDialect (.ofSpelling s')).needs := by
  have hself : ∀ x : Except PlanError Unit, Except.Alike Eq (fun _ _ => True) x x :=
    Except.Alike.self (fun _ => rfl) fun _ => trivial
  obtain ⟨dialect, relation, request, shape, junction, aliases⟩ := task
  cases shape with
  | root => exact hself _
  | joinedToMany => exact hself _
  | joinedManyToMany => exact hself _
  | batchedToMany => exact (batchCondition_alike _ s s' _).bind fun _ _ _ => hself _
  | batchedManyToMany => exact (batchCondition_alike _ s s' _).bind fun _ _ _ => hself _

/-! ### Rendering -/

/-- What attaches a relation in two dialects: the same condition for the target, and a condition of
the batch in both or in none. -/
structure AttachedAlike (attaching attaching' : Attaching) : Prop where
  batchCondition : attaching.batchCondition.isSome = attaching'.batchCondition.isSome
  targetCondition : attaching.targetCondition = attaching'.targetCondition

variable {attaching attaching' : Attaching}

theorem renderTemporary_alike :
    Except.Alike Eq (fun texts texts' => texts.length = texts'.length)
      (task.withDialect (.ofSpelling s)).renderTemporary
      (task.withDialect (.ofSpelling s')).renderTemporary := by
  obtain ⟨dialect, relation, request, shape, junction, aliases⟩ := task
  unfold renderTemporary
  cases hbatched : shape.isBatched with
  | false =>
    simp only [withDialect, hbatched]
    exact .ok rfl
  | true =>
    simp only [withDialect, hbatched, if_true]
    exact .bind_self (fun _ => rfl) _ fun _ => .ok rfl

/-- A condition that is there in two runs or in none is found or found missing in both. -/
theorem require_batchCondition_alike (h : AttachedAlike attaching attaching') :
    Except.Alike Eq (fun _ _ => True)
      (task.relation.require .batchCondition attaching.batchCondition)
      (task.relation.require .batchCondition attaching'.batchCondition) := by
  have hsome := h.batchCondition
  cases hcondition : attaching.batchCondition <;> cases hcondition' : attaching'.batchCondition <;>
    rw [hcondition, hcondition'] at hsome
  · exact .error rfl
  · cases hsome
  · cases hsome
  · exact .ok trivial

/-- The select is attached in both dialects or in none. -/
theorem attachment_alike (h : AttachedAlike attaching attaching') :
    Except.Alike Eq (fun _ _ => True)
      ((task.withDialect (.ofSpelling s)).attachment attaching)
      ((task.withDialect (.ofSpelling s')).attachment attaching') := by
  have hbatch := task.require_batchCondition_alike h
  obtain ⟨predicate, batchCondition, targetCondition⟩ := attaching
  obtain ⟨predicate', batchCondition', targetCondition'⟩ := attaching'
  obtain ⟨-, rfl⟩ := h
  obtain ⟨dialect, relation, request, shape, junction, aliases⟩ := task
  cases shape with
  | root => exact .ok trivial
  | joinedToMany => exact .bind_self (fun _ => rfl) _ fun _ => .ok trivial
  | joinedManyToMany =>
    exact .bind_self (fun _ => rfl) _ fun _ => .bind_self (fun _ => rfl) _ fun _ => .ok trivial
  | batchedToMany => exact hbatch.bind fun _ _ _ => .ok trivial
  | batchedManyToMany =>
    exact .bind_self (fun _ => rfl) _ fun _ => hbatch.bind fun _ _ _ => .ok trivial

theorem renderSelect_alike (h : AttachedAlike attaching attaching')
    (predicates predicates' : List String) {pagination pagination' : Option Pagination}
    (hmode : pagination.map (·.mode) = pagination'.map (·.mode)) :
    Except.Alike Eq (fun texts texts' => texts.length = texts'.length)
      ((task.withDialect (.ofSpelling s)).renderSelect attaching predicates pagination)
      ((task.withDialect (.ofSpelling s')).renderSelect attaching' predicates' pagination') := by
  cases pagination <;> cases pagination'
  case none.none => exact .ok rfl
  case none.some => cases hmode
  case some.none => cases hmode
  case some.some =>
    refine (task.attachment_alike s s' h).bind fun _ _ _ => ?_
    exact (Dialect.pageSelect_alike s s' ..).bind fun _ _ _ => .ok rfl

theorem renderTrailingJoin_alike (h : AttachedAlike attaching attaching') :
    Except.Alike Eq (fun texts texts' => texts.length = texts'.length)
      ((task.withDialect (.ofSpelling s)).renderTrailingJoin attaching)
      ((task.withDialect (.ofSpelling s')).renderTrailingJoin attaching') := by
  obtain ⟨predicate, batchCondition, targetCondition⟩ := attaching
  obtain ⟨predicate', batchCondition', targetCondition'⟩ := attaching'
  obtain ⟨-, rfl⟩ := h
  obtain ⟨dialect, relation, request, shape, junction, aliases⟩ := task
  unfold renderTrailingJoin
  by_cases hshape : shape = .batchedManyToMany
  · simp only [withDialect, hshape, if_true]
    exact .bind_self (fun _ => rfl) _ fun _ => .ok rfl
  · simp only [withDialect, hshape, if_false]
    exact .ok rfl

/-- Two drafts have the same shape, the same mode and equally many fragments. -/
structure DraftedAlike (draft draft' : Draft) : Prop where
  shape : draft.planned.shape = draft'.planned.shape
  mode : draft.planned.mode = draft'.planned.mode
  length : draft.fragments.length = draft'.fragments.length

/-- The second half of a planning comes out alike in two dialects. -/
theorem conclude_alike (h : AttachedAlike attaching attaching') (declaration : Option Declaration)
    (junctionFilter filter : Option String) :
    Except.Alike Eq DraftedAlike
      ((task.withDialect (.ofSpelling s)).conclude declaration attaching junctionFilter filter)
      ((task.withDialect (.ofSpelling s')).conclude declaration attaching' junctionFilter
        filter) := by
  refine (task.paginate_alike s s' declaration).bind fun pagination pagination' hmode => ?_
  rw [assemble_eq, assemble_eq]
  refine Except.Alike.bind (R := fun _ _ => True) (.ok trivial) fun predicates predicates' _ => ?_
  refine Except.Alike.bind ?_ fun texts texts' hlength => .ok ⟨rfl, hmode, hlength⟩
  refine (task.renderTemporary_alike s s').bind fun temporary temporary' htemporary => ?_
  refine (task.renderSelect_alike s s' h predicates predicates' hmode).bind
    fun select select' hselect => ?_
  refine (task.renderTrailingJoin_alike s s' h).bind fun trailing trailing' htrailing => ?_
  exact .ok (by simp only [List.length_append, htemporary, hselect, htrailing])

end Task

/-! ## Plans -/

namespace Planner

/-! ### What depends on the casing alone -/

section

variable {planner planner' : Planner} (hcasing : planner.dialect.casing = planner'.dialect.casing)
  (relation : Relation) (request : Request)

include hcasing

theorem attachingCalls_eq_of_casing :
    planner.attachingCalls relation request = planner'.attachingCalls relation request := by
  simp only [attachingCalls, targetCall, hcasing]

theorem expectedCalls_eq_of_casing :
    planner.expectedCalls relation request = planner'.expectedCalls relation request := by
  rw [expectedCalls, attachingCalls_eq_of_casing hcasing]
  simp only [expectedCalls, junctionFilterCall?, filterCall?, hcasing]

theorem targetAnswer_eq_of_casing :
    planner.targetAnswer relation request = planner'.targetAnswer relation request := by
  have htarget : planner.targetCall relation = planner'.targetCall relation := by
    funext junction
    simp only [targetCall, hcasing]
  unfold targetAnswer
  rw [attachingCalls_eq_of_casing hcasing, htarget]

theorem junctionFilterAnswer_eq_of_casing :
    planner.junctionFilterAnswer relation request =
      planner'.junctionFilterAnswer relation request := by
  simp only [junctionFilterAnswer, junctionFilterCall?, hcasing]

theorem filterAnswer_eq_of_casing :
    planner.filterAnswer relation = planner'.filterAnswer relation := by
  simp only [filterAnswer, filterCall?, hcasing]

end

/-! ### Two dialects -/

section

variable (name name' : DialectName) (casing : Casing) (policy : MissingPolicy)
  (relation : Relation) (request : Request)

theorem casing_eq :
    (standard name casing policy).dialect.casing =
      (standard name' casing policy).dialect.casing := by
  rw [standard_casing, standard_casing]

/-- The tasks of two dialects differ in the dialect only. -/
theorem task_eq_withDialect :
    (standard name' casing policy).task relation request =
      ((standard name casing policy).task relation request).withDialect
        (.ofSpelling (Dialect.spellingOf name' casing)) := by
  simp only [task, standard_casing, Task.withDialect]
  rfl

/-- The condition of a cursor is there in both dialects or in none. -/
theorem isSome_cursorCondition :
    ((standard name casing policy).cursorCondition relation request).isSome =
      ((standard name' casing policy).cursorCondition relation request).isSome := by
  unfold cursorCondition
  rw [task_eq_withDialect name name' casing policy relation request]
  split
  · next key owner _ =>
    have halike := (Dialect.spellingOf name casing).keysetPaging_alike
      (Dialect.spellingOf name' casing) (.ofSortKey relation
        (((standard name casing policy).task relation request).qualifier owner) key)
    exact halike.isSome_bind_toOption fun _ _ h => h
  · rfl

/-- Plannings come out alike in two dialects. -/
theorem draft_alike_of_dialects :
    Planning.Alike Eq Task.DraftedAlike ((standard name casing policy).draft relation request)
      ((standard name' casing policy).draft relation request) := by
  have hcasing := casing_eq name name' casing policy
  have htask := task_eq_withDialect name name' casing policy relation request
  refine draft_alike Iff.rfl rfl ?_ (expectedCalls_eq_of_casing hcasing relation request)
    (fun _ => rfl) (fun _ _ => rfl) fun hinputs hinputs' => ?_
  · have hneeds := ((standard name casing policy).task relation request).needs_alike
      (Dialect.spellingOf name casing) (Dialect.spellingOf name' casing)
    rw [htask]
    exact hneeds
  · have hattached : Task.AttachedAlike ((standard name casing policy).attached relation request)
        ((standard name' casing policy).attached relation request) := by
      refine ⟨?_, targetAnswer_eq_of_casing hcasing relation request⟩
      rw [(batchCondition_attached hinputs).1, (batchCondition_attached hinputs').1]
    have hconclude := ((standard name casing policy).task relation request).conclude_alike
      (Dialect.spellingOf name casing) (Dialect.spellingOf name' casing) hattached
      relation.declaration? ((standard name casing policy).junctionFilterAnswer relation request)
      ((standard name casing policy).filterAnswer relation)
    rw [htask, ← junctionFilterAnswer_eq_of_casing hcasing, ← filterAnswer_eq_of_casing hcasing]
    exact hconclude

end

/-! ## Main result -/

/-- Two plannings of a relation, each with the fragments it leaves behind, have decided alike: both
have failed with the same error and left the fragments as they were, or both have succeeded with the
same shape, the same mode and equally many predicates and fragments.  The predicates of the
callbacks are the same texts in the same places, behind the condition of the batch and in front of
the condition of the cursor.  In either case the same calls were made. -/
inductive DecideAlike (relation : Relation) (fragments : Fragments) :
    Planning PlannedRelation × Fragments → Planning PlannedRelation × Fragments → Prop
  | failed {calls : List Invocation} {error : PlanError} :
      DecideAlike relation fragments (⟨.error error, calls⟩, fragments)
        (⟨.error error, calls⟩, fragments)
  | planned {calls : List Invocation} {planned planned' : PlannedRelation}
      {added added' : List String} {batch batch' cursor cursor' : Option String}
      (hshape : planned.shape = planned'.shape) (hmode : planned.mode = planned'.mode)
      (hadded : added.length = added'.length)
      (hlength : planned.predicates.length = planned'.predicates.length)
      (hbatch : batch.isSome = batch'.isSome) (hcursor : cursor.isSome = cursor'.isSome)
      (hpredicates : planned.predicates =
        batch.toList ++ relation.answeredPredicates calls ++ cursor.toList)
      (hpredicates' : planned'.predicates =
        batch'.toList ++ relation.answeredPredicates calls ++ cursor'.toList) :
      DecideAlike relation fragments (⟨.ok planned, calls⟩, fragments.append added)
        (⟨.ok planned', calls⟩, fragments.append added')

/-- **The built-in dialects decide alike.**  Planning a relation in two of them that fold
identifiers in the same way comes out alike. -/
theorem decideAlike_plan (name name' : DialectName) (casing : Casing) (policy : MissingPolicy)
    (relation : Relation) (request : Request) (fragments : Fragments) :
    DecideAlike relation fragments
      ((standard name casing policy).plan relation request fragments)
      ((standard name' casing policy).plan relation request fragments) := by
  obtain ⟨hcalls, houtcome⟩ := draft_alike_of_dialects name name' casing policy relation request
  rcases houtcome.cases_outcome with ⟨error, _, h, h', rfl⟩ | ⟨draft, draft', h, h', halike⟩
  · rw [plan_of_error _ _ _ h, plan_of_error _ _ _ h', hcalls]
    exact .failed
  · obtain ⟨-, hinputs, -⟩ := (course _ relation request).of_ok h
    obtain ⟨-, hinputs', -⟩ := (course _ relation request).of_ok h'
    have hbatch :=
      (batchCondition_attached hinputs).1.trans (batchCondition_attached hinputs').1.symm
    have hcursor := isSome_cursorCondition name name' casing policy relation request
    have hpredicates := predicates_eq_contributions h
    have hpredicates' := predicates_eq_contributions h'
    rw [hcalls] at hpredicates
    have hlength : draft.planned.predicates.length = draft'.planned.predicates.length := by
      simp only [hpredicates, hpredicates', List.length_append, Option.length_toList, hbatch,
        hcursor]
    rw [plan_of_ok _ _ _ h, plan_of_ok _ _ _ h', hcalls]
    exact .planned halike.shape halike.mode halike.length hlength hbatch hcursor hpredicates
      hpredicates'

end Planner

end RelationPaging
