import RelationPaging.Proofs.Planner.Qualifier
import RelationPaging.Proofs.Planner.TwoRuns
import RelationPaging.Proofs.Relation.Respelling

/-!
# Identifiers are folded everywhere

A planner that folds identifiers must not let one through as it was spelled.  An alias or a column
that reaches a quoted name, a callback or the table of a batch without being folded shows in the
plan, so that the plans of two spellings of one relation tell whether it happens.

`Planner.samePlan_of_equalUpToCase` says that a built-in dialect that folds to upper or lower case
gives two spellings the same plan.  The folded spelling is one of them, so that nothing is gained by
folding beforehand: `Planner.samePlan_cased`.
-/

namespace RelationPaging

/-! ## Tasks -/

/-- Two tasks are equal but for the letter case of what a dialect folds. -/
structure Task.EqualUpToCase (task task' : Task) : Prop where
  dialect : task.dialect = task'.dialect
  relation : task.relation.EqualUpToCase task'.relation
  joinCondition : task.request.joinCondition = task'.request.joinCondition
  secondaryCondition : task.request.secondaryCondition = task'.request.secondaryCondition
  scope : task.request.scope = task'.request.scope
  shape : task.shape = task'.shape
  junction : Option.Rel Junction.EqualUpToCase task.junction task'.junction
  aliases : task.aliases = task'.aliases

/-- Two outcomes are failures of any kind, or the same success. -/
abbrev Except.SameValue {α : Type} : Except PlanError α → Except PlanError α → Prop :=
  Except.Alike (fun _ _ => True) Eq

theorem Except.sameValue_of_eq {α : Type} {x y : Except PlanError α} (h : x = y) :
    Except.SameValue x y :=
  h ▸ .self (fun _ => trivial) (fun _ => rfl) x

/-- What follows a step with the same value may take its value for granted. -/
theorem Except.bind_sameValue {α β γ : Type} {S : β → γ → Prop} {x y : Except PlanError α}
    {f : α → Except PlanError β} {g : α → Except PlanError γ} (h : Except.SameValue x y)
    (hfg : ∀ a, Except.Alike (fun _ _ => True) S (f a) (g a)) :
    Except.Alike (fun _ _ => True) S (x >>= f) (y >>= g) :=
  h.bind fun a _ heq => heq ▸ hfg a

/-- An input that is the same in both runs. -/
theorem Relation.require_sameValue {α : Type} {relation relation' : Relation} {what : MissingInput}
    {input input' : Option α} (h : input = input') :
    Except.SameValue (relation.require what input) (relation'.require what input') := by
  subst h
  cases input with
  | some value => exact .ok rfl
  | none => exact .error trivial

namespace Task.EqualUpToCase

variable {task task' : Task} (h : task.EqualUpToCase task')

include h

theorem batchKey? : Option.Rel BatchKey.EqualUpToCase task.batchKey? task'.batchKey? := by
  unfold Task.batchKey?
  rw [h.shape]
  cases task'.shape with
  | batchedManyToMany =>
    rcases cases_rel h.junction with ⟨hnone, hnone'⟩ | ⟨_, _, hsome, hsome', hjunction⟩
    · rw [hnone, hnone']
      exact .none
    · rw [hsome, hsome']
      exact hjunction.batchKey
  | root | joinedToMany | joinedManyToMany | batchedToMany => exact h.relation.batchKey

theorem batchInputs_alike :
    Except.Alike (fun _ _ => True)
      (fun inputs inputs' => inputs.1 = inputs'.1 ∧ inputs.2.EqualUpToCase inputs'.2)
      task.batchInputs task'.batchInputs := by
  refine Except.bind_sameValue (Relation.require_sameValue h.scope) fun scope => ?_
  exact (Relation.require_alike trivial h.batchKey?).bind fun key key' hkey => .ok ⟨rfl, hkey⟩

theorem batchCondition_alike (hcasing : task.dialect.casing ≠ .identity) (aliasName : String) :
    Except.SameValue (task.batchCondition aliasName) (task'.batchCondition aliasName) := by
  refine h.batchInputs_alike.bind fun ⟨scope, key⟩ ⟨scope', key'⟩ ⟨hscope, hkey⟩ => ?_
  cases hscope
  have hvalidate : Except.SameValue
      (scope.validate.mapError (.batchScope task.relation.aliasName))
      (scope.validate.mapError (.batchScope task'.relation.aliasName)) := by
    cases scope.validate with
    | ok kind => exact .ok rfl
    | error defect => exact .error trivial
  refine Except.bind_sameValue hvalidate fun _ => ?_
  rw [← h.dialect, hkey.cased_eq hcasing]
  exact Except.sameValue_of_eq rfl

theorem parentAlias_sameValue : Except.SameValue task.parentAlias task'.parentAlias :=
  Relation.require_sameValue (by rw [h.aliases])

theorem joinCondition_sameValue : Except.SameValue task.joinCondition task'.joinCondition :=
  Relation.require_sameValue h.joinCondition

theorem junctionJoins_sameValue : Except.SameValue task.junctionJoins task'.junctionJoins :=
  Relation.require_sameValue (bind_eq_bind_of_rel h.junction fun _ _ hjunction => hjunction.joins)

theorem keyedAlias_eq : task.keyedAlias = task'.keyedAlias := by
  rw [keyedAlias, keyedAlias, h.shape, junctionAlias, junctionAlias, h.aliases]

/-- The inputs are there in both spellings or in none. -/
theorem needs_alike (hcasing : task.dialect.casing ≠ .identity) :
    Except.Alike (fun _ _ => True) (fun _ _ => True) task.needs task'.needs := by
  have hbatch := h.batchCondition_alike hcasing task.keyedAlias
  have hjoin : Except.SameValue (task.relation.require .join task.relation.join)
      (task'.relation.require .join task'.relation.join) :=
    Relation.require_sameValue h.relation.join
  unfold needs
  rw [← h.shape, ← h.keyedAlias_eq, ← h.joinCondition]
  cases task.shape with
  | root => exact .ok trivial
  | joinedToMany =>
    refine Except.bind_sameValue h.parentAlias_sameValue fun _ => ?_
    refine Except.bind_sameValue h.joinCondition_sameValue fun _ => ?_
    exact Except.bind_sameValue hjoin fun _ => .ok trivial
  | joinedManyToMany =>
    refine Except.bind_sameValue h.parentAlias_sameValue fun _ => ?_
    refine Except.bind_sameValue h.joinCondition_sameValue fun _ => ?_
    exact Except.bind_sameValue h.junctionJoins_sameValue fun _ => .ok trivial
  | batchedToMany => exact Except.bind_sameValue hbatch fun _ => .ok trivial
  | batchedManyToMany =>
    refine Except.bind_sameValue hbatch fun _ => ?_
    dsimp only
    split
    · exact Except.bind_sameValue h.junctionJoins_sameValue fun _ => .ok trivial
    · exact .ok trivial

/-! ### The second half -/

theorem paginate_eq {s : Spelling} (hs : task.dialect = .ofSpelling s)
    (hcasing : task.dialect.casing ≠ .identity) {declaration declaration' : Option Declaration}
    (hdeclaration : Option.Rel (Declaration.EqualUpToCase task.relation.arguments) declaration
      declaration') :
    task.paginate declaration = task'.paginate declaration' := by
  cases hdeclaration with
  | none => rfl
  | some hdeclaration =>
    simp only [paginate, ← h.dialect, ← h.aliases]
    rw [hs] at hcasing ⊢
    cases hdeclaration with
    | keyset hkey hcursor =>
      have hpaging := fun aliasName =>
        Spelling.keysetPaging_eq hcasing h.relation aliasName hkey hcursor
      have hpaging := fun aliasName => congrArg (Except.map Pagination.keyset) (hpaging aliasName)
      exact congrArg (· >>= fun pagination => pure (some pagination)) (hpaging _)
    | offset horder =>
      have hpaging := fun aliasName =>
        Spelling.offsetPaging_eq hcasing h.relation aliasName horder
      have hpaging := fun aliasName => congrArg (Except.map Pagination.offset) (hpaging aliasName)
      exact congrArg (· >>= fun pagination => pure (some pagination)) (hpaging _)

theorem ownTable_sameValue (condition : Option String) :
    Except.SameValue (task.ownTable condition) (task'.ownTable condition) := by
  rw [ownTable, ownTable, h.relation.needsOwnTable_eq, h.relation.table, h.aliases]
  split
  · exact Except.bind_sameValue (Relation.require_sameValue rfl) fun _ => .ok rfl
  · exact .ok rfl

/-- The select is attached in the same way. -/
theorem attachment_sameValue (attaching : Attaching) :
    Except.SameValue (task.attachment attaching) (task'.attachment attaching) := by
  have hbatch : Except.SameValue
      (task.relation.require .batchCondition attaching.batchCondition)
      (task'.relation.require .batchCondition attaching.batchCondition) :=
    Relation.require_sameValue rfl
  unfold attachment
  rw [← h.shape, ← h.joinCondition, ← h.secondaryCondition]
  cases task.shape with
  | root => exact .ok rfl
  | joinedToMany => exact Except.bind_sameValue h.joinCondition_sameValue fun _ => .ok rfl
  | joinedManyToMany =>
    refine Except.bind_sameValue (h.ownTable_sameValue _) fun _ => ?_
    exact Except.bind_sameValue h.joinCondition_sameValue fun _ => .ok rfl
  | batchedToMany => exact Except.bind_sameValue hbatch fun _ => .ok rfl
  | batchedManyToMany =>
    refine Except.bind_sameValue (h.ownTable_sameValue _) fun _ => ?_
    exact Except.bind_sameValue hbatch fun _ => .ok rfl

theorem renderTemporary_sameValue (hcasing : task.dialect.casing ≠ .identity) :
    Except.SameValue task.renderTemporary task'.renderTemporary := by
  unfold renderTemporary
  rw [← h.shape, ← h.dialect]
  split
  · refine h.batchInputs_alike.bind fun ⟨scope, key⟩ ⟨scope', key'⟩ ⟨hscope, hkey⟩ => ?_
    cases hscope
    dsimp only
    rw [Casing.apply_eq_of_sameLetters hcasing hkey.parent]
    exact Except.sameValue_of_eq rfl
  · exact .ok rfl

/-- The page is read from the same table. -/
theorem source_eq : task.source = task'.source := by
  unfold source
  rw [← h.aliases]
  rcases cases_rel h.junction with ⟨hnone, hnone'⟩ | ⟨_, _, hsome, hsome', hjunction⟩
  · simp only [hnone, hnone', h.relation.table]
  · cases task.aliases.junction <;> simp only [hsome, hsome', h.relation.table, hjunction.table]

theorem renderSelect_sameValue (attaching : Attaching) (predicates : List String)
    (pagination : Option Pagination) :
    Except.SameValue (task.renderSelect attaching predicates pagination)
      (task'.renderSelect attaching predicates pagination) := by
  cases pagination with
  | none => exact .ok rfl
  | some pagination =>
    refine Except.bind_sameValue (h.attachment_sameValue attaching) fun attachment => ?_
    rw [h.source_eq, h.dialect]
    exact Except.sameValue_of_eq rfl

theorem renderTrailingJoin_sameValue (attaching : Attaching) :
    Except.SameValue (task.renderTrailingJoin attaching)
      (task'.renderTrailingJoin attaching) := by
  unfold renderTrailingJoin
  rw [← h.shape, ← h.joinCondition, ← h.relation.table, ← h.aliases, ← h.dialect]
  split
  · exact Except.bind_sameValue (Relation.require_sameValue rfl) fun _ => .ok rfl
  · exact .ok rfl

theorem render_sameValue (hcasing : task.dialect.casing ≠ .identity) (attaching : Attaching)
    (predicates : List String) (pagination : Option Pagination) :
    Except.SameValue (task.render attaching predicates pagination)
      (task'.render attaching predicates pagination) := by
  refine Except.bind_sameValue (h.renderTemporary_sameValue hcasing) fun temporary => ?_
  refine Except.bind_sameValue (h.renderSelect_sameValue attaching predicates pagination)
    fun select => ?_
  exact Except.bind_sameValue (h.renderTrailingJoin_sameValue attaching) fun trailing => .ok rfl

/-- The second half of a planning gives the same draft. -/
theorem conclude_sameValue {s : Spelling} (hs : task.dialect = .ofSpelling s)
    (hcasing : task.dialect.casing ≠ .identity) {declaration declaration' : Option Declaration}
    (hdeclaration : Option.Rel (Declaration.EqualUpToCase task.relation.arguments) declaration
      declaration') (attaching : Attaching) (junctionFilter filter : Option String) :
    Except.SameValue (task.conclude declaration attaching junctionFilter filter)
      (task'.conclude declaration' attaching junctionFilter filter) := by
  unfold conclude
  rw [h.paginate_eq hs hcasing hdeclaration, h.shape]
  refine Except.bind_sameValue (Except.sameValue_of_eq rfl) fun pagination => ?_
  refine Except.bind_sameValue (Except.sameValue_of_eq rfl) fun predicates => ?_
  exact Except.bind_sameValue (h.render_sameValue hcasing attaching predicates pagination)
    fun fragments => .ok rfl

end Task.EqualUpToCase

/-! ## Plans -/

/-- Two plannings have made the same calls and have the same plan with the same fragments, or both
fail and leave the fragments as they were. -/
structure SamePlan (x y : Planning PlannedRelation × Fragments) : Prop where
  calls : x.1.calls = y.1.calls
  planned : x.1.outcome.toOption = y.1.outcome.toOption
  fragments : x.2 = y.2

namespace Planner

section

variable {planner : Planner} (hcasing : planner.dialect.casing ≠ .identity)
  {relation relation' : Relation} (hrelation : relation.EqualUpToCase relation')
  {request request' : Request} (hrequest : request.EqualUpToCase request')

include hcasing hrelation

theorem cased_aliasName_eq :
    planner.dialect.casing.apply relation.aliasName =
      planner.dialect.casing.apply relation'.aliasName :=
  Casing.apply_eq_of_sameLetters hcasing hrelation.aliasName

theorem targetCall_eq {junction junction' : Junction}
    (hjunction : junction.EqualUpToCase junction') :
    planner.targetCall relation junction = planner.targetCall relation' junction' := by
  rw [targetCall, targetCall, Casing.apply_eq_of_sameLetters hcasing hjunction.aliasName,
    cased_aliasName_eq hcasing hrelation]

theorem filterCall?_eq : planner.filterCall? relation = planner.filterCall? relation' := by
  rw [filterCall?, filterCall?, hrelation.filter, cased_aliasName_eq hcasing hrelation]

include hrequest

omit hcasing in
theorem shape_eq :
    relation.shape request.isRoot = relation'.shape request'.isRoot := by
  rw [hrequest.isRoot_eq, hrelation.shape_eq]

/-- The tasks of two spellings differ in the spelling only. -/
theorem task_equalUpToCase :
    (planner.task relation request).EqualUpToCase (planner.task relation' request') := by
  have hjunction : Option.Rel Junction.EqualUpToCase (planner.task relation request).junction
      (planner.task relation' request').junction := by
    simp only [task, shape_eq hrelation hrequest]
    rcases cases_rel hrelation.junction with ⟨hnone, hnone'⟩ | ⟨_, _, hsome, hsome', hjunction⟩
    · rw [hnone, hnone']
      exact .none
    · rw [hsome, hsome']
      cases (relation'.shape request'.isRoot).isManyToMany with
      | false => exact .none
      | true => exact .some hjunction
  have hfold : ∀ s t, SameLetters s t →
      planner.dialect.casing.apply s = planner.dialect.casing.apply t :=
    fun _ _ => Casing.apply_eq_of_sameLetters hcasing
  have haliases : (planner.task relation request).aliases =
      (planner.task relation' request').aliases :=
    (Aliases.mk.injEq ..).mpr ⟨hfold _ _ hrelation.aliasName,
      map_eq_map_of_rel hjunction fun _ _ h => hfold _ _ h.aliasName,
      map_eq_map_of_rel hrequest.parentAlias hfold⟩
  exact ⟨rfl, hrelation, hrequest.joinCondition, hrequest.secondaryCondition, hrequest.scope,
    shape_eq hrelation hrequest, hjunction, haliases⟩

/-! ### Calls and answers -/

theorem attachingCalls_eq :
    planner.attachingCalls relation request = planner.attachingCalls relation' request' := by
  have halias := cased_aliasName_eq hcasing hrelation
  have hparent : ∀ call : String → Invocation,
      request.parentAlias.map (fun parent => call (planner.dialect.casing.apply parent)) =
        request'.parentAlias.map fun parent => call (planner.dialect.casing.apply parent) :=
    fun call => map_eq_map_of_rel hrequest.parentAlias fun _ _ hparent =>
      congrArg call (Casing.apply_eq_of_sameLetters hcasing hparent)
  have hjoin := hparent fun parent =>
    .join parent (planner.dialect.casing.apply relation'.aliasName)
  unfold attachingCalls
  rw [shape_eq hrelation hrequest, hrelation.needsOwnTable_eq, hrequest.secondaryCondition,
    hrequest.joinCondition]
  rcases cases_rel hrelation.junction with
    ⟨hnone, hnone'⟩ | ⟨junction, junction', hsome, hsome', hjunction⟩
  · rw [hnone, hnone']
    cases relation'.shape request'.isRoot <;> simp only [halias, hjoin]
  · have hjunctionJoin := hparent fun parent =>
      .junctionJoin parent (planner.dialect.casing.apply junction'.aliasName)
    rw [hsome, hsome']
    cases relation'.shape request'.isRoot <;>
      simp only [halias, hjoin, hjunctionJoin, targetCall_eq hcasing hrelation hjunction,
        Casing.apply_eq_of_sameLetters hcasing hjunction.aliasName]

theorem junctionFilterCall?_eq :
    planner.junctionFilterCall? relation request =
      planner.junctionFilterCall? relation' request' := by
  unfold junctionFilterCall?
  rw [shape_eq hrelation hrequest]
  refine congrArg (ite _ · none) (bind_eq_bind_of_rel hrelation.junction fun _ _ hjunction => ?_)
  rw [hjunction.filter, Casing.apply_eq_of_sameLetters hcasing hjunction.aliasName]

theorem expectedCalls_eq :
    planner.expectedCalls relation request = planner.expectedCalls relation' request' := by
  rw [expectedCalls, expectedCalls, attachingCalls_eq hcasing hrelation hrequest,
    junctionFilterCall?_eq hcasing hrelation hrequest, filterCall?_eq hcasing hrelation]

theorem targetAnswer_eq :
    planner.targetAnswer relation request = planner.targetAnswer relation' request' := by
  refine bind_eq_bind_of_rel hrelation.junction fun junction junction' hjunction => ?_
  rw [targetCall_eq hcasing hrelation hjunction, attachingCalls_eq hcasing hrelation hrequest,
    hrelation.text?_eq]

omit hrelation in
theorem batchPredicate_eq (aliasName : String) {key? key'? : Option BatchKey}
    (hkey : Option.Rel BatchKey.EqualUpToCase key? key'?) :
    planner.batchPredicate request aliasName key? =
      planner.batchPredicate request' aliasName key'? := by
  rw [batchPredicate, batchPredicate, hrequest.scope]
  refine congrArg (request'.scope.bind ·) (funext fun scope => ?_)
  exact bind_eq_bind_of_rel hkey fun _ _ hkey => by rw [hkey.cased_eq hcasing]

theorem structuralPredicate_eq :
    planner.structuralPredicate relation request =
      planner.structuralPredicate relation' request' := by
  have halias := cased_aliasName_eq hcasing hrelation
  have hparent : ∀ call : String → Invocation,
      (request.parentAlias.bind fun parent =>
        relation'.text? (call (planner.dialect.casing.apply parent))) =
        request'.parentAlias.bind fun parent =>
          relation'.text? (call (planner.dialect.casing.apply parent)) :=
    fun call => bind_eq_bind_of_rel hrequest.parentAlias fun _ _ hparent => by
      rw [Casing.apply_eq_of_sameLetters hcasing hparent]
  have hjoin := hparent fun parent =>
    .join parent (planner.dialect.casing.apply relation'.aliasName)
  have hbatch := fun aliasName =>
    batchPredicate_eq hcasing hrequest aliasName hrelation.batchKey
  unfold structuralPredicate
  rw [shape_eq hrelation hrequest, hrelation.text?_eq]
  rcases cases_rel hrelation.junction with
    ⟨hnone, hnone'⟩ | ⟨junction, junction', hsome, hsome', hjunction⟩
  · rw [hnone, hnone']
    cases relation'.shape request'.isRoot <;> simp only [halias, hjoin, hbatch]
  · have hjunctionJoin := hparent fun parent =>
      .junctionJoin parent (planner.dialect.casing.apply junction'.aliasName)
    have hjunctionBatch := fun aliasName =>
      batchPredicate_eq hcasing hrequest aliasName hjunction.batchKey
    rw [hsome, hsome']
    cases relation'.shape request'.isRoot <;>
      simp only [halias, hjoin, hjunctionJoin, hbatch, hjunctionBatch,
        Casing.apply_eq_of_sameLetters hcasing hjunction.aliasName]

theorem attached_eq :
    planner.attached relation request = planner.attached relation' request' := by
  rw [attached, attached, shape_eq hrelation hrequest,
    structuralPredicate_eq hcasing hrelation hrequest, targetAnswer_eq hcasing hrelation hrequest]

theorem junctionFilterAnswer_eq :
    planner.junctionFilterAnswer relation request =
      planner.junctionFilterAnswer relation' request' := by
  rw [junctionFilterAnswer, junctionFilterAnswer, hrelation.text?_eq,
    junctionFilterCall?_eq hcasing hrelation hrequest]

omit hrequest in
theorem filterAnswer_eq : planner.filterAnswer relation = planner.filterAnswer relation' := by
  rw [filterAnswer, filterAnswer, hrelation.text?_eq, filterCall?_eq hcasing hrelation]

/-! ### Main result -/

omit hcasing hrelation hrequest in
/-- Plannings with the same draft have the same plan. -/
theorem samePlan_of_draft_alike {planner' : Planner} (fragments : Fragments)
    (h : Planning.Alike (fun _ _ => True) Eq (planner.draft relation request)
      (planner'.draft relation' request')) :
    SamePlan (planner.plan relation request fragments)
      (planner'.plan relation' request' fragments) := by
  obtain ⟨hcalls, houtcome⟩ := h
  rcases houtcome.cases_outcome with ⟨_, _, h, h', -⟩ | ⟨draft, _, h, h', rfl⟩
  · rw [plan_of_error _ _ _ h, plan_of_error _ _ _ h']
    exact ⟨hcalls, rfl, rfl⟩
  · rw [plan_of_ok _ _ _ h, plan_of_ok _ _ _ h']
    exact ⟨hcalls, rfl, rfl⟩

end

section

variable (name : DialectName) {casing : Casing} (policy : MissingPolicy)
  (hcasing : casing ≠ .identity)
  {relation relation' : Relation} (hrelation : relation.EqualUpToCase relation')
  {request request' : Request} (hrequest : request.EqualUpToCase request')

include hcasing hrelation hrequest

/-- The drafts of two spellings are the same, after the same calls. -/
theorem draft_alike_of_equalUpToCase :
    Planning.Alike (fun _ _ => True) Eq ((standard name casing policy).draft relation request)
      ((standard name casing policy).draft relation' request') := by
  have hcasing : (standard name casing policy).dialect.casing ≠ .identity := by
    rwa [standard_casing]
  have htask := task_equalUpToCase hcasing hrelation hrequest
  have hadmits : (standard name casing policy).Admits relation ↔
      (standard name casing policy).Admits relation' := by
    rw [Admits, Admits, isSome_eq_of_rel hrelation.declaration?]
  refine draft_alike hadmits trivial (htask.needs_alike hcasing)
    (expectedCalls_eq hcasing hrelation hrequest) hrelation.answer?_eq (fun _ _ => trivial)
    fun _ _ => ?_
  rw [attached_eq hcasing hrelation hrequest, junctionFilterAnswer_eq hcasing hrelation hrequest,
    filterAnswer_eq hcasing hrelation]
  exact htask.conclude_sameValue rfl hcasing hrelation.declaration? _ _ _

/-- **Identifiers are folded everywhere.**  With a built-in dialect that folds identifiers to upper
or to lower case, two spellings of a relation and its request that differ in letter case only make
the same calls, with the same aliases, and have the same plan and the same fragments; if planning
fails for one of them, it fails for the other. -/
theorem samePlan_of_equalUpToCase (fragments : Fragments) :
    SamePlan ((standard name casing policy).plan relation request fragments)
      ((standard name casing policy).plan relation' request' fragments) :=
  samePlan_of_draft_alike fragments
    (draft_alike_of_equalUpToCase name policy hcasing hrelation hrequest)

end

/-- The filtered tags of several posts, with identifiers in other letter cases. -/
def respelledTags : Relation :=
  { filteredTags with
    aliasName := "T"
    sortKey := some ⟨.ascending, ["Id"]⟩
    junction := some { postTags with aliasName := "Pt", batchKey := some ⟨"Post_ID", "ID"⟩ } }

theorem equalUpToCase_respelledTags : respelledTags.EqualUpToCase filteredTags where
  table := rfl
  aliasName := by decide
  arguments := rfl
  sortKey := .some ⟨rfl, by decide⟩
  orderBy := .none
  hasPageInfo := rfl
  filter := rfl
  join := rfl
  batchKey := .none
  junction := .some
    { table := rfl
      aliasName := by decide
      batchKey := .some ⟨by decide, by decide⟩
      joins := rfl
      filter := rfl
      sortKey := .none
      orderBy := .none }
  cursors := by
    rintro (h | h) <;> cases h

theorem equalUpToCase_ofPosts : ofPosts.EqualUpToCase ofPosts :=
  ⟨.none, rfl, rfl, rfl⟩

/-- In upper case they have the same plan, with the same calls. -/
theorem samePlan_respelledTags :
    Casing.upper ≠ .identity ∧ respelledTags.EqualUpToCase filteredTags ∧
      ofPosts.EqualUpToCase ofPosts ∧
      ((standard .db2 .upper .error).plan respelledTags ofPosts .empty).1.calls =
        [.filter "T"] ∧
      ((standard .db2 .upper .error).plan respelledTags ofPosts .empty).1.outcome.toOption =
        some filteredTagsDraft.planned ∧
      ((standard .db2 .upper .error).plan respelledTags ofPosts .empty).2.toList =
        filteredTagsDraft.fragments := by
  have hcasing : Casing.upper ≠ .identity := by decide
  obtain ⟨hcalls, houtcome, hfragments⟩ := samePlan_of_equalUpToCase .db2 .error hcasing
    equalUpToCase_respelledTags equalUpToCase_ofPosts .empty
  refine ⟨hcasing, equalUpToCase_respelledTags, equalUpToCase_ofPosts, ?_, ?_, ?_⟩
  · rw [hcalls]
    decide +kernel
  · rw [houtcome, plan_of_ok _ _ _ draft_filteredTags]
    rfl
  · rw [hfragments, plan_of_ok _ _ _ draft_filteredTags]
    rfl

/-- **Folding beforehand changes nothing.**  The folded spelling of a relation and its request has
the same plan as the spelling that was given. -/
theorem samePlan_cased (name : DialectName) {casing : Casing} (policy : MissingPolicy)
    (hcasing : casing ≠ .identity) (relation : Relation) (request : Request)
    (fragments : Fragments) :
    SamePlan
      ((standard name casing policy).plan (relation.cased casing) (request.cased casing) fragments)
      ((standard name casing policy).plan relation request fragments) :=
  samePlan_of_draft_alike fragments <| draft_alike_of_equalUpToCase name policy hcasing
    (relation.equalUpToCase_cased casing) (request.equalUpToCase_cased casing)

end Planner

end RelationPaging
