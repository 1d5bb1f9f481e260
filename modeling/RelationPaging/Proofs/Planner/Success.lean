import RelationPaging.Proofs.Batch
import RelationPaging.Proofs.Planner.Course
import RelationPaging.Proofs.Planner.Select

/-!
# When planning succeeds

What planning needs is asked for at many places: by the shape, in front of the callbacks, when the
select is attached and when the target is joined in behind it.  `Planner.Requirements` collects it
in one table, in terms of the relation and the request, and `Planner.succeeds_iff` says that with a
built-in dialect nothing else is needed but that the callbacks answer.
-/

namespace RelationPaging

theorem Relation.exists_require_iff {α : Type} {relation : Relation} {what : MissingInput}
    {input : Option α} :
    (∃ value, relation.require what input = .ok value) ↔ input.isSome = true := by
  cases input <;> simp [require]

/-- A dialect that does everything in the common way writes the condition of every batch. -/
theorem Dialect.exists_batchCondition_ofSpelling (s : Spelling) (aliasName : String)
    (key : BatchKey) (scope : BatchScope) :
    ∃ condition, (ofSpelling s).batchCondition aliasName key scope = .ok condition := by
  unfold batchCondition
  cases scope.sample? <;> exact ⟨_, rfl⟩

namespace Planner

/-! ## The requirements -/

section

variable (planner : Planner) (relation : Relation) (request : Request)

/-- The join from the junction to the relation answers some text. -/
def JoinsTarget : Prop :=
  ∃ junction text, relation.junction = some junction ∧
    relation.answer? (planner.targetCall relation junction) = some (.ok (some text))

/-- The interpreter of the declaration that pages a relation accepts its arguments. -/
def AcceptsArguments : Prop :=
  match relation.declaration? with
  | none => True
  | some (.keyset key owner) => ∃ paging, planner.dialect.interpretKeyset
      (.ofSortKey relation ((planner.task relation request).qualifier owner) key) = .ok paging
  | some (.offset order owner) => ∃ paging, planner.dialect.interpretOffset
      (.ofOrderBy relation ((planner.task relation request).qualifier owner) order) = .ok paging

/-- What planning a relation needs, besides callbacks that answer. -/
structure Requirements : Prop where
  /-- There is a declaration, or there need not be one. -/
  declared : relation.declaration?.isSome = true ∨ planner.policy = .skip
  parentAlias : (relation.shape request.isRoot).isJoined → request.parentAlias.isSome = true
  joinCondition : (relation.shape request.isRoot).isJoined → request.joinCondition.isSome = true
  join : relation.shape request.isRoot = .joinedToMany → relation.join.isSome = true
  junctionJoins : relation.shape request.isRoot = .joinedManyToMany →
    (relation.junction.bind (·.joins)).isSome = true
  /-- The scope of a batch is given, and its values are finite and of one kind. -/
  scope : (relation.shape request.isRoot).isBatched → ∃ scope, request.scope = some scope ∧
    (∀ value ∈ scope.values, value.isFinite = true) ∧
      ∀ value ∈ scope.values, ∀ other ∈ scope.values, value.kind = other.kind
  /-- The target of a batch between many and many is joined in. -/
  target : relation.shape request.isRoot = .batchedManyToMany →
    request.joinCondition.isSome = true ∨ planner.JoinsTarget relation
  /-- So is the relation's own table behind a junction, if the select needs it. -/
  ownTable : relation.shape request.isRoot = .joinedManyToMany →
    relation.declaration?.isSome = true → relation.needsOwnTable = true →
      request.secondaryCondition.isSome = true ∨ planner.JoinsTarget relation
  arguments : planner.AcceptsArguments relation request

end

variable {planner : Planner} {relation : Relation} {request : Request} {name : DialectName}
  {casing : Casing} {policy : MissingPolicy}

/-! ## The inputs -/

/-- A built-in dialect writes the condition of every batch whose scope is valid. -/
theorem exists_batchCondition_iff
    (hbatched : (relation.shape request.isRoot).isBatched = true) (aliasName : String) :
    (∃ condition, ((standard name casing policy).task relation request).batchCondition aliasName =
      .ok condition) ↔
      ∃ scope, request.scope = some scope ∧
        (∀ value ∈ scope.values, value.isFinite = true) ∧
          ∀ value ∈ scope.values, ∀ other ∈ scope.values, value.kind = other.kind := by
  simp only [← BatchScope.exists_validate_eq_ok_iff, Task.batchCondition_eq_ok_iff]
  constructor
  · rintro ⟨_, scope, key, kind, hscope, -, hkind, -⟩
    exact ⟨scope, hscope, kind, hkind⟩
  · rintro ⟨scope, hscope, kind, hkind⟩
    obtain ⟨key, hkey⟩ := (standard name casing policy).exists_batchKey? hbatched
    obtain ⟨condition, hcondition⟩ := Dialect.exists_batchCondition_ofSpelling
      (Dialect.spellingOf name casing) aliasName (key.cased _) scope
    exact ⟨condition, scope, key, kind, hscope, hkey, hkind, hcondition⟩

/-- With a built-in dialect, the requirements contain the inputs that the shape needs. -/
theorem Requirements.hasInputs (h : (standard name casing policy).Requirements relation request) :
    (standard name casing policy).HasInputs relation request where
  parentAlias := h.parentAlias
  joinCondition := h.joinCondition
  join := h.join
  batchCondition hbatched := (exists_batchCondition_iff hbatched _).2 (h.scope hbatched)
  junctionJoins := by
    rintro (hshape | ⟨hshape, hnone⟩)
    · exact h.junctionJoins hshape
    · rcases h.target hshape with hgiven | ⟨junction, text, hjunction, hanswer⟩
      · rw [hnone] at hgiven
        cases hgiven
      · obtain ⟨joins, hjoins, -⟩ := Option.map_eq_some_iff.1 hanswer
        rw [hjoins]
        rfl

/-! ## The second half -/

theorem exists_paginate_iff :
    (∃ pagination, (planner.task relation request).paginate relation.declaration? =
      .ok pagination) ↔ planner.AcceptsArguments relation request := by
  unfold AcceptsArguments
  cases relation.declaration? with
  | none => exact ⟨fun _ => trivial, fun _ => ⟨none, rfl⟩⟩
  | some declaration =>
    have hpaginate : (∃ pagination, (planner.task relation request).paginate (some declaration) =
        .ok pagination) ↔ ∃ decision, planner.dialect.paginate relation declaration
          (planner.task relation request).aliases.relation
          (planner.task relation request).aliases.junction = .ok decision :=
      Except.exists_bind_eq_ok_iff_of_forall fun _ => ⟨_, rfl⟩
    rw [hpaginate]
    cases declaration with
    | keyset key owner => exact Except.exists_map_eq_ok_iff
    | offset order owner => exact Except.exists_map_eq_ok_iff

/-- A condition for the target that is given or else asked for is there if it is given or the
callback answers some text. -/
theorem isSome_orElse_targetAnswer_iff {given : Option String}
    (hasked : given = none → ∀ junction, relation.junction = some junction →
      planner.targetCall relation junction ∈ planner.attachingCalls relation request) :
    (given <|> planner.targetAnswer relation request).isSome = true ↔
      given.isSome = true ∨ planner.JoinsTarget relation := by
  cases given with
  | some condition => simp
  | none =>
    have hmem := hasked rfl
    have hanswer : planner.targetAnswer relation request =
        relation.junction.bind fun junction =>
          relation.text? (planner.targetCall relation junction) := by
      unfold targetAnswer
      cases hjunction : relation.junction with
      | none => rfl
      | some junction => simp [hmem junction hjunction]
    simp only [JoinsTarget, hanswer, Option.isSome_iff_exists, ← Relation.text?_eq_some_iff]
    cases relation.junction <;> simp

/-- The relation's own table can be joined in if it is not needed or there is a condition. -/
theorem exists_ownTable_iff {task : Task} {condition : Option String} :
    (∃ extra, task.ownTable condition = .ok extra) ↔
      (task.relation.needsOwnTable = true → condition.isSome = true) := by
  unfold Task.ownTable
  cases task.relation.needsOwnTable with
  | false => exact ⟨fun _ h => (by cases h), fun _ => ⟨none, rfl⟩⟩
  | true =>
    simp only [if_true, true_imp_iff]
    exact (Except.exists_bind_eq_ok_iff_of_forall fun _ => ⟨_, rfl⟩).trans
      Relation.exists_require_iff

/-- Once the inputs are there, the select is attached when the relation's own table can be joined
in behind the junction. -/
theorem exists_attachment_iff (hinputs : planner.HasInputs relation request) :
    (∃ attachment, (planner.task relation request).attachment
      (planner.attached relation request) = .ok attachment) ↔
      (relation.shape request.isRoot = .joinedManyToMany → relation.needsOwnTable = true →
        (request.secondaryCondition <|> planner.targetAnswer relation request).isSome = true) ∧
      (relation.shape request.isRoot = .batchedManyToMany → relation.needsOwnTable = true →
        (request.joinCondition <|> planner.targetAnswer relation request).isSome = true) := by
  have hjoined : (relation.shape request.isRoot).isJoined = true →
      ∃ condition, (planner.task relation request).joinCondition = .ok condition := fun h =>
    Relation.exists_require_iff.2 (hinputs.joinCondition h)
  have hbatched : (relation.shape request.isRoot).isBatched = true → ∃ condition,
      relation.require .batchCondition (planner.attached relation request).batchCondition =
        .ok condition := fun h =>
    Relation.exists_require_iff.2 (planner.isSome_batchCondition_attached hinputs h)
  unfold Task.attachment
  cases hshape : relation.shape request.isRoot <;> rw [task_shape, hshape]
  case root => simp [pure, Except.pure]
  case joinedToMany =>
    simp only [reduceCtorEq, false_imp_iff, and_self, iff_true]
    obtain ⟨condition, hcondition⟩ := hjoined (by rw [hshape]; rfl)
    exact Except.exists_bind_eq_ok_iff.2 ⟨condition, hcondition, _, rfl⟩
  case batchedToMany =>
    simp only [reduceCtorEq, false_imp_iff, and_self, iff_true]
    obtain ⟨condition, hcondition⟩ := hbatched (by rw [hshape]; rfl)
    exact Except.exists_bind_eq_ok_iff.2 ⟨condition, hcondition, _, rfl⟩
  case joinedManyToMany =>
    simp only [reduceCtorEq, false_imp_iff, and_true, true_imp_iff]
    obtain ⟨condition, hcondition⟩ := hjoined (by rw [hshape]; rfl)
    refine (Except.exists_bind_eq_ok_iff_of_forall fun _ => ?_).trans exists_ownTable_iff
    exact Except.exists_bind_eq_ok_iff.2 ⟨condition, hcondition, _, rfl⟩
  case batchedManyToMany =>
    simp only [reduceCtorEq, false_imp_iff, true_and, true_imp_iff]
    obtain ⟨condition, hcondition⟩ := hbatched (by rw [hshape]; rfl)
    refine (Except.exists_bind_eq_ok_iff_of_forall fun _ => ?_).trans exists_ownTable_iff
    exact Except.exists_bind_eq_ok_iff.2 ⟨condition, hcondition, _, rfl⟩

/-- A built-in dialect renders every select that can be attached. -/
theorem exists_renderSelect_iff {attaching : Attaching} {pagination : Option Pagination}
    (predicates : List String) :
    (∃ fragments, ((standard name casing policy).task relation request).renderSelect attaching
      predicates pagination = .ok fragments) ↔
      (pagination.isSome = true → ∃ attachment,
        ((standard name casing policy).task relation request).attachment attaching =
          .ok attachment) := by
  cases pagination with
  | none => exact ⟨fun _ h => (by cases h), fun _ => ⟨[], rfl⟩⟩
  | some pagination =>
    simp only [Option.isSome_some, true_imp_iff]
    refine Except.exists_bind_eq_ok_iff_of_forall fun _ => ?_
    cases pagination <;> exact ⟨_, rfl⟩

/-- The target of a batch is joined in when there is a condition for it. -/
theorem exists_renderTrailingJoin_iff :
    (∃ fragments, (planner.task relation request).renderTrailingJoin
      (planner.attached relation request) = .ok fragments) ↔
      (relation.shape request.isRoot = .batchedManyToMany →
        (request.joinCondition <|> planner.targetAnswer relation request).isSome = true) := by
  unfold Task.renderTrailingJoin
  rw [task_shape]
  by_cases hshape : relation.shape request.isRoot = .batchedManyToMany
  · simp only [hshape, if_true, true_imp_iff]
    exact (Except.exists_bind_eq_ok_iff_of_forall fun _ => ⟨_, rfl⟩).trans
      Relation.exists_require_iff
  · rw [if_neg hshape]
    exact ⟨fun _ h => absurd h hshape, fun _ => ⟨[], rfl⟩⟩

/-- The temporary table of a batch is rendered from inputs that have been checked before. -/
theorem exists_renderTemporary
    (hinputs : (standard name casing policy).HasInputs relation request) :
    ∃ fragments, ((standard name casing policy).task relation request).renderTemporary =
      .ok fragments := by
  cases hbatched : (relation.shape request.isRoot).isBatched with
  | false =>
    unfold Task.renderTemporary
    rw [task_shape, hbatched]
    exact ⟨[], rfl⟩
  | true =>
    obtain ⟨scope, key, _, -, -, hbatch, -⟩ := hinputs.exists_batchInputs hbatched
    rw [Task.renderTemporary_of_batchInputs hbatched hbatch]
    exact ⟨_, rfl⟩

theorem exists_render_iff (hinputs : (standard name casing policy).HasInputs relation request)
    {predicates : List String} {pagination : Option Pagination} :
    (∃ fragments, ((standard name casing policy).task relation request).render
      ((standard name casing policy).attached relation request) predicates pagination =
        .ok fragments) ↔
      (pagination.isSome = true →
        (relation.shape request.isRoot = .joinedManyToMany → relation.needsOwnTable = true →
          (request.secondaryCondition <|>
            (standard name casing policy).targetAnswer relation request).isSome = true) ∧
        (relation.shape request.isRoot = .batchedManyToMany → relation.needsOwnTable = true →
          (request.joinCondition <|>
            (standard name casing policy).targetAnswer relation request).isSome = true)) ∧
      (relation.shape request.isRoot = .batchedManyToMany →
        (request.joinCondition <|>
          (standard name casing policy).targetAnswer relation request).isSome = true) := by
  obtain ⟨temporary, htemporary⟩ := exists_renderTemporary hinputs
  rw [← exists_attachment_iff hinputs, ← exists_renderTrailingJoin_iff]
  constructor
  · rintro ⟨_, h⟩
    obtain ⟨_, -, h⟩ := Except.bind_eq_ok_iff.1 h
    obtain ⟨select, hselect, h⟩ := Except.bind_eq_ok_iff.1 h
    obtain ⟨trailing, htrailing, -⟩ := Except.bind_eq_ok_iff.1 h
    exact ⟨(exists_renderSelect_iff predicates).1 ⟨select, hselect⟩, trailing, htrailing⟩
  · rintro ⟨hattached, trailing, htrailing⟩
    obtain ⟨select, hselect⟩ := (exists_renderSelect_iff predicates).2 hattached
    refine ⟨temporary ++ select ++ trailing,
      Except.bind_eq_ok_iff.2 ⟨temporary, htemporary, ?_⟩⟩
    refine Except.bind_eq_ok_iff.2 ⟨select, hselect, ?_⟩
    exact Except.bind_eq_ok_iff.2 ⟨trailing, htrailing, rfl⟩

/-- With a built-in dialect and the inputs there, the second half succeeds when the arguments are
accepted and the conditions for the joins behind the junction are there. -/
theorem exists_conclude_iff
    (hinputs : (standard name casing policy).HasInputs relation request)
    {junctionFilter filter : Option String} :
    (∃ draft, ((standard name casing policy).task relation request).conclude relation.declaration?
      ((standard name casing policy).attached relation request) junctionFilter filter =
        .ok draft) ↔
      (standard name casing policy).AcceptsArguments relation request ∧
      (relation.shape request.isRoot = .joinedManyToMany → relation.declaration?.isSome = true →
        relation.needsOwnTable = true →
          (request.secondaryCondition <|>
            (standard name casing policy).targetAnswer relation request).isSome = true) ∧
      (relation.shape request.isRoot = .batchedManyToMany →
        (request.joinCondition <|>
          (standard name casing policy).targetAnswer relation request).isSome = true) := by
  rw [← exists_paginate_iff]
  constructor
  · rintro ⟨_, h⟩
    obtain ⟨pagination, predicates, fragments, hpaginate, -, hrender, -⟩ :=
      Task.conclude_eq_ok_iff.1 h
    obtain ⟨hselect, htrailing⟩ := (exists_render_iff hinputs).1 ⟨fragments, hrender⟩
    rw [Task.isSome_of_paginate hpaginate] at hselect
    exact ⟨⟨pagination, hpaginate⟩, fun hshape hdeclared => (hselect hdeclared).1 hshape, htrailing⟩
  · rintro ⟨⟨pagination, hpaginate⟩, hown, htrailing⟩
    obtain ⟨fragments, hrender⟩ := (exists_render_iff hinputs).2 ⟨fun hpaged =>
      ⟨fun hshape => hown hshape ((Task.isSome_of_paginate hpaginate).symm.trans hpaged),
        fun hshape _ => htrailing hshape⟩, htrailing⟩
    exact ⟨_, Task.conclude_eq_ok_iff.2 ⟨pagination, _, fragments, hpaginate, rfl, hrender, rfl⟩⟩

/-! ## Main result -/

/-- A batched relation between many and many asks for the join to the target if it is not given a
condition for it. -/
theorem targetCall_mem_of_batched (hshape : relation.shape request.isRoot = .batchedManyToMany)
    (hnone : request.joinCondition = none) {junction : Junction}
    (hjunction : relation.junction = some junction) :
    planner.targetCall relation junction ∈ planner.attachingCalls relation request := by
  simp [attachingCalls, hshape, hnone, hjunction]

/-- A joined one asks for it if there is also a use for it. -/
theorem targetCall_mem_of_joined (hshape : relation.shape request.isRoot = .joinedManyToMany)
    (hneeds : relation.needsOwnTable = true) (hnone : request.secondaryCondition = none)
    {junction : Junction} (hjunction : relation.junction = some junction) :
    planner.targetCall relation junction ∈ planner.attachingCalls relation request := by
  simp [attachingCalls, hshape, hneeds, hnone, hjunction]

/-- A planning that succeeds had all that is required. -/
theorem requirements_of_ok {draft : Draft}
    (h : ((standard name casing policy).draft relation request).outcome = .ok draft) :
    (standard name casing policy).Requirements relation request := by
  obtain ⟨hadmits, hinputs, -, -, hconclude⟩ :=
    ((standard name casing policy).course relation request).of_ok h
  obtain ⟨haccepts, hownTable, htarget⟩ := (exists_conclude_iff hinputs).1 ⟨draft, hconclude⟩
  constructor
  case declared => exact hadmits
  case parentAlias => exact hinputs.parentAlias
  case joinCondition => exact hinputs.joinCondition
  case join => exact hinputs.join
  case junctionJoins => exact fun hshape => hinputs.junctionJoins (.inl hshape)
  case scope =>
    exact fun hbatched => (exists_batchCondition_iff hbatched _).1 (hinputs.batchCondition hbatched)
  case target =>
    exact fun hshape => (isSome_orElse_targetAnswer_iff fun hnone _ hjunction =>
      targetCall_mem_of_batched hshape hnone hjunction).1 (htarget hshape)
  case ownTable =>
    exact fun hshape hdeclared hneeds => (isSome_orElse_targetAnswer_iff fun hnone _ hjunction =>
      targetCall_mem_of_joined hshape hneeds hnone hjunction).1
        (hownTable hshape hdeclared hneeds)
  case arguments => exact haccepts

/-- Planning succeeds when all that is required is there and all callbacks answer. -/
theorem Requirements.exists_draft (h : (standard name casing policy).Requirements relation request)
    (hresolve : ∀ call ∈ (standard name casing policy).expectedCalls relation request,
      relation.Resolves call) :
    ∃ draft, ((standard name casing policy).draft relation request).outcome = .ok draft := by
  have hasked := congrArg Planning.outcome (asked_eq_of_resolves h.hasInputs hresolve)
  rw [draft_eq_conclude h.declared hasked]
  refine (exists_conclude_iff h.hasInputs).2
    ⟨h.arguments, fun hshape hdeclared hneeds => ?_, fun hshape => ?_⟩
  · exact (isSome_orElse_targetAnswer_iff fun hnone _ hjunction =>
      targetCall_mem_of_joined hshape hneeds hnone hjunction).2
        (h.ownTable hshape hdeclared hneeds)
  · exact (isSome_orElse_targetAnswer_iff fun hnone _ hjunction =>
      targetCall_mem_of_batched hshape hnone hjunction).2 (h.target hshape)

/-- If all that was asked has been answered, all that is expected to be asked is answered. -/
theorem Course.resolves_of_forall_calls {drafted : Planning Draft}
    (h : planner.Course relation request drafted) (hadmits : planner.Admits relation)
    (hinputs : planner.HasInputs relation request)
    (hcalls : ∀ call ∈ drafted.calls, relation.Resolves call) {call : Invocation}
    (hmem : call ∈ planner.expectedCalls relation request) : relation.Resolves call := by
  cases h with
  | undeclared hrefused => exact absurd hadmits hrefused
  | unmet _ hneeds => cases (planner.needs_eq_ok_iff.2 hinputs).symm.trans hneeds
  | @interrupted _ _ failing _ _ _ _ _ hfails =>
    obtain ⟨text, hanswer⟩ := hcalls failing (by simp)
    cases hanswer.symm.trans hfails
  | concluded _ _ hresolve => exact hresolve call hmem

/-- **When planning succeeds.**  With a built-in dialect, planning succeeds if and only if the
requirements are met and every callback that is asked answers without an error.  It comes to the
same whether the callbacks are those of the log, which may be cut short, or all of the expected
ones. -/
theorem succeeds_iff (name : DialectName) (casing : Casing) (policy : MissingPolicy)
    (relation : Relation) (request : Request) (fragments : Fragments) :
    ((∃ planned, ((standard name casing policy).plan relation request fragments).1.outcome =
        .ok planned) ↔
      (standard name casing policy).Requirements relation request ∧
        ∀ call ∈ ((standard name casing policy).plan relation request fragments).1.calls,
          relation.Resolves call) ∧
    ((∃ planned, ((standard name casing policy).plan relation request fragments).1.outcome =
        .ok planned) ↔
      (standard name casing policy).Requirements relation request ∧
        ∀ call ∈ (standard name casing policy).expectedCalls relation request,
          relation.Resolves call) := by
  have hcourse := (standard name casing policy).course relation request
  rw [plan_fst]
  simp only [Except.exists_map_eq_ok_iff]
  constructor
  · constructor
    · rintro ⟨draft, hdraft⟩
      obtain ⟨-, -, hresolve, hcalls, -⟩ := hcourse.of_ok hdraft
      exact ⟨requirements_of_ok hdraft, hcalls ▸ hresolve⟩
    · rintro ⟨hrequirements, hcalls⟩
      exact hrequirements.exists_draft fun call hmem => hcourse.resolves_of_forall_calls
        hrequirements.declared hrequirements.hasInputs hcalls hmem
  · constructor
    · rintro ⟨draft, hdraft⟩
      obtain ⟨-, -, hresolve, -⟩ := hcourse.of_ok hdraft
      exact ⟨requirements_of_ok hdraft, hresolve⟩
    · rintro ⟨hrequirements, hresolve⟩
      exact hrequirements.exists_draft hresolve

end Planner

end RelationPaging
