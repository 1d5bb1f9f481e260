import RelationPaging.Proofs.Planner.Calls
import RelationPaging.Proofs.Planner.Stages
import Mathlib.Tactic.MkIffOfInductiveProp

/-!
# Planning in three steps

Planning is written shape by shape, with checks of the input between the calls of callbacks.  Seen
as a whole it is always the same: the inputs that the shape needs are checked without asking
anyone, the expected calls are made in their order, and what they answered is put together.
`Planner.asked_eq` says so of everything up to the answer of the last callback, and
`Planner.needs_eq_ok_iff` says when the inputs are there.
-/

namespace RelationPaging

/-! ## The inputs that a shape needs -/

namespace Task

variable {task : Task}

/-- The alias that the batch key of a relation belongs to. -/
def keyedAlias (task : Task) : String :=
  match task.shape with
  | .batchedManyToMany => task.junctionAlias
  | _ => task.aliases.relation

/-- The batch key that counts for the shape of a relation. -/
def batchKey? (task : Task) : Option BatchKey :=
  match task.shape with
  | .batchedManyToMany => task.junction.bind (·.batchKey)
  | _ => task.relation.batchKey

/-- Checks the inputs that the shape of a relation needs before any callback is asked. -/
def needs (task : Task) : Except PlanError Unit :=
  match task.shape with
  | .root => return ()
  | .joinedToMany => do
    let _ ← task.parentAlias
    let _ ← task.joinCondition
    let _ ← task.relation.require .join task.relation.join
    return ()
  | .joinedManyToMany => do
    let _ ← task.parentAlias
    let _ ← task.joinCondition
    let _ ← task.junctionJoins
    return ()
  | .batchedToMany => do
    let _ ← task.batchCondition task.keyedAlias
    return ()
  | .batchedManyToMany => do
    let _ ← task.batchCondition task.keyedAlias
    if task.request.joinCondition.isNone then
      let _ ← task.junctionJoins
    return ()

theorem junctionAlias_eq {aliasName : String} (h : task.aliases.junction = some aliasName) :
    task.junctionAlias = aliasName := by
  simp [junctionAlias, h]

theorem batchInputs_eq_ok_iff {scope : BatchScope} {key : BatchKey} :
    task.batchInputs = .ok (scope, key) ↔
      task.request.scope = some scope ∧ task.batchKey? = some key := by
  simp only [batchInputs, Except.bind_eq_ok_iff, Relation.require_eq_ok_iff]
  constructor
  · rintro ⟨_, hscope, _, hkey, h⟩
    cases h
    exact ⟨hscope, hkey⟩
  · rintro ⟨hscope, hkey⟩
    exact ⟨scope, hscope, key, hkey, rfl⟩

/-- The temporary table is that of the scope, with the column of the key. -/
theorem renderTemporary_of_batchInputs (hbatched : task.shape.isBatched = true)
    {scope : BatchScope} {key : BatchKey} (h : task.batchInputs = .ok (scope, key)) :
    task.renderTemporary =
      (task.dialect.temporary scope (task.dialect.casing.apply key.parent)).map ([·]) := by
  simp only [renderTemporary, hbatched, if_true, h]
  rfl

theorem batchCondition_eq_ok_iff {aliasName condition : String} :
    task.batchCondition aliasName = .ok condition ↔
      ∃ scope key kind, task.request.scope = some scope ∧ task.batchKey? = some key ∧
        scope.validate = .ok kind ∧
        task.dialect.batchCondition aliasName (key.cased task.dialect.casing) scope =
          .ok condition := by
  simp only [batchCondition, Except.bind_eq_ok_iff, Except.mapError_eq_ok_iff, Prod.exists,
    batchInputs_eq_ok_iff]
  constructor
  · rintro ⟨scope, key, ⟨hscope, hkey⟩, kind, hkind, h⟩
    exact ⟨scope, key, kind, hscope, hkey, hkind, h⟩
  · rintro ⟨scope, key, kind, hscope, hkey, hkind, h⟩
    exact ⟨scope, key, ⟨hscope, hkey⟩, kind, hkind, h⟩

/-! ### Asking one callback -/

variable {α : Type} (f : Option String → Planning α)

theorem askJoin_bind {join : JoinOn} (h : task.relation.join = some join) (parent : String) :
    task.askJoin join parent >>= f =
      .askAll task.relation [.join parent task.aliases.relation] >>= fun _ =>
        f (task.relation.text? (.join parent task.aliases.relation)) :=
  Planning.ask_bind (by simp [Relation.answer?, h]) f

theorem askJunctionJoin_bind {joins : JunctionJoins}
    (h : task.relation.junction.bind (·.joins) = some joins) (parent junction : String) :
    task.askJunctionJoin joins parent junction >>= f =
      .askAll task.relation [.junctionJoin parent junction] >>= fun _ =>
        f (task.relation.text? (.junctionJoin parent junction)) :=
  Planning.ask_bind (by simp [Relation.answer?, h]) f

theorem askTargetJoin_bind {joins : JunctionJoins}
    (h : task.relation.junction.bind (·.joins) = some joins) (junction : String) :
    task.askTargetJoin joins junction >>= f =
      .askAll task.relation [.targetJoin junction task.aliases.relation] >>= fun _ =>
        f (task.relation.text? (.targetJoin junction task.aliases.relation)) :=
  Planning.ask_bind (by simp [Relation.answer?, h]) f

/-! ### The first half -/

/-- The first half of a planning: everything up to the answer of the last callback. -/
def asked (task : Task) : Planning (Attaching × Option String × Option String) := do
  let attaching ← task.attach
  let junctionFilter ← task.askJunctionFilter
  let filter ← task.askFilter
  return (attaching, junctionFilter, filter)

theorem run_eq_asked (declaration : Option Declaration) :
    task.run declaration = task.asked >>= fun answers =>
      .ofExcept (task.conclude declaration answers.1 answers.2.1 answers.2.2) := by
  simp only [run, asked, bind_assoc, pure_bind]

end Task

/-! ## Attaching

One lemma for each shape.  The checks of the inputs come first on both sides, in the same order, so
that they are taken away one by one (`Planning.ofExcept_bind_congr`).  What is left is to see which
calls are made and what they contribute. -/

namespace Planner

section

variable (planner : Planner) {relation : Relation} {request : Request}

/-- The structural predicate of a batched relation is the condition of its batch. -/
theorem structuralPredicate_of_isBatched
    (hbatched : (relation.shape request.isRoot).isBatched = true) {condition : String}
    (h : (planner.task relation request).batchCondition
      (planner.task relation request).keyedAlias = .ok condition) :
    planner.structuralPredicate relation request = some condition := by
  obtain ⟨scope, key, _, hscope, hkey, -, hcondition⟩ := Task.batchCondition_eq_ok_iff.1 h
  rw [task_request] at hscope
  rcases Shape.isBatched_iff.1 hbatched with hshape | hshape
  · simp only [Task.batchKey?, Task.keyedAlias, task_shape, hshape, task_relation]
      at hkey hcondition
    have hcondition : planner.dialect.batchCondition
        (planner.dialect.casing.apply relation.aliasName) (key.cased planner.dialect.casing)
        scope = .ok condition := hcondition
    simp [structuralPredicate, hshape, batchPredicate, hscope, hkey, hcondition, Except.toOption]
  · have hmany : (relation.shape request.isRoot).isManyToMany = true := by rw [hshape]; rfl
    obtain ⟨junction, hjunction, hview, halias⟩ := planner.exists_junction hmany
    simp only [Task.batchKey?, Task.keyedAlias, task_shape, hshape, hview,
      Task.junctionAlias_eq halias, Option.bind_some] at hkey hcondition
    have hcondition : planner.dialect.batchCondition
        (planner.dialect.casing.apply junction.aliasName) (key.cased planner.dialect.casing)
        scope = .ok condition := hcondition
    simp [structuralPredicate, hshape, hjunction, batchPredicate, hscope, hkey, hcondition,
      Except.toOption]

/-- Attaching a relation in three steps: the inputs are checked, the calls are made, and what they
answered is put together. -/
def attachInSteps (relation : Relation) (request : Request) : Planning Attaching := do
  let _ ← .ofExcept (planner.task relation request).needs
  let _ ← .askAll relation (planner.attachingCalls relation request)
  return planner.attached relation request

theorem attach_eq_of_joinedToMany (hshape : relation.shape request.isRoot = .joinedToMany) :
    (planner.task relation request).attach = planner.attachInSteps relation request := by
  have hs : (planner.task relation request).shape = .joinedToMany := hshape
  simp only [Task.attach, attachInSteps, Task.needs, hs, Task.attachJoined, Planning.ofExcept_bind,
    Planning.ofExcept_pure, bind_assoc, pure_bind]
  refine Planning.ofExcept_bind_congr fun parent hparent => ?_
  refine Planning.ofExcept_bind_congr fun condition hcondition => ?_
  refine Planning.ofExcept_bind_congr fun join hjoin => ?_
  obtain ⟨parentName, hparentName, rfl⟩ :=
    Option.map_eq_some_iff.1 (Relation.require_eq_ok_iff.1 hparent)
  have hcalls : planner.attachingCalls relation request =
      [.join (planner.dialect.casing.apply parentName)
        (planner.dialect.casing.apply relation.aliasName)] := by
    simp [attachingCalls, hshape, hparentName]
  have hattached : planner.attached relation request =
      { predicate := relation.text? (.join (planner.dialect.casing.apply parentName)
          (planner.dialect.casing.apply relation.aliasName)) } := by
    simp [attached, structuralPredicate, targetAnswer, hcalls, hshape, hparentName, targetCall,
      Shape.isBatched]
  rw [hcalls, hattached, Task.askJoin_bind _ (Relation.require_eq_ok_iff.1 hjoin)]
  rfl

theorem attach_eq_of_joinedManyToMany
    (hshape : relation.shape request.isRoot = .joinedManyToMany) :
    (planner.task relation request).attach = planner.attachInSteps relation request := by
  have hs : (planner.task relation request).shape = .joinedManyToMany := hshape
  have hmany : (relation.shape request.isRoot).isManyToMany = true := by rw [hshape]; rfl
  obtain ⟨junction, hjunction, hview, halias⟩ := planner.exists_junction hmany
  simp only [Task.attach, attachInSteps, Task.needs, hs, Task.attachJunction,
    Planning.ofExcept_bind, Planning.ofExcept_pure, bind_assoc, pure_bind]
  refine Planning.ofExcept_bind_congr fun parent hparent => ?_
  refine Planning.ofExcept_bind_congr fun condition hcondition => ?_
  refine Planning.ofExcept_bind_congr fun joins hjoins => ?_
  obtain ⟨parentName, hparentName, rfl⟩ :=
    Option.map_eq_some_iff.1 (Relation.require_eq_ok_iff.1 hparent)
  have hjoins := Relation.require_eq_ok_iff.1 hjoins
  rw [hview, ← hjunction] at hjoins
  rw [Task.askJunctionJoin_bind _ hjoins, Task.junctionAlias_eq halias]
  cases hneeds : relation.needsOwnTable && request.secondaryCondition.isNone with
  | true =>
    have hcalls : planner.attachingCalls relation request =
        [.junctionJoin (planner.dialect.casing.apply parentName)
          (planner.dialect.casing.apply junction.aliasName)]
          ++ [planner.targetCall relation junction] := by
      simp only [attachingCalls, hshape, hjunction, hparentName, hneeds]
      rfl
    have hattached : planner.attached relation request =
        { predicate := relation.text? (.junctionJoin (planner.dialect.casing.apply parentName)
            (planner.dialect.casing.apply junction.aliasName))
          targetCondition := relation.text? (planner.targetCall relation junction) } := by
      simp [attached, structuralPredicate, targetAnswer, hcalls, hshape, hjunction, hparentName,
        Shape.isBatched]
    rw [hcalls, hattached, Planning.askAll_append, bind_assoc]
    simp only [task_relation, task_request, hneeds, if_true]
    rw [Task.askTargetJoin_bind _ hjoins]
    rfl
  | false =>
    have hcalls : planner.attachingCalls relation request =
        [.junctionJoin (planner.dialect.casing.apply parentName)
          (planner.dialect.casing.apply junction.aliasName)] := by
      simp only [attachingCalls, hshape, hjunction, hparentName, hneeds]
      rfl
    have hattached : planner.attached relation request =
        { predicate := relation.text? (.junctionJoin (planner.dialect.casing.apply parentName)
            (planner.dialect.casing.apply junction.aliasName)) } := by
      simp [attached, structuralPredicate, targetAnswer, hcalls, hshape, hjunction, hparentName,
        Shape.isBatched, targetCall]
    rw [hcalls, hattached]
    simp only [task_relation, task_request, hneeds]
    rfl

theorem attach_eq_of_batchedToMany (hshape : relation.shape request.isRoot = .batchedToMany) :
    (planner.task relation request).attach = planner.attachInSteps relation request := by
  have hs : (planner.task relation request).shape = .batchedToMany := hshape
  simp only [Task.attach, attachInSteps, Task.needs, Task.keyedAlias, hs, Task.attachBatched,
    Planning.ofExcept_bind, Planning.ofExcept_pure, bind_assoc, pure_bind]
  refine Planning.ofExcept_bind_congr fun condition hcondition => ?_
  have hpredicate : planner.structuralPredicate relation request = some condition :=
    planner.structuralPredicate_of_isBatched (by rw [hshape]; rfl)
      (by simpa only [Task.keyedAlias, hs] using hcondition)
  have hcalls : planner.attachingCalls relation request = [] := by
    simp [attachingCalls, hshape]
  have hattached : planner.attached relation request =
      { predicate := some condition, batchCondition := some condition } := by
    simp [attached, targetAnswer, hcalls, hshape, hpredicate, Shape.isBatched]
  rw [hcalls, hattached]
  rfl

theorem attach_eq_of_batchedManyToMany
    (hshape : relation.shape request.isRoot = .batchedManyToMany) :
    (planner.task relation request).attach = planner.attachInSteps relation request := by
  have hs : (planner.task relation request).shape = .batchedManyToMany := hshape
  have hmany : (relation.shape request.isRoot).isManyToMany = true := by rw [hshape]; rfl
  obtain ⟨junction, hjunction, hview, halias⟩ := planner.exists_junction hmany
  simp only [Task.attach, attachInSteps, Task.needs, Task.keyedAlias, hs,
    Task.attachBatchedJunction, Planning.ofExcept_bind, bind_assoc]
  refine Planning.ofExcept_bind_congr fun condition hcondition => ?_
  have hpredicate : planner.structuralPredicate relation request = some condition :=
    planner.structuralPredicate_of_isBatched (by rw [hshape]; rfl)
      (by simpa only [Task.keyedAlias, hs] using hcondition)
  cases hgiven : request.joinCondition.isNone with
  | true =>
    have hcalls : planner.attachingCalls relation request =
        [planner.targetCall relation junction] := by
      simp [attachingCalls, hshape, hjunction, hgiven]
    have hattached : planner.attached relation request =
        { predicate := some condition, batchCondition := some condition
          targetCondition := relation.text? (planner.targetCall relation junction) } := by
      simp [attached, targetAnswer, hcalls, hshape, hjunction, hpredicate, Shape.isBatched]
    simp only [task_request, hgiven, if_true, Planning.ofExcept_bind, bind_assoc]
    refine Planning.ofExcept_bind_congr fun joins hjoins => ?_
    have hjoins := Relation.require_eq_ok_iff.1 hjoins
    rw [hview, ← hjunction] at hjoins
    rw [hcalls, hattached, Task.askTargetJoin_bind _ hjoins, Task.junctionAlias_eq halias]
    rfl
  | false =>
    have hcalls : planner.attachingCalls relation request = [] := by
      simp [attachingCalls, hshape, hjunction, hgiven]
    have hattached : planner.attached relation request =
        { predicate := some condition, batchCondition := some condition } := by
      simp [attached, targetAnswer, hcalls, hshape, hjunction, hpredicate, Shape.isBatched]
    simp only [task_request, hgiven]
    rw [hcalls, hattached]
    rfl

/-- Whatever the shape, a relation is attached in three steps. -/
theorem attach_eq :
    (planner.task relation request).attach = planner.attachInSteps relation request := by
  cases hshape : relation.shape request.isRoot with
  | root =>
    have hcalls : planner.attachingCalls relation request = [] := by
      simp [attachingCalls, hshape]
    have hattached : planner.attached relation request = {} := by
      simp [attached, structuralPredicate, targetAnswer, hcalls, hshape, Shape.isBatched]
    simp only [Task.attach, attachInSteps, Task.needs, task_shape, hshape, hcalls, hattached]
    rfl
  | joinedToMany => exact planner.attach_eq_of_joinedToMany hshape
  | joinedManyToMany => exact planner.attach_eq_of_joinedManyToMany hshape
  | batchedToMany => exact planner.attach_eq_of_batchedToMany hshape
  | batchedManyToMany => exact planner.attach_eq_of_batchedManyToMany hshape

/-! ## Filtering -/

theorem askFilter_eq :
    (planner.task relation request).askFilter =
      .askAll relation (planner.filterCall? relation).toList >>= fun _ =>
        pure (planner.filterAnswer relation) := by
  unfold Task.askFilter filterAnswer filterCall?
  cases hfilter : relation.filter with
  | none =>
    simp only [task_relation, hfilter]
    rfl
  | some filter =>
    simp only [task_relation, hfilter]
    exact (bind_pure _).symm.trans (Planning.ask_bind (by simp [Relation.answer?, hfilter]) _)

theorem askJunctionFilter_eq :
    (planner.task relation request).askJunctionFilter =
      .askAll relation (planner.junctionFilterCall? relation request).toList >>= fun _ =>
        pure (planner.junctionFilterAnswer relation request) := by
  unfold Task.askJunctionFilter junctionFilterAnswer junctionFilterCall?
  cases hshape : (relation.shape request.isRoot).isManyToMany with
  | false =>
    obtain ⟨hview, halias⟩ := planner.junction_eq_none hshape
    simp only [hview, halias]
    rfl
  | true =>
    obtain ⟨junction, hjunction, hview, halias⟩ := planner.exists_junction hshape
    cases hfilter : junction.filter with
    | none =>
      simp only [hjunction, hview, halias, hfilter, Option.bind_some]
      rfl
    | some filter =>
      simp only [hjunction, hview, halias, hfilter, Option.bind_some]
      exact (bind_pure _).symm.trans
        (Planning.ask_bind (by simp [Relation.answer?, hjunction, hfilter]; rfl) _)

/-! ## The whole of a planning -/

/-- **The first half of a planning has two steps.**  It checks the inputs that the shape needs and
makes the expected calls in their order. -/
theorem asked_eq :
    (planner.task relation request).asked =
      .ofExcept (planner.task relation request).needs >>= fun _ =>
        .askAll relation (planner.expectedCalls relation request) >>= fun _ =>
          pure (planner.attached relation request, planner.junctionFilterAnswer relation request,
            planner.filterAnswer relation) := by
  simp only [Task.asked, attach_eq, attachInSteps, askJunctionFilter_eq, askFilter_eq,
    expectedCalls, Planning.askAll_append, bind_assoc, pure_bind]

/-! ## When the inputs are there -/

theorem junctionJoins_eq_ok_iff (hshape : (relation.shape request.isRoot).isManyToMany = true)
    {joins : JunctionJoins} :
    (planner.task relation request).junctionJoins = .ok joins ↔
      relation.junction.bind (·.joins) = some joins := by
  obtain ⟨junction, hjunction, hview, -⟩ := planner.exists_junction hshape
  rw [Task.junctionJoins, Relation.require_eq_ok_iff, hview, hjunction]

/-- The inputs that the shape of a relation needs: a joined relation needs a parent, a condition
and its joins, a batched one the condition of its batch and, between many and many, its joins if
the request has no condition for the target. -/
@[mk_iff] structure HasInputs (relation : Relation) (request : Request) : Prop where
  parentAlias : (relation.shape request.isRoot).isJoined → request.parentAlias.isSome
  joinCondition : (relation.shape request.isRoot).isJoined → request.joinCondition.isSome
  join : relation.shape request.isRoot = .joinedToMany → relation.join.isSome
  batchCondition : (relation.shape request.isRoot).isBatched → ∃ condition,
    (planner.task relation request).batchCondition (planner.task relation request).keyedAlias =
      .ok condition
  junctionJoins :
    relation.shape request.isRoot = .joinedManyToMany ∨
      relation.shape request.isRoot = .batchedManyToMany ∧ request.joinCondition = none →
    (relation.junction.bind (·.joins)).isSome

/-- The inputs of a batch are its scope and its key. -/
theorem HasInputs.exists_batchInputs {planner : Planner}
    (h : planner.HasInputs relation request)
    (hbatched : (relation.shape request.isRoot).isBatched = true) :
    ∃ scope key condition, request.scope = some scope ∧
      (planner.task relation request).batchKey? = some key ∧
      (planner.task relation request).batchInputs = .ok (scope, key) ∧
      planner.dialect.batchCondition (planner.task relation request).keyedAlias
        (key.cased planner.dialect.casing) scope = .ok condition ∧
      planner.structuralPredicate relation request = some condition := by
  obtain ⟨condition, hcondition⟩ := h.batchCondition hbatched
  obtain ⟨scope, key, _, hscope, hkey, -, hwritten⟩ := Task.batchCondition_eq_ok_iff.1 hcondition
  exact ⟨scope, key, condition, hscope, hkey, Task.batchInputs_eq_ok_iff.2 ⟨hscope, hkey⟩, hwritten,
    planner.structuralPredicate_of_isBatched hbatched hcondition⟩

theorem needs_eq_ok_iff :
    (planner.task relation request).needs = .ok () ↔ planner.HasInputs relation request := by
  have hparent : (planner.task relation request).aliases.parent.isSome =
      request.parentAlias.isSome := by
    simp [task]
  rw [hasInputs_iff]
  cases hshape : relation.shape request.isRoot with
  | root =>
    simp [Task.needs, task_shape, hshape, Shape.isJoined, Shape.isBatched, pure, Except.pure]
  | joinedToMany =>
    simp [Task.needs, task_shape, hshape, Shape.isJoined, Shape.isBatched, pure, Except.pure,
      Except.bind_const_eq_ok_iff, Task.parentAlias, Task.joinCondition,
      Relation.require_eq_ok_iff, ← Option.isSome_iff_exists, task_relation, task_request, hparent]
  | joinedManyToMany =>
    have hjoins : ∀ joins, (planner.task relation request).junctionJoins = .ok joins ↔
        relation.junction.bind (·.joins) = some joins := fun joins =>
      planner.junctionJoins_eq_ok_iff (by rw [hshape]; rfl)
    simp [Task.needs, task_shape, hshape, Shape.isJoined, Shape.isBatched, pure, Except.pure,
      Except.bind_const_eq_ok_iff, Task.parentAlias, Task.joinCondition,
      Relation.require_eq_ok_iff, ← Option.isSome_iff_exists, task_request, hparent, hjoins]
  | batchedToMany =>
    simp [Task.needs, task_shape, hshape, Shape.isJoined, Shape.isBatched, pure, Except.pure,
      Except.bind_const_eq_ok_iff]
  | batchedManyToMany =>
    have hjoins : ∀ joins, (planner.task relation request).junctionJoins = .ok joins ↔
        relation.junction.bind (·.joins) = some joins := fun joins =>
      planner.junctionJoins_eq_ok_iff (by rw [hshape]; rfl)
    simp [Task.needs, task_shape, hshape, Shape.isJoined, Shape.isBatched, pure, Except.pure,
      Except.bind_const_eq_ok_iff, ← Option.isSome_iff_exists, task_request, hjoins]

/-- A relation is attached by what the relation and the request determine. -/
theorem eq_attached_of_attach {attaching : Attaching}
    (h : (planner.task relation request).attach.outcome = .ok attaching) :
    planner.HasInputs relation request ∧ attaching = planner.attached relation request := by
  rw [attach_eq, attachInSteps] at h
  obtain ⟨_, hneeds, h⟩ := Planning.bind_outcome_eq_ok_iff.1 h
  obtain ⟨_, -, h⟩ := Planning.bind_outcome_eq_ok_iff.1 h
  cases h
  exact ⟨planner.needs_eq_ok_iff.1 hneeds, rfl⟩

/-- The call of the join to the target is answered when the junction has its joins. -/
theorem exists_answer?_targetCall (h : (relation.junction.bind (·.joins)).isSome)
    (junction : Junction) :
    ∃ answer, relation.answer? (planner.targetCall relation junction) = some answer := by
  obtain ⟨joins, hjoins⟩ := Option.isSome_iff_exists.1 h
  simp [targetCall, Relation.answer?, hjoins]

/-- Once the inputs are there, so is a callback for each call that attaches the relation. -/
theorem exists_answer?_of_mem_attachingCalls (hinputs : planner.HasInputs relation request)
    {call : Invocation} (h : call ∈ planner.attachingCalls relation request) :
    ∃ answer, relation.answer? call = some answer := by
  unfold attachingCalls at h
  split at h
  · next hshape =>
    obtain ⟨join, hjoin⟩ := Option.isSome_iff_exists.1 (hinputs.join hshape)
    simp only [Option.mem_toList, Option.map_eq_some_iff] at h
    obtain ⟨parent, -, rfl⟩ := h
    simp [Relation.answer?, hjoin]
  · next junction hshape hjunction =>
    have hjoins := hinputs.junctionJoins (.inl hshape)
    rcases List.mem_append.1 h with hparent | htarget
    · obtain ⟨joins, hjoins⟩ := Option.isSome_iff_exists.1 hjoins
      simp only [Option.mem_toList, Option.map_eq_some_iff] at hparent
      obtain ⟨parent, -, rfl⟩ := hparent
      simp [Relation.answer?, hjoins]
    · split at htarget
      · rw [List.mem_singleton.1 htarget]
        exact planner.exists_answer?_targetCall hjoins junction
      · cases htarget
  · next junction hshape hjunction =>
    split at h
    · next hgiven =>
      rw [List.mem_singleton.1 h]
      exact planner.exists_answer?_targetCall
        (hinputs.junctionJoins (.inr ⟨hshape, Option.isNone_iff_eq_none.1 hgiven⟩)) junction
    · cases h
  · cases h

/-- Once the inputs are there, so is a callback for each of the expected calls. -/
theorem exists_answer?_of_mem_expectedCalls (hinputs : planner.HasInputs relation request)
    {call : Invocation} (h : call ∈ planner.expectedCalls relation request) :
    ∃ answer, relation.answer? call = some answer := by
  simp only [expectedCalls, List.mem_append, Option.mem_toList, or_assoc] at h
  rcases h with hattaching | hjunction | hfilter
  · exact planner.exists_answer?_of_mem_attachingCalls hinputs hattaching
  · unfold junctionFilterCall? at hjunction
    split at hjunction
    · obtain ⟨junction, hview, hjunction⟩ := Option.bind_eq_some_iff.1 hjunction
      obtain ⟨filter, hfilter, rfl⟩ := Option.map_eq_some_iff.1 hjunction
      simp [Relation.answer?, hview, hfilter]
    · cases hjunction
  · obtain ⟨filter, hpresent, rfl⟩ := Option.map_eq_some_iff.1 hfilter
    simp [Relation.answer?, hpresent]

end

end Planner

end RelationPaging
