import RelationPaging.Dialect.Standard
import RelationPaging.Proofs.Paging.Interpreters
import RelationPaging.Proofs.Planner.NormalForm

/-!
# Why planning fails

Which errors the steps of a planning can give.  Besides the callbacks, which fail as they like,
there are two sources of errors: an input that the shape needs is missing or not usable, and the
dialect refuses what it is asked for.  A dialect may give back any error at all, also one that looks
as if it came from somewhere else.  The error alone then does not say where planning failed, but the
run does: `Planner.Reaches` are the operations that a run asks of its dialect, each with what it
hands over, and `Planner.IsRefused` says that one of them gave back the error.

The errors in front of the callbacks are `Planner.InputError`, those behind them are
`Planner.ConclusionError`.  What the shape guarantees does not occur among them: a batched relation
has a batch key, and a relation whose batch condition has been built does not lack it later.
-/

namespace RelationPaging

/-! ## What a dialect is asked for -/

namespace Dialect

/-- What planning asks of a dialect, with what it hands over: the condition of a batch, the decision
on a page, the temporary table, and the select of the page. -/
inductive Operation where
  | batchCondition (aliasName : String) (key : BatchKey) (scope : BatchScope)
  | paginate (relation : Relation) (declaration : Declaration) (relationAlias : String)
      (junctionAlias : Option String)
  | temporary (scope : BatchScope) (column : String)
  | pageSelect (table aliasName : String) (predicates : List String) (pagination : Pagination)
      (attachment : Option Attachment)

/-- Whether an operation comes in front of the callbacks. -/
def Operation.isEarly : Operation → Bool
  | batchCondition _ _ _ => true
  | _ => false

/-- A dialect gives back an error instead of the result of an operation. -/
def Refuses (d : Dialect) (error : PlanError) : Operation → Prop
  | .batchCondition aliasName key scope => d.batchCondition aliasName key scope = .error error
  | .paginate relation declaration relationAlias junctionAlias =>
    d.paginate relation declaration relationAlias junctionAlias = .error error
  | .temporary scope column => d.temporary scope column = .error error
  | .pageSelect table aliasName predicates pagination attachment =>
    d.pageSelect table aliasName predicates pagination attachment = .error error

/-- A dialect that does everything in the common way refuses nothing but paging arguments. -/
theorem Refuses.isOfArguments {s : Spelling} {error : PlanError} {operation : Operation}
    (h : (ofSpelling s).Refuses error operation) : error.isOfArguments = true := by
  cases operation with
  | batchCondition aliasName key scope =>
    have hcondition : (ofSpelling s).batchCondition aliasName key scope = .error error := h
    unfold batchCondition at hcondition
    split at hcondition <;> cases hcondition
  | paginate relation declaration relationAlias junctionAlias =>
    cases declaration with
    | keyset key owner =>
      exact Spelling.isOfArguments_of_keysetPaging (Except.map_eq_error_iff.1 h)
    | offset order owner =>
      exact Spelling.isOfArguments_of_offsetPaging (Except.map_eq_error_iff.1 h)
  | temporary scope column => cases h
  | pageSelect table aliasName predicates pagination attachment =>
    cases pagination <;> cases h

end Dialect

/-! ## Missing inputs -/

namespace Relation

variable {α : Type} {relation : Relation} {what : MissingInput} {input : Option α}
  {error : PlanError}

theorem require_eq_error_iff :
    relation.require what input = .error error ↔ input = none ∧ error = relation.lacks what := by
  cases input <;> simp [Relation.require, eq_comm]

/-- An input that is given is not found missing. -/
theorem require_ne_error (h : input.isSome = true) :
    relation.require what input ≠ .error error := by
  intro herror
  rw [(require_eq_error_iff.1 herror).1] at h
  cases h

variable {isRoot : Bool}

/-- A batched relation that is not between many and many has a batch key of its own. -/
theorem batchKey_isSome_of_batchedToMany
    (h : relation.shape isRoot = .batchedToMany) : relation.batchKey.isSome = true := by
  unfold shape at h
  split at h
  · cases h
  · split at h
    · split at h <;> cases h
    · split at h
      · assumption
      · cases h

/-- A batched relation between many and many has the batch key at its junction. -/
theorem junctionBatchKey_isSome_of_batchedManyToMany
    (h : relation.shape isRoot = .batchedManyToMany) {junction : Junction}
    (hjunction : relation.junction = some junction) : junction.batchKey.isSome = true := by
  unfold shape at h
  split at h
  · cases h
  · simp only [hjunction] at h
    split at h
    · assumption
    · cases h

end Relation

namespace Planner

/-! ## What a run asks of its dialect -/

section

variable (planner : Planner) (relation : Relation) (request : Request)

/-- A relation is to be planned if it has a declaration or may do without one. -/
def Admits : Prop :=
  relation.declaration?.isSome = true ∨ planner.policy = .skip

/-- Planning gets behind the callbacks: it has the inputs that the shape needs, and all of the
expected calls are answered. -/
structure GetsAnswers : Prop where
  admits : planner.Admits relation
  inputs : planner.HasInputs relation request
  resolves : ∀ call ∈ planner.expectedCalls relation request, relation.Resolves call

/-- The operations that the planning of a relation asks of its dialect, as far as it gets. -/
inductive Reaches : Dialect.Operation → Prop
  /-- The condition of a batch is asked for when the scope is valid, before any callback. -/
  | batchCondition {scope : BatchScope} {key : BatchKey} {kind : Option BatchKind}
      (hadmits : planner.Admits relation)
      (hbatched : (relation.shape request.isRoot).isBatched = true)
      (hscope : request.scope = some scope)
      (hkey : (planner.task relation request).batchKey? = some key)
      (hvalid : scope.validate = .ok kind) :
      Reaches (.batchCondition (planner.task relation request).keyedAlias
        (key.cased planner.dialect.casing) scope)
  /-- The arguments are interpreted when all callbacks have answered. -/
  | paginate {declaration : Declaration} (hanswers : planner.GetsAnswers relation request)
      (hdeclaration : relation.declaration? = some declaration) :
      Reaches (.paginate relation declaration (planner.task relation request).aliases.relation
        (planner.task relation request).aliases.junction)
  /-- The temporary table comes after the decision on the page. -/
  | temporary {pagination : Option Pagination} {scope : BatchScope} {key : BatchKey}
      (hanswers : planner.GetsAnswers relation request)
      (hpaginate : (planner.task relation request).paginate relation.declaration? = .ok pagination)
      (hbatched : (relation.shape request.isRoot).isBatched = true)
      (hscope : request.scope = some scope)
      (hkey : (planner.task relation request).batchKey? = some key) :
      Reaches (.temporary scope (planner.dialect.casing.apply key.parent))
  /-- The select comes after the temporary table, when it is known how it is attached. -/
  | pageSelect {pagination : Pagination} {temporary : List String} {attachment : Option Attachment}
      (hanswers : planner.GetsAnswers relation request)
      (hpaginate : (planner.task relation request).paginate relation.declaration? =
        .ok (some pagination))
      (htemporary : (planner.task relation request).renderTemporary = .ok temporary)
      (hattachment : (planner.task relation request).attachment
        (planner.attached relation request) = .ok attachment) :
      Reaches (.pageSelect (planner.task relation request).source.1
        (planner.task relation request).source.2
        (Assembly.contributions [(planner.attached relation request).predicate,
          planner.junctionFilterAnswer relation request, planner.filterAnswer relation,
          pagination.condition])
        pagination attachment)

/-- In the planning of a relation, an operation of the dialect gives back an error. -/
def IsRefused (error : PlanError) : Prop :=
  ∃ operation, planner.Reaches relation request operation ∧
    planner.dialect.Refuses error operation

variable {planner relation request}

theorem IsRefused.isOfArguments {error : PlanError} (h : planner.IsRefused relation request error)
    {name : DialectName} {casing : Casing} (hdialect : planner.dialect = .standard name casing) :
    error.isOfArguments = true := by
  obtain ⟨operation, -, hrefuses⟩ := h
  rw [hdialect] at hrefuses
  exact hrefuses.isOfArguments

end

/-! ## In front of the callbacks -/

/-- An error that planning meets before it asks any callback: an input is missing, the batch scope
is not valid, or the dialect does not write the condition of the batch. -/
inductive InputError (planner : Planner) (relation : Relation) (request : Request) :
    PlanError → Prop
  | missing {what : MissingInput}
      (h : what ∈ [.parentAlias, .joinCondition, .join, .junctionJoins, .batchScope]) :
      InputError planner relation request (relation.lacks what)
  | batchScope (defect : BatchScope.Defect) :
      InputError planner relation request (.batchScope relation.aliasName defect)
  | refused {error : PlanError} (h : planner.IsRefused relation request error) :
      InputError planner relation request error

variable (planner : Planner) {relation : Relation} {request : Request} {error : PlanError}

theorem inputError_of_require {α : Type} {what : MissingInput} {input : Option α}
    (h : relation.require what input = .error error)
    (hwhat : what ∈ [.parentAlias, .joinCondition, .join, .junctionJoins, .batchScope]) :
    planner.InputError relation request error := by
  obtain ⟨-, rfl⟩ := Relation.require_eq_error_iff.1 h
  exact .missing hwhat

/-- A batched relation has a batch key, on the side that counts for its shape. -/
theorem exists_batchKey? (hbatched : (relation.shape request.isRoot).isBatched = true) :
    ∃ key, (planner.task relation request).batchKey? = some key := by
  rcases Shape.isBatched_iff.1 hbatched with hshape | hshape
  · simp only [Task.batchKey?, task_shape, hshape, task_relation]
    exact Option.isSome_iff_exists.1 (Relation.batchKey_isSome_of_batchedToMany hshape)
  · have hmany : (relation.shape request.isRoot).isManyToMany = true := by rw [hshape]; rfl
    obtain ⟨junction, hjunction, hview, -⟩ := planner.exists_junction hmany
    simp only [Task.batchKey?, task_shape, hshape, hview, Option.bind_some]
    exact Option.isSome_iff_exists.1
      (Relation.junctionBatchKey_isSome_of_batchedManyToMany hshape hjunction)

theorem inputError_of_batchInputs
    (hbatched : (relation.shape request.isRoot).isBatched = true)
    (h : (planner.task relation request).batchInputs = .error error) :
    planner.InputError relation request error := by
  obtain ⟨key, hkey⟩ := planner.exists_batchKey? hbatched
  cases hscope : request.scope with
  | none =>
    rcases Except.bind_eq_error_iff.1 h with hmissing | ⟨scope, hgiven, -⟩
    · exact planner.inputError_of_require hmissing (by decide)
    · cases hscope.symm.trans (Relation.require_eq_ok_iff.1 hgiven)
  | some scope =>
    have hinputs : (planner.task relation request).batchInputs = .ok (scope, key) :=
      Task.batchInputs_eq_ok_iff.2 ⟨hscope, hkey⟩
    cases h.symm.trans hinputs

theorem inputError_of_batchCondition (hadmits : planner.Admits relation)
    (hbatched : (relation.shape request.isRoot).isBatched = true)
    (h : (planner.task relation request).batchCondition
      (planner.task relation request).keyedAlias = .error error) :
    planner.InputError relation request error := by
  unfold Task.batchCondition at h
  rcases Except.bind_eq_error_iff.1 h with hinputs | ⟨⟨scope, key⟩, hinputs, h⟩
  · exact planner.inputError_of_batchInputs hbatched hinputs
  · obtain ⟨hscope, hkey⟩ := Task.batchInputs_eq_ok_iff.1 hinputs
    rcases Except.bind_eq_error_iff.1 h with hvalid | ⟨_, hvalid, h⟩
    · obtain ⟨defect, -, rfl⟩ := Except.mapError_eq_error_iff.1 hvalid
      exact .batchScope defect
    · have hvalid := Except.mapError_eq_ok_iff.1 hvalid
      exact .refused ⟨_, .batchCondition hadmits hbatched hscope hkey hvalid, h⟩

/-- An input that is checked in front of others is found missing, or what follows it fails. -/
theorem inputError_of_require_bind {α β : Type} {what : MissingInput} {input : Option α}
    {f : α → Except PlanError β} (h : (relation.require what input >>= f) = .error error)
    (hwhat : what ∈ [.parentAlias, .joinCondition, .join, .junctionJoins, .batchScope])
    (hf : ∀ a, f a = .error error → planner.InputError relation request error) :
    planner.InputError relation request error := by
  rcases Except.bind_eq_error_iff.1 h with hmissing | ⟨a, -, h⟩
  · exact planner.inputError_of_require hmissing hwhat
  · exact hf a h

/-- The inputs that a shape needs fail with one of the errors in front of the callbacks. -/
theorem inputError_of_needs (hadmits : planner.Admits relation)
    (h : (planner.task relation request).needs = .error error) :
    planner.InputError relation request error := by
  unfold Task.needs at h
  cases hshape : relation.shape request.isRoot <;> rw [task_shape, hshape] at h
  case root => cases h
  case joinedToMany | joinedManyToMany =>
    refine planner.inputError_of_require_bind h (by decide) fun _ h => ?_
    refine planner.inputError_of_require_bind h (by decide) fun _ h => ?_
    refine planner.inputError_of_require_bind h (by decide) fun _ h => ?_
    cases h
  case batchedToMany =>
    rcases Except.bind_eq_error_iff.1 h with hcondition | ⟨_, -, h⟩
    · exact planner.inputError_of_batchCondition hadmits (by rw [hshape]; rfl) hcondition
    · cases h
  case batchedManyToMany =>
    rcases Except.bind_eq_error_iff.1 h with hcondition | ⟨_, -, h⟩
    · exact planner.inputError_of_batchCondition hadmits (by rw [hshape]; rfl) hcondition
    dsimp only at h
    split at h
    · refine planner.inputError_of_require_bind h (by decide) fun _ h => ?_
      cases h
    · cases h

/-! ## Behind the callbacks -/

/-- An error that planning meets after the last callback has answered: a condition for a join is
missing that only the fragments need, or the dialect refuses the paging arguments or a fragment. -/
inductive ConclusionError (planner : Planner) (relation : Relation) (request : Request) :
    PlanError → Prop
  | missing {what : MissingInput} (h : what ∈ [.ownTableCondition, .targetCondition]) :
      ConclusionError planner relation request (relation.lacks what)
  | refused {error : PlanError} (h : planner.IsRefused relation request error) :
      ConclusionError planner relation request error

theorem conclusionError_of_require {α : Type} {what : MissingInput} {input : Option α}
    (h : relation.require what input = .error error)
    (hwhat : what ∈ [.ownTableCondition, .targetCondition]) :
    planner.ConclusionError relation request error := by
  obtain ⟨-, rfl⟩ := Relation.require_eq_error_iff.1 h
  exact .missing hwhat

theorem conclusionError_of_paginate (hanswers : planner.GetsAnswers relation request)
    (h : (planner.task relation request).paginate relation.declaration? = .error error) :
    planner.ConclusionError relation request error := by
  cases hdeclaration : relation.declaration? with
  | none =>
    rw [hdeclaration] at h
    cases h
  | some declaration =>
    rw [hdeclaration] at h
    rcases Except.bind_eq_error_iff.1 h with hrefused | ⟨_, -, h⟩
    · exact .refused ⟨_, .paginate hanswers hdeclaration, hrefused⟩
    · cases h

theorem conclusionError_of_ownTable {condition : Option String}
    (h : (planner.task relation request).ownTable condition = .error error) :
    planner.ConclusionError relation request error := by
  unfold Task.ownTable at h
  split at h
  · rcases Except.bind_eq_error_iff.1 h with hmissing | ⟨_, -, h⟩
    · exact planner.conclusionError_of_require hmissing (by decide)
    · cases h
  · cases h

/-- The temporary table is made from inputs that have been checked before. -/
theorem conclusionError_of_renderTemporary (hanswers : planner.GetsAnswers relation request)
    {pagination : Option Pagination}
    (hpaginate : (planner.task relation request).paginate relation.declaration? = .ok pagination)
    (h : (planner.task relation request).renderTemporary = .error error) :
    planner.ConclusionError relation request error := by
  cases hbatched : (relation.shape request.isRoot).isBatched with
  | false =>
    simp only [Task.renderTemporary, task_shape, hbatched] at h
    cases h
  | true =>
    obtain ⟨scope, key, _, hscope, hkey, hbatch, -⟩ :=
      hanswers.inputs.exists_batchInputs hbatched
    rw [Task.renderTemporary_of_batchInputs hbatched hbatch] at h
    exact .refused ⟨_, .temporary hanswers hpaginate hbatched hscope hkey,
      Except.map_eq_error_iff.1 h⟩

/-- What attaches a batched relation has the condition of the batch. -/
theorem isSome_batchCondition_attached (hinputs : planner.HasInputs relation request)
    (hbatched : (relation.shape request.isRoot).isBatched = true) :
    (planner.attached relation request).batchCondition.isSome = true := by
  obtain ⟨_, _, condition, -, -, -, -, hpredicate⟩ := hinputs.exists_batchInputs hbatched
  simp [attached, hbatched, hpredicate]

/-- The select is attached by inputs that have been checked before, except for the condition of
the relation's own table. -/
theorem conclusionError_of_attachment (hinputs : planner.HasInputs relation request)
    (h : (planner.task relation request).attachment (planner.attached relation request) =
      .error error) :
    planner.ConclusionError relation request error := by
  unfold Task.attachment at h
  cases hshape : relation.shape request.isRoot <;> rw [task_shape, hshape] at h
  case root => cases h
  case joinedToMany =>
    rcases Except.bind_eq_error_iff.1 h with hmissing | ⟨_, -, h⟩
    · exact absurd hmissing
        (Relation.require_ne_error (hinputs.joinCondition (by rw [hshape]; rfl)))
    · cases h
  case joinedManyToMany =>
    rcases Except.bind_eq_error_iff.1 h with hextra | ⟨_, -, h⟩
    · exact planner.conclusionError_of_ownTable hextra
    rcases Except.bind_eq_error_iff.1 h with hmissing | ⟨_, -, h⟩
    · exact absurd hmissing
        (Relation.require_ne_error (hinputs.joinCondition (by rw [hshape]; rfl)))
    · cases h
  case batchedToMany =>
    rcases Except.bind_eq_error_iff.1 h with hmissing | ⟨_, -, h⟩
    · exact absurd hmissing (Relation.require_ne_error
        (planner.isSome_batchCondition_attached hinputs (by rw [hshape]; rfl)))
    · cases h
  case batchedManyToMany =>
    rcases Except.bind_eq_error_iff.1 h with hextra | ⟨_, -, h⟩
    · exact planner.conclusionError_of_ownTable hextra
    rcases Except.bind_eq_error_iff.1 h with hmissing | ⟨_, -, h⟩
    · exact absurd hmissing (Relation.require_ne_error
        (planner.isSome_batchCondition_attached hinputs (by rw [hshape]; rfl)))
    · cases h

theorem conclusionError_of_renderSelect (hanswers : planner.GetsAnswers relation request)
    {pagination : Option Pagination} {temporary : List String}
    (hpaginate : (planner.task relation request).paginate relation.declaration? = .ok pagination)
    (htemporary : (planner.task relation request).renderTemporary = .ok temporary)
    (h : (planner.task relation request).renderSelect (planner.attached relation request)
      (Assembly.contributions [(planner.attached relation request).predicate,
        planner.junctionFilterAnswer relation request, planner.filterAnswer relation,
        pagination.bind (·.condition)]) pagination = .error error) :
    planner.ConclusionError relation request error := by
  unfold Task.renderSelect at h
  cases pagination with
  | none => cases h
  | some pagination =>
    rcases Except.bind_eq_error_iff.1 h with hattachment | ⟨_, hattachment, h⟩
    · exact planner.conclusionError_of_attachment hanswers.inputs hattachment
    rcases Except.bind_eq_error_iff.1 h with hrefused | ⟨_, -, h⟩
    · exact .refused ⟨_, .pageSelect hanswers hpaginate htemporary hattachment, hrefused⟩
    · cases h

theorem conclusionError_of_renderTrailingJoin {attaching : Attaching}
    (h : (planner.task relation request).renderTrailingJoin attaching = .error error) :
    planner.ConclusionError relation request error := by
  unfold Task.renderTrailingJoin at h
  split at h
  · rcases Except.bind_eq_error_iff.1 h with hmissing | ⟨_, -, h⟩
    · exact planner.conclusionError_of_require hmissing (by decide)
    · cases h
  · cases h

/-- **The second half fails for want of a join condition or by the dialect.**  Once all callbacks
have answered, none of the other checks of the second half can fail. -/
theorem conclusionError_of_conclude (hanswers : planner.GetsAnswers relation request)
    (h : (planner.task relation request).conclude relation.declaration?
      (planner.attached relation request) (planner.junctionFilterAnswer relation request)
      (planner.filterAnswer relation) = .error error) :
    planner.ConclusionError relation request error := by
  unfold Task.conclude at h
  rcases Except.bind_eq_error_iff.1 h with hpaginate | ⟨pagination, hpaginate, h⟩
  · exact planner.conclusionError_of_paginate hanswers hpaginate
  rw [Task.assemble_eq] at h
  rcases Except.bind_eq_error_iff.1 h with hassemble | ⟨predicates, hassemble, h⟩
  · cases hassemble
  cases hassemble
  rcases Except.bind_eq_error_iff.1 h with hrender | ⟨_, -, h⟩
  · rcases Except.bind_eq_error_iff.1 hrender with htemporary | ⟨_, htemporary, h⟩
    · exact planner.conclusionError_of_renderTemporary hanswers hpaginate htemporary
    rcases Except.bind_eq_error_iff.1 h with hselect | ⟨_, -, h⟩
    · exact planner.conclusionError_of_renderSelect hanswers hpaginate htemporary hselect
    rcases Except.bind_eq_error_iff.1 h with htrailing | ⟨_, -, h⟩
    · exact planner.conclusionError_of_renderTrailingJoin htrailing
    · cases h
  · cases h

end Planner

end RelationPaging
