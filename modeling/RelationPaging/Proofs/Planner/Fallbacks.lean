import RelationPaging.Proofs.Planner.Course
import RelationPaging.Proofs.Planner.Select

/-!
# The defenses of planning

Planning guards itself at places that no relation and no request can reach.  The assembly of
predicates refuses steps out of order, an interpreter refuses a target without its declaration, the
batch key and the condition of the batch are asked for as if they could be missing, and an empty
text stands by for the alias of the junction.

Each guard is excluded by something that is established elsewhere.  The shape is batched only when
there is a batch key, and many-to-many only when there is a junction; the declaration that is
interpreted is the one that was found; and the inputs of a batch are the same at the second time of
asking.  `Planner.isRefused_of_isDefensive` says for every dialect that an error of these kinds was
given back by the dialect, and `Planner.defenses_unreached` puts the facts together for the built-in
ones.
-/

namespace RelationPaging

/-- Whether an error comes from a guard that planning puts up against itself. -/
def PlanError.isDefensive : PlanError → Bool
  | outOfOrder _ => true
  | dialect _ => true
  | missingInput _ .batchKey => true
  | missingInput _ .batchCondition => true
  | _ => false

theorem PlanError.isDefensive_of_isOfArguments {error : PlanError}
    (h : error.isOfArguments = true) : error.isDefensive = false := by
  cases error with
  | argument _ => rfl
  | cursor _ => rfl
  | _ => cases h

/-- The alias of the junction that a call tells its callback, if it tells one. -/
def Invocation.junction? : Invocation → Option String
  | junctionJoin _ junction => some junction
  | targetJoin junction _ => some junction
  | junctionFilter aliasName => some aliasName
  | _ => none

namespace Planner

variable {planner : Planner} {relation : Relation} {request : Request}

/-! ## Errors -/

/-- A guard of planning does not strike by itself; only a dialect can give back such an error. -/
theorem isRefused_of_isDefensive {error : PlanError}
    (h : (planner.draft relation request).outcome = .error error)
    (hdefensive : error.isDefensive = true) : planner.IsRefused relation request error := by
  rcases (planner.course relation request).of_error h with
    ⟨-, hmissing | hinput⟩ | ⟨_, _, hcallback, -⟩ | ⟨-, hconclusion⟩
  · rw [hmissing] at hdefensive
    cases hdefensive
  · cases hinput with
    | missing hwhat =>
      simp only [List.mem_cons, List.not_mem_nil, or_false] at hwhat
      rcases hwhat with rfl | rfl | rfl | rfl | rfl <;> cases hdefensive
    | batchScope defect => cases hdefensive
    | refused hrefused => exact hrefused
  · rw [hcallback] at hdefensive
    cases hdefensive
  · cases hconclusion with
    | missing hwhat =>
      simp only [List.mem_cons, List.not_mem_nil, or_false] at hwhat
      rcases hwhat with rfl | rfl <;> cases hdefensive
    | refused hrefused => exact hrefused

/-! ## The junction -/

/-- The junction of a relation is in view, and its alias is the one that is told to callbacks and
that the page is read under. -/
structure HasJunction (planner : Planner) (relation : Relation) (request : Request)
    (junction : Junction) : Prop where
  declared : relation.junction = some junction
  inView : (planner.task relation request).junction = some junction
  aliasInView : (planner.task relation request).aliases.junction =
    some (planner.dialect.casing.apply junction.aliasName)
  junctionAlias : (planner.task relation request).junctionAlias =
    planner.dialect.casing.apply junction.aliasName
  source : (planner.task relation request).source =
    (junction.table, planner.dialect.casing.apply junction.aliasName)
  keyedAlias : relation.shape request.isRoot = .batchedManyToMany →
    (planner.task relation request).keyedAlias = planner.dialect.casing.apply junction.aliasName
  calls : ∀ call ∈ (planner.draft relation request).calls, ∀ aliasName ∈ call.junction?,
    aliasName = planner.dialect.casing.apply junction.aliasName

/-- The calls of a planning tell the alias of the junction and of no other table in its place. -/
theorem eq_of_mem_junction? {junction : Junction} (hjunction : relation.junction = some junction)
    {call : Invocation} (hmem : call ∈ planner.expectedCalls relation request)
    {aliasName : String} (halias : aliasName ∈ call.junction?) :
    aliasName = planner.dialect.casing.apply junction.aliasName := by
  have htarget : aliasName ∈ (planner.targetCall relation junction).junction? →
      aliasName = planner.dialect.casing.apply junction.aliasName := fun h =>
    (Option.some.inj h).symm
  simp only [expectedCalls, List.mem_append, Option.mem_toList, or_assoc] at hmem
  rcases hmem with hattaching | hfilters | hfilter
  -- only the two joins of the junction and its filter tell an alias of a junction
  · unfold attachingCalls at hattaching
    rw [hjunction] at hattaching
    split at hattaching
    · obtain ⟨_, -, rfl⟩ := Option.map_eq_some_iff.1 (Option.mem_toList.1 hattaching)
      cases halias
    · next hsame =>
      cases hsame
      rcases List.mem_append.1 hattaching with hparent | hneeded
      · obtain ⟨_, -, rfl⟩ := Option.map_eq_some_iff.1 (Option.mem_toList.1 hparent)
        exact (Option.some.inj halias).symm
      · split at hneeded
        · rw [List.mem_singleton.1 hneeded] at halias
          exact htarget halias
        · cases hneeded
    · next hsame =>
      cases hsame
      split at hattaching
      · rw [List.mem_singleton.1 hattaching] at halias
        exact htarget halias
      · cases hattaching
    · cases hattaching
  · unfold junctionFilterCall? at hfilters
    rw [hjunction] at hfilters
    split at hfilters
    · obtain ⟨_, -, rfl⟩ := Option.map_eq_some_iff.1 hfilters
      exact (Option.some.inj halias).symm
    · cases hfilters
  · obtain ⟨_, -, rfl⟩ := Option.map_eq_some_iff.1 hfilter
    cases halias

theorem exists_hasJunction (planner : Planner)
    (h : (relation.shape request.isRoot).isManyToMany = true) :
    ∃ junction, planner.HasJunction relation request junction := by
  obtain ⟨junction, hjunction, hview, halias⟩ := planner.exists_junction h
  have hcalls := (planner.course relation request).calls_isPrefix
  refine ⟨junction, hjunction, hview, halias, Task.junctionAlias_eq halias, ?_, fun hshape => ?_,
    fun call hmem aliasName hmemJunction => ?_⟩
  · simp only [Task.source, hview, halias]
  · simp only [Task.keyedAlias, task_shape, hshape, Task.junctionAlias_eq halias]
  · exact eq_of_mem_junction? hjunction (hcalls.subset hmem) hmemJunction

/-! ## The batch -/

/-- What the two lookups of the scope and the key of a batch give: the condition of the batch at
the first time, with which the relation is attached, and the temporary table at the second. -/
structure LooksUp (planner : Planner) (relation : Relation) (request : Request)
    (attaching : Attaching) (scope : BatchScope) (key : BatchKey) (condition : String) : Prop where
  scope_eq : request.scope = some scope
  batchKey?_eq : (planner.task relation request).batchKey? = some key
  batchInputs_eq : (planner.task relation request).batchInputs = .ok (scope, key)
  condition_eq : planner.dialect.batchCondition (planner.task relation request).keyedAlias
    (key.cased planner.dialect.casing) scope = .ok condition
  predicate_eq : attaching.predicate = some condition
  batchCondition_eq : attaching.batchCondition = some condition
  temporary_eq : (planner.task relation request).renderTemporary =
    (planner.dialect.temporary scope (planner.dialect.casing.apply key.parent)).map ([·])

/-- A batched relation that has been attached is looked up again with the same result. -/
theorem exists_looksUp (hbatched : (relation.shape request.isRoot).isBatched = true)
    {attaching : Attaching}
    (h : (planner.task relation request).attach.outcome = .ok attaching) :
    ∃ scope key condition,
      planner.LooksUp relation request attaching scope key condition := by
  obtain ⟨hinputs, rfl⟩ := planner.eq_attached_of_attach h
  obtain ⟨scope, key, condition, hscope, hkey, hbatch, hwritten, hpredicate⟩ :=
    hinputs.exists_batchInputs hbatched
  refine ⟨scope, key, condition, hscope, hkey, hbatch, hwritten, hpredicate, ?_,
    Task.renderTemporary_of_batchInputs hbatched hbatch⟩
  simp only [attached, hbatched, if_true, hpredicate]

/-! ## Main result -/

variable (name : DialectName) (casing : Casing) (policy : MissingPolicy) (relation request)

/-- **Planning never falls back on its defenses.**  With a built-in dialect no error comes from a
guard that planning puts up against itself.  A relation between many and many has its junction and
the alias of it wherever they are looked for, and a batched relation that has been attached finds
the same scope and key again when its temporary table is rendered. -/
theorem defenses_unreached (fragments : Fragments) :
    (∀ error, ((standard name casing policy).plan relation request fragments).1.outcome =
      .error error → error.isDefensive = false) ∧
    ((relation.shape request.isRoot).isManyToMany = true →
      ∃ junction, (standard name casing policy).HasJunction relation request junction) ∧
    ((relation.shape request.isRoot).isBatched = true → ∀ attaching,
      ((standard name casing policy).task relation request).attach.outcome = .ok attaching →
        ∃ scope key condition,
          (standard name casing policy).LooksUp relation request attaching scope key condition ∧
          ((standard name casing policy).task relation request).renderTemporary =
            .ok [(Dialect.spellingOf name casing).table scope (casing.apply key.parent)]) := by
  refine ⟨fun error herror => ?_, fun h => exists_hasJunction _ h, fun hbatched attaching h => ?_⟩
  · rw [plan_fst] at herror
    cases hdefensive : error.isDefensive with
    | false => rfl
    | true =>
      have hrefused := isRefused_of_isDefensive (Except.map_eq_error_iff.1 herror) hdefensive
      rw [PlanError.isDefensive_of_isOfArguments (hrefused.isOfArguments rfl)] at hdefensive
      cases hdefensive
  · obtain ⟨scope, key, condition, hlookup⟩ := exists_looksUp hbatched h
    refine ⟨scope, key, condition, hlookup, hlookup.temporary_eq.trans ?_⟩
    rw [standard_casing]
    rfl

end Planner

end RelationPaging
