import RelationPaging.Planner
import RelationPaging.Proofs.Planner.Asking

/-!
# The calls of a planning

Which callbacks a planning asks follows from the relation and the request alone, as long as none of
them fails.  `Planner.expectedCalls` lists them in their order, and `Planner.attached` and the two
filters are what they contribute to the plan.  All of this is said in terms of the relation and the
request and not of the task that is derived from them, so that the casing of aliases and the choice
of the junction are part of what is proved about planning.
-/

namespace RelationPaging

/-- Whether the relation is joined to one parent. -/
def Shape.isJoined : Shape → Bool
  | joinedToMany => true
  | joinedManyToMany => true
  | _ => false

/-! ## What a task has in view -/

namespace Planner

variable (planner : Planner) {relation : Relation} {request : Request}

theorem task_relation : (planner.task relation request).relation = relation := rfl

theorem task_request : (planner.task relation request).request = request := rfl

theorem task_shape : (planner.task relation request).shape = relation.shape request.isRoot := rfl

/-- A relation between many and many has its junction and the alias of it in view. -/
theorem exists_junction (h : (relation.shape request.isRoot).isManyToMany = true) :
    ∃ junction, relation.junction = some junction ∧
      (planner.task relation request).junction = some junction ∧
      (planner.task relation request).aliases.junction =
        some (planner.dialect.casing.apply junction.aliasName) := by
  obtain ⟨junction, hjunction⟩ :=
    Option.isSome_iff_exists.1 (Relation.junction_isSome_of_isManyToMany h)
  exact ⟨junction, hjunction, by simp [task, hjunction, h], by simp [task, hjunction, h]⟩

/-- Any other relation has no junction in view. -/
theorem junction_eq_none (h : (relation.shape request.isRoot).isManyToMany = false) :
    (planner.task relation request).junction = none ∧
      (planner.task relation request).aliases.junction = none := by
  simp [task, h]

end Planner

/-! ## The calls in their order -/

namespace Planner

variable (planner : Planner) (relation : Relation) (request : Request)

/-- The call of the join from a junction to the relation. -/
def targetCall (junction : Junction) : Invocation :=
  .targetJoin (planner.dialect.casing.apply junction.aliasName)
    (planner.dialect.casing.apply relation.aliasName)

/-- The calls that attach a relation: its join, or the join of its junction to the parent and the
join of the junction to the relation.  The latter is called when the request has no condition for
it and there is a use for one, which a batched relation always has. -/
def attachingCalls : List Invocation :=
  let cased := planner.dialect.casing.apply
  match relation.shape request.isRoot, relation.junction with
  | .joinedToMany, _ =>
    (request.parentAlias.map fun parent =>
      .join (cased parent) (cased relation.aliasName)).toList
  | .joinedManyToMany, some junction =>
    (request.parentAlias.map fun parent =>
      .junctionJoin (cased parent) (cased junction.aliasName)).toList
      ++ if relation.needsOwnTable && request.secondaryCondition.isNone then
          [planner.targetCall relation junction]
        else []
  | .batchedManyToMany, some junction =>
    if request.joinCondition.isNone then [planner.targetCall relation junction] else []
  | _, _ => []

/-- The call of the filter of the junction, which only a relation between many and many makes. -/
def junctionFilterCall? : Option Invocation :=
  if (relation.shape request.isRoot).isManyToMany then
    relation.junction.bind fun junction => junction.filter.map fun _ =>
      .junctionFilter (planner.dialect.casing.apply junction.aliasName)
  else none

/-- The call of the filter of the relation. -/
def filterCall? : Option Invocation :=
  relation.filter.map fun _ => .filter (planner.dialect.casing.apply relation.aliasName)

/-- The calls that a planning makes unless something fails. -/
def expectedCalls : List Invocation :=
  planner.attachingCalls relation request
    ++ (planner.junctionFilterCall? relation request).toList
    ++ (planner.filterCall? relation).toList

/-! ## What the calls contribute -/

/-- The condition under which the rows of an alias belong to the parents of a batch. -/
def batchPredicate (aliasName : String) (key : Option BatchKey) : Option String := do
  let scope ← request.scope
  let key ← key
  (planner.dialect.batchCondition aliasName (key.cased planner.dialect.casing) scope).toOption

/-- The predicate that ties the rows of a relation to its parents. -/
def structuralPredicate : Option String :=
  let cased := planner.dialect.casing.apply
  match relation.shape request.isRoot, relation.junction with
  | .joinedToMany, _ => request.parentAlias.bind fun parent =>
      relation.text? (.join (cased parent) (cased relation.aliasName))
  | .joinedManyToMany, some junction => request.parentAlias.bind fun parent =>
      relation.text? (.junctionJoin (cased parent) (cased junction.aliasName))
  | .batchedToMany, _ =>
    planner.batchPredicate request (cased relation.aliasName) relation.batchKey
  | .batchedManyToMany, some junction =>
    planner.batchPredicate request (cased junction.aliasName) junction.batchKey
  | _, _ => none

/-- The condition that joins the relation to its junction, as far as a callback is asked for it. -/
def targetAnswer : Option String :=
  relation.junction.bind fun junction =>
    if planner.targetCall relation junction ∈ planner.attachingCalls relation request then
      relation.text? (planner.targetCall relation junction)
    else none

/-- What attaches a relation when nothing fails. -/
def attached : Attaching where
  predicate := planner.structuralPredicate relation request
  batchCondition :=
    if (relation.shape request.isRoot).isBatched then planner.structuralPredicate relation request
    else none
  targetCondition := planner.targetAnswer relation request

/-- What the filter of the junction answers. -/
def junctionFilterAnswer : Option String :=
  (planner.junctionFilterCall? relation request).bind relation.text?

/-- What the filter of the relation answers. -/
def filterAnswer : Option String :=
  (planner.filterCall? relation).bind relation.text?

end Planner

end RelationPaging
