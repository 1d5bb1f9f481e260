import RelationPaging.Dialect
import RelationPaging.Fragments
import RelationPaging.Planning
import RelationPaging.Relation.Shape

/-!
# Planning a relation

Planning turns a relation and what the query around it provides into fragments.  It has two
halves.  First the callbacks are asked, in the order of the predicates: what joins the relation
to its parent, the filter of the junction, the filter of the relation.  Then, without asking
anyone, the arguments are interpreted and the fragments are rendered: the temporary table of a
batched relation, the select of the page, and the join that brings in the target of a batched
relation between many and many.

`Planner.plan` adds the fragments to those of the query, all of them or, when anything fails,
none.
-/

namespace RelationPaging

/-! ## Inputs and results -/

/-- What to do about a relation that declares neither a sort key nor an order. -/
inductive MissingPolicy where
  /-- Planning fails. -/
  | error
  /-- The select of the page is left out. -/
  | skip
  deriving DecidableEq, Repr

/-- What the query around a relation provides. -/
structure Request where
  parentAlias : Option String := none
  joinCondition : Option String := none
  secondaryCondition : Option String := none
  scope : Option BatchScope := none
  deriving DecidableEq, Repr

/-- A relation without a parent and without a batch is a root. -/
def Request.isRoot (request : Request) : Bool :=
  request.parentAlias.isNone && request.scope.isNone

/-- What planning says about a relation, besides its fragments.  Without a mode the relation is
not paged. -/
structure PlannedRelation where
  shape : Shape
  mode : Option PagingMode
  predicates : List String
  deriving DecidableEq, Repr

/-- A planned relation with its fragments. -/
structure Draft where
  planned : PlannedRelation
  fragments : List String
  deriving DecidableEq, Repr

/-- The aliases of the tables involved, in the casing of the dialect. -/
structure Aliases where
  relation : String
  junction : Option String
  parent : Option String
  deriving DecidableEq, Repr

/-- What joins a relation to what precedes it: the predicate for its rows, the condition on
which a batched select is attached, and the condition that joins the target to the junction, as
far as a callback was asked for it. -/
structure Attaching where
  predicate : Option String := none
  batchCondition : Option String := none
  targetCondition : Option String := none
  deriving DecidableEq, Repr

namespace Relation

/-- The relation's own table is joined in behind a junction when the relation filters or orders
by its own columns. -/
def needsOwnTable (relation : Relation) : Bool :=
  relation.filter.isSome || relation.orderBy.isSome

/-- The failure of a relation that lacks an input. -/
def lacks (relation : Relation) (what : MissingInput) : PlanError :=
  .missingInput relation.aliasName what

/-- An input that has to be there. -/
def require {α : Type} (relation : Relation) (what : MissingInput) (input : Option α) :
    Except PlanError α :=
  match input with
  | some value => .ok value
  | none => .error (relation.lacks what)

end Relation

/-- A batch key in the casing of a dialect. -/
def BatchKey.cased (key : BatchKey) (casing : Casing) : BatchKey :=
  ⟨casing.apply key.child, casing.apply key.parent⟩

/-- Plans relations for one dialect. -/
structure Planner where
  dialect : Dialect
  policy : MissingPolicy := .error

/-- One relation to be planned, with all that its planning looks at.  The junction is there for
relations between many and many only. -/
structure Task where
  dialect : Dialect
  relation : Relation
  request : Request
  shape : Shape
  junction : Option Junction
  aliases : Aliases

namespace Task

/-! ## Asking the callbacks -/

/-- Asks the join of a relation. -/
def askJoin (task : Task) (join : JoinOn) (parent : String) : Planning (Option String) :=
  .ask (.join parent task.aliases.relation)
    (join parent task.aliases.relation task.relation.arguments)

/-- Asks the join from the parent to the junction. -/
def askJunctionJoin (task : Task) (joins : JunctionJoins) (parent junction : String) :
    Planning (Option String) :=
  .ask (.junctionJoin parent junction) (joins.toJunction parent junction task.relation.arguments)

/-- Asks the join from the junction to the target. -/
def askTargetJoin (task : Task) (joins : JunctionJoins) (junction : String) :
    Planning (Option String) :=
  .ask (.targetJoin junction task.aliases.relation)
    (joins.toTarget junction task.aliases.relation task.relation.arguments)

/-- Asks the filter of the junction, if it has one. -/
def askJunctionFilter (task : Task) : Planning (Option String) :=
  match task.junction.bind (·.filter), task.aliases.junction with
  | some filter, some aliasName =>
    .ask (.junctionFilter aliasName) (filter aliasName task.relation.arguments)
  | _, _ => pure none

/-- Asks the filter of the relation, if it has one. -/
def askFilter (task : Task) : Planning (Option String) :=
  match task.relation.filter with
  | some filter =>
    .ask (.filter task.aliases.relation)
      (filter task.aliases.relation task.relation.arguments)
  | none => pure none

/-! ## Inputs by shape -/

/-- The alias of the parent, which a joined relation needs. -/
def parentAlias (task : Task) : Except PlanError String :=
  task.relation.require .parentAlias task.aliases.parent

/-- The condition on which a joined relation is attached. -/
def joinCondition (task : Task) : Except PlanError String :=
  task.relation.require .joinCondition task.request.joinCondition

/-- The joins of the junction. -/
def junctionJoins (task : Task) : Except PlanError JunctionJoins :=
  task.relation.require .junctionJoins (task.junction.bind (·.joins))

/-- The alias of the junction, or no text when there is no junction. -/
def junctionAlias (task : Task) : String :=
  task.aliases.junction.getD ""

/-- The scope and the batch key of a batched relation. -/
def batchInputs (task : Task) : Except PlanError (BatchScope × BatchKey) := do
  let scope ← task.relation.require .batchScope task.request.scope
  let key ← task.relation.require .batchKey <|
    match task.shape with
    | .batchedManyToMany => task.junction.bind (·.batchKey)
    | _ => task.relation.batchKey
  return (scope, key)

/-! ## Attaching the relation -/

/-- Attaches a relation that is joined to its parent. -/
def attachJoined (task : Task) : Planning Attaching := do
  let parent ← .ofExcept task.parentAlias
  let _ ← .ofExcept task.joinCondition
  let join ← .ofExcept (task.relation.require .join task.relation.join)
  let predicate ← task.askJoin join parent
  return { predicate }

/-- Attaches a junction that is joined to the parent.  The join to the target is asked for when
the relation's own table is needed and the request has no condition for it. -/
def attachJunction (task : Task) : Planning Attaching := do
  let parent ← .ofExcept task.parentAlias
  let _ ← .ofExcept task.joinCondition
  let joins ← .ofExcept task.junctionJoins
  let predicate ← task.askJunctionJoin joins parent task.junctionAlias
  let targetCondition ←
    if task.relation.needsOwnTable && task.request.secondaryCondition.isNone then
      task.askTargetJoin joins task.junctionAlias
    else pure none
  return { predicate, targetCondition }

/-- The condition under which the rows of an alias belong to the parents of a batch. -/
def batchCondition (task : Task) (aliasName : String) : Except PlanError String := do
  let (scope, key) ← task.batchInputs
  let _ ← scope.validate.mapError (.batchScope task.relation.aliasName)
  task.dialect.batchCondition aliasName (key.cased task.dialect.casing) scope

/-- Attaches a relation to the temporary table of a batch. -/
def attachBatched (task : Task) : Planning Attaching := do
  let condition ← .ofExcept (task.batchCondition task.aliases.relation)
  return { predicate := some condition, batchCondition := some condition }

/-- Attaches a junction to the temporary table of a batch.  The join to the target is asked for
when the request has no condition for it. -/
def attachBatchedJunction (task : Task) : Planning Attaching := do
  let condition ← .ofExcept (task.batchCondition task.junctionAlias)
  let targetCondition ←
    if task.request.joinCondition.isNone then do
      let joins ← .ofExcept task.junctionJoins
      task.askTargetJoin joins task.junctionAlias
    else pure none
  return { predicate := some condition, batchCondition := some condition, targetCondition }

/-- Attaches a relation in the way of its shape. -/
def attach (task : Task) : Planning Attaching :=
  match task.shape with
  | .root => pure {}
  | .joinedToMany => task.attachJoined
  | .joinedManyToMany => task.attachJunction
  | .batchedToMany => task.attachBatched
  | .batchedManyToMany => task.attachBatchedJunction

/-! ## Rendering -/

/-- The join that brings in the relation's own table behind a junction, if it is needed. -/
def ownTable (task : Task) (condition : Option String) : Except PlanError (Option ExtraJoin) :=
  if task.relation.needsOwnTable then do
    let condition ← task.relation.require .ownTableCondition condition
    return some ⟨task.relation.table, task.aliases.relation, condition⟩
  else return none

/-- How the select of the page is attached to what precedes it. -/
def attachment (task : Task) (attaching : Attaching) : Except PlanError (Option Attachment) :=
  match task.shape with
  | .root => return none
  | .joinedToMany => do
    let condition ← task.joinCondition
    return some ⟨.left, condition, none⟩
  | .joinedManyToMany => do
    let extra ← task.ownTable (task.request.secondaryCondition <|> attaching.targetCondition)
    let condition ← task.joinCondition
    return some ⟨.left, condition, extra⟩
  | .batchedToMany => do
    let condition ← task.relation.require .batchCondition attaching.batchCondition
    return some ⟨.inner, condition, none⟩
  | .batchedManyToMany => do
    let extra ← task.ownTable (task.request.joinCondition <|> attaching.targetCondition)
    let condition ← task.relation.require .batchCondition attaching.batchCondition
    return some ⟨.left, condition, extra⟩

/-- The temporary table of a batched relation. -/
def renderTemporary (task : Task) : Except PlanError (List String) :=
  if task.shape.isBatched then do
    let (scope, key) ← task.batchInputs
    let table ← task.dialect.temporary scope (task.dialect.casing.apply key.parent)
    return [table]
  else return []

/-- The table that the page is read from and its alias: those of the junction if there is one. -/
def source (task : Task) : String × String :=
  match task.junction, task.aliases.junction with
  | some junction, some aliasName => (junction.table, aliasName)
  | _, _ => (task.relation.table, task.aliases.relation)

/-- The select of the page, if the relation is paged. -/
def renderSelect (task : Task) (attaching : Attaching) (predicates : List String)
    (pagination : Option Pagination) : Except PlanError (List String) :=
  match pagination with
  | none => return []
  | some pagination => do
    let attachment ← task.attachment attaching
    let (table, aliasName) := task.source
    let select ← task.dialect.pageSelect table aliasName predicates pagination attachment
    return [select]

/-- The join that brings in the target of a batched relation between many and many. -/
def renderTrailingJoin (task : Task) (attaching : Attaching) : Except PlanError (List String) :=
  if task.shape = .batchedManyToMany then do
    let condition ← task.relation.require .targetCondition
      (task.request.joinCondition <|> attaching.targetCondition)
    return [task.dialect.trailingJoin task.relation.table task.aliases.relation condition]
  else return []

/-- The fragments of the relation in order. -/
def render (task : Task) (attaching : Attaching) (predicates : List String)
    (pagination : Option Pagination) : Except PlanError (List String) := do
  let temporary ← task.renderTemporary
  let select ← task.renderSelect attaching predicates pagination
  let trailing ← task.renderTrailingJoin attaching
  return temporary ++ select ++ trailing

/-! ## Putting the halves together -/

/-- The decision on the page by the declaration, if there is one. -/
def paginate (task : Task) (declaration : Option Declaration) :
    Except PlanError (Option Pagination) :=
  match declaration with
  | none => return none
  | some declaration => do
    let pagination ← task.dialect.paginate task.relation declaration task.aliases.relation
      task.aliases.junction
    return some pagination

/-- The predicates of the relation, assembled in their order. -/
def assemble (attaching : Attaching) (junctionFilter filter condition : Option String) :
    Except PlanError (List String) :=
  Except.mapError .outOfOrder do
    let (outcome, assembly) := ({} : Assembly).structural [attaching.predicate]
    outcome
    let (outcome, assembly) := assembly.junctionFilter junctionFilter
    outcome
    let (outcome, assembly) := assembly.relationFilter filter
    outcome
    let (outcome, assembly) := assembly.pagination condition
    outcome
    assembly.finish

/-- The second half: everything after the last callback has answered. -/
def conclude (task : Task) (declaration : Option Declaration) (attaching : Attaching)
    (junctionFilter filter : Option String) : Except PlanError Draft := do
  let pagination ← task.paginate declaration
  let predicates ← assemble attaching junctionFilter filter (pagination.bind (·.condition))
  let fragments ← task.render attaching predicates pagination
  return ⟨⟨task.shape, pagination.map (·.mode), predicates⟩, fragments⟩

/-- Both halves. -/
def run (task : Task) (declaration : Option Declaration) : Planning Draft := do
  let attaching ← task.attach
  let junctionFilter ← task.askJunctionFilter
  let filter ← task.askFilter
  .ofExcept (task.conclude declaration attaching junctionFilter filter)

end Task

namespace Planner

/-- The task of planning a relation. -/
def task (planner : Planner) (relation : Relation) (request : Request) : Task :=
  let shape := relation.shape request.isRoot
  let junction := relation.junction.filter fun _ => shape.isManyToMany
  let cased := planner.dialect.casing.apply
  { dialect := planner.dialect, relation, request, shape, junction
    aliases :=
      { relation := cased relation.aliasName
        junction := junction.map fun junction => cased junction.aliasName
        parent := request.parentAlias.map cased } }

/-- Plans a relation without adding its fragments to a query. -/
def draft (planner : Planner) (relation : Relation) (request : Request) : Planning Draft :=
  let declaration := relation.declaration?
  if declaration.isNone && planner.policy = .error then
    .fail (.missingPagination relation.aliasName)
  else (planner.task relation request).run declaration

/-- Plans a relation and adds its fragments to those of a query.  When planning fails, the
fragments of the query are left as they were. -/
def plan (planner : Planner) (relation : Relation) (request : Request) (fragments : Fragments) :
    Planning PlannedRelation × Fragments :=
  let drafted := planner.draft relation request
  match drafted.outcome with
  | .ok draft => (⟨.ok draft.planned, drafted.calls⟩, fragments.append draft.fragments)
  | .error error => (⟨.error error, drafted.calls⟩, fragments)

end Planner

end RelationPaging
