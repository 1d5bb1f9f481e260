import RelationPaging.Proofs.Planner.Qualifier

/-!
# What a shape uses of a request

A request carries what the query around a relation provides, and this may be more than the relation
needs: the condition of a second join that a batched relation has no place for, or the scope of a
batch for a relation that is joined to one parent.  `Request.usedBy` is the part of a request that a
shape uses.  Nothing else in the request reaches the plan, a failure included, so that
`Planner.plan_eq_of_usedBy_eq` compares two requests with the same used part.

The used part of a request cannot stand in for the request itself, because the shape is read off the
request before anything is left out.  The tasks of this module therefore take the shape as given.
-/

namespace RelationPaging

/-- The part of a request that a shape uses.  A root uses nothing.  A joined relation uses the alias
of its parent and the condition of its join, and behind a junction also the condition of the second
join.  A batched relation uses its scope, and behind a junction also the condition that joins the
target to it. -/
def Request.usedBy (request : Request) : Shape → Request
  | .root => {}
  | .joinedToMany =>
    { parentAlias := request.parentAlias, joinCondition := request.joinCondition }
  | .joinedManyToMany =>
    { parentAlias := request.parentAlias
      joinCondition := request.joinCondition
      secondaryCondition := request.secondaryCondition }
  | .batchedToMany => { scope := request.scope }
  | .batchedManyToMany => { joinCondition := request.joinCondition, scope := request.scope }

namespace Planner

variable (planner : Planner) (relation : Relation) (shape : Shape) (request : Request)

/-- The task of planning a relation in a given shape. -/
def taskIn : Task :=
  let junction := relation.junction.filter fun _ => shape.isManyToMany
  let cased := planner.dialect.casing.apply
  { dialect := planner.dialect, relation, request, shape, junction
    aliases :=
      { relation := cased relation.aliasName
        junction := junction.map fun junction => cased junction.aliasName
        parent := request.parentAlias.map cased } }

theorem task_eq_taskIn :
    planner.task relation request =
      planner.taskIn relation (relation.shape request.isRoot) request :=
  rfl

/-! ## The steps of a planning

Each step reads the request where the shape tells it to, so that the five shapes are looked at one
by one.  The predicates, the order and the two filters do not depend on the request at all. -/

theorem attach_usedBy :
    (planner.taskIn relation shape (request.usedBy shape)).attach =
      (planner.taskIn relation shape request).attach := by
  cases shape with
  | root | joinedToMany | joinedManyToMany | batchedToMany | batchedManyToMany => rfl

theorem renderTemporary_usedBy :
    (planner.taskIn relation shape (request.usedBy shape)).renderTemporary =
      (planner.taskIn relation shape request).renderTemporary := by
  cases shape with
  | root | joinedToMany | joinedManyToMany | batchedToMany | batchedManyToMany => rfl

theorem attachment_usedBy (attaching : Attaching) :
    (planner.taskIn relation shape (request.usedBy shape)).attachment attaching =
      (planner.taskIn relation shape request).attachment attaching := by
  cases shape with
  | root | joinedToMany | joinedManyToMany | batchedToMany | batchedManyToMany => rfl

theorem renderTrailingJoin_usedBy (attaching : Attaching) :
    (planner.taskIn relation shape (request.usedBy shape)).renderTrailingJoin attaching =
      (planner.taskIn relation shape request).renderTrailingJoin attaching := by
  cases shape with
  | root | joinedToMany | joinedManyToMany | batchedToMany | batchedManyToMany => rfl

theorem renderSelect_usedBy (attaching : Attaching) (predicates : List String)
    (pagination : Option Pagination) :
    (planner.taskIn relation shape (request.usedBy shape)).renderSelect attaching predicates
        pagination =
      (planner.taskIn relation shape request).renderSelect attaching predicates pagination := by
  cases pagination with
  | none => rfl
  | some pagination =>
    simp only [Task.renderSelect, attachment_usedBy]
    rfl

theorem render_usedBy (attaching : Attaching) (predicates : List String)
    (pagination : Option Pagination) :
    (planner.taskIn relation shape (request.usedBy shape)).render attaching predicates pagination =
      (planner.taskIn relation shape request).render attaching predicates pagination := by
  simp only [Task.render, renderTemporary_usedBy, renderSelect_usedBy, renderTrailingJoin_usedBy]

theorem conclude_usedBy (declaration : Option Declaration) (attaching : Attaching)
    (junctionFilter filter : Option String) :
    (planner.taskIn relation shape (request.usedBy shape)).conclude declaration attaching
        junctionFilter filter =
      (planner.taskIn relation shape request).conclude declaration attaching junctionFilter
        filter := by
  simp only [Task.conclude, render_usedBy]
  rfl

/-- A run is that of the task with the used part of the request only. -/
theorem run_usedBy (declaration : Option Declaration) :
    (planner.taskIn relation shape (request.usedBy shape)).run declaration =
      (planner.taskIn relation shape request).run declaration := by
  simp only [Task.run, attach_usedBy, conclude_usedBy]
  rfl

variable {relation request} {request' : Request}

/-- A draft is the same for two requests that give the relation one shape and agree on what this
shape uses. -/
theorem draft_eq_of_usedBy_eq
    (hshape : relation.shape request.isRoot = relation.shape request'.isRoot)
    (hused : request.usedBy (relation.shape request.isRoot) =
      request'.usedBy (relation.shape request.isRoot)) :
    planner.draft relation request = planner.draft relation request' := by
  have hrun : (planner.task relation request).run relation.declaration? =
      (planner.task relation request').run relation.declaration? := by
    rw [task_eq_taskIn, task_eq_taskIn, ← run_usedBy, hused, hshape, run_usedBy]
  simp only [draft, hrun]

/-! ## Main result -/

/-- **Only the used part of a request reaches the plan.**  Take any dialect, any policy, and any
relation with its callbacks.  If two requests give the relation the same shape and agree on the
fields that this shape uses, then planning ends in the same plan or the same failure, asks the same
callbacks in the same order, and leaves the same fragments. -/
theorem plan_eq_of_usedBy_eq
    (hshape : relation.shape request.isRoot = relation.shape request'.isRoot)
    (hused : request.usedBy (relation.shape request.isRoot) =
      request'.usedBy (relation.shape request.isRoot)) (fragments : Fragments) :
    planner.plan relation request fragments = planner.plan relation request' fragments := by
  simp only [plan, planner.draft_eq_of_usedBy_eq hshape hused]

/-- The tags of several posts are asked for with an alias of a parent and the condition of a second
join, both of which a relation joined to one post would use. -/
def ofPostsAndMore : Request :=
  { ofPosts with parentAlias := some "p", secondaryCondition := some "FALSE" }

theorem plan_filteredTags_ofPostsAndMore :
    filteredTags.shape ofPosts.isRoot = filteredTags.shape ofPostsAndMore.isRoot ∧
      ofPosts.usedBy (filteredTags.shape ofPosts.isRoot) =
        ofPostsAndMore.usedBy (filteredTags.shape ofPosts.isRoot) ∧
      (standard .postgresql .upper .error).plan filteredTags ofPosts {} =
        (standard .postgresql .upper .error).plan filteredTags ofPostsAndMore {} :=
  ⟨by decide, by decide, plan_eq_of_usedBy_eq _ (by decide) (by decide) {}⟩

end Planner

end RelationPaging
