import RelationPaging.Relation

/-!
# Shapes of relations

How a relation is attached to what precedes it in the query follows from its shape, and the
shape follows from what the relation has: a relation without a parent is a root, a junction
makes it many-to-many, and a batch key makes it batched.  Which batch key counts depends on the
side: that of the junction for a many-to-many relation, that of the relation itself otherwise.
-/

namespace RelationPaging

/-- The five shapes. -/
inductive Shape where
  | root
  | joinedToMany
  | joinedManyToMany
  | batchedToMany
  | batchedManyToMany
  deriving DecidableEq, Repr

namespace Shape

/-- Whether the relation is loaded for many parents at once. -/
def isBatched : Shape → Bool
  | batchedToMany => true
  | batchedManyToMany => true
  | _ => false

/-- Whether the relation passes through a junction. -/
def isManyToMany : Shape → Bool
  | joinedManyToMany => true
  | batchedManyToMany => true
  | _ => false

/-- The words for a shape. -/
def text : Shape → String
  | root => "root"
  | joinedToMany => "joined one-to-many"
  | joinedManyToMany => "joined many-to-many"
  | batchedToMany => "batched one-to-many"
  | batchedManyToMany => "batched many-to-many"

theorem isBatched_iff {shape : Shape} :
    shape.isBatched = true ↔ shape = .batchedToMany ∨ shape = .batchedManyToMany := by
  cases shape <;> decide

end Shape

namespace Relation

/-- The shape of a relation. -/
def shape (relation : Relation) (isRoot : Bool) : Shape :=
  if isRoot then .root
  else
    match relation.junction with
    | some junction =>
      if junction.batchKey.isSome then .batchedManyToMany else .joinedManyToMany
    | none => if relation.batchKey.isSome then .batchedToMany else .joinedToMany

/-- Only a relation with a junction is many-to-many. -/
theorem junction_isSome_of_isManyToMany {relation : Relation} {isRoot : Bool}
    (h : (relation.shape isRoot).isManyToMany = true) : relation.junction.isSome = true := by
  unfold shape at h
  cases hj : relation.junction with
  | some _ => rfl
  | none =>
    rw [hj] at h
    cases isRoot <;> simp at h
    · split at h <;> simp [Shape.isManyToMany] at h
    · simp [Shape.isManyToMany] at h

end Relation

end RelationPaging
