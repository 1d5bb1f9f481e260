import RelationPaging.Planner

/-!
# Building a query step by step

A query grows by steps on one list of fragments: a fragment is pushed, a relation is planned,
or a subtree is built on a list of its own, which is then added as a whole.  A step that was
turned down before it could be taken is kept in its place and changes nothing, and a planning
step that fails does not end the session.
-/

namespace RelationPaging

/-- A step of a session.  `ε` is the type of reasons for which a step is turned down. -/
inductive Step (ε : Type) where
  | push (fragment : String)
  | plan (planner : Planner) (relation : Relation) (request : Request)
  | refused (reason : ε)
  | subtree (steps : List (Step ε))
  deriving Inhabited

/-- What is reported about a step: how it went, and the fragments after it. -/
inductive Report (ε : Type) where
  | pushed (after : Fragments)
  | planned (planning : Planning PlannedRelation) (after : Fragments)
  | refused (reason : ε) (after : Fragments)
  | subtree (inner : List (Report ε)) (after : Fragments)

namespace Session

variable {ε : Type}

mutual

/-- Takes a step. -/
def take (fragments : Fragments) : Step ε → Report ε × Fragments
  | .push fragment =>
    let after := fragments.push fragment
    (.pushed after, after)
  | .plan planner relation request =>
    let (planning, after) := planner.plan relation request fragments
    (.planned planning after, after)
  | .refused reason => (.refused reason fragments, fragments)
  | .subtree steps =>
    let (inner, built) := run .empty steps
    let after := fragments.append built.toList
    (.subtree inner after, after)
termination_by structural step => step

/-- Takes steps in order, with a report on each. -/
def run (fragments : Fragments) : List (Step ε) → List (Report ε) × Fragments
  | [] => ([], fragments)
  | step :: steps =>
    let (report, after) := take fragments step
    let (reports, final) := run after steps
    (report :: reports, final)
termination_by structural steps => steps

end

end Session

end RelationPaging
