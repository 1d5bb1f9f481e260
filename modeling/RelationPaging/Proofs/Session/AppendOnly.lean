import RelationPaging.Proofs.Planner.Qualifier
import RelationPaging.Session

/-!
# Sessions only append

The fragments of a query are a list that planning extends and never rewrites.  Planning one
relation is atomic: it adds all fragments of the relation, in their order, or, after any failure,
none; what it adds does not depend on what was there before (`Planner.exists_plan_eq_append`).

It follows that a subtree, which is built on a list of its own, might as well have been built in
place.  `Step.inlined` opens the subtrees of a step, to any depth, and a session leaves the same
fragments behind as the session of its inlined steps.  The invariant that carries the induction
is `Session.exists_take_eq_append`: what a step adds is fixed before the step is taken.
-/

namespace RelationPaging

namespace Fragments

@[simp] theorem append_nil (fragments : Fragments) : fragments.append [] = fragments := by
  simp [append]

@[simp] theorem append_append (fragments : Fragments) (more others : List String) :
    (fragments.append more).append others = fragments.append (more ++ others) := by
  simp [append]

@[simp] theorem empty_append (fragments : List String) :
    (empty.append fragments).toList = fragments := by
  simp

end Fragments

/-! ## Planning one relation -/

namespace Planner

variable (planner : Planner) (relation : Relation) (request : Request)

/-- Planning adds a list of fragments that does not depend on the ones there are. -/
theorem exists_plan_eq_append :
    ∃ added, ∀ fragments : Fragments,
      (planner.plan relation request fragments).2 = fragments.append added := by
  cases h : (planner.draft relation request).outcome with
  | error error => exact ⟨[], fun fragments => by simp [plan_of_error _ _ _ h]⟩
  | ok draft => exact ⟨draft.fragments, fun fragments => by rw [plan_of_ok _ _ _ h]⟩

end Planner

/-! ## Opening subtrees -/

namespace Step

variable {ε : Type}

/-- Whether a step builds a subtree. -/
def isSubtree : Step ε → Bool
  | .subtree _ => true
  | _ => false

mutual

/-- A step with its subtrees opened: the steps that are taken in its place. -/
def inlined : Step ε → List (Step ε)
  | .push fragment => [.push fragment]
  | .plan planner relation request => [.plan planner relation request]
  | .refused reason => [.refused reason]
  | .subtree steps => inlinedAll steps
termination_by structural step => step

/-- Steps with the subtrees of all of them opened. -/
def inlinedAll : List (Step ε) → List (Step ε)
  | [] => []
  | step :: steps => inlined step ++ inlinedAll steps
termination_by structural steps => steps

end

mutual

/-- Among the steps taken in place of a step there is no subtree. -/
theorem isSubtree_of_mem_inlined (step : Step ε) :
    ∀ inner ∈ inlined step, inner.isSubtree = false := by
  cases step with
  | push fragment => simp [inlined, isSubtree]
  | plan planner relation request => simp [inlined, isSubtree]
  | refused reason => simp [inlined, isSubtree]
  | subtree steps => exact isSubtree_of_mem_inlinedAll steps

theorem isSubtree_of_mem_inlinedAll (steps : List (Step ε)) :
    ∀ inner ∈ inlinedAll steps, inner.isSubtree = false := by
  cases steps with
  | nil => simp [inlinedAll]
  | cons step steps =>
    intro inner h
    rcases List.mem_append.1 h with h | h
    · exact isSubtree_of_mem_inlined step inner h
    · exact isSubtree_of_mem_inlinedAll steps inner h

end

end Step

/-! ## Sessions -/

namespace Session

variable {ε : Type}

theorem run_append (fragments : Fragments) (steps others : List (Step ε)) :
    (run fragments (steps ++ others)).2 = (run (run fragments steps).2 others).2 := by
  induction steps generalizing fragments with
  | nil => rfl
  | cons step steps ih => exact ih (take fragments step).2

mutual

/-- A step adds a list of fragments that does not depend on the ones there are. -/
theorem exists_take_eq_append (step : Step ε) :
    ∃ added, ∀ fragments : Fragments, (take fragments step).2 = fragments.append added := by
  cases step with
  | push fragment => exact ⟨[fragment], fun _ => rfl⟩
  | plan planner relation request => exact planner.exists_plan_eq_append relation request
  | refused reason => exact ⟨[], fun fragments => by simp [take]⟩
  | subtree steps => exact ⟨(run .empty steps).2.toList, fun _ => rfl⟩

theorem exists_run_eq_append (steps : List (Step ε)) :
    ∃ added, ∀ fragments : Fragments, (run fragments steps).2 = fragments.append added := by
  cases steps with
  | nil => exact ⟨[], fun fragments => by simp [run]⟩
  | cons step steps =>
    obtain ⟨first, hfirst⟩ := exists_take_eq_append step
    obtain ⟨rest, hrest⟩ := exists_run_eq_append steps
    refine ⟨first ++ rest, fun fragments => ?_⟩
    calc (run fragments (step :: steps)).2
        = (run (take fragments step).2 steps).2 := rfl
      _ = (fragments.append first).append rest := by rw [hfirst, hrest]
      _ = fragments.append (first ++ rest) := Fragments.append_append ..

end

/-- A subtree might as well have been built in place. -/
theorem take_subtree (fragments : Fragments) (steps : List (Step ε)) :
    (take fragments (.subtree steps)).2 = (run fragments steps).2 := by
  obtain ⟨added, hadded⟩ := exists_run_eq_append steps
  calc (take fragments (.subtree steps)).2
      = fragments.append (run .empty steps).2.toList := rfl
    _ = fragments.append added := by rw [hadded, Fragments.empty_append]
    _ = (run fragments steps).2 := (hadded fragments).symm

mutual

theorem take_eq_run_inlined (fragments : Fragments) (step : Step ε) :
    (take fragments step).2 = (run fragments step.inlined).2 := by
  cases step with
  | push fragment => rfl
  | plan planner relation request => rfl
  | refused reason => rfl
  | subtree steps => rw [take_subtree, Step.inlined, run_eq_run_inlinedAll fragments steps]

theorem run_eq_run_inlinedAll (fragments : Fragments) (steps : List (Step ε)) :
    (run fragments steps).2 = (run fragments (Step.inlinedAll steps)).2 := by
  cases steps with
  | nil => rfl
  | cons step steps =>
    calc (run fragments (step :: steps)).2
        = (run (take fragments step).2 steps).2 := rfl
      _ = (run (run fragments step.inlined).2 (Step.inlinedAll steps)).2 := by
          rw [take_eq_run_inlined fragments step, run_eq_run_inlinedAll _ steps]
      _ = (run fragments (Step.inlinedAll (step :: steps))).2 := by
          rw [Step.inlinedAll, run_append]

end

/-- **Planning is atomic and sessions only append.**  Planning a relation leaves the fragments as
they were when it fails.  When it succeeds it adds the fragments of its stages: the temporary
table of a batched relation, one select if there is a declaration, and the trailing join of a
batched relation between many and many.  Neither the result nor what is added depends on the
fragments there were.  Hence a session, whatever fails in it and however deep its subtrees are,
leaves the fragments that its steps leave when they are taken in place. -/
theorem plan_atomic_and_run_eq_inlined :
    (∀ (planner : Planner) (relation : Relation) (request : Request),
      (∃ error calls, ∀ fragments,
        planner.plan relation request fragments = (⟨.error error, calls⟩, fragments)) ∨
      ∃ calls stages,
        (planner.task relation request).Passes relation.declaration? stages ∧
        (∀ fragments, planner.plan relation request fragments =
          (⟨.ok (stages.draft (relation.shape request.isRoot)).planned, calls⟩,
            fragments.append stages.emission.toList)) ∧
        (stages.emission.temporary.isSome ↔ (relation.shape request.isRoot).isBatched) ∧
        (stages.emission.select.isSome ↔ relation.declaration?.isSome) ∧
        (stages.emission.trailing.isSome ↔
          relation.shape request.isRoot = .batchedManyToMany)) ∧
    ∀ (ε : Type) (steps : List (Step ε)) (fragments : Fragments),
      (∀ step ∈ Step.inlinedAll steps, step.isSubtree = false) ∧
      (run fragments steps).2 = (run fragments (Step.inlinedAll steps)).2 := by
  refine ⟨fun planner relation request => ?_, fun ε steps fragments =>
    ⟨Step.isSubtree_of_mem_inlinedAll steps, run_eq_run_inlinedAll fragments steps⟩⟩
  cases h : (planner.draft relation request).outcome with
  | error error => exact .inl ⟨error, _, planner.plan_of_error relation request h⟩
  | ok draft =>
    obtain ⟨-, stages, hstages, rfl⟩ := Planner.draft_outcome_eq_ok_iff.1 h
    refine .inr ⟨_, stages, hstages, planner.plan_of_ok relation request h, ?_, ?_, ?_⟩
    · rw [hstages.temporary.isSome_eq]
      rfl
    · rw [hstages.select.isSome_eq, Task.isSome_of_paginate hstages.paginate]
    · rw [hstages.trailing.isSome_eq, decide_eq_true_iff]
      rfl

/-- The tags of several posts whose keys are of two kinds. -/
def ofMixedPosts : Request :=
  { Planner.ofPosts with scope := some ⟨[.text "a", .integer 1]⟩ }

/-- The filtered tags of several posts, planned after a subtree in a subtree has tried the keys of
two kinds. -/
def tagsOfPosts : List (Step String) :=
  [.push "SELECT *",
    .subtree [.subtree [.plan (.standard .db2 .upper .error) Planner.filteredTags ofMixedPosts]],
    .plan (.standard .db2 .upper .error) Planner.filteredTags Planner.ofPosts]

/-- Keys of two kinds are refused and leave nothing behind.  The plan after them adds the temporary
table, the select and the trailing join. -/
theorem run_tagsOfPosts :
    (∃ error calls, ∀ fragments,
      (Planner.standard .db2 .upper .error).plan Planner.filteredTags ofMixedPosts fragments =
        (⟨.error error, calls⟩, fragments)) ∧
    ∃ temporary select trailing,
      Planner.filteredTagsDraft.fragments = [temporary, select, trailing] ∧
      (run .empty tagsOfPosts).2.toList = ["SELECT *", temporary, select, trailing] := by
  obtain ⟨hplanning, hinlined⟩ := plan_atomic_and_run_eq_inlined
  have hrefused : ∃ error calls, ∀ fragments,
      (Planner.standard .db2 .upper .error).plan Planner.filteredTags ofMixedPosts fragments =
        (⟨.error error, calls⟩, fragments) := by
    refine (hplanning _ _ _).resolve_right ?_
    rintro ⟨calls, stages, -, hplan, -⟩
    have hmixed : ((Planner.standard .db2 .upper .error).plan Planner.filteredTags ofMixedPosts
        .empty).1.outcome.toOption = none := by decide +kernel
    rw [hplan] at hmixed
    cases hmixed
  refine ⟨hrefused, ?_⟩
  rcases hplanning (.standard .db2 .upper .error) Planner.filteredTags Planner.ofPosts with
    ⟨error, calls, hplan⟩ | ⟨calls, stages, -, hplan, htemporary, hselect, htrailing⟩
  · have hplanned := Planner.plan_filteredTags .empty
    rw [hplan] at hplanned
    cases hplanned
  obtain ⟨temporary, htemporary⟩ := Option.isSome_iff_exists.1 (htemporary.2 rfl)
  obtain ⟨select, hselect⟩ := Option.isSome_iff_exists.1 (hselect.2 rfl)
  obtain ⟨trailing, htrailing⟩ := Option.isSome_iff_exists.1 (htrailing.2 rfl)
  have hemission : stages.emission.toList = [temporary, select, trailing] := by
    simp [Emission.toList, htemporary, hselect, htrailing]
  refine ⟨temporary, select, trailing, ?_, ?_⟩
  · have hfragments := congrArg (·.2.toList) (hplan .empty)
    rw [Planner.plan_of_ok _ _ _ Planner.draft_filteredTags, hemission] at hfragments
    simpa using hfragments
  · obtain ⟨error, refusedCalls, hrefused⟩ := hrefused
    have hinline : (run .empty tagsOfPosts).2 =
        ((Planner.standard .db2 .upper .error).plan Planner.filteredTags Planner.ofPosts
          ((Planner.standard .db2 .upper .error).plan Planner.filteredTags ofMixedPosts
            (.push .empty "SELECT *")).2).2 :=
      (hinlined _ tagsOfPosts .empty).2
    rw [hinline, hrefused, hplan, hemission]
    rfl

end Session

end RelationPaging
