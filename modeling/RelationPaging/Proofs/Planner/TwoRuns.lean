import RelationPaging.Proofs.Alike
import RelationPaging.Proofs.Planner.Course

/-!
# Two plannings side by side

Two plannings come out alike when they check their inputs alike, expect the same calls, get the same
answers, and put these together alike.  This is the normal form of planning read twice: whatever
sets two plannings apart, a dialect or a way of spelling, has to be followed through the check of
the inputs and through the second half only.
-/

namespace RelationPaging.Planner

variable {planner planner' : Planner} {relation relation' : Relation} {request request' : Request}
  {E : PlanError → PlanError → Prop} {S : Draft → Draft → Prop}

/-- **Plannings that come out alike.** -/
theorem draft_alike (hadmits : planner.Admits relation ↔ planner'.Admits relation')
    (hundeclared : E (.missingPagination relation.aliasName)
      (.missingPagination relation'.aliasName))
    (hneeds : Except.Alike E (fun _ _ => True) (planner.task relation request).needs
      (planner'.task relation' request').needs)
    (hcalls : planner.expectedCalls relation request = planner'.expectedCalls relation' request')
    (hanswer : ∀ call, relation.answer? call = relation'.answer? call)
    (hcallback : ∀ call reason, E (.callback call reason) (.callback call reason))
    (hconclude : planner.HasInputs relation request → planner'.HasInputs relation' request' →
      Except.Alike E S
        ((planner.task relation request).conclude relation.declaration?
          (planner.attached relation request) (planner.junctionFilterAnswer relation request)
          (planner.filterAnswer relation))
        ((planner'.task relation' request').conclude relation'.declaration?
          (planner'.attached relation' request') (planner'.junctionFilterAnswer relation' request')
          (planner'.filterAnswer relation'))) :
    Planning.Alike E S (planner.draft relation request) (planner'.draft relation' request') := by
  by_cases h : planner.Admits relation
  · -- the inputs, the calls and the second half, one after the other in both runs
    rw [draft_eq_of_admits h, draft_eq_of_admits (hadmits.1 h), Task.run_eq_asked,
      Task.run_eq_asked, asked_eq, asked_eq]
    simp only [bind_assoc, pure_bind]
    have hneeds := hneeds.imp fun _ _ hok hok' _ =>
      And.intro (planner.needs_eq_ok_iff.1 hok) (planner'.needs_eq_ok_iff.1 hok')
    refine (Planning.alike_ofExcept hneeds).bind fun _ _ ⟨hinputs, hinputs'⟩ => ?_
    rw [← hcalls]
    refine (Planning.alike_askAll hanswer hcallback _).bind fun _ _ _ => ?_
    exact Planning.alike_ofExcept (hconclude hinputs hinputs')
  · rw [draft_eq_of_not_admits h, draft_eq_of_not_admits (mt hadmits.2 h)]
    exact Planning.alike_ofExcept (.error hundeclared)

end RelationPaging.Planner
