import RelationPaging.Proofs.Planner.NormalForm
import RelationPaging.Proofs.Planner.Select

/-!
# Where the predicates of a plan come from

Planning adds nothing to the predicates but what a callback answers, the condition of a batch and
the condition of a cursor.  `Task.Answers` names the texts that the callbacks of a relation answer
when they are told the aliases of its task, and `Planner.EmitsSelect.origin` says that every
predicate is such a text or one of the two conditions.
-/

namespace RelationPaging

/-! ## Answers -/

/-- A text that some callback of the relation answers as a predicate when it is told the aliases of
the task: the join, the join of the junction to the parent, the filter of the junction, or the
filter. -/
inductive Task.Answers (task : Task) : String → Prop
  | join {join : JoinOn} {parent text : String} (hjoin : task.relation.join = some join)
      (hparent : task.aliases.parent = some parent)
      (h : join parent task.aliases.relation task.relation.arguments = .ok (some text)) :
      Answers task text
  | junctionJoin {junction : Junction} {joins : JunctionJoins} {parent text : String}
      (hjunction : task.junction = some junction) (hjoins : junction.joins = some joins)
      (hparent : task.aliases.parent = some parent)
      (h : joins.toJunction parent task.junctionAlias task.relation.arguments = .ok (some text)) :
      Answers task text
  | junctionFilter {junction : Junction} {filter : Filter} {aliasName text : String}
      (hjunction : task.junction = some junction) (hfilter : junction.filter = some filter)
      (halias : task.aliases.junction = some aliasName)
      (h : filter aliasName task.relation.arguments = .ok (some text)) : Answers task text
  | filter {filter : Filter} {text : String} (hfilter : task.relation.filter = some filter)
      (h : filter task.aliases.relation task.relation.arguments = .ok (some text)) :
      Answers task text

namespace Task

variable {task : Task} {text : String}

theorem answers_of_askFilter (h : task.askFilter.outcome = .ok (some text)) :
    task.Answers text := by
  unfold askFilter at h
  cases hfilter : task.relation.filter with
  | none =>
    rw [hfilter] at h
    cases h
  | some filter =>
    rw [hfilter] at h
    exact .filter hfilter (Planning.ask_outcome_eq_ok_iff.1 h)

theorem answers_of_askJunctionFilter
    (h : task.askJunctionFilter.outcome = .ok (some text)) : task.Answers text := by
  unfold askJunctionFilter at h
  cases hfilter : task.junction.bind (·.filter) with
  | none =>
    rw [hfilter] at h
    cases h
  | some filter =>
    obtain ⟨junction, hjunction, hjunctionFilter⟩ := Option.bind_eq_some_iff.1 hfilter
    rw [hfilter] at h
    cases halias : task.aliases.junction with
    | none =>
      rw [halias] at h
      cases h
    | some aliasName =>
      rw [halias] at h
      exact .junctionFilter hjunction hjunctionFilter halias (Planning.ask_outcome_eq_ok_iff.1 h)

end Task

/-! ## Attaching -/

namespace Planner

variable {planner : Planner} {relation : Relation} {request : Request} {text : String}

theorem exists_of_batchPredicate {aliasName : String} {key : Option BatchKey}
    (h : planner.batchPredicate request aliasName key = some text) :
    ∃ aliasName key scope, planner.dialect.batchCondition aliasName key scope = .ok text := by
  obtain ⟨scope, -, h⟩ := Option.bind_eq_some_iff.1 h
  obtain ⟨key, -, h⟩ := Option.bind_eq_some_iff.1 h
  exact ⟨_, _, scope, Except.toOption_eq_some_iff.1 h⟩

/-- What ties a relation to its parents is an answer of a callback or the condition of a batch. -/
theorem origin_of_structuralPredicate
    (h : planner.structuralPredicate relation request = some text) :
    (planner.task relation request).Answers text ∨
      ∃ aliasName key scope, planner.dialect.batchCondition aliasName key scope = .ok text := by
  unfold structuralPredicate at h
  split at h
  · obtain ⟨parent, hparent, htext⟩ := Option.bind_eq_some_iff.1 h
    obtain ⟨join, hjoin, hanswer⟩ := Option.map_eq_some_iff.1 (Relation.text?_eq_some_iff.1 htext)
    exact .inl (.join hjoin (by simp [task, hparent]) hanswer)
  · next junction hshape hjunction =>
    obtain ⟨parent, hparent, htext⟩ := Option.bind_eq_some_iff.1 h
    obtain ⟨joins, hjoins, hanswer⟩ :=
      Option.map_eq_some_iff.1 (Relation.text?_eq_some_iff.1 htext)
    have hmany : (relation.shape request.isRoot).isManyToMany = true := by rw [hshape]; rfl
    obtain ⟨_, hsame, hview, halias⟩ := planner.exists_junction hmany
    cases hsame.symm.trans hjunction
    rw [hjunction] at hjoins
    rw [← Task.junctionAlias_eq halias] at hanswer
    exact .inl (.junctionJoin hview hjoins (by simp [task, hparent]) hanswer)
  · exact .inr (exists_of_batchPredicate h)
  · exact .inr (exists_of_batchPredicate h)
  · cases h

end Planner

/-! ## Plans -/

namespace Planner

namespace EmitsSelect

variable {planner : Planner} {relation : Relation} {request : Request} {draft : Draft}
  {pagination : Pagination} {page : PageSelect} {text : String}

/-- A predicate of a plan is not blank, and it is an answer of a callback, the condition of a
batch, or the condition of the page. -/
theorem origin
    (h : planner.EmitsSelect relation request draft pagination page text) {predicate : String}
    (hpredicate : predicate ∈ draft.planned.predicates) :
    Text.isBlank predicate = false ∧
      ((planner.task relation request).Answers predicate ∨
        (∃ aliasName key scope,
          planner.dialect.batchCondition aliasName key scope = .ok predicate) ∨
        pagination.condition = some predicate) := by
  obtain ⟨stages, _, hstages, rfl, hpagination, _⟩ := h.emitted
  obtain ⟨hmem, hblank⟩ := Assembly.mem_contributions.1 hpredicate
  refine ⟨hblank, ?_⟩
  simp only [Stages.answers, List.mem_cons, List.not_mem_nil, or_false] at hmem
  rcases hmem with hattaching | hjunction | hfilter | hcondition
  · obtain ⟨-, hattached⟩ := planner.eq_attached_of_attach hstages.attach
    rw [hattached] at hattaching
    rcases origin_of_structuralPredicate hattaching.symm with hanswer | hbatch
    · exact .inl hanswer
    · exact .inr (.inl hbatch)
  · have hasked := hstages.junctionFilter
    rw [← hjunction] at hasked
    exact .inl (Task.answers_of_askJunctionFilter hasked)
  · have hasked := hstages.filter
    rw [← hfilter] at hasked
    exact .inl (Task.answers_of_askFilter hasked)
  · rw [hpagination] at hcondition
    exact .inr (.inr hcondition.symm)

end EmitsSelect

end Planner

end RelationPaging
