import RelationPaging.Proofs.Planner.Predicates

/-!
# The predicates of the dialect and those of the callbacks

Planning writes two predicates itself: the condition of a batch and the condition of a cursor.  All
others are answers of callbacks.  The sources of the predicates keep them in a fixed order, so that
the condition of the batch comes first, the condition of the cursor comes last, and what stands
between them can be read off the log of calls (`Planner.predicates_eq_contributions`).

With a built-in dialect the two conditions are never blank.  Whether they are among the predicates
is therefore settled before they are written.
-/

namespace RelationPaging

namespace Assembly

theorem isVisible_iff {text : String} : IsVisible text ↔ Text.isBlank text = false := by
  rw [IsVisible, Text.isBlank, List.all_eq_false]
  simp only [Bool.not_eq_true]

theorem isVisible_append_iff {s t : String} :
    IsVisible (s ++ t) ↔ IsVisible s ∨ IsVisible t := by
  simp only [IsVisible, String.toList_append, List.mem_append, or_and_right, exists_or]

end Assembly

open Assembly (IsVisible isVisible_iff isVisible_append_iff)

/-! ## Conditions are visible -/

/-- A condition that compares anything is written with a sign. -/
theorem Condition.isVisible_render {condition : Condition} (h : condition ≠ .blank)
    (reference : String → String) : IsVisible (condition.render reference) := by
  have hopening : IsVisible "(" := isVisible_iff.2 (by decide)
  cases condition with
  | blank => exact absurd rfl h
  | compare column comparison value =>
    have hsymbol : IsVisible comparison.symbol :=
      isVisible_iff.2 (by cases comparison <;> decide)
    simp only [render, isVisible_append_iff, hsymbol, true_or, or_true]
  | compareRows columns comparison values =>
    have hsymbol : IsVisible comparison.symbol :=
      isVisible_iff.2 (by cases comparison <;> decide)
    simp only [render, isVisible_append_iff, hsymbol, true_or, or_true]
  | both left right => simp only [render, isVisible_append_iff, hopening, true_or]
  | either left right => simp only [render, isVisible_append_iff, hopening, true_or]

theorem Condition.after_ne_blank {columns : List String} {values : List Scalar}
    (hne : columns ≠ []) (hlength : values.length = columns.length)
    (comparesRows descending : Bool) :
    after comparesRows columns values descending ≠ .blank := by
  obtain ⟨column, columns, rfl⟩ := List.exists_cons_of_ne_nil hne
  obtain ⟨value, values, rfl⟩ := List.exists_cons_of_length_eq_add_one hlength
  cases comparesRows with
  | true => rintro ⟨⟩
  | false =>
    cases columns with
    | nil =>
      rw [List.length_eq_zero_iff.1 (Nat.succ.inj hlength)]
      rintro ⟨⟩
    | cons next columns => rintro ⟨⟩

/-- A built-in dialect writes a condition for every batch, and it is not blank. -/
theorem Dialect.isVisible_batchCondition {name : DialectName} {casing : Casing}
    {aliasName condition : String} {key : BatchKey} {scope : BatchScope}
    (h : (standard name casing).batchCondition aliasName key scope = .ok condition) :
    IsVisible condition := by
  unfold batchCondition at h
  split at h
  · cases h
    cases name with
    | postgresql | mysql => exact isVisible_iff.2 (by decide : Text.isBlank "FALSE" = false)
    | db2 => exact isVisible_iff.2 (by decide : Text.isBlank "1 = 0" = false)
  · obtain ⟨operand, -, h⟩ := Except.bind_eq_ok_iff.1 h
    cases h
    have hequals : IsVisible " = " := isVisible_iff.2 (by decide)
    simp only [isVisible_append_iff, hequals, or_true, true_or]

/-- So is the condition of a cursor. -/
theorem Spelling.isVisible_of_keysetPaging {s : Spelling} {target : PagingTarget}
    {paging : KeysetPaging} (h : s.keysetPaging target = .ok paging) :
    ∀ text ∈ paging.condition, IsVisible text := by
  intro text htext
  obtain ⟨values, descending, hne, hlength, rfl⟩ :=
    (qualifiedBy_of_keysetPaging h).condition text htext
  refine Condition.isVisible_render (Condition.after_ne_blank ?_ ?_ _ _) _
  · exact fun hnil => hne (List.map_eq_nil_iff.1 hnil)
  · rw [hlength, List.length_map]

/-! ## Answers to a list of calls -/

/-- Whether a call asks for a predicate.  The join from a junction to the relation answers the
condition of a join instead. -/
def Invocation.asksPredicate : Invocation → Bool
  | targetJoin .. => false
  | _ => true

/-- The predicates that the callbacks of a relation answer to a list of calls, in their order and
without the blank ones. -/
def Relation.answeredPredicates (relation : Relation) (calls : List Invocation) : List String :=
  ((calls.filter (·.asksPredicate)).filterMap relation.text?).filter (IsVisible ·)

section

variable {relation : Relation}

@[simp] theorem Relation.answeredPredicates_nil : relation.answeredPredicates [] = [] := rfl

theorem Relation.answeredPredicates_append (calls others : List Invocation) :
    relation.answeredPredicates (calls ++ others) =
      relation.answeredPredicates calls ++ relation.answeredPredicates others := by
  simp only [answeredPredicates, List.filter_append, List.filterMap_append]

/-- At most one call for a predicate contributes its answer, unless it is blank. -/
theorem Relation.answeredPredicates_toList {call? : Option Invocation}
    (h : ∀ call ∈ call?, call.asksPredicate = true) :
    relation.answeredPredicates call?.toList =
      (call?.bind relation.text?).toList.filter (IsVisible ·) := by
  cases call? with
  | none => rfl
  | some call =>
    cases htext : relation.text? call <;>
      simp [answeredPredicates, h call rfl, htext]

end

namespace Planner

variable (planner : Planner) {relation : Relation} {request : Request}

/-- What the calls that attach a relation contribute is the predicate that ties it to its parent,
unless the relation is batched. -/
theorem answeredPredicates_attachingCalls
    (h : (relation.shape request.isRoot).isBatched = false) :
    relation.answeredPredicates (planner.attachingCalls relation request) =
      (planner.structuralPredicate relation request).toList.filter (IsVisible ·) := by
  have hparent : ∀ call : String → Invocation, (∀ parent, (call parent).asksPredicate = true) →
      relation.answeredPredicates (request.parentAlias.map call).toList =
        (request.parentAlias.bind fun parent => relation.text? (call parent)).toList.filter
          (IsVisible ·) := by
    intro call hasks
    rw [Relation.answeredPredicates_toList fun _ hcall => ?_, Option.bind_map]
    · rfl
    · obtain ⟨parent, -, rfl⟩ := Option.map_eq_some_iff.1 hcall
      exact hasks parent
  cases hshape : relation.shape request.isRoot with
  | root => simp only [attachingCalls, structuralPredicate, hshape]; rfl
  | joinedToMany =>
    simp only [attachingCalls, structuralPredicate, hshape]
    exact hparent _ fun _ => rfl
  | joinedManyToMany =>
    have hmany : (relation.shape request.isRoot).isManyToMany = true := by rw [hshape]; rfl
    obtain ⟨junction, hjunction, -⟩ := planner.exists_junction hmany
    simp only [attachingCalls, structuralPredicate, hshape, hjunction]
    rw [Relation.answeredPredicates_append, hparent _ fun _ => rfl]
    -- the join to the target is asked for as well, but not for a predicate
    split <;> exact List.append_nil _
  | batchedToMany | batchedManyToMany => simp [hshape, Shape.isBatched] at h

/-- The calls that attach a batched relation contribute nothing. -/
theorem answeredPredicates_attachingCalls_of_isBatched
    (h : (relation.shape request.isRoot).isBatched = true) :
    relation.answeredPredicates (planner.attachingCalls relation request) = [] := by
  rcases Shape.isBatched_iff.1 h with hshape | hshape
  · simp only [attachingCalls, hshape]
    rfl
  · have hmany : (relation.shape request.isRoot).isManyToMany = true := by rw [hshape]; rfl
    obtain ⟨junction, hjunction, -⟩ := planner.exists_junction hmany
    simp only [attachingCalls, hshape, hjunction]
    split <;> rfl

/-- The two filters contribute what they answer. -/
theorem answeredPredicates_filterCalls :
    relation.answeredPredicates ((planner.junctionFilterCall? relation request).toList
        ++ (planner.filterCall? relation).toList) =
      [planner.junctionFilterAnswer relation request,
        planner.filterAnswer relation].reduceOption.filter (IsVisible ·) := by
  have hjunction : ∀ call ∈ planner.junctionFilterCall? relation request,
      call.asksPredicate = true := by
    intro call hcall
    unfold junctionFilterCall? at hcall
    split at hcall
    · obtain ⟨_, -, hcall⟩ := Option.bind_eq_some_iff.1 hcall
      obtain ⟨_, -, rfl⟩ := Option.map_eq_some_iff.1 hcall
      rfl
    · cases hcall
  have hfilter : ∀ call ∈ planner.filterCall? relation, call.asksPredicate = true := by
    intro call hcall
    obtain ⟨_, -, rfl⟩ := Option.map_eq_some_iff.1 hcall
    rfl
  rw [Relation.answeredPredicates_append, Relation.answeredPredicates_toList hjunction,
    Relation.answeredPredicates_toList hfilter, ← List.filter_append]
  unfold junctionFilterAnswer filterAnswer
  cases (planner.junctionFilterCall? relation request).bind relation.text? <;>
    cases (planner.filterCall? relation).bind relation.text? <;> rfl

variable {planner} {name : DialectName} {casing : Casing} {policy : MissingPolicy} {draft : Draft}

/-- The condition of a cursor is not blank. -/
theorem isVisible_cursorCondition :
    ∀ text ∈ (standard name casing policy).cursorCondition relation request, IsVisible text := by
  intro text htext
  unfold cursorCondition at htext
  split at htext
  · next key owner _ =>
    obtain ⟨paging, hpaging, htext⟩ := Option.bind_eq_some_iff.1 htext
    have hkeyset : (Dialect.spellingOf name casing).keysetPaging (.ofSortKey relation
        (((standard name casing policy).task relation request).qualifier owner) key) = .ok paging :=
      Except.toOption_eq_some_iff.1 hpaging
    exact Spelling.isVisible_of_keysetPaging hkeyset text htext
  · cases htext

/-- What attaches a relation has the condition of a batch exactly if it is batched, and then this
condition is the structural predicate and not blank. -/
theorem batchCondition_attached
    (hinputs : (standard name casing policy).HasInputs relation request) :
    ((standard name casing policy).attached relation request).batchCondition.isSome =
        (relation.shape request.isRoot).isBatched ∧
      ∀ condition ∈ ((standard name casing policy).attached relation request).batchCondition,
        IsVisible condition ∧
          (standard name casing policy).structuralPredicate relation request = some condition := by
  cases hbatched : (relation.shape request.isRoot).isBatched with
  | false => simp [attached, hbatched]
  | true =>
    obtain ⟨scope, key, condition, -, -, -, hcondition, hstructural⟩ :=
      hinputs.exists_batchInputs hbatched
    have hvisible := Dialect.isVisible_batchCondition hcondition
    simp [attached, hbatched, hstructural, hvisible]

/-- **The predicates are those of the callbacks between those of the dialect.**  The predicates of
a plan are the condition of the batch if the relation is batched, then what the callbacks have
answered to the calls of the log, then the condition of the cursor if there is one. -/
theorem predicates_eq_contributions
    (h : ((standard name casing policy).draft relation request).outcome = .ok draft) :
    draft.planned.predicates =
      ((standard name casing policy).attached relation request).batchCondition.toList
        ++ relation.answeredPredicates ((standard name casing policy).draft relation request).calls
        ++ ((standard name casing policy).cursorCondition relation request).toList := by
  obtain ⟨-, hinputs, -, hcalls, -⟩ := (course _ relation request).of_ok h
  obtain ⟨hsome, hbatch⟩ := batchCondition_attached hinputs
  have hcursor : ((standard name casing policy).cursorCondition relation request).toList.filter
      (IsVisible ·) = ((standard name casing policy).cursorCondition relation request).toList :=
    List.filter_eq_self.2 fun text htext =>
      decide_eq_true (isVisible_cursorCondition text (Option.mem_toList.1 htext))
  have hsources : (standard name casing policy).predicateSources relation request =
      [(standard name casing policy).structuralPredicate relation request] ++
        [(standard name casing policy).junctionFilterAnswer relation request,
          (standard name casing policy).filterAnswer relation] ++
        [(standard name casing policy).cursorCondition relation request] := rfl
  rw [predicates_of_draft h, hcalls, expectedCalls, List.append_assoc (attachingCalls ..),
    Relation.answeredPredicates_append, answeredPredicates_filterCalls, hsources,
    List.reduceOption_append, List.reduceOption_append, List.filter_append, List.filter_append,
    List.reduceOption_singleton, List.reduceOption_singleton, hcursor, ← List.append_assoc]
  congr 2
  cases hbatched : (relation.shape request.isRoot).isBatched with
  | false =>
    rw [answeredPredicates_attachingCalls _ hbatched]
    simp [attached, hbatched]
  | true =>
    rw [answeredPredicates_attachingCalls_of_isBatched _ hbatched, List.append_nil]
    obtain ⟨condition, hcondition⟩ := Option.isSome_iff_exists.1 (hsome.trans hbatched)
    obtain ⟨hvisible, hstructural⟩ := hbatch condition hcondition
    simp [hstructural, hcondition, hvisible]

end Planner

end RelationPaging
