import RelationPaging.Proofs.Assembly
import RelationPaging.Proofs.Planner.Course
import RelationPaging.Proofs.Planner.Qualifier

/-!
# From the callbacks to the `WHERE` clause

The predicates of a plan have four sources: what ties the relation to its parents, the filter of the
junction, the filter of the relation, and the condition of a cursor.  `Planner.predicateSources`
lists them in terms of the relation and the request, and the predicates are those of them that are
there and not blank.  The `WHERE` clause of the select is their conjunction, and the predicates are
nowhere else in its text.
-/

namespace RelationPaging

/-! ## The clause -/

namespace Spelling

variable (s : Spelling)

/-- The conjunction of predicates of which none is blank. -/
def clauseOf (predicates : List String) : String :=
  if predicates = [] then s.trueLiteral else String.intercalate " AND " predicates

variable {s}

theorem conjunction_eq_clauseOf {predicates : List String}
    (h : ∀ predicate ∈ predicates, Text.isBlank predicate = false) :
    s.conjunction predicates = s.clauseOf predicates := by
  have hfilter : predicates.filter (fun predicate => !Text.isBlank predicate) = predicates :=
    List.filter_eq_self.2 fun predicate hmem => by simp [h predicate hmem]
  unfold conjunction clauseOf
  rw [hfilter]
  cases predicates with
  | nil => rfl
  | cons predicate predicates => rfl

/-- Between lines that stay the same, one line of a text can be exchanged. -/
theorem exists_intercalate_eq (separator : String) {before : List String} (hbefore : before ≠ [])
    (after : List String) :
    ∃ rest, ∀ line, separator.intercalate (before ++ [line] ++ after) =
      separator.intercalate before ++ separator ++ line ++ rest := by
  cases after with
  | nil =>
    refine ⟨"", fun line => ?_⟩
    rw [List.append_nil, String.intercalate_append_of_ne_nil hbefore (List.cons_ne_nil _ _),
      String.intercalate_singleton, String.append_empty]
  | cons next lines =>
    refine ⟨separator ++ separator.intercalate (next :: lines), fun line => ?_⟩
    rw [List.append_assoc, String.intercalate_append_of_ne_nil hbefore (by simp),
      List.singleton_append, String.intercalate_cons_cons]
    simp only [String.append_assoc]

variable (s)

/-- The lines of a select in front of its `WHERE` clause. -/
def linesBeforeWhere (page : PageSelect) (offset : Option UInt64) : List String :=
  let aliasName := s.quote page.aliasName
  let total := if offset.isSome then ", count(*) OVER () AS " ++ s.total else ""
  ["  SELECT " ++ aliasName ++ ".*" ++ total, "  FROM " ++ page.table ++ " " ++ aliasName]
    ++ ((page.attachment.bind (·.extra)).map fun join =>
      "  LEFT JOIN " ++ join.table ++ " " ++ s.quote join.aliasName ++ " ON "
        ++ join.condition).toList

/-- The lines of a select behind its `WHERE` clause. -/
def linesAfterWhere (page : PageSelect) (offset : Option UInt64) : List String :=
  let cut := s.limitClause page.limit offset
  (if page.order.columns.isEmpty then [] else ["  ORDER BY " ++ s.orderColumns page.order])
    ++ if cut.isEmpty then [] else ["  " ++ cut]

/-- Only one line of a select depends on its predicates. -/
theorem selectLines_eq (page : PageSelect) (offset : Option UInt64) (predicates : List String) :
    s.selectLines { page with predicates } offset =
      s.linesBeforeWhere page offset ++ ["  WHERE " ++ s.conjunction predicates]
        ++ s.linesAfterWhere page offset :=
  List.append_assoc _ _ _

/-- What a select puts in front of its lines. -/
def selectOpening (attachment : Option Attachment) : String :=
  match attachment with
  | some attachment => attachment.kind.keyword ++ " LATERAL (\n"
  | none => "FROM (\n"

/-- What a select puts behind its lines. -/
def selectClosing (aliasName : String) (attachment : Option Attachment) : String :=
  "\n) " ++ s.quote aliasName ++
    match attachment with
    | some attachment => " ON " ++ attachment.condition
    | none => ""

theorem select_eq_lines (page : PageSelect) (offset : Option UInt64) :
    s.select page offset = selectOpening page.attachment
      ++ "\n".intercalate (s.selectLines page offset)
      ++ s.selectClosing page.aliasName page.attachment := by
  unfold select selectOpening selectClosing
  cases page.attachment <;> simp only [String.append_assoc, String.append_empty]

/-- The select of a page has its predicates in the `WHERE` clause and nowhere else. -/
theorem exists_select_eq (page : PageSelect) (offset : Option UInt64) :
    ∃ before after, ∀ predicates,
      s.select { page with predicates } offset =
        before ++ "\n  WHERE " ++ s.conjunction predicates ++ after := by
  have hlines : s.linesBeforeWhere page offset ≠ [] := List.cons_ne_nil _ _
  obtain ⟨rest, hrest⟩ := exists_intercalate_eq "\n" hlines (s.linesAfterWhere page offset)
  have hwhere : "\n  WHERE " = "\n" ++ "  WHERE " := by decide
  refine ⟨selectOpening page.attachment ++ "\n".intercalate (s.linesBeforeWhere page offset),
    rest ++ s.selectClosing page.aliasName page.attachment, fun predicates => ?_⟩
  rw [select_eq_lines, selectLines_eq, hrest, hwhere]
  simp only [String.append_assoc]

end Spelling

/-! ## Another join to the target -/

/-- The relation with another join from its junction to itself. -/
def Relation.withTargetJoin (relation : Relation) (toTarget : JoinOn) : Relation :=
  { relation with
    junction := relation.junction.map fun junction =>
      { junction with joins := junction.joins.map fun joins => { joins with toTarget } } }

namespace Planner

/-! ## The sources of the predicates -/

section

variable (planner : Planner) (relation : Relation) (request : Request)

/-- The condition for the rows behind a cursor, which only a relation with a sort key has. -/
def cursorCondition : Option String :=
  match relation.declaration? with
  | some (.keyset key owner) =>
    let aliasName := (planner.task relation request).qualifier owner
    (planner.dialect.interpretKeyset (.ofSortKey relation aliasName key)).toOption.bind
      (·.condition)
  | _ => none

/-- The texts that the predicates of a relation are taken from, in their order. -/
def predicateSources : List (Option String) :=
  [planner.structuralPredicate relation request, planner.junctionFilterAnswer relation request,
    planner.filterAnswer relation, planner.cursorCondition relation request]

end

variable {planner : Planner} {relation : Relation} {request : Request} {draft : Draft}

theorem condition_of_paginate {pagination : Option Pagination}
    (h : (planner.task relation request).paginate relation.declaration? = .ok pagination) :
    pagination.bind (·.condition) = planner.cursorCondition relation request := by
  unfold cursorCondition
  cases hdeclaration : relation.declaration? with
  | none =>
    rw [hdeclaration] at h
    cases h
    rfl
  | some declaration =>
    rw [hdeclaration] at h
    obtain ⟨decision, hdecision, h⟩ := Except.bind_eq_ok_iff.1 h
    cases h
    cases declaration with
    | keyset key owner =>
      have hkeyset : (planner.dialect.interpretKeyset (.ofSortKey relation
          ((planner.task relation request).qualifier owner) key)).map .keyset = .ok decision :=
        hdecision
      obtain ⟨paging, hpaging, rfl⟩ := Except.map_eq_ok_iff.1 hkeyset
      simp [hpaging, Except.toOption, Pagination.condition]
    | offset order owner =>
      have hoffset : (planner.dialect.interpretOffset (.ofOrderBy relation
          ((planner.task relation request).qualifier owner) order)).map .offset = .ok decision :=
        hdecision
      obtain ⟨paging, -, rfl⟩ := Except.map_eq_ok_iff.1 hoffset
      rfl

/-- The predicates of a plan are the visible ones among their sources. -/
theorem predicates_of_draft (h : (planner.draft relation request).outcome = .ok draft) :
    draft.planned.predicates =
      (planner.predicateSources relation request).reduceOption.filter
        (Assembly.IsVisible ·) := by
  obtain ⟨-, -, -, -, hconclude⟩ := (planner.course relation request).of_ok h
  obtain ⟨pagination, _, _, hpaginate, rfl, -, rfl⟩ := Task.conclude_eq_ok_iff.1 hconclude
  rw [← Assembly.contributions_eq_filter, predicateSources, ← condition_of_paginate hpaginate]
  rfl

/-- No predicate of a plan is blank. -/
theorem isBlank_of_mem_predicates (h : (planner.draft relation request).outcome = .ok draft) :
    ∀ predicate ∈ draft.planned.predicates, Text.isBlank predicate = false := by
  intro predicate hmem
  rw [predicates_of_draft h, ← Assembly.contributions_eq_filter] at hmem
  exact (Assembly.mem_contributions.1 hmem).2

/-! ## Independence of the join to the target -/

section

variable (planner relation request) (toTarget : JoinOn)

theorem shape_withTargetJoin (isRoot : Bool) :
    (relation.withTargetJoin toTarget).shape isRoot = relation.shape isRoot := by
  cases hjunction : relation.junction <;>
    simp [Relation.shape, Relation.withTargetJoin, hjunction]

theorem declaration?_withTargetJoin :
    (relation.withTargetJoin toTarget).declaration? = relation.declaration? := by
  cases hjunction : relation.junction <;>
    simp [Relation.declaration?, Relation.withTargetJoin, hjunction]

theorem aliases_withTargetJoin :
    (planner.task (relation.withTargetJoin toTarget) request).aliases =
      (planner.task relation request).aliases := by
  simp only [task, shape_withTargetJoin]
  cases hjunction : relation.junction <;>
    cases (relation.shape request.isRoot).isManyToMany <;>
      simp [Relation.withTargetJoin, hjunction, Option.filter]

/-- Only the calls of the join to the target are answered in another way. -/
theorem text?_withTargetJoin {call : Invocation}
    (h : ∀ junction target, call ≠ .targetJoin junction target) :
    (relation.withTargetJoin toTarget).text? call = relation.text? call := by
  have hanswer : (relation.withTargetJoin toTarget).answer? call = relation.answer? call := by
    cases call with
    | targetJoin junction target => exact absurd rfl (h junction target)
    | join | filter => rfl
    | junctionJoin | junctionFilter =>
      cases hjunction : relation.junction with
      | none => simp [Relation.answer?, Relation.withTargetJoin, hjunction]
      | some junction =>
        cases hjoins : junction.joins <;>
          simp [Relation.answer?, Relation.withTargetJoin, hjunction, hjoins]
  simp only [Relation.text?, hanswer]

theorem structuralPredicate_withTargetJoin :
    planner.structuralPredicate (relation.withTargetJoin toTarget) request =
      planner.structuralPredicate relation request := by
  have htext : ∀ parent junction, (relation.withTargetJoin toTarget).text?
      (.junctionJoin parent junction) = relation.text? (.junctionJoin parent junction) :=
    fun parent junction => text?_withTargetJoin relation toTarget (by simp)
  have hjoin : ∀ parent child, (relation.withTargetJoin toTarget).text? (.join parent child) =
      relation.text? (.join parent child) :=
    fun parent child => text?_withTargetJoin relation toTarget (by simp)
  simp only [structuralPredicate, shape_withTargetJoin, htext, hjoin]
  cases hjunction : relation.junction <;>
    cases relation.shape request.isRoot <;> simp only [Relation.withTargetJoin, hjunction] <;> rfl

theorem bind_text?_withTargetJoin {call? : Option Invocation}
    (h : ∀ call ∈ call?, ∀ junction target, call ≠ .targetJoin junction target) :
    call?.bind (relation.withTargetJoin toTarget).text? = call?.bind relation.text? := by
  cases call? with
  | none => rfl
  | some call => exact text?_withTargetJoin relation toTarget (h call rfl)

theorem junctionFilterAnswer_withTargetJoin :
    planner.junctionFilterAnswer (relation.withTargetJoin toTarget) request =
      planner.junctionFilterAnswer relation request := by
  have hcall : planner.junctionFilterCall? (relation.withTargetJoin toTarget) request =
      planner.junctionFilterCall? relation request := by
    simp only [junctionFilterCall?, shape_withTargetJoin]
    cases hjunction : relation.junction <;> simp [Relation.withTargetJoin, hjunction]
  rw [junctionFilterAnswer, hcall, bind_text?_withTargetJoin]
  · rfl
  · intro call hmem junction target
    unfold junctionFilterCall? at hmem
    split at hmem
    · obtain ⟨_, -, hmem⟩ := Option.bind_eq_some_iff.1 hmem
      obtain ⟨_, -, rfl⟩ := Option.map_eq_some_iff.1 hmem
      rintro ⟨⟩
    · cases hmem

theorem filterAnswer_withTargetJoin :
    planner.filterAnswer (relation.withTargetJoin toTarget) = planner.filterAnswer relation := by
  have hcall : planner.filterCall? (relation.withTargetJoin toTarget) =
      planner.filterCall? relation := rfl
  rw [filterAnswer, hcall, bind_text?_withTargetJoin]
  · rfl
  · intro call hmem junction target
    obtain ⟨_, -, rfl⟩ := Option.map_eq_some_iff.1 hmem
    rintro ⟨⟩

/-- The answer of the join to the target is not among the sources of the predicates. -/
theorem predicateSources_withTargetJoin :
    planner.predicateSources (relation.withTargetJoin toTarget) request =
      planner.predicateSources relation request := by
  have hcursor : planner.cursorCondition (relation.withTargetJoin toTarget) request =
      planner.cursorCondition relation request := by
    unfold cursorCondition Task.qualifier
    rw [declaration?_withTargetJoin, aliases_withTargetJoin]
    rfl
  rw [predicateSources, structuralPredicate_withTargetJoin, junctionFilterAnswer_withTargetJoin,
    filterAnswer_withTargetJoin, hcursor]
  rfl

end

/-! ## Main result -/

/-- The text of a select of a page has a given clause behind `WHERE`, and the predicates of the
page are nowhere else in it: another page that differs in the predicates only has another clause in
the same place. -/
def HasClause (s : Spelling) (page : PageSelect) (text clause : String) : Prop :=
  ∃ offset before after, text = s.select page offset ∧
    text = before ++ "\n  WHERE " ++ clause ++ after ∧
    ∀ predicates, s.select { page with predicates } offset =
      before ++ "\n  WHERE " ++ s.conjunction predicates ++ after

namespace EmitsSelect

variable {name : DialectName} {casing : Casing} {policy : MissingPolicy}
  {pagination : Pagination} {page : PageSelect} {text : String}

theorem text_mem (h : planner.EmitsSelect relation request draft pagination page text) :
    text ∈ draft.fragments := by
  obtain ⟨stages, _, -, rfl, -, hselect, -⟩ := h.emitted
  simp [Stages.draft, Emission.toList, hselect]

/-- The clause of a select is made of the predicates of the plan. -/
theorem hasClause
    (h : (standard name casing policy).EmitsSelect relation request draft pagination page text) :
    HasClause (Dialect.spellingOf name casing) page text
      ((Dialect.spellingOf name casing).clauseOf draft.planned.predicates) := by
  obtain ⟨offset, htext⟩ := h.exists_text_eq
  obtain ⟨before, after, hselect⟩ :=
    (Dialect.spellingOf name casing).exists_select_eq page offset
  refine ⟨offset, before, after, htext, ?_, hselect⟩
  rw [htext, ← Spelling.conjunction_eq_clauseOf (isBlank_of_mem_predicates h.planned), ← hselect,
    ← h.predicates_eq]

end EmitsSelect

section

variable {name : DialectName} {casing : Casing} {policy : MissingPolicy} {fragments : Fragments}
  {planned : PlannedRelation}

/-- **No predicate is lost, reordered or invented.**  Whenever planning with a built-in dialect
succeeds, all callbacks have answered, and the predicates of the plan are what is visible among
their four sources, in the order of these.  Every select that is emitted has the conjunction of the
predicates as its clause, and a relation with a declaration has one.  What the join to the target
answers does not matter to the predicates. -/
theorem predicates_of_plan
    (hplan : ((standard name casing policy).plan relation request fragments).1.outcome =
      .ok planned) :
    (∀ call ∈ (standard name casing policy).expectedCalls relation request,
      relation.Resolves call) ∧
    planned.predicates =
      ((standard name casing policy).predicateSources relation request).reduceOption.filter
        (Assembly.IsVisible ·) ∧
    (∃ draft, ((standard name casing policy).draft relation request).outcome = .ok draft ∧
      draft.planned = planned ∧
      ((standard name casing policy).plan relation request fragments).2 =
        fragments.append draft.fragments ∧
      (relation.declaration?.isSome = true → ∃ pagination page text,
        (standard name casing policy).EmitsSelect relation request draft pagination page text) ∧
      ∀ pagination page text,
        (standard name casing policy).EmitsSelect relation request draft pagination page text →
          text ∈ draft.fragments ∧
          HasClause (Dialect.spellingOf name casing) page text
            (if planned.predicates = [] then (Dialect.spellingOf name casing).trueLiteral
            else String.intercalate " AND " planned.predicates)) ∧
    ∀ toTarget other,
      ((standard name casing policy).plan (relation.withTargetJoin toTarget) request
        fragments).1.outcome = .ok other → other.predicates = planned.predicates := by
  obtain ⟨draft, hdraft, rfl⟩ := exists_draft_of_plan _ _ _ hplan
  obtain ⟨-, -, hresolve, -⟩ := (course _ relation request).of_ok hdraft
  refine ⟨hresolve, predicates_of_draft hdraft, ?_, fun toTarget other hother => ?_⟩
  · refine ⟨draft, hdraft, rfl, by rw [plan_of_ok _ _ _ hdraft], fun hdeclared =>
      exists_emitsSelect hdraft hdeclared, fun pagination page text hemits => ?_⟩
    exact ⟨hemits.text_mem, hemits.hasClause⟩
  · obtain ⟨others, hothers, rfl⟩ := exists_draft_of_plan _ _ _ hother
    rw [predicates_of_draft hothers, predicates_of_draft hdraft, predicateSources_withTargetJoin]

end

/-- The predicates of filtered tags of several posts are the condition of the batch and the filter,
whatever else joins the tags to the junction. -/
theorem predicates_of_plan_filteredTags :
    ((standard .db2 .upper .error).plan filteredTags ofPosts .empty).1.outcome =
        .ok filteredTagsDraft.planned ∧
      ((standard .db2 .upper .error).predicateSources filteredTags ofPosts).reduceOption.filter
          (Assembly.IsVisible ·) =
        ["CAST(\"PT\".\"POST_ID\" AS VARCHAR(255)) = \"TEMP\".\"ID\"", "T.LIVE"] ∧
      ∀ toTarget other,
        ((standard .db2 .upper .error).plan (filteredTags.withTargetJoin toTarget) ofPosts
          .empty).1.outcome = .ok other →
        other.predicates =
          ["CAST(\"PT\".\"POST_ID\" AS VARCHAR(255)) = \"TEMP\".\"ID\"", "T.LIVE"] := by
  obtain ⟨-, hpredicates, -, hother⟩ := predicates_of_plan (plan_filteredTags .empty)
  exact ⟨plan_filteredTags .empty, hpredicates.symm, hother⟩

end Planner

end RelationPaging
