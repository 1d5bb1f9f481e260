import RelationPaging.Proofs.Planner.Contributions
import RelationPaging.Proofs.Planner.Fragments

/-!
# The fragments of a batch agree

What belongs together in the plan of a batched relation is written at different times.  The
condition of the batch is written while the relation is attached, and names a table and a column
that rendering declares later.  The same condition then stands in the `WHERE` clause of the select
and behind its last `ON`.  Behind a junction, the target is joined in up to twice, once inside the
select and once behind it.

`Spelling.BatchAgrees` says that all of these agree to the letter, and `Planner.batchAgrees_of_plan`
that they do in every plan of a built-in dialect.
-/

namespace RelationPaging

/-! ## The table and the condition of a batch -/

namespace Spelling

variable (s : Spelling)

/-- The name under which a condition refers to the temporary table. -/
def batchTable : String := s.quote (s.casing.apply temporaryTable)

/-- The name of the column of the temporary table. -/
def batchColumn (key : BatchKey) : String := s.quote (s.casing.apply key.parent)

/-- The fragments of a batch agree with each other, where `condition` is the condition of the batch
and `others` are the other predicates of the plan. -/
structure BatchAgrees (scope : BatchScope) (key : BatchKey) (condition : String)
    (others : List String) (emission : Emission) : Prop where
  /-- The temporary table declares the table and the column that the condition compares with. -/
  declared : scope.isEmpty = false → ∃ rows operand,
    emission.temporary = some ("FROM (VALUES " ++ rows ++ ") " ++ s.batchTable ++ "("
      ++ s.batchColumn key ++ ")") ∧
    condition = operand ++ " = " ++ s.batchTable ++ "." ++ s.batchColumn key
  /-- Without a key there is nothing to compare with, and the condition never holds. -/
  declared_of_isEmpty : scope.isEmpty = true → ∃ value source,
    emission.temporary = some (emptyTableFrom value source (s.batchColumn key) s.falseLiteral
      s.batchTable) ∧
    condition = s.falseLiteral
  /-- The clause of a select starts with the condition, and the select ends with it.  If there is an
  extra join in front of the clause, the trailing join is on the same table, under the same alias
  and on the same condition. -/
  selected : ∀ text ∈ emission.select, ∃ page offset attachment,
    page.attachment = some attachment ∧
    text = attachment.kind.keyword ++ " LATERAL (\n"
      ++ "\n".intercalate (s.linesBeforeWhere page offset
        ++ ["  WHERE " ++ " AND ".intercalate (condition :: others)]
        ++ s.linesAfterWhere page offset)
      ++ "\n) " ++ s.quote page.aliasName ++ " ON " ++ condition ∧
    ∀ join ∈ attachment.extra,
      (∃ columns source, s.linesBeforeWhere page offset = [columns, source,
        "  LEFT JOIN " ++ join.table ++ " " ++ s.quote join.aliasName ++ " ON "
          ++ join.condition]) ∧
      emission.trailing = some ("LEFT JOIN " ++ join.table ++ " AS " ++ s.quote join.aliasName
        ++ " ON " ++ join.condition)

end Spelling

namespace Dialect

variable (name : DialectName) (casing : Casing)

theorem batchTable_spellingOf :
    (spellingOf name casing).batchTable = (spellingOf name casing).temporaryAlias := by
  rw [temporaryAlias_spellingOf, Spelling.batchTable, spellingOf_casing]

/-- A table of values is declared under the name that conditions use. -/
theorem exists_table_eq {scope : BatchScope} (h : scope.isEmpty = false) (column : String) :
    ∃ rows, (spellingOf name casing).table scope column =
      "FROM (VALUES " ++ rows ++ ") " ++ (spellingOf name casing).batchTable ++ "("
        ++ (spellingOf name casing).quote column ++ ")" := by
  refine ⟨", ".intercalate (scope.values.map (spellingOf name casing).valueRow), ?_⟩
  rw [Spelling.table, h, batchTable_spellingOf]
  rfl

/-- So is a table without rows, which every dialect spells in its own way. -/
theorem exists_table_eq_of_isEmpty {scope : BatchScope} (h : scope.isEmpty = true)
    (column : String) :
    ∃ value source, (spellingOf name casing).table scope column =
      emptyTableFrom value source ((spellingOf name casing).quote column)
        (spellingOf name casing).falseLiteral (spellingOf name casing).batchTable := by
  rw [Spelling.table, if_pos h]
  cases name <;> exact ⟨_, _, rfl⟩

variable {name casing} {aliasName condition : String} {key : BatchKey} {scope : BatchScope}

/-- The condition of a batch compares the key column, cast by the first key, with the column of the
temporary table. -/
theorem batchCondition_eq_of_sample? {sample : BatchValue} (hsample : scope.sample? = some sample)
    (h : (standard name casing).batchCondition aliasName (key.cased casing) scope =
      .ok condition) :
    condition = (spellingOf name casing).cast
        ((spellingOf name casing).column aliasName (casing.apply key.child)) sample ++ " = "
      ++ ((spellingOf name casing).batchTable ++ "."
        ++ (spellingOf name casing).batchColumn key) := by
  rw [batchCondition, hsample] at h
  obtain ⟨operand, hoperand, h⟩ := Except.bind_eq_ok_iff.1 h
  cases hoperand
  cases h
  simp only [batchTable_spellingOf, Spelling.batchColumn, spellingOf_casing, String.append_assoc]
  rfl

theorem exists_batchCondition_eq (hscope : scope.isEmpty = false)
    (h : (standard name casing).batchCondition aliasName (key.cased casing) scope =
      .ok condition) :
    ∃ operand, condition = operand ++ " = " ++ (spellingOf name casing).batchTable ++ "."
      ++ (spellingOf name casing).batchColumn key := by
  obtain ⟨sample, values, hvalues⟩ : ∃ sample values, scope.values = sample :: values :=
    List.exists_cons_of_ne_nil fun hnil => by simp [BatchScope.isEmpty, hnil] at hscope
  have hsample : scope.sample? = some sample := by
    rw [BatchScope.sample?, hvalues, List.head?_cons]
  rw [batchCondition_eq_of_sample? hsample h]
  simp only [← String.append_assoc]
  exact ⟨_, rfl⟩

/-- Without a key it is the condition that never holds. -/
theorem batchCondition_eq_of_isEmpty (hscope : scope.isEmpty = true)
    (h : (standard name casing).batchCondition aliasName key scope = .ok condition) :
    condition = (spellingOf name casing).falseLiteral := by
  rw [batchCondition, BatchScope.sample?, List.isEmpty_iff.1 hscope] at h
  cases h
  rfl

end Dialect

/-! ## Plans of batches -/

namespace Planner

variable {name : DialectName} {casing : Casing} {policy : MissingPolicy} {relation : Relation}
  {request : Request} {draft : Draft}

/-- The temporary table of a batch is that of its scope, with the column of its key. -/
theorem temporary_eq_table {temporary : Option String} {scope : BatchScope} {key : BatchKey}
    (hbatched : (relation.shape request.isRoot).isBatched = true)
    (hbatch : ((standard name casing policy).task relation request).batchInputs = .ok (scope, key))
    (h : ((standard name casing policy).task relation request).RendersTemporary temporary) :
    temporary = some ((Dialect.spellingOf name casing).table scope (casing.apply key.parent)) := by
  obtain ⟨text, rfl⟩ := Option.isSome_iff_exists.1 (h.isSome_eq.trans hbatched)
  obtain ⟨-, _, _, hinputs, hwritten⟩ := h
  cases hbatch.symm.trans hinputs
  have hcasing : ((standard name casing policy).task relation request).dialect.casing = casing :=
    standard_casing name casing policy
  rw [hcasing] at hwritten
  cases hwritten
  rfl

/-- The condition of a batch is the first predicate of its plan. -/
theorem exists_predicates_eq_cons {condition : String}
    (hbatched : (relation.shape request.isRoot).isBatched = true)
    (hstructural : (standard name casing policy).structuralPredicate relation request =
      some condition)
    (h : ((standard name casing policy).draft relation request).outcome = .ok draft) :
    ∃ others, draft.planned.predicates = condition :: others := by
  have hcondition : ((standard name casing policy).attached relation request).batchCondition =
      some condition := by
    simp only [attached, hbatched, if_true, hstructural]
  rw [predicates_eq_contributions h, hcondition]
  exact ⟨_, rfl⟩

/-- The trailing join repeats the extra join of the select. -/
theorem trailing_of_extraJoin (planner : Planner) {join : ExtraJoin}
    (hshape : relation.shape request.isRoot = .batchedManyToMany)
    (h : planner.extraJoin relation request = some join) :
    planner.trailing relation request =
      some (planner.dialect.trailingJoin join.table join.aliasName join.condition) := by
  obtain ⟨-, condition, hcondition, rfl⟩ := extraJoin_eq_some_iff.1 h
  rw [trailing, if_pos hshape, hcondition]
  rfl

/-- The extra join of a batch stands behind a junction. -/
theorem shape_of_extraJoin (planner : Planner) {join : ExtraJoin}
    (hbatched : (relation.shape request.isRoot).isBatched = true)
    (h : planner.extraJoin relation request = some join) :
    relation.shape request.isRoot = .batchedManyToMany := by
  refine (Shape.isBatched_iff.1 hbatched).resolve_left fun hshape => ?_
  simp [extraJoin, targetCondition, hshape] at h

/-- The select of a batch starts its clause and ends with the condition of the batch. -/
theorem EmitsSelect.exists_text_eq_of_batch {pagination : Pagination} {page : PageSelect}
    {text condition : String} {others : List String}
    (h : (standard name casing policy).EmitsSelect relation request draft pagination page text)
    (hattached : (standard name casing policy).lateralCondition relation request = some condition)
    (hpredicates : draft.planned.predicates = condition :: others) :
    ∃ offset attachment, page.attachment = some attachment ∧
      attachment.extra = (standard name casing policy).extraJoin relation request ∧
      text = attachment.kind.keyword ++ " LATERAL (\n"
        ++ "\n".intercalate ((Dialect.spellingOf name casing).linesBeforeWhere page offset
          ++ ["  WHERE " ++ " AND ".intercalate (condition :: others)]
          ++ (Dialect.spellingOf name casing).linesAfterWhere page offset)
        ++ "\n) " ++ (Dialect.spellingOf name casing).quote page.aliasName ++ " ON "
        ++ condition := by
  have hattachment := h.attachment_eq.trans (attachment_of_lateralCondition hattached)
  obtain ⟨offset, rfl⟩ := h.exists_text_eq
  refine ⟨offset, _, hattachment, rfl, ?_⟩
  rw [Spelling.select_eq_of_attachment _ hattachment, h.predicates_eq,
    Spelling.conjunction_eq_clauseOf (isBlank_of_mem_predicates h.planned), hpredicates]
  rfl

/-! ## Main result -/

/-- **The fragments of a batch agree with each other.**  Whenever planning a batched relation with a
built-in dialect succeeds, the condition of the batch is the first predicate.  It refers to the
temporary table by the alias and the column that the table is declared with, and for a scope without
keys it is the condition that never holds.  It is the first predicate of the clause of the select
and the condition on which the select is attached, and an extra join inside the select is repeated
by the trailing join. -/
theorem batchAgrees_of_plan {fragments : Fragments} {planned : PlannedRelation}
    (hbatched : (relation.shape request.isRoot).isBatched = true)
    (hplan : ((standard name casing policy).plan relation request fragments).1.outcome =
      .ok planned) :
    ∃ scope key condition others emission, request.scope = some scope ∧
      ((standard name casing policy).task relation request).batchKey? = some key ∧
      planned.predicates = condition :: others ∧
      ((standard name casing policy).plan relation request fragments).2 =
        fragments.append emission.toList ∧
      emission.temporary.isSome = true ∧
      emission.select.isSome = relation.declaration?.isSome ∧
      emission.trailing.isSome = decide (relation.shape request.isRoot = .batchedManyToMany) ∧
      (Dialect.spellingOf name casing).BatchAgrees scope key condition others emission := by
  obtain ⟨draft, hdraft, rfl⟩ := exists_draft_of_plan _ _ _ hplan
  obtain ⟨-, hinputs, -⟩ := (course _ relation request).of_ok hdraft
  obtain ⟨scope, key, condition, hscope, hkey, hbatch, hcondition, hstructural⟩ :=
    hinputs.exists_batchInputs hbatched
  obtain ⟨others, hpredicates⟩ := exists_predicates_eq_cons hbatched hstructural hdraft
  obtain ⟨emission, hfragments, htemporary, hselected, hselect, htrailing, hjoined⟩ :=
    exists_fragments hdraft
  have htable := temporary_eq_table hbatched hbatch htemporary
  rw [standard_casing] at hcondition
  have hlateral := (lateralCondition_of_isBatched hbatched).trans hstructural
  refine ⟨scope, key, condition, others, emission, hscope, hkey, hpredicates, ?_,
    htemporary.isSome_eq.trans hbatched, hselected, hjoined, ?_⟩
  · rw [plan_of_ok _ _ _ hdraft, hfragments]
  constructor
  case declared =>
    intro hkeys
    obtain ⟨rows, hrows⟩ := Dialect.exists_table_eq name casing hkeys (casing.apply key.parent)
    obtain ⟨operand, hoperand⟩ := Dialect.exists_batchCondition_eq hkeys hcondition
    rw [htable, hrows, Spelling.batchColumn, Dialect.spellingOf_casing]
    exact ⟨rows, operand, rfl, by rw [hoperand, Spelling.batchColumn, Dialect.spellingOf_casing]⟩
  case declared_of_isEmpty =>
    intro hempty
    obtain ⟨value, source, hrows⟩ :=
      Dialect.exists_table_eq_of_isEmpty name casing hempty (casing.apply key.parent)
    rw [htable, hrows, Spelling.batchColumn, Dialect.spellingOf_casing]
    exact ⟨value, source, rfl, Dialect.batchCondition_eq_of_isEmpty hempty hcondition⟩
  case selected =>
    intro text htext
    obtain ⟨pagination, page, hemits⟩ := hselect text htext
    obtain ⟨offset, attachment, hattachment, hextra, htext⟩ :=
      hemits.exists_text_eq_of_batch hlateral hpredicates
    refine ⟨page, offset, attachment, hattachment, htext, fun join hjoin => ?_⟩
    have hjoin : attachment.extra = some join := hjoin
    constructor
    · exact Spelling.linesBeforeWhere_of_extra _ (by rw [hattachment]; exact hjoin) offset
    · rw [hextra] at hjoin
      rw [htrailing, trailing_of_extraJoin _ (shape_of_extraJoin _ hbatched hjoin) hjoin]
      rfl

/-- The three fragments of the filtered tags of several posts agree. -/
theorem batchAgrees_of_plan_filteredTags :
    (filteredTags.shape ofPosts.isRoot).isBatched = true ∧
      ((standard .db2 .upper .error).plan filteredTags ofPosts .empty).1.outcome =
        .ok filteredTagsDraft.planned ∧
      ∃ condition others emission, filteredTagsDraft.planned.predicates = condition :: others ∧
        emission.toList = filteredTagsDraft.fragments ∧ emission.select.isSome = true ∧
        emission.trailing.isSome = true ∧
        (Dialect.spellingOf .db2 .upper).BatchAgrees ⟨[.text "a", .text "b"]⟩ ⟨"post_id", "id"⟩
          condition others emission := by
  have hbatched : (filteredTags.shape ofPosts.isRoot).isBatched = true := rfl
  obtain ⟨scope, key, condition, others, emission, hscope, hkey, hpredicates, hfragments, -,
    hselect, htrailing, hagrees⟩ := batchAgrees_of_plan hbatched (plan_filteredTags .empty)
  cases hscope
  cases hkey
  rw [plan_of_ok _ _ _ draft_filteredTags] at hfragments
  exact ⟨hbatched, plan_filteredTags .empty, condition, others, emission, hpredicates,
    (congrArg Fragments.toList hfragments).symm, hselect, htrailing, hagrees⟩

end Planner

end RelationPaging
