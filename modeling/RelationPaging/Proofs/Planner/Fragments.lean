import RelationPaging.Proofs.Planner.Predicates
import RelationPaging.Proofs.Planner.Success

/-!
# The fragments of a plan

A plan has up to three fragments, and what joins them to each other is decided at different times:
the structural phase settles the condition of a batch and asks for the condition of the target, and
rendering takes both up again.  `Planner.attachment` and `Planner.trailing` say what rendering makes
of them, in terms of the relation and the request, and `Planner.exists_fragments` says that these
are the joins of every plan.
-/

namespace RelationPaging

/-! ## The text of a select -/

namespace Spelling

variable (s : Spelling)

/-- A select that is attached to what precedes it ends with the condition on which it is attached,
and its predicates stand on a line of their own. -/
theorem select_eq_of_attachment {page : PageSelect} {attachment : Attachment}
    (h : page.attachment = some attachment) (offset : Option UInt64) :
    s.select page offset = attachment.kind.keyword ++ " LATERAL (\n"
      ++ "\n".intercalate (s.linesBeforeWhere page offset
        ++ ["  WHERE " ++ s.conjunction page.predicates] ++ s.linesAfterWhere page offset)
      ++ "\n) " ++ s.quote page.aliasName ++ " ON " ++ attachment.condition := by
  rw [select_eq_lines, s.selectLines_eq page offset page.predicates, h, selectOpening,
    selectClosing]
  simp only [String.append_assoc]

/-- The extra join of a select is the last line in front of its predicates. -/
theorem linesBeforeWhere_of_extra {page : PageSelect} {join : ExtraJoin}
    (h : page.attachment.bind (·.extra) = some join) (offset : Option UInt64) :
    ∃ columns source, s.linesBeforeWhere page offset = [columns, source,
      "  LEFT JOIN " ++ join.table ++ " " ++ s.quote join.aliasName ++ " ON "
        ++ join.condition] := by
  rw [linesBeforeWhere, h]
  exact ⟨_, _, rfl⟩

/-- The condition of the extra join stands behind an `ON` inside the select. -/
theorem exists_select_eq_of_extra {page : PageSelect} {join : ExtraJoin}
    (h : page.attachment.bind (·.extra) = some join) (offset : Option UInt64) :
    ∃ before after, s.select page offset = before ++ " ON " ++ join.condition ++ after := by
  obtain ⟨columns, source, hlines⟩ := s.linesBeforeWhere_of_extra h offset
  obtain ⟨rest, hrest⟩ := exists_intercalate_eq "\n" (List.cons_ne_nil columns [source])
    (["  WHERE " ++ s.conjunction page.predicates] ++ s.linesAfterWhere page offset)
  have hselect : s.select page offset = selectOpening page.attachment
      ++ ("\n".intercalate [columns, source] ++ "\n"
        ++ ("  LEFT JOIN " ++ join.table ++ " " ++ s.quote join.aliasName ++ " ON "
          ++ join.condition) ++ rest)
      ++ s.selectClosing page.aliasName page.attachment := by
    rw [select_eq_lines, s.selectLines_eq page offset page.predicates, hlines, List.append_assoc,
      ← hrest]
    rfl
  refine ⟨selectOpening page.attachment ++ "\n".intercalate [columns, source] ++ "\n"
    ++ "  LEFT JOIN " ++ join.table ++ " " ++ s.quote join.aliasName,
    rest ++ s.selectClosing page.aliasName page.attachment, ?_⟩
  rw [hselect]
  simp only [String.append_assoc]

end Spelling

/-! ## The joins of a plan -/

namespace Planner

section

variable (planner : Planner) (relation : Relation) (request : Request)

/-- The condition on which the select of a page is attached: that of the request for a joined
relation, and that of the batch for a batched one. -/
def lateralCondition : Option String :=
  match relation.shape request.isRoot with
  | .root => none
  | .joinedToMany => request.joinCondition
  | .joinedManyToMany => request.joinCondition
  | .batchedToMany => planner.structuralPredicate relation request
  | .batchedManyToMany => planner.structuralPredicate relation request

/-- The condition that joins the relation's own table to its junction: that of the request, or else
what the callback answers. -/
def targetCondition : Option String :=
  match relation.shape request.isRoot with
  | .joinedManyToMany => request.secondaryCondition <|> planner.targetAnswer relation request
  | .batchedManyToMany => request.joinCondition <|> planner.targetAnswer relation request
  | _ => none

/-- The join that brings in the relation's own table inside the select. -/
def extraJoin : Option ExtraJoin :=
  if relation.needsOwnTable then
    (planner.targetCondition relation request).map fun condition =>
      ⟨relation.table, planner.dialect.casing.apply relation.aliasName, condition⟩
  else none

/-- How the select of a page is attached. -/
def attachment : Option Attachment :=
  (planner.lateralCondition relation request).map fun condition =>
    { kind := if relation.shape request.isRoot = .batchedToMany then .inner else .left
      condition
      extra := planner.extraJoin relation request }

/-- The join that brings in the target of a batched relation between many and many. -/
def trailing : Option String :=
  if relation.shape request.isRoot = .batchedManyToMany then
    (planner.targetCondition relation request).map
      (planner.dialect.trailingJoin relation.table
        (planner.dialect.casing.apply relation.aliasName))
  else none

end

variable {planner : Planner} {relation : Relation} {request : Request} {draft : Draft}

/-- The select of a batch is attached on the condition of the batch. -/
theorem lateralCondition_of_isBatched (h : (relation.shape request.isRoot).isBatched = true) :
    planner.lateralCondition relation request = planner.structuralPredicate relation request := by
  rcases Shape.isBatched_iff.1 h with hshape | hshape <;> simp only [lateralCondition, hshape]

/-- The target is joined in on a condition of the request, or else on what the callback answers. -/
theorem targetCondition_eq_some_iff {condition : String} :
    planner.targetCondition relation request = some condition ↔
      relation.shape request.isRoot = .joinedManyToMany ∧
          (request.secondaryCondition = some condition ∨
            request.secondaryCondition = none ∧
              planner.targetAnswer relation request = some condition) ∨
        relation.shape request.isRoot = .batchedManyToMany ∧
          (request.joinCondition = some condition ∨
            request.joinCondition = none ∧
              planner.targetAnswer relation request = some condition) := by
  unfold targetCondition
  cases relation.shape request.isRoot <;> simp

theorem attachment_of_lateralCondition {condition : String}
    (h : planner.lateralCondition relation request = some condition) :
    planner.attachment relation request = some
      { kind := if relation.shape request.isRoot = .batchedToMany then .inner else .left
        condition
        extra := planner.extraJoin relation request } := by
  rw [attachment, h, Option.map_some]

theorem extraJoin_eq_some_iff {join : ExtraJoin} :
    planner.extraJoin relation request = some join ↔
      relation.needsOwnTable = true ∧ ∃ condition,
        planner.targetCondition relation request = some condition ∧
        join = ⟨relation.table, planner.dialect.casing.apply relation.aliasName, condition⟩ := by
  unfold extraJoin
  cases relation.needsOwnTable with
  | false => simp
  | true =>
    simp only [if_true, true_and, Option.map_eq_some_iff]
    exact exists_congr fun condition => and_congr_right' eq_comm

/-- The relation's own table is joined in on the condition that is handed over for it. -/
theorem extraJoin_of_ownTable {extra : Option ExtraJoin}
    (h : (planner.task relation request).ownTable (planner.targetCondition relation request) =
      .ok extra) : extra = planner.extraJoin relation request := by
  unfold Task.ownTable at h
  unfold extraJoin
  rw [task_relation] at h
  cases hneeds : relation.needsOwnTable with
  | false =>
    rw [hneeds] at h
    cases h
    rfl
  | true =>
    rw [hneeds] at h
    obtain ⟨condition, hcondition, h⟩ := Except.bind_eq_ok_iff.1 h
    rw [Relation.require_eq_ok_iff.1 hcondition]
    cases h
    rfl

/-- Rendering attaches the select in the way that the relation and the request determine. -/
theorem attachment_of_attached {rendered : Option Attachment}
    (h : (planner.task relation request).attachment (planner.attached relation request) =
      .ok rendered) : rendered = planner.attachment relation request := by
  unfold Task.attachment at h
  rw [task_shape] at h
  cases hshape : relation.shape request.isRoot <;> rw [hshape] at h
  case root =>
    cases h
    simp only [attachment, lateralCondition, hshape, Option.map_none]
  case joinedToMany =>
    obtain ⟨condition, hcondition, h⟩ := Except.bind_eq_ok_iff.1 h
    have hgiven : request.joinCondition = some condition := Relation.require_eq_ok_iff.1 hcondition
    cases h
    simp [attachment, lateralCondition, extraJoin, targetCondition, hshape, hgiven]
  case joinedManyToMany =>
    have htarget : planner.targetCondition relation request =
        (request.secondaryCondition <|> planner.targetAnswer relation request) := by
      simp only [targetCondition, hshape]
    obtain ⟨extra, hextra, h⟩ := Except.bind_eq_ok_iff.1 h
    obtain ⟨condition, hcondition, h⟩ := Except.bind_eq_ok_iff.1 h
    have hgiven : request.joinCondition = some condition := Relation.require_eq_ok_iff.1 hcondition
    have hextra : (planner.task relation request).ownTable
        (planner.targetCondition relation request) = .ok extra := htarget ▸ hextra
    cases h
    simp [attachment, lateralCondition, hshape, hgiven, extraJoin_of_ownTable hextra]
  case batchedToMany =>
    obtain ⟨condition, hcondition, h⟩ := Except.bind_eq_ok_iff.1 h
    have hbatch := Relation.require_eq_ok_iff.1 hcondition
    simp only [attached, hshape, Shape.isBatched, if_true] at hbatch
    cases h
    simp [attachment, lateralCondition, extraJoin, targetCondition, hshape, hbatch]
  case batchedManyToMany =>
    have htarget : planner.targetCondition relation request =
        (request.joinCondition <|> planner.targetAnswer relation request) := by
      simp only [targetCondition, hshape]
    obtain ⟨extra, hextra, h⟩ := Except.bind_eq_ok_iff.1 h
    obtain ⟨condition, hcondition, h⟩ := Except.bind_eq_ok_iff.1 h
    have hbatch := Relation.require_eq_ok_iff.1 hcondition
    simp only [attached, hshape, Shape.isBatched, if_true] at hbatch
    have hextra : (planner.task relation request).ownTable
        (planner.targetCondition relation request) = .ok extra := htarget ▸ hextra
    cases h
    simp [attachment, lateralCondition, hshape, hbatch, extraJoin_of_ownTable hextra]

/-- So is the trailing join rendered. -/
theorem trailing_of_renders {rendered : Option String}
    (h : (planner.task relation request).RendersTrailing (planner.attached relation request)
      rendered) : rendered = planner.trailing relation request := by
  unfold trailing
  cases rendered with
  | none => exact (if_neg h).symm
  | some text =>
    obtain ⟨hshape, condition, hcondition, rfl⟩ := h
    rw [task_shape] at hshape
    have htarget : planner.targetCondition relation request = some condition := by
      simp only [targetCondition, hshape]
      exact hcondition
    rw [if_pos hshape, htarget]
    rfl

/-- Only a relation with a declaration has a select. -/
theorem EmitsSelect.declared {pagination : Pagination} {page : PageSelect} {text : String}
    (h : planner.EmitsSelect relation request draft pagination page text) :
    relation.declaration?.isSome = true := by
  obtain ⟨stages, _, hstages, -, hpagination, -⟩ := h.emitted
  rw [← Task.isSome_of_paginate hstages.paginate, hpagination]
  rfl

/-- The page of a plan is attached in this way. -/
theorem EmitsSelect.attachment_eq {pagination : Pagination} {page : PageSelect} {text : String}
    (h : planner.EmitsSelect relation request draft pagination page text) :
    page.attachment = planner.attachment relation request := by
  obtain ⟨stages, rendered, hstages, -, -, -, hattachment, rfl⟩ := h.emitted
  obtain ⟨-, hattached⟩ := planner.eq_attached_of_attach hstages.attach
  rw [hattached] at hattachment
  exact attachment_of_attached hattachment

/-- **The fragments of a plan** are the temporary table of a batched relation, the select of a
declared one, and the trailing join of a batched relation between many and many. -/
theorem exists_fragments (h : (planner.draft relation request).outcome = .ok draft) :
    ∃ emission : Emission, draft.fragments = emission.toList ∧
      (planner.task relation request).RendersTemporary emission.temporary ∧
      emission.select.isSome = relation.declaration?.isSome ∧
      (∀ text ∈ emission.select, ∃ pagination page,
        planner.EmitsSelect relation request draft pagination page text) ∧
      emission.trailing = planner.trailing relation request ∧
      emission.trailing.isSome = decide (relation.shape request.isRoot = .batchedManyToMany) := by
  obtain ⟨-, stages, hstages, rfl⟩ := draft_outcome_eq_ok_iff.1 h
  obtain ⟨-, hattached⟩ := planner.eq_attached_of_attach hstages.attach
  have htrailing := hstages.trailing
  rw [hattached] at htrailing
  refine ⟨stages.emission, rfl, hstages.temporary, ?_, fun text htext => ?_,
    trailing_of_renders htrailing, htrailing.isSome_eq⟩
  · rw [hstages.select.isSome_eq, Task.isSome_of_paginate hstages.paginate]
  · have hselect := hstages.select
    rw [Option.mem_def.1 htext] at hselect
    obtain ⟨pagination, rendered, hpagination, hattachment, hrendered⟩ := hselect
    exact ⟨pagination, _, h, hrendered, stages, rendered, hstages, rfl, hpagination, htext,
      hattachment, rfl⟩

end Planner

end RelationPaging
