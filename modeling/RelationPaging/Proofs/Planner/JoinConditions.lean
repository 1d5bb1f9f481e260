import RelationPaging.Proofs.Planner.Contributions
import RelationPaging.Proofs.Planner.Fragments

/-!
# Joins without a condition

A plan joins at up to three places: the select is attached to what precedes it, the relation's own
table is joined in inside the select, and the target of a batch is joined in behind it.  The
condition of each join comes from the request, from the batch, or from the callback that joins the
junction to the relation.

Blank predicates are dropped when the predicates are assembled.  The answer of the callback is not a
predicate and does not go that way, so that a blank answer becomes a join without a condition.
`Planner.joinsOn_visible_iff` says that this is the only way to one: when the request has no blank
conditions, all joins have a condition exactly if the answer is not blank or not made use of.
-/

namespace RelationPaging

open Assembly (IsVisible)

/-- No join condition that the request gives is blank. -/
structure Request.GivesVisible (request : Request) : Prop where
  joinCondition : ∀ condition ∈ request.joinCondition, IsVisible condition
  secondaryCondition : ∀ condition ∈ request.secondaryCondition, IsVisible condition

/-- A join is made on what the callback between the junction and the relation answers: the request
has no condition for the target, and the relation's own table is joined in, either behind the select
of a batch or inside a select. -/
def Relation.UsesTargetAnswer (relation : Relation) (request : Request) : Prop :=
  relation.shape request.isRoot = .batchedManyToMany ∧ request.joinCondition = none ∨
    relation.shape request.isRoot = .joinedManyToMany ∧ request.secondaryCondition = none ∧
      relation.needsOwnTable = true ∧ relation.declaration?.isSome = true

namespace Planner

/-! ## The joins of a plan -/

/-- A plan has a join on a condition. -/
inductive JoinsOn (planner : Planner) (relation : Relation) (request : Request) (draft : Draft) :
    String → Prop
  /-- The select of a page is attached on the condition. -/
  | lateral {pagination : Pagination} {page : PageSelect} {text : String}
      {attachment : Attachment}
      (hemits : planner.EmitsSelect relation request draft pagination page text)
      (hattached : page.attachment = some attachment) :
      JoinsOn planner relation request draft attachment.condition
  /-- The relation's own table is joined in inside the select. -/
  | extra {pagination : Pagination} {page : PageSelect} {text : String} {join : ExtraJoin}
      (hemits : planner.EmitsSelect relation request draft pagination page text)
      (hextra : page.attachment.bind (·.extra) = some join) :
      JoinsOn planner relation request draft join.condition
  /-- The target of a batch is joined in behind the select. -/
  | trailing {condition : String}
      (hplanned : (planner.draft relation request).outcome = .ok draft)
      (hshape : relation.shape request.isRoot = .batchedManyToMany)
      (hlast : draft.fragments.getLast? = some (planner.dialect.trailingJoin relation.table
        (planner.dialect.casing.apply relation.aliasName) condition)) :
      JoinsOn planner relation request draft condition

variable {planner : Planner} {relation : Relation} {request : Request} {draft : Draft}
  {condition : String}

/-- The last fragment of a batch between many and many joins in the target. -/
theorem getLast?_fragments (h : (planner.draft relation request).outcome = .ok draft)
    (hshape : relation.shape request.isRoot = .batchedManyToMany) :
    draft.fragments.getLast? = planner.trailing relation request := by
  obtain ⟨emission, hfragments, -, -, -, htrailing, hjoined⟩ := exists_fragments h
  obtain ⟨text, htext⟩ := Option.isSome_iff_exists.1 (hjoined.trans (decide_eq_true hshape))
  rw [hfragments, ← htrailing, Emission.toList, htext]
  exact List.getLast?_concat

/-- A plan joins on the condition of the select, on that of the extra join inside it, and on that of
the target of a batch, and on nothing else. -/
theorem joinsOn_iff (h : (planner.draft relation request).outcome = .ok draft) :
    planner.JoinsOn relation request draft condition ↔
      relation.declaration?.isSome = true ∧
          (planner.lateralCondition relation request = some condition ∨
            (planner.lateralCondition relation request).isSome = true ∧
              relation.needsOwnTable = true ∧
              planner.targetCondition relation request = some condition) ∨
        relation.shape request.isRoot = .batchedManyToMany ∧
          planner.targetCondition relation request = some condition := by
  constructor
  · intro hjoins
    cases hjoins with
    | lateral hemits hattached =>
      rw [hemits.attachment_eq] at hattached
      obtain ⟨condition, hlateral, rfl⟩ := Option.map_eq_some_iff.1 hattached
      exact .inl ⟨hemits.declared, .inl hlateral⟩
    | extra hemits hextra =>
      rw [hemits.attachment_eq] at hextra
      obtain ⟨attachment, hattached, hextra⟩ := Option.bind_eq_some_iff.1 hextra
      obtain ⟨condition, hlateral, rfl⟩ := Option.map_eq_some_iff.1 hattached
      obtain ⟨hneeds, condition, htarget, rfl⟩ := extraJoin_eq_some_iff.1 hextra
      exact .inl ⟨hemits.declared, .inr ⟨by rw [hlateral]; rfl, hneeds, htarget⟩⟩
    | trailing _ hshape hlast =>
      rw [getLast?_fragments h hshape, Planner.trailing, if_pos hshape] at hlast
      obtain ⟨other, htarget, heq⟩ := Option.map_eq_some_iff.1 hlast
      rw [← (String.append_right_inj _).1 heq]
      exact .inr ⟨hshape, htarget⟩
  · rintro (⟨hdeclared, hlateral | ⟨hlateral, hneeds, htarget⟩⟩ | ⟨hshape, htarget⟩)
    · obtain ⟨pagination, page, text, hemits⟩ := exists_emitsSelect h hdeclared
      exact .lateral hemits (hemits.attachment_eq.trans (attachment_of_lateralCondition hlateral))
    · obtain ⟨pagination, page, text, hemits⟩ := exists_emitsSelect h hdeclared
      obtain ⟨other, hlateral⟩ := Option.isSome_iff_exists.1 hlateral
      have hattached := hemits.attachment_eq.trans (attachment_of_lateralCondition hlateral)
      have hextra := extraJoin_eq_some_iff.2 ⟨hneeds, condition, htarget, rfl⟩
      exact .extra hemits (Option.bind_eq_some_iff.2 ⟨_, hattached, hextra⟩)
    · refine .trailing h hshape ?_
      rw [getLast?_fragments h hshape, Planner.trailing, if_pos hshape, htarget, Option.map_some]

/-! ## Where the conditions stand -/

/-- With a built-in dialect, each condition stands behind an `ON` of a fragment. -/
theorem JoinsOn.exists_text {name : DialectName} {casing : Casing} {policy : MissingPolicy}
    (h : (standard name casing policy).JoinsOn relation request draft condition) :
    ∃ text ∈ draft.fragments, ∃ before after, text = before ++ " ON " ++ condition ++ after := by
  cases h with
  | lateral hemits hattached =>
    obtain ⟨offset, htext⟩ := hemits.exists_text_eq
    rw [Spelling.select_eq_of_attachment _ hattached] at htext
    exact ⟨_, hemits.text_mem, _, "", by rw [htext, String.append_empty]⟩
  | extra hemits hextra =>
    obtain ⟨offset, htext⟩ := hemits.exists_text_eq
    obtain ⟨before, after, hselect⟩ := Spelling.exists_select_eq_of_extra
      (Dialect.spellingOf name casing) hextra offset
    exact ⟨_, hemits.text_mem, before, after, htext.trans hselect⟩
  | trailing _ _ hlast => exact ⟨_, List.mem_of_getLast? hlast, _, "", String.append_empty.symm⟩

/-! ## Main result -/

section

variable {name : DialectName} {casing : Casing} {policy : MissingPolicy}

/-- The select is never attached on a blank condition. -/
theorem isVisible_lateralCondition (hgiven : request.GivesVisible)
    (hinputs : (standard name casing policy).HasInputs relation request)
    (h : (standard name casing policy).lateralCondition relation request = some condition) :
    IsVisible condition := by
  cases hbatched : (relation.shape request.isRoot).isBatched with
  | true =>
    rw [lateralCondition_of_isBatched hbatched] at h
    obtain ⟨_, _, _, -, -, -, hcondition, hstructural⟩ := hinputs.exists_batchInputs hbatched
    cases hstructural.symm.trans h
    exact Dialect.isVisible_batchCondition hcondition
  | false =>
    cases hshape : relation.shape request.isRoot with
    | root => simp [lateralCondition, hshape] at h
    | joinedToMany | joinedManyToMany =>
      simp only [lateralCondition, hshape] at h
      exact hgiven.joinCondition condition h
    | batchedToMany | batchedManyToMany => simp [hshape, Shape.isBatched] at hbatched

/-- **A blank answer is the only way to a join without a condition.**  When planning with a built-in
dialect succeeds and the request gives no blank conditions, each condition of a join stands behind
an `ON` of a fragment, and none of them is blank exactly if the answer of the callback between the
junction and the relation is not blank, as far as it is made use of. -/
theorem joinsOn_visible_iff (hgiven : request.GivesVisible)
    (hdraft : ((standard name casing policy).draft relation request).outcome = .ok draft) :
    (∀ condition, (standard name casing policy).JoinsOn relation request draft condition →
      ∃ text ∈ draft.fragments, ∃ before after,
        text = before ++ " ON " ++ condition ++ after) ∧
    ((∀ condition, (standard name casing policy).JoinsOn relation request draft condition →
        IsVisible condition) ↔
      (relation.UsesTargetAnswer request →
        ∀ text ∈ (standard name casing policy).targetAnswer relation request, IsVisible text)) := by
  obtain ⟨-, hinputs, -⟩ := (course _ relation request).of_ok hdraft
  refine ⟨fun condition hjoins => hjoins.exists_text, fun hall huses text htext => ?_,
    fun hanswer condition hjoins => ?_⟩
  · -- an answer that is made use of is the condition of a join
    refine hall text ((joinsOn_iff hdraft).2 ?_)
    rcases huses with ⟨hshape, hnone⟩ | ⟨hshape, hnone, hneeds, hdeclared⟩
    · have htarget := targetCondition_eq_some_iff.2 (.inr ⟨hshape, .inr ⟨hnone, htext⟩⟩)
      exact .inr ⟨hshape, htarget⟩
    · have htarget := targetCondition_eq_some_iff.2 (.inl ⟨hshape, .inr ⟨hnone, htext⟩⟩)
      have hlateral : ((standard name casing policy).lateralCondition relation request).isSome =
          true := by
        simp only [lateralCondition, hshape]
        exact hinputs.joinCondition (by rw [hshape]; rfl)
      exact .inl ⟨hdeclared, .inr ⟨hlateral, hneeds, htarget⟩⟩
  · -- each condition comes from the batch, from the request or from the callback
    rcases (joinsOn_iff hdraft).1 hjoins with
      ⟨hdeclared, hlateral | ⟨-, hneeds, htarget⟩⟩ | ⟨hshape, htarget⟩
    · exact isVisible_lateralCondition hgiven hinputs hlateral
    · rcases targetCondition_eq_some_iff.1 htarget with
        ⟨hshape, hsecondary | ⟨hnone, htext⟩⟩ | ⟨hshape, hjoin | ⟨hnone, htext⟩⟩
      · exact hgiven.secondaryCondition condition hsecondary
      · exact hanswer (.inr ⟨hshape, hnone, hneeds, hdeclared⟩) condition htext
      · exact hgiven.joinCondition condition hjoin
      · exact hanswer (.inl ⟨hshape, hnone⟩) condition htext
    · rcases targetCondition_eq_some_iff.1 htarget with ⟨hother, -⟩ | ⟨-, hjoin | ⟨hnone, htext⟩⟩
      · cases hshape.symm.trans hother
      · exact hgiven.joinCondition condition hjoin
      · exact hanswer (.inl ⟨hshape, hnone⟩) condition htext

end

/-! ## Tags that are joined in by a callback -/

/-- Tags that are loaded for many posts, paged by the junction, and joined to it on what a callback
answers. -/
def answeredTags (answer : String) : Relation where
  table := "tags"
  aliasName := "t"
  junction := some { postTags with
    batchKey := some ⟨"post_id", "id"⟩
    joins := some
      { toJunction := fun _ _ _ => .ok none
        toTarget := fun _ _ _ => .ok (some answer) }
    sortKey := some ⟨.ascending, ["tag_id"]⟩ }

/-- The tags of one post, as a batch. -/
def ofFirstPost : Request where
  scope := some ⟨[.integer 1]⟩

/-- The plan of these tags, which ends with the answer of the callback. -/
def answeredTagsDraft (answer : String) : Draft where
  planned := ⟨.batchedManyToMany, some .keyset, ["\"pt\".\"post_id\" = \"temp\".\"id\""]⟩
  fragments := [
    "FROM (VALUES (1)) \"temp\"(\"id\")",
    "LEFT JOIN LATERAL (\n  SELECT \"pt\".*\n  FROM post_tags \"pt\"\n"
      ++ "  WHERE \"pt\".\"post_id\" = \"temp\".\"id\"\n  ORDER BY \"pt\".\"tag_id\" ASC\n"
      ++ "  LIMIT ALL\n) \"pt\" ON \"pt\".\"post_id\" = \"temp\".\"id\"",
    "LEFT JOIN tags AS \"t\" ON " ++ answer]

theorem givesVisible_ofFirstPost : ofFirstPost.GivesVisible :=
  ⟨fun _ h => (by cases h), fun _ h => (by cases h)⟩

/-- All joins have a condition when the callback answers one. -/
theorem joinsOn_visible_answeredTags :
    ofFirstPost.GivesVisible ∧
      ((standard .postgresql .identity .error).draft (answeredTags "pt.tag_id = t.id")
        ofFirstPost).outcome = .ok (answeredTagsDraft "pt.tag_id = t.id") ∧
      (answeredTags "pt.tag_id = t.id").UsesTargetAnswer ofFirstPost ∧
      ∀ condition, (standard .postgresql .identity .error).JoinsOn
        (answeredTags "pt.tag_id = t.id") ofFirstPost (answeredTagsDraft "pt.tag_id = t.id")
          condition → IsVisible condition := by
  have hdraft : ((standard .postgresql .identity .error).draft (answeredTags "pt.tag_id = t.id")
      ofFirstPost).outcome = .ok (answeredTagsDraft "pt.tag_id = t.id") :=
    Except.toOption_eq_some_iff.1 (by decide +kernel)
  obtain ⟨-, hvisible⟩ := joinsOn_visible_iff givesVisible_ofFirstPost hdraft
  refine ⟨givesVisible_ofFirstPost, hdraft, .inl ⟨rfl, rfl⟩, hvisible.2 fun _ text htext => ?_⟩
  have hanswer : (standard .postgresql .identity .error).targetAnswer
      (answeredTags "pt.tag_id = t.id") ofFirstPost = some "pt.tag_id = t.id" := by decide +kernel
  cases hanswer.symm.trans htext
  exact Assembly.isVisible_iff.2 (by decide)

/-- Not all joins have a condition: a callback may answer a blank text. -/
theorem not_forall_joinsOn_visible :
    ¬ ∀ (name : DialectName) (casing : Casing) (policy : MissingPolicy) (relation : Relation)
        (request : Request) (draft : Draft) (condition : String), request.GivesVisible →
      ((standard name casing policy).draft relation request).outcome = .ok draft →
      (standard name casing policy).JoinsOn relation request draft condition →
        IsVisible condition := by
  intro h
  have hdraft : ((standard .postgresql .identity .error).draft (answeredTags "")
      ofFirstPost).outcome = .ok (answeredTagsDraft "") :=
    Except.toOption_eq_some_iff.1 (by decide +kernel)
  have hjoins : (standard .postgresql .identity .error).JoinsOn (answeredTags "") ofFirstPost
      (answeredTagsDraft "") "" := .trailing hdraft rfl (by decide +kernel)
  have hvisible := h _ _ _ _ _ _ _ givesVisible_ofFirstPost hdraft hjoins
  cases Assembly.isVisible_iff.1 hvisible

end Planner

end RelationPaging
