import RelationPaging.Proofs.Planner.Calls
import RelationPaging.Proofs.Planner.Select

/-!
# The table that a page refers to

Three decisions have to agree about the select of a page.  The declaration says which alias
qualifies the columns of the order and of the cursor condition; the junction says which table the
select reads from; and what the relation filters or orders by says whether its own table is joined
in behind the junction.

They agree with two exceptions.  `orderTable_mem_boundAliases_iff` says exactly when the qualifying
alias is bound inside the select: it is not when a relation behind a junction is paged by a sort
key of its own and has neither a filter nor an order.  `reads_junction_iff` says exactly when a
page that is declared on the junction is read from the junction: it is not when the relation is
asked for as a root, which leaves the junction out of view.  Each exception is shown at a relation.
-/

namespace RelationPaging

namespace Relation

variable {relation : Relation}

/-- The junction that carries a declaration is there. -/
theorem exists_junction_of_owner {declaration : Declaration}
    (h : relation.declaration? = some declaration) (howner : declaration.owner = .junction) :
    ∃ junction, relation.junction = some junction := by
  cases hjunction : relation.junction with
  | some junction => exact ⟨junction, rfl⟩
  | none =>
    have hdeclaration : relation.declaration? = (relation.sortKey.map (.keyset · .relation) <|>
        relation.orderBy.map (.offset · .relation)) := by
      rw [declaration?, hjunction]
      cases relation.sortKey <;> cases relation.orderBy <;> rfl
    rw [hdeclaration] at h
    cases hkey : relation.sortKey with
    | some key =>
      rw [hkey] at h
      cases h
      cases howner
    | none =>
      rw [hkey] at h
      obtain ⟨order, _, rfl⟩ := Option.map_eq_some_iff.1 h
      cases howner

/-- Away from the root, a junction makes a relation many-to-many. -/
theorem isManyToMany_of_junction {junction : Junction} (h : relation.junction = some junction) :
    (relation.shape false).isManyToMany = true := by
  simp only [shape, h]
  cases junction.batchKey <;> rfl

end Relation

namespace Planner

variable (planner : Planner) {relation : Relation} {request : Request}

/-! ## What a task has in view -/

/-- A relation between many and many is read from its junction, and the qualifying alias is that
of the table that carries the declaration. -/
theorem source_of_isManyToMany (h : (relation.shape request.isRoot).isManyToMany = true) :
    ∃ junction, relation.junction = some junction ∧
      (planner.task relation request).source =
        (junction.table, planner.dialect.casing.apply junction.aliasName) ∧
      ∀ owner, (planner.task relation request).qualifier owner =
        planner.dialect.casing.apply
          (match owner with
            | .junction => junction.aliasName
            | .relation => relation.aliasName) := by
  obtain ⟨junction, hjunction, hview, halias⟩ := planner.exists_junction h
  refine ⟨junction, hjunction, by simp only [Task.source, hview, halias], fun owner => ?_⟩
  cases owner <;> simp only [Task.qualifier, halias]
  rfl

/-- Any other relation is read from its own table, and its own alias is the qualifying one. -/
theorem source_of_not_isManyToMany (h : (relation.shape request.isRoot).isManyToMany = false) :
    (planner.task relation request).source =
        (relation.table, planner.dialect.casing.apply relation.aliasName) ∧
      ∀ owner, (planner.task relation request).qualifier owner =
        planner.dialect.casing.apply relation.aliasName := by
  obtain ⟨hview, halias⟩ := planner.junction_eq_none h
  refine ⟨by simp only [Task.source, hview]; rfl, fun owner => ?_⟩
  cases owner <;> simp only [Task.qualifier, halias] <;> rfl

/-! ## Whether the qualifying alias is bound -/

namespace EmitsSelect

variable {name : DialectName} {casing : Casing} {policy : MissingPolicy} {draft : Draft}
  {pagination : Pagination} {page : PageSelect} {text : String} {declaration : Declaration}

/-- The alias that qualifies the order of a page is bound in its select, unless it is that of the
relation and the select reads from the junction alone. -/
theorem bound_iff
    (h : (standard name casing policy).EmitsSelect relation request draft pagination page text)
    (hdeclaration : relation.declaration? = some declaration) :
    page.order.table ∈ page.boundAliases ↔
      draft.planned.shape.isManyToMany = false ∨ declaration.owner = .junction ∨
        relation.needsOwnTable = true ∨
        relation.junction.map (fun junction => casing.apply junction.aliasName) =
          some (casing.apply relation.aliasName) := by
  have hsource := h.source_eq
  rw [h.order_eq, h.mem_boundAliases_iff, h.shape_eq, (h.qualifiedBy hdeclaration).order,
    standard_casing]
  cases hshape : (relation.shape request.isRoot).isManyToMany with
  | false =>
    obtain ⟨hread, hqualifier⟩ :=
      source_of_not_isManyToMany (standard name casing policy) hshape
    obtain ⟨-, halias⟩ := Prod.mk.inj (hsource.symm.trans hread)
    simp [hqualifier, halias]
  | true =>
    obtain ⟨junction, hjunction, hread, hqualifier⟩ :=
      source_of_isManyToMany (standard name casing policy) hshape
    obtain ⟨-, halias⟩ := Prod.mk.inj (hsource.symm.trans hread)
    rw [hqualifier, halias, hjunction, standard_casing]
    cases declaration.owner with
    | junction => simp
    | relation =>
      simp only [Option.map_some, Option.some.injEq]
      constructor
      · rintro (h | ⟨-, h, -⟩)
        · exact .inr (.inr (.inr h.symm))
        · exact .inr (.inr (.inl h))
      · rintro (h | h | h | h)
        · cases h
        · cases h
        · exact .inr ⟨trivial, h, trivial⟩
        · exact .inl h.symm

/-- A page that is declared on the junction reads from it, unless the junction is out of view. -/
theorem reads_iff
    (h : (standard name casing policy).EmitsSelect relation request draft pagination page text)
    (hdeclaration : relation.declaration? = some declaration)
    (howner : declaration.owner = .junction) {junction : Junction}
    (hjunction : relation.junction = some junction) :
    page.table = junction.table ∧ page.aliasName = casing.apply junction.aliasName ∧
        pagination.QualifiedBy (Dialect.spellingOf name casing)
          (casing.apply junction.aliasName) ↔
      request.isRoot = false ∨ relation.table = junction.table ∧
        casing.apply relation.aliasName = casing.apply junction.aliasName := by
  have hqualified := h.qualifiedBy hdeclaration
  have hsource := h.source_eq
  cases hroot : request.isRoot with
  | false =>
    have hshape : (relation.shape request.isRoot).isManyToMany = true := by
      rw [hroot]
      exact Relation.isManyToMany_of_junction hjunction
    obtain ⟨_, hj, hread, hqualifier⟩ :=
      source_of_isManyToMany (standard name casing policy) hshape
    cases hjunction.symm.trans hj
    obtain ⟨htable, halias⟩ := Prod.mk.inj (hsource.symm.trans hread)
    rw [howner, hqualifier, standard_casing] at hqualified
    rw [standard_casing] at halias
    simp [htable, halias, hqualified]
  | true =>
    have hshape : (relation.shape request.isRoot).isManyToMany = false := by
      rw [hroot]
      rfl
    obtain ⟨hread, hqualifier⟩ :=
      source_of_not_isManyToMany (standard name casing policy) hshape
    obtain ⟨htable, halias⟩ := Prod.mk.inj (hsource.symm.trans hread)
    rw [hqualifier, standard_casing] at hqualified
    rw [standard_casing] at halias
    rw [htable, halias]
    constructor
    · rintro ⟨htable, halias, -⟩
      exact .inr ⟨htable, halias⟩
    · rintro (h | ⟨htable, halias⟩)
      · cases h
      · exact ⟨htable, halias, halias ▸ hqualified⟩

end EmitsSelect

/-! ## Tags of posts

The tags of a post, behind the junction of posts and tags, at which the exceptions are shown. -/

/-- The junction of posts and tags. -/
def postTags : Junction where
  table := "post_tags"
  aliasName := "pt"
  batchKey := none
  joins := some {
    toJunction := fun post junction _ => .ok (some (post ++ ".id = " ++ junction ++ ".post_id"))
    toTarget := fun junction tag _ => .ok (some (junction ++ ".tag_id = " ++ tag ++ ".id")) }

/-- Tags that are paged by a sort key of their own. -/
def sortedTags : Relation where
  table := "tags"
  aliasName := "t"
  sortKey := some ⟨.ascending, ["id"]⟩
  junction := some postTags

/-- Tags that are paged by a sort key of their own, filtered, and loaded for many posts. -/
def filteredTags : Relation where
  table := "tags"
  aliasName := "t"
  sortKey := some ⟨.ascending, ["id"]⟩
  filter := some fun tag _ => .ok (some (tag ++ ".LIVE"))
  junction := some { postTags with batchKey := some ⟨"post_id", "id"⟩ }

/-- Tags that are paged by a sort key of the junction. -/
def junctionTags : Relation where
  table := "tags"
  aliasName := "t"
  junction := some { postTags with sortKey := some ⟨.descending, ["tag_id"]⟩ }

/-- The tags of one post, which are joined to it. -/
def ofPost : Request where
  parentAlias := some "p"
  joinCondition := some "TRUE"

/-- The tags of several posts at once. -/
def ofPosts : Request where
  joinCondition := some "pt.tag_id = t.id"
  scope := some ⟨[.text "a", .text "b"]⟩

/-- The plan of the tags of one post: sorted by a column of a table that is not there. -/
def sortedTagsDraft : Draft where
  planned := ⟨.joinedManyToMany, some .keyset, ["p.id = pt.post_id"]⟩
  fragments := ["LEFT JOIN LATERAL (\n  SELECT \"pt\".*\n  FROM post_tags \"pt\"\n"
    ++ "  WHERE p.id = pt.post_id\n  ORDER BY \"t\".\"id\" ASC\n  LIMIT ALL\n) \"pt\" ON TRUE"]

/-- The plan of the filtered tags of several posts, in upper case. -/
def filteredTagsDraft : Draft where
  planned := ⟨.batchedManyToMany, some .keyset,
    ["CAST(\"PT\".\"POST_ID\" AS VARCHAR(255)) = \"TEMP\".\"ID\"", "T.LIVE"]⟩
  fragments := [
    "FROM (VALUES ('a'), ('b')) \"TEMP\"(\"ID\")",
    "LEFT JOIN LATERAL (\n  SELECT \"PT\".*\n  FROM post_tags \"PT\"\n"
      ++ "  LEFT JOIN tags \"T\" ON pt.tag_id = t.id\n"
      ++ "  WHERE CAST(\"PT\".\"POST_ID\" AS VARCHAR(255)) = \"TEMP\".\"ID\" AND T.LIVE\n"
      ++ "  ORDER BY \"T\".\"ID\" ASC\n"
      ++ ") \"PT\" ON CAST(\"PT\".\"POST_ID\" AS VARCHAR(255)) = \"TEMP\".\"ID\"",
    "LEFT JOIN tags AS \"T\" ON pt.tag_id = t.id"]

theorem draft_filteredTags :
    ((standard .db2 .upper .error).draft filteredTags ofPosts).outcome = .ok filteredTagsDraft :=
  Except.toOption_eq_some_iff.1 (by decide +kernel)

theorem plan_filteredTags (fragments : Fragments) :
    ((standard .db2 .upper .error).plan filteredTags ofPosts fragments).1.outcome =
      .ok filteredTagsDraft.planned := by
  rw [plan_of_ok _ _ _ draft_filteredTags]

/-- The plan of tags that are read from their own table and sorted by a column of the junction. -/
def rootTagsDraft : Draft where
  planned := ⟨.root, some .keyset, []⟩
  fragments := ["FROM (\n  SELECT \"t\".*\n  FROM tags \"t\"\n  WHERE TRUE\n"
    ++ "  ORDER BY \"t\".\"tag_id\" DESC\n  LIMIT ALL\n) \"t\""]

/-- The plan of the tags of one post that are sorted by a column of the junction. -/
def junctionTagsDraft : Draft where
  planned := ⟨.joinedManyToMany, some .keyset, ["p.id = pt.post_id"]⟩
  fragments := ["LEFT JOIN LATERAL (\n  SELECT \"pt\".*\n  FROM post_tags \"pt\"\n"
    ++ "  WHERE p.id = pt.post_id\n  ORDER BY \"pt\".\"tag_id\" DESC\n"
    ++ "  LIMIT ALL\n) \"pt\" ON TRUE"]

/-! ## Main results -/

section

variable {name : DialectName} {casing : Casing} {policy : MissingPolicy} {draft : Draft}
  {declaration : Declaration}

/-- **The alias that qualifies the order is bound, with one exception.**  Whenever planning with a
built-in dialect emits a select, the columns of its order and of its cursor condition are columns
of one alias.  This alias is bound inside the select exactly when the relation is not behind a
junction, or the junction carries the declaration, or the relation filters or orders by its own
columns, or the two tables have the same alias. -/
theorem orderTable_mem_boundAliases_iff
    (hdraft : ((standard name casing policy).draft relation request).outcome = .ok draft)
    (hdeclaration : relation.declaration? = some declaration) :
    ∃ pagination page text,
      (standard name casing policy).EmitsSelect relation request draft pagination page text ∧
      pagination.QualifiedBy (Dialect.spellingOf name casing) page.order.table ∧
      (page.order.table ∈ page.boundAliases ↔
        draft.planned.shape.isManyToMany = false ∨ declaration.owner = .junction ∨
          relation.needsOwnTable = true ∨
          relation.junction.map (fun junction => casing.apply junction.aliasName) =
            some (casing.apply relation.aliasName)) := by
  obtain ⟨pagination, page, text, hemits⟩ :=
    exists_emitsSelect hdraft (by rw [hdeclaration]; rfl)
  have hqualified := hemits.qualifiedBy hdeclaration
  refine ⟨pagination, page, text, hemits, ?_, hemits.bound_iff hdeclaration⟩
  rw [hemits.order_eq, hqualified.order]
  exact hqualified

/-- Filtered tags of several posts are sorted by a column of the joined table of tags. -/
theorem orderTable_mem_boundAliases_filteredTags :
    ((standard .db2 .upper .error).draft filteredTags ofPosts).outcome = .ok filteredTagsDraft ∧
      filteredTags.declaration? = some (.keyset ⟨.ascending, ["id"]⟩ .relation) ∧
      ∃ pagination page text,
        (standard .db2 .upper .error).EmitsSelect filteredTags ofPosts filteredTagsDraft pagination
            page text ∧
          page.order.table ∈ page.boundAliases := by
  obtain ⟨pagination, page, text, hemits, -, hbound⟩ :=
    orderTable_mem_boundAliases_iff draft_filteredTags rfl
  exact ⟨draft_filteredTags, rfl, pagination, page, text, hemits, hbound.2 (.inr (.inr (.inl rfl)))⟩

/-- The alias that qualifies the order is not always bound: that of sorted tags of a post is not. -/
theorem not_forall_orderTable_mem_boundAliases :
    ¬ ∀ (name : DialectName) (casing : Casing) (policy : MissingPolicy) (relation : Relation)
        (request : Request) (draft : Draft) (pagination : Pagination) (page : PageSelect)
        (text : String),
      (standard name casing policy).EmitsSelect relation request draft pagination page text →
        page.order.table ∈ page.boundAliases := by
  intro h
  have hdraft : ((standard .postgresql .identity .error).draft sortedTags ofPost).outcome =
      .ok sortedTagsDraft :=
    Except.toOption_eq_some_iff.1 (by decide +kernel)
  obtain ⟨pagination, page, text, hemits⟩ := exists_emitsSelect hdraft rfl
  have hbound := h _ _ _ _ _ _ _ _ _ hemits
  have hdeclaration : sortedTags.declaration? =
      some (.keyset ⟨.ascending, ["id"]⟩ .relation) := rfl
  rw [hemits.bound_iff hdeclaration] at hbound
  revert hbound
  decide

/-- **A page declared on the junction is read from the junction, with one exception.**  Whenever
planning with a built-in dialect succeeds on a relation whose declaration is carried by its
junction, the select reads from the table of the junction under the alias of the junction and
refers to columns of this alias only, exactly when the relation is not asked for as a root, or has
the table and the alias of the junction itself. -/
theorem reads_junction_iff
    (hdraft : ((standard name casing policy).draft relation request).outcome = .ok draft)
    (hdeclaration : relation.declaration? = some declaration)
    (howner : declaration.owner = .junction) :
    ∃ junction pagination page text, relation.junction = some junction ∧
      (standard name casing policy).EmitsSelect relation request draft pagination page text ∧
      (page.table = junction.table ∧ page.aliasName = casing.apply junction.aliasName ∧
          pagination.QualifiedBy (Dialect.spellingOf name casing)
            (casing.apply junction.aliasName) ↔
        request.isRoot = false ∨ relation.table = junction.table ∧
          casing.apply relation.aliasName = casing.apply junction.aliasName) := by
  obtain ⟨junction, hjunction⟩ := Relation.exists_junction_of_owner hdeclaration howner
  obtain ⟨pagination, page, text, hemits⟩ :=
    exists_emitsSelect hdraft (by rw [hdeclaration]; rfl)
  exact ⟨junction, pagination, page, text, hjunction, hemits,
    hemits.reads_iff hdeclaration howner hjunction⟩

/-- The tags of a post that are sorted by the junction are read from the junction. -/
theorem reads_junction_junctionTags :
    ((standard .postgresql .identity .error).draft junctionTags ofPost).outcome =
        .ok junctionTagsDraft ∧
      junctionTags.declaration? = some (.keyset ⟨.descending, ["tag_id"]⟩ .junction) ∧
      ∃ pagination page text,
        (standard .postgresql .identity .error).EmitsSelect junctionTags ofPost junctionTagsDraft
            pagination page text ∧
          page.table = "post_tags" ∧ page.aliasName = "pt" := by
  have hdraft : ((standard .postgresql .identity .error).draft junctionTags ofPost).outcome =
      .ok junctionTagsDraft :=
    Except.toOption_eq_some_iff.1 (by decide +kernel)
  obtain ⟨junction, pagination, page, text, hjunction, hemits, hreads⟩ :=
    reads_junction_iff hdraft rfl rfl
  cases hjunction
  obtain ⟨htable, halias, -⟩ := hreads.2 (.inl rfl)
  exact ⟨hdraft, rfl, pagination, page, text, hemits, htable, halias⟩

/-- A page declared on the junction is not always read from the junction: that of tags that are
asked for as a root is not. -/
theorem not_forall_reads_junction :
    ¬ ∀ (name : DialectName) (casing : Casing) (policy : MissingPolicy) (relation : Relation)
        (request : Request) (draft : Draft) (pagination : Pagination) (page : PageSelect)
        (text : String) (declaration : Declaration) (junction : Junction),
      (standard name casing policy).EmitsSelect relation request draft pagination page text →
      relation.declaration? = some declaration → declaration.owner = .junction →
      relation.junction = some junction →
        page.table = junction.table ∧ page.aliasName = casing.apply junction.aliasName ∧
          pagination.QualifiedBy (Dialect.spellingOf name casing)
            (casing.apply junction.aliasName) := by
  intro h
  have hdraft : ((standard .postgresql .identity .error).draft junctionTags {}).outcome =
      .ok rootTagsDraft :=
    Except.toOption_eq_some_iff.1 (by decide +kernel)
  obtain ⟨pagination, page, text, hemits⟩ := exists_emitsSelect hdraft rfl
  have hdeclaration : junctionTags.declaration? =
      some (.keyset ⟨.descending, ["tag_id"]⟩ .junction) := rfl
  have hreads := h _ _ _ _ _ _ _ _ _ _ _ hemits hdeclaration rfl rfl
  rw [hemits.reads_iff hdeclaration rfl rfl] at hreads
  revert hreads
  decide

end

end Planner

end RelationPaging
