import RelationPaging.Proofs.Paging.KeysetArguments
import RelationPaging.Proofs.Planner.Predicates
import RelationPaging.Proofs.Sql.SelectTail

/-!
# Which selects are ordered

The select of a page ends with the order and with the clause that cuts the page, and both are read
back from its text.  The order is that of the declaration, column by column, in the casing of the
dialect, with all directions reversed where the page is read from its end (`Declaration.columns`).

So a page is cut from ordered rows as long as its declaration has columns.  A sort key always has:
paging by keyset refuses one without.  Paging by offset does not look, so an order without columns
passes, the select has no `ORDER BY` clause, and the page is cut from rows in no particular order
(`selects_in_order_iff`).
-/

namespace RelationPaging

/-! ## Declared columns -/

/-- The columns of a declaration, each with the direction in which it is read. -/
def Declaration.columns (backward : Bool) : Declaration → List (String × SortDirection)
  | keyset key _ =>
    key.columns.map fun column =>
      (column, if backward then key.direction.reverse else key.direction)
  | offset order _ => order.columns

/-- The columns of a declaration, as a reader of the select finds them. -/
def Declaration.sortItems (declaration : Declaration) (casing : Casing) (aliasName : String)
    (backward : Bool) : List Sql.SortItem :=
  (declaration.columns backward).map fun (column, direction) =>
    (⟨aliasName, casing.apply column⟩, direction)

namespace Arguments

variable {arguments : Arguments}

/-- A page is read backwards if and only if rows are counted from the end. -/
theorem backward_iff_holdsCount {pageEnd : Option PageEnd}
    (h : arguments.pageEnd = .ok pageEnd) :
    pageEnd.any (·.backward) = true ↔ ∃ n, arguments.HoldsCount "last" n := by
  cases pageEnd with
  | none =>
    obtain ⟨-, hlast⟩ := pageEnd_eq_none_iff.1 h
    simpa using fun n hn => HoldsCount.not_isAbsent hn hlast
  | some pageEnd =>
    obtain ⟨hcount, hother⟩ := pageEnd_eq_some_iff.1 h
    obtain ⟨rows, backward⟩ := pageEnd
    cases backward with
    | true => exact iff_of_true rfl ⟨rows, hcount⟩
    | false => exact iff_of_false Bool.false_ne_true fun ⟨n, hn⟩ => hn.not_isAbsent hother

end Arguments

namespace Task

variable {task : Task} {declaration : Declaration} {pagination : Pagination}

/-- What the common interpreters decide from a declaration. -/
structure Decides (task : Task) (casing : Casing) (declaration : Declaration)
    (pagination : Pagination) (backward : Bool) : Prop where
  backward_iff : backward = true ↔ ∃ n, task.relation.arguments.HoldsCount "last" n
  items : pagination.order.items =
    declaration.sortItems casing (task.qualifier declaration.owner) backward
  mode : pagination.mode = declaration.mode
  columns : declaration.mode = .keyset → declaration.columns backward ≠ []

theorem exists_decides_of_paginate {s : Spelling} (hs : task.dialect = .ofSpelling s)
    (h : task.paginate (some declaration) = .ok (some pagination)) :
    ∃ backward, task.Decides s.casing declaration pagination backward := by
  obtain ⟨key, owner, paging, rfl, rfl, hpaging⟩ | ⟨order, owner, paging, rfl, rfl, hpaging⟩ :=
    exists_paging_of_paginate hs h
  · obtain ⟨_, pageEnd, ⟨⟩, hcolumns, hend, -, horder⟩ :=
      Spelling.keysetPaging_eq_ok_iff.1 hpaging
    refine ⟨pageEnd.any (·.backward), Arguments.backward_iff_holdsCount hend, ?_, rfl, ?_⟩
    · simp [Pagination.order, horder, PageOrder.items, SortKey.pageOrder, SortKey.directionFor,
        Declaration.sortItems, Declaration.columns, PagingTarget.ofSortKey, Declaration.owner]
    · simpa [Declaration.columns] using fun _ => hcolumns
  · obtain ⟨_, ⟨⟩, hlast, -, horder⟩ := Spelling.offsetPaging_eq_ok_iff.1 hpaging
    refine ⟨false, iff_of_false Bool.false_ne_true ?_, ?_, rfl, ?_⟩
    · rintro ⟨n, hn⟩
      exact hn.not_isAbsent (Arguments.count_eq_none_iff.1 hlast)
    · simp [Pagination.order, horder, PageOrder.items, OrderBy.pageOrder,
        Declaration.sortItems, Declaration.columns, PagingTarget.ofOrderBy, Declaration.owner]
    · rintro ⟨⟩

end Task

/-! ## The text behind the predicates -/

namespace Spelling

section

variable (s : Spelling) (page : PageSelect) (offset : Option UInt64)

/-- The text of a select behind its `WHERE` clause. -/
def selectTail : String :=
  "\n".intercalate (s.linesAfterWhere page offset)

/-- A select text with a given text behind its `WHERE` clause, up to the end of the subquery. -/
def HasTail (text tail : String) : Prop :=
  text = selectOpening page.attachment
    ++ "\n".intercalate (s.linesBeforeWhere page offset
      ++ ["  WHERE " ++ s.conjunction page.predicates, tail])
    ++ s.selectClosing page.aliasName page.attachment

/-- A select with an order or a cut has them behind its predicates. -/
theorem hasTail_select (h : s.linesAfterWhere page offset ≠ []) :
    s.HasTail page offset (s.select page offset) (s.selectTail page offset) := by
  have hlines : s.linesBeforeWhere page offset ++ ["  WHERE " ++ s.conjunction page.predicates]
      ≠ [] := by simp
  have hsplit : s.linesBeforeWhere page offset
      ++ ["  WHERE " ++ s.conjunction page.predicates, s.selectTail page offset] =
        (s.linesBeforeWhere page offset ++ ["  WHERE " ++ s.conjunction page.predicates])
          ++ [s.selectTail page offset] := by simp
  rw [HasTail, select_eq_lines, s.selectLines_eq page offset page.predicates, hsplit,
    String.intercalate_append_of_ne_nil hlines h,
    String.intercalate_append_of_ne_nil hlines (List.cons_ne_nil _ _),
    String.intercalate_singleton, selectTail]

end

variable {name : DialectName} {casing : Casing} {page : PageSelect} {offset : Option UInt64}

/-- The lines behind the predicates have the tokens of the order and of the cut. -/
theorem tokens?_selectTail :
    Sql.tokens? ((Dialect.spellingOf name casing).selectTail page offset).toList =
      some ((if page.order.items = [] then []
        else Sql.orderKeywords ++
          Sql.commaSeparated (page.order.items.map (Sql.sortTokens name))) ++
        Sql.cutTokens name page.limit offset) := by
  have horder : List.Forall₂ (fun line ts => Sql.tokens? line.toList = some ts)
      (if page.order.columns.isEmpty then []
        else ["  ORDER BY " ++ (Dialect.spellingOf name casing).orderColumns page.order])
      (if page.order.items = [] then []
        else [Sql.orderKeywords ++
          Sql.commaSeparated (page.order.items.map (Sql.sortTokens name))]) := by
    by_cases hnil : page.order.columns = []
    · simp [hnil, PageOrder.items]
    · have hne : page.order.items ≠ [] := fun h => hnil (List.map_eq_nil_iff.1 h)
      rw [if_neg (by simpa using hnil), if_neg hne]
      exact .cons (Sql.tokens?_orderLine page.order) .nil
  have hcut : List.Forall₂ (fun line ts => Sql.tokens? line.toList = some ts)
      (if ((Dialect.spellingOf name casing).limitClause page.limit offset).isEmpty then []
        else ["  " ++ (Dialect.spellingOf name casing).limitClause page.limit offset])
      (if ((Dialect.spellingOf name casing).limitClause page.limit offset).isEmpty then []
        else [Sql.cutTokens name page.limit offset]) := by
    split
    · exact .nil
    · exact .cons (Sql.tokens?_cutLine page.limit offset) .nil
  have hjoin : Sql.scan .between "\n".toList = (.between, []) := by decide
  refine (Sql.tokens?_intercalate_of_seam (by decide) hjoin (List.rel_append horder hcut)).trans
    (congrArg some ?_)
  by_cases hempty : ((Dialect.spellingOf name casing).limitClause page.limit offset).isEmpty
  · rw [if_pos hempty, Sql.cutTokens_eq_nil hempty]
    split <;> simp
  · rw [if_neg hempty]
    split <;> simp

/-- What stands behind the predicates is read back: the order of the page and its cut. -/
theorem readSelectTail?_selectTail :
    Sql.readSelectTail? name ((Dialect.spellingOf name casing).selectTail page offset) =
      some ⟨page.order.items, Sql.understood name page.limit, offset⟩ := by
  rw [Sql.readSelectTail?, tokens?_selectTail, Option.bind_some, Sql.selectTail?_eq]

/-- A page that has an order or an offset is not without lines behind its predicates. -/
theorem linesAfterWhere_ne_nil (h : page.order.items ≠ [] ∨ offset.isSome = true) :
    (Dialect.spellingOf name casing).linesAfterWhere page offset ≠ [] := by
  intro hnil
  have htokens := @tokens?_selectTail name casing page offset
  rw [selectTail, hnil] at htokens
  have hnone := Option.some.inj htokens
  rcases h with hitems | hoffset
  · rw [if_neg hitems] at hnone
    cases hnone
  · obtain ⟨n, rfl⟩ := Option.isSome_iff_exists.1 hoffset
    exact Sql.cutTokens_ne_nil page.limit n (List.append_eq_nil_iff.1 hnone.symm).2

end Spelling

/-! ## Posts and users

A page of posts that is read from its end, and users whose order names no column. -/

namespace Planner

/-- The last posts by the time at which they were made. -/
def lastPosts : Relation where
  table := "posts"
  aliasName := "p"
  arguments := [("last", .number (.ofCount 2))]
  sortKey := some ⟨.descending, ["created_at", "id"]⟩

/-- The plan of the last posts, in upper case. -/
def lastPostsDraft : Draft where
  planned := ⟨.root, some .keyset, []⟩
  fragments := ["FROM (\n  SELECT \"P\".*\n  FROM posts \"P\"\n  WHERE 1 = 1\n"
    ++ "  ORDER BY \"P\".\"CREATED_AT\" ASC, \"P\".\"ID\" ASC\n"
    ++ "  FETCH FIRST 3 ROWS ONLY\n) \"P\""]

/-- Users that are paged by an order without columns. -/
def unorderedUsers : Relation where
  table := "users"
  aliasName := "u"
  orderBy := some ⟨[]⟩

/-- The plan of unordered users. -/
def unorderedUsersDraft : Draft where
  planned := ⟨.root, some .offset, []⟩
  fragments := ["FROM (\n  SELECT \"u\".*, count(*) OVER () AS \"$total\"\n"
    ++ "  FROM users \"u\"\n  WHERE TRUE\n  LIMIT ALL OFFSET 0\n) \"u\""]

/-! ## Main result -/

variable {name : DialectName} {casing : Casing} {policy : MissingPolicy} {relation : Relation}
  {request : Request} {draft : Draft} {pagination : Pagination} {page : PageSelect}
  {text : String} {declaration : Declaration}

/-- The page of an emitted select is decided from the declaration. -/
theorem EmitsSelect.exists_decides
    (h : (standard name casing policy).EmitsSelect relation request draft pagination page text)
    (hdeclaration : relation.declaration? = some declaration) :
    ∃ backward, ((standard name casing policy).task relation request).Decides casing declaration
      pagination backward := by
  obtain ⟨stages, _, hstages, _, hpagination, _⟩ := h.emitted
  have hpaginate := hstages.paginate
  rw [hdeclaration, hpagination] at hpaginate
  have hdecides := Task.exists_decides_of_paginate rfl hpaginate
  rwa [Dialect.spellingOf_casing] at hdecides

/-- A select ends with the columns of its declaration and with the cut. -/
theorem EmitsSelect.exists_tail
    (h : (standard name casing policy).EmitsSelect relation request draft pagination page text)
    (hdeclaration : relation.declaration? = some declaration) :
    ∃ tail backward,
      (Dialect.spellingOf name casing).HasTail page pagination.offset? text tail ∧
      ((standard name casing policy).task relation request).Decides casing declaration pagination
        backward ∧
      Sql.readSelectTail? name tail = some
        ⟨declaration.sortItems casing
            (((standard name casing policy).task relation request).qualifier declaration.owner)
            backward,
          Sql.understood name pagination.limit, pagination.offset?⟩ := by
  obtain ⟨backward, hdecides⟩ := h.exists_decides hdeclaration
  have hitems := h.order_eq ▸ hdecides.items
  have hlines : page.order.items ≠ [] ∨ pagination.offset?.isSome = true := by
    cases pagination with
    | keyset paging =>
      refine .inl fun hnil => hdecides.columns hdecides.mode.symm ?_
      rw [hitems, Declaration.sortItems, List.map_eq_nil_iff] at hnil
      exact hnil
    | offset paging => exact .inr rfl
  refine ⟨(Dialect.spellingOf name casing).selectTail page pagination.offset?, backward, ?_,
    hdecides, ?_⟩
  · rw [h.text_eq]
    exact Spelling.hasTail_select _ _ _ (Spelling.linesAfterWhere_ne_nil hlines)
  · rw [Spelling.readSelectTail?_selectTail, hitems, h.limit_eq]

/-- **A page is cut from ordered rows, unless its declaration names no column.**  Whenever planning
with a built-in dialect succeeds on a declared relation, it emits a select, and what stands behind
the `WHERE` clause is read back as the columns of the declaration, all of them and in their order,
and the cut.  There is an `ORDER BY` clause if and only if the declaration has columns.  Without one
the page is cut by offset, from rows that are not ordered. -/
theorem selects_in_order_iff
    (hdraft : ((standard name casing policy).draft relation request).outcome = .ok draft)
    (hdeclaration : relation.declaration? = some declaration) :
    ∃ pagination page text tail backward,
      (standard name casing policy).EmitsSelect relation request draft pagination page text ∧
      text ∈ draft.fragments ∧ pagination.mode = declaration.mode ∧
      (Dialect.spellingOf name casing).HasTail page pagination.offset? text tail ∧
      (backward = true ↔ ∃ n, relation.arguments.HoldsCount "last" n) ∧
      Sql.readSelectTail? name tail = some
        ⟨declaration.sortItems casing
            (((standard name casing policy).task relation request).qualifier declaration.owner)
            backward,
          Sql.understood name pagination.limit, pagination.offset?⟩ ∧
      (Sql.HasOrderClause tail ↔ declaration.columns backward ≠ []) ∧
      (¬ Sql.HasOrderClause tail →
        declaration.mode = .offset ∧ pagination.offset?.isSome = true) := by
  obtain ⟨pagination, page, text, hemits⟩ :=
    exists_emitsSelect hdraft (by rw [hdeclaration]; rfl)
  obtain ⟨tail, backward, htail, hdecides, hread⟩ := hemits.exists_tail hdeclaration
  have horder : Sql.HasOrderClause tail ↔ declaration.columns backward ≠ [] := by
    rw [Sql.hasOrderClause_iff hread, Declaration.sortItems, ne_eq, List.map_eq_nil_iff]
  refine ⟨pagination, page, text, tail, backward, hemits, hemits.text_mem, hdecides.mode, htail,
    hdecides.backward_iff, hread, horder, fun hnone => ?_⟩
  cases hmode : declaration.mode with
  | keyset => exact absurd (horder.2 (hdecides.columns hmode)) hnone
  | offset =>
    have hoffset := hdecides.mode.trans hmode
    cases pagination with
    | keyset paging => cases hoffset
    | offset paging => exact ⟨rfl, rfl⟩

/-- The last posts are sorted by both columns of their key, in reverse. -/
theorem selects_in_order_lastPosts :
    ((standard .db2 .upper .error).draft lastPosts {}).outcome = .ok lastPostsDraft ∧
      lastPosts.declaration? = some (.keyset ⟨.descending, ["created_at", "id"]⟩ .relation) ∧
      ∃ page tail limit, ∃ text ∈ lastPostsDraft.fragments,
        (Dialect.spellingOf .db2 .upper).HasTail page none text tail ∧
          Sql.HasOrderClause tail ∧
          Sql.readSelectTail? .db2 tail =
            some ⟨[(⟨"P", "CREATED_AT"⟩, .ascending), (⟨"P", "ID"⟩, .ascending)], limit, none⟩ := by
  have hdraft : ((standard .db2 .upper .error).draft lastPosts {}).outcome = .ok lastPostsDraft :=
    Except.toOption_eq_some_iff.1 (by decide +kernel)
  obtain ⟨pagination, page, text, tail, backward, -, htext, hmode, htail, hbackward, hread, horder,
    -⟩ := selects_in_order_iff hdraft rfl
  have hlast : backward = true := hbackward.2 ⟨2, _, rfl, .number rfl⟩
  subst hlast
  have hitems : (Declaration.keyset ⟨.descending, ["created_at", "id"]⟩ .relation).sortItems .upper
      (((standard .db2 .upper .error).task lastPosts {}).qualifier .relation) true =
        [(⟨"P", "CREATED_AT"⟩, .ascending), (⟨"P", "ID"⟩, .ascending)] := by
    decide +kernel
  cases pagination with
  | offset paging => cases hmode
  | keyset paging =>
    exact ⟨hdraft, rfl, page, tail, _, text, htext, htail, horder.2 (by decide),
      hread.trans (by rw [← hitems]; rfl)⟩

/-- Not every page is cut from ordered rows: that of unordered users is not. -/
theorem not_forall_hasOrderClause :
    ¬ ∀ (name : DialectName) (casing : Casing) (policy : MissingPolicy) (relation : Relation)
        (request : Request) (draft : Draft) (pagination : Pagination) (page : PageSelect)
        (text tail : String),
      (standard name casing policy).EmitsSelect relation request draft pagination page text →
      (Dialect.spellingOf name casing).HasTail page pagination.offset? text tail →
        Sql.HasOrderClause tail := by
  intro h
  have hdraft : ((standard .postgresql .identity .error).draft unorderedUsers {}).outcome =
      .ok unorderedUsersDraft :=
    Except.toOption_eq_some_iff.1 (by decide +kernel)
  obtain ⟨pagination, page, text, hemits⟩ := exists_emitsSelect hdraft rfl
  have hdeclaration : unorderedUsers.declaration? = some (.offset ⟨[]⟩ .relation) := rfl
  obtain ⟨tail, backward, htail, -, hread⟩ := hemits.exists_tail hdeclaration
  exact (Sql.hasOrderClause_iff hread).1 (h _ _ _ _ _ _ _ _ _ _ hemits htail) rfl

end Planner

end RelationPaging
