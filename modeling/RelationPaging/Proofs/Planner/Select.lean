import RelationPaging.Dialect.Standard
import RelationPaging.Proofs.Paging.Interpreters
import RelationPaging.Proofs.Planner.Stages

/-!
# The select that planning emits

A planning that succeeds on a relation with a declaration hands one page to the dialect and emits
the select of this page.  `Planner.EmitsSelect` ties the draft, the decision on the page, the page
and its text to each other, and `Planner.exists_emitsSelect` says that they exist whenever planning
succeeds on a declared relation.  The rest of the module is what is known about them: which table
the page is read from, which aliases are bound inside the select, and which alias its order and
its cursor condition refer to.
-/

namespace RelationPaging

/-- The aliases that can be referred to inside the select of a page: that of the table it reads
from, and that of the extra join if there is one. -/
def PageSelect.boundAliases (page : PageSelect) : List String :=
  page.aliasName :: ((page.attachment.bind (·.extra)).map (·.aliasName)).toList

/-- The position at which a page starts, if it was decided by offset. -/
def Pagination.offset? : Pagination → Option UInt64
  | keyset _ => none
  | offset paging => some paging.offset

/-! ## Tasks -/

namespace Task

variable {task : Task} {declaration : Declaration}

/-- The alias of the table that carries a declaration, as far as it is in view. -/
def qualifier (task : Task) (owner : Owner) : String :=
  match owner, task.aliases.junction with
  | .junction, some junctionAlias => junctionAlias
  | _, _ => task.aliases.relation

/-- A dialect with the common interpreters decides on a page by keyset from a sort key, and on a
page by offset from an order. -/
theorem exists_paging_of_paginate {s : Spelling} (hs : task.dialect = .ofSpelling s)
    {pagination : Pagination} (h : task.paginate (some declaration) = .ok (some pagination)) :
    (∃ key owner paging, declaration = .keyset key owner ∧ pagination = .keyset paging ∧
        s.keysetPaging (.ofSortKey task.relation (task.qualifier owner) key) = .ok paging) ∨
      ∃ order owner paging, declaration = .offset order owner ∧ pagination = .offset paging ∧
        s.offsetPaging (.ofOrderBy task.relation (task.qualifier owner) order) = .ok paging := by
  obtain ⟨_, h, ⟨⟩⟩ := Except.bind_eq_ok_iff.1 h
  rw [hs] at h
  cases declaration with
  | keyset key owner =>
    obtain ⟨paging, hpaging, rfl⟩ := Except.map_eq_ok_iff.1 h
    exact .inl ⟨key, owner, paging, rfl, rfl, hpaging⟩
  | offset order owner =>
    obtain ⟨paging, hpaging, rfl⟩ := Except.map_eq_ok_iff.1 h
    exact .inr ⟨order, owner, paging, rfl, rfl, hpaging⟩

/-- A dialect with the common interpreters refers to columns of the qualifying alias only. -/
theorem qualifiedBy_of_paginate {s : Spelling} (hs : task.dialect = .ofSpelling s)
    {pagination : Pagination} (h : task.paginate (some declaration) = .ok (some pagination)) :
    pagination.QualifiedBy s (task.qualifier declaration.owner) := by
  obtain ⟨key, owner, paging, rfl, rfl, hpaging⟩ | ⟨order, owner, paging, rfl, rfl, hpaging⟩ :=
    exists_paging_of_paginate hs h
  · exact Spelling.qualifiedBy_of_keysetPaging hpaging
  · exact Spelling.qualifiedBy_of_offsetPaging hpaging

/-- The extra join brings in the relation's own table under its own alias, if that is needed. -/
theorem extraAlias_of_ownTable {condition : Option String} {extra : Option ExtraJoin}
    (h : task.ownTable condition = .ok extra) :
    extra.map (·.aliasName) =
      if task.relation.needsOwnTable then some task.aliases.relation else none := by
  unfold ownTable at h
  cases hneeds : task.relation.needsOwnTable with
  | false =>
    rw [hneeds] at h
    cases h
    rfl
  | true =>
    rw [hneeds] at h
    obtain ⟨_, _, h⟩ := Except.bind_eq_ok_iff.1 h
    cases h
    rfl

/-- Only a select behind a junction has an extra join. -/
theorem extraAlias_of_attachment {attaching : Attaching} {attachment : Option Attachment}
    (h : task.attachment attaching = .ok attachment) :
    (attachment.bind (·.extra)).map (·.aliasName) =
      if task.shape.isManyToMany && task.relation.needsOwnTable then some task.aliases.relation
      else none := by
  unfold Task.attachment at h
  cases hshape : task.shape <;> rw [hshape] at h
  case root =>
    cases h
    rfl
  case joinedToMany =>
    obtain ⟨_, _, h⟩ := Except.bind_eq_ok_iff.1 h
    cases h
    rfl
  case batchedToMany =>
    obtain ⟨_, _, h⟩ := Except.bind_eq_ok_iff.1 h
    cases h
    rfl
  case joinedManyToMany =>
    obtain ⟨extra, hextra, h⟩ := Except.bind_eq_ok_iff.1 h
    obtain ⟨_, _, h⟩ := Except.bind_eq_ok_iff.1 h
    cases h
    exact extraAlias_of_ownTable hextra
  case batchedManyToMany =>
    obtain ⟨extra, hextra, h⟩ := Except.bind_eq_ok_iff.1 h
    obtain ⟨_, _, h⟩ := Except.bind_eq_ok_iff.1 h
    cases h
    exact extraAlias_of_ownTable hextra

/-- The aliases bound in the select of a page are that of the table it is read from and, behind a
junction, that of the relation's own table if it is needed. -/
theorem mem_boundAliases_page {attaching : Attaching} {attachment : Option Attachment}
    {predicates : List String} {pagination : Pagination} {aliasName : String}
    (h : task.attachment attaching = .ok attachment) :
    aliasName ∈ (task.page predicates pagination attachment).boundAliases ↔
      aliasName = task.source.2 ∨ task.shape.isManyToMany = true ∧
        task.relation.needsOwnTable = true ∧ aliasName = task.aliases.relation := by
  have hextra := extraAlias_of_attachment h
  simp only [PageSelect.boundAliases, page, hextra, List.mem_cons, Option.mem_toList]
  cases task.shape.isManyToMany <;> cases task.relation.needsOwnTable <;> simp [eq_comm]

end Task

/-! ## Plans -/

namespace Planner

/-- A planner for one of the built-in dialects. -/
def standard (name : DialectName) (casing : Casing) (policy : MissingPolicy) : Planner :=
  ⟨.standard name casing, policy⟩

@[simp] theorem standard_casing (name : DialectName) (casing : Casing) (policy : MissingPolicy) :
    (standard name casing policy).dialect.casing = casing :=
  Dialect.spellingOf_casing name casing

/-- Planning gives `draft`; on the way to it the declaration is interpreted as `pagination`, `page`
is handed to the dialect, and the select `text` of it is emitted. -/
structure EmitsSelect (planner : Planner) (relation : Relation) (request : Request)
    (draft : Draft) (pagination : Pagination) (page : PageSelect) (text : String) : Prop where
  planned : (planner.draft relation request).outcome = .ok draft
  rendered : planner.dialect.selectOf pagination page = .ok text
  emitted : ∃ stages attachment,
    (planner.task relation request).Passes relation.declaration? stages ∧
      draft = stages.draft (relation.shape request.isRoot) ∧
      stages.pagination = some pagination ∧ stages.emission.select = some text ∧
      (planner.task relation request).attachment stages.attaching = .ok attachment ∧
      page = (planner.task relation request).page draft.planned.predicates pagination attachment

variable {planner : Planner} {relation : Relation} {request : Request} {draft : Draft}
  {pagination : Pagination} {page : PageSelect} {text : String}

/-- Whenever planning succeeds on a relation with a declaration, it emits a select. -/
theorem exists_emitsSelect (h : (planner.draft relation request).outcome = .ok draft)
    (hd : relation.declaration?.isSome) :
    ∃ pagination page text,
      planner.EmitsSelect relation request draft pagination page text := by
  obtain ⟨-, stages, hstages, rfl⟩ := draft_outcome_eq_ok_iff.1 h
  have hsome : stages.emission.select.isSome = true := by
    rw [hstages.select.isSome_eq, Task.isSome_of_paginate hstages.paginate, hd]
  obtain ⟨text, htext⟩ := Option.isSome_iff_exists.1 hsome
  have hselect := hstages.select
  rw [htext] at hselect
  obtain ⟨pagination, attachment, hpagination, hattachment, hrendered⟩ := hselect
  exact ⟨pagination, _, text, h, hrendered, stages, attachment, hstages, rfl, hpagination, htext,
    hattachment, rfl⟩

namespace EmitsSelect

theorem shape_eq (h : planner.EmitsSelect relation request draft pagination page text) :
    draft.planned.shape = relation.shape request.isRoot := by
  obtain ⟨_, _, _, rfl, _⟩ := h.emitted
  rfl

/-- The select shows the order that was decided. -/
theorem order_eq (h : planner.EmitsSelect relation request draft pagination page text) :
    page.order = pagination.order := by
  obtain ⟨_, _, _, _, _, _, _, rfl⟩ := h.emitted
  rfl

/-- The select shows the predicates of the plan. -/
theorem predicates_eq
    (h : planner.EmitsSelect relation request draft pagination page text) :
    page.predicates = draft.planned.predicates := by
  obtain ⟨_, _, _, _, _, _, _, rfl⟩ := h.emitted
  rfl

/-- The select reads from the table that the task names as its source. -/
theorem source_eq (h : planner.EmitsSelect relation request draft pagination page text) :
    (planner.task relation request).source = (page.table, page.aliasName) := by
  obtain ⟨_, _, _, _, _, _, _, rfl⟩ := h.emitted
  rfl

theorem mem_boundAliases_iff
    (h : planner.EmitsSelect relation request draft pagination page text) {aliasName : String} :
    aliasName ∈ page.boundAliases ↔
      aliasName = page.aliasName ∨
        (relation.shape request.isRoot).isManyToMany = true ∧ relation.needsOwnTable = true ∧
          aliasName = planner.dialect.casing.apply relation.aliasName := by
  obtain ⟨_, _, _, _, _, _, hattachment, rfl⟩ := h.emitted
  exact Task.mem_boundAliases_page hattachment

/-- The select takes as many rows as was decided. -/
theorem limit_eq (h : planner.EmitsSelect relation request draft pagination page text) :
    page.limit = pagination.limit := by
  obtain ⟨_, _, _, _, _, _, _, rfl⟩ := h.emitted
  rfl

/-- A built-in dialect writes the select of a page in the common way. -/
theorem text_eq {name : DialectName} {casing : Casing} {policy : MissingPolicy}
    (h : (standard name casing policy).EmitsSelect relation request draft pagination page text) :
    text = (Dialect.spellingOf name casing).select page pagination.offset? := by
  have hrendered := h.rendered
  cases pagination with
  | keyset paging =>
    cases hrendered
    rfl
  | offset paging =>
    cases hrendered
    rfl

theorem exists_text_eq {name : DialectName} {casing : Casing} {policy : MissingPolicy}
    (h : (standard name casing policy).EmitsSelect relation request draft pagination page text) :
    ∃ offset, text = (Dialect.spellingOf name casing).select page offset :=
  ⟨_, h.text_eq⟩

/-- With a built-in dialect, the select refers to columns of the qualifying alias only. -/
theorem qualifiedBy {name : DialectName} {casing : Casing} {policy : MissingPolicy}
    {declaration : Declaration}
    (h : (standard name casing policy).EmitsSelect relation request draft pagination page text)
    (hdeclaration : relation.declaration? = some declaration) :
    pagination.QualifiedBy (Dialect.spellingOf name casing)
      (((standard name casing policy).task relation request).qualifier declaration.owner) := by
  obtain ⟨stages, _, hstages, _, hpagination, _⟩ := h.emitted
  have hpaginate := hstages.paginate
  rw [hdeclaration, hpagination] at hpaginate
  exact Task.qualifiedBy_of_paginate rfl hpaginate

end EmitsSelect

end Planner

end RelationPaging
