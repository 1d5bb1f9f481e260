import RelationPaging.Proofs.Alike
import RelationPaging.Proofs.LetterCase

/-!
# Two spellings of a relation

Two spellings of a relation have the same letters in all aliases, batch keys and columns, and agree
in all else: `Relation.EqualUpToCase`.  The columns of a sort key are also the keys of its cursors,
which are not folded, and so have to be spelled in the same way when a cursor is given.

Two spellings have the same shape, are paged by the same declaration and are decided alike by the
interpreters of a dialect that folds identifiers.  One of the spellings of a relation is the folded
one, `Relation.cased`.
-/

namespace RelationPaging

/-! ## Spellings -/

/-- A cursor is given. -/
def Arguments.GivesCursor (arguments : Arguments) : Prop :=
  (arguments.given? "after").isSome = true ∨ (arguments.given? "before").isSome = true

instance (arguments : Arguments) : Decidable arguments.GivesCursor :=
  inferInstanceAs (Decidable (_ ∨ _))

structure BatchKey.EqualUpToCase (key key' : BatchKey) : Prop where
  child : SameLetters key.child key'.child
  parent : SameLetters key.parent key'.parent

structure OrderBy.EqualUpToCase (order order' : OrderBy) : Prop where
  columns : List.Forall₂ (fun column column' => SameLetters column.1 column'.1 ∧
    column.2 = column'.2) order.columns order'.columns

structure SortKey.EqualUpToCase (key key' : SortKey) : Prop where
  direction : key.direction = key'.direction
  columns : List.Forall₂ SameLetters key.columns key'.columns

structure Junction.EqualUpToCase (junction junction' : Junction) : Prop where
  table : junction.table = junction'.table
  aliasName : SameLetters junction.aliasName junction'.aliasName
  batchKey : Option.Rel BatchKey.EqualUpToCase junction.batchKey junction'.batchKey
  joins : junction.joins = junction'.joins
  filter : junction.filter = junction'.filter
  sortKey : Option.Rel SortKey.EqualUpToCase junction.sortKey junction'.sortKey
  orderBy : Option.Rel OrderBy.EqualUpToCase junction.orderBy junction'.orderBy

/-- Two relations are equal but for the letter case of their aliases, batch keys and columns. -/
structure Relation.EqualUpToCase (relation relation' : Relation) : Prop where
  table : relation.table = relation'.table
  aliasName : SameLetters relation.aliasName relation'.aliasName
  arguments : relation.arguments = relation'.arguments
  sortKey : Option.Rel SortKey.EqualUpToCase relation.sortKey relation'.sortKey
  orderBy : Option.Rel OrderBy.EqualUpToCase relation.orderBy relation'.orderBy
  hasPageInfo : relation.hasPageInfo = relation'.hasPageInfo
  filter : relation.filter = relation'.filter
  join : relation.join = relation'.join
  batchKey : Option.Rel BatchKey.EqualUpToCase relation.batchKey relation'.batchKey
  junction : Option.Rel Junction.EqualUpToCase relation.junction relation'.junction
  /-- Cursors bind the columns as they are spelled. -/
  cursors : relation.arguments.GivesCursor → relation.sortKey = relation'.sortKey ∧
    relation.junction.bind (·.sortKey) = relation'.junction.bind (·.sortKey)

/-- Two requests are equal but for the letter case of the alias of the parent. -/
structure Request.EqualUpToCase (request request' : Request) : Prop where
  parentAlias : Option.Rel SameLetters request.parentAlias request'.parentAlias
  joinCondition : request.joinCondition = request'.joinCondition
  secondaryCondition : request.secondaryCondition = request'.secondaryCondition
  scope : request.scope = request'.scope

/-! ## What is folded -/

section

variable {casing : Casing} (hcasing : casing ≠ .identity)

include hcasing

theorem BatchKey.EqualUpToCase.cased_eq {key key' : BatchKey} (h : key.EqualUpToCase key') :
    key.cased casing = key'.cased casing := by
  rw [cased, cased, Casing.apply_eq_of_sameLetters hcasing h.child,
    Casing.apply_eq_of_sameLetters hcasing h.parent]

theorem OrderBy.EqualUpToCase.pageOrder_eq {order order' : OrderBy}
    (h : order.EqualUpToCase order') (aliasName : String) :
    order.pageOrder casing aliasName = order'.pageOrder casing aliasName := by
  rw [pageOrder, pageOrder, map_eq_map_of_forall₂ h.columns]
  rintro ⟨column, direction⟩ ⟨column', direction'⟩ ⟨hname, hdirection⟩
  exact Prod.ext (Casing.apply_eq_of_sameLetters hcasing hname) hdirection

theorem SortKey.EqualUpToCase.pageOrder_eq {key key' : SortKey} (h : key.EqualUpToCase key')
    (aliasName : String) (direction : SortDirection) :
    key.pageOrder casing aliasName direction = key'.pageOrder casing aliasName direction := by
  rw [pageOrder, pageOrder, map_eq_map_of_forall₂ h.columns]
  exact fun column column' hname =>
    congrArg (·, direction) (Casing.apply_eq_of_sameLetters hcasing hname)

end

theorem SortKey.EqualUpToCase.directionFor_eq {key key' : SortKey} (h : key.EqualUpToCase key')
    (pageEnd : Option PageEnd) : key.directionFor pageEnd = key'.directionFor pageEnd := by
  rw [directionFor, directionFor, h.direction]

/-! ### Interpreters -/

/-- Without a cursor a page starts at its end. -/
theorem Arguments.startCursor_of_not_givesCursor {arguments : Arguments}
    (h : ¬ arguments.GivesCursor) (pageEnd : PageEnd) :
    arguments.startCursor pageEnd = .ok none := by
  have hafter : arguments.cursor "after" = .ok none := by
    rw [cursor, Option.not_isSome_iff_eq_none.1 fun hafter => h (.inl hafter)]
  have hbefore : arguments.cursor "before" = .ok none := by
    rw [cursor, Option.not_isSome_iff_eq_none.1 fun hbefore => h (.inr hbefore)]
  obtain ⟨rows, backward⟩ := pageEnd
  cases backward <;>
    simp [startCursor, PageEnd.refusedName, PageEnd.cursorName, hafter, hbefore, bind, Except.bind]

namespace Spelling

/-- Without a cursor the rows of a page do not depend on the sort key. -/
theorem keysetWindow_eq (s : Spelling) (target target' : PagingTarget)
    (h : ¬ target.arguments.GivesCursor) (h' : ¬ target'.arguments.GivesCursor)
    (key key' : SortKey) (pageEnd : Option PageEnd) :
    s.keysetWindow target key pageEnd = s.keysetWindow target' key' pageEnd := by
  cases pageEnd with
  | none => rfl
  | some pageEnd =>
    simp only [keysetWindow, Arguments.startCursor_of_not_givesCursor h,
      Arguments.startCursor_of_not_givesCursor h']
    rfl

variable {s : Spelling} (hcasing : s.casing ≠ .identity) {relation relation' : Relation}
  (hrelation : relation.EqualUpToCase relation') (aliasName : String)

include hcasing hrelation

/-- A page by keyset is decided alike, as the columns are folded, and are the same when a cursor is
read. -/
theorem keysetPaging_eq {key key' : SortKey} (hkey : key.EqualUpToCase key')
    (hcursor : relation.arguments.GivesCursor → key = key') :
    s.keysetPaging (.ofSortKey relation aliasName key) =
      s.keysetPaging (.ofSortKey relation' aliasName key') := by
  have htarget : PagingTarget.ofSortKey relation aliasName key' =
      PagingTarget.ofSortKey relation' aliasName key' := by
    rw [PagingTarget.ofSortKey, PagingTarget.ofSortKey, hrelation.arguments, hrelation.hasPageInfo]
  rw [← htarget]
  -- a cursor is read by the columns as they are spelled, so these have to be the same
  by_cases hgiven : relation.arguments.GivesCursor
  · rw [hcursor hgiven]
  · have hempty : key.columns.isEmpty = key'.columns.isEmpty := by
      rw [Bool.eq_iff_iff, List.isEmpty_iff_length_eq_zero, List.isEmpty_iff_length_eq_zero,
        hkey.columns.length_eq]
    have hwindow := s.keysetWindow_eq (.ofSortKey relation aliasName key)
      (.ofSortKey relation aliasName key') hgiven hgiven key key'
    simp only [keysetPaging, PagingTarget.ofSortKey, hempty] at hwindow ⊢
    simp only [hwindow, hkey.pageOrder_eq hcasing, hkey.directionFor_eq]

theorem offsetPaging_eq {order order' : OrderBy} (horder : order.EqualUpToCase order') :
    s.offsetPaging (.ofOrderBy relation aliasName order) =
      s.offsetPaging (.ofOrderBy relation' aliasName order') := by
  have horder := horder.pageOrder_eq hcasing aliasName
  have htarget : PagingTarget.ofOrderBy relation aliasName order' =
      PagingTarget.ofOrderBy relation' aliasName order' := by
    rw [PagingTarget.ofOrderBy, PagingTarget.ofOrderBy, hrelation.arguments, hrelation.hasPageInfo]
  rw [← htarget]
  simp only [offsetPaging, PagingTarget.ofOrderBy, horder]
  rfl

end Spelling

/-! ## Relations -/

namespace Relation.EqualUpToCase

variable {relation relation' : Relation} (h : relation.EqualUpToCase relation')

include h

theorem shape_eq (isRoot : Bool) : relation.shape isRoot = relation'.shape isRoot := by
  have hbatch := isSome_eq_of_rel h.batchKey
  rcases cases_rel h.junction with ⟨hnone, hnone'⟩ | ⟨junction, junction', hsome, hsome', hjunction⟩
  · simp only [shape, hnone, hnone', hbatch]
  · simp only [shape, hsome, hsome', isSome_eq_of_rel hjunction.batchKey]

theorem needsOwnTable_eq : relation.needsOwnTable = relation'.needsOwnTable := by
  rw [needsOwnTable, needsOwnTable, h.filter, isSome_eq_of_rel h.orderBy]

/-- The callbacks are the same. -/
theorem answer?_eq (call : Invocation) : relation.answer? call = relation'.answer? call := by
  have hjoins := bind_eq_bind_of_rel h.junction fun _ _ hjunction => hjunction.joins
  have hfilter := bind_eq_bind_of_rel h.junction fun _ _ hjunction => hjunction.filter
  cases call <;> simp only [answer?, h.join, h.filter, h.arguments, hjoins, hfilter]

theorem text?_eq : relation.text? = relation'.text? := by
  funext call
  rw [text?, text?, h.answer?_eq]

end Relation.EqualUpToCase

/-- Two declarations are equal but for the letter case of their columns, and a sort key is the same
when a cursor is given. -/
inductive Declaration.EqualUpToCase (arguments : Arguments) : Declaration → Declaration → Prop
  | keyset {key key' : SortKey} {owner : Owner} (hkey : key.EqualUpToCase key')
      (hcursor : arguments.GivesCursor → key = key') :
      EqualUpToCase arguments (.keyset key owner) (.keyset key' owner)
  | offset {order order' : OrderBy} {owner : Owner} (horder : order.EqualUpToCase order') :
      EqualUpToCase arguments (.offset order owner) (.offset order' owner)

/-- Two spellings are paged by the same declaration. -/
theorem Relation.EqualUpToCase.declaration? {relation relation' : Relation}
    (h : relation.EqualUpToCase relation') :
    Option.Rel (Declaration.EqualUpToCase relation.arguments) relation.declaration?
      relation'.declaration? := by
  have hkey : ∀ {key? key'? : Option SortKey} (owner : Owner),
      Option.Rel SortKey.EqualUpToCase key? key'? →
      (relation.arguments.GivesCursor → key? = key'?) →
      Option.Rel (Declaration.EqualUpToCase relation.arguments) (key?.map (.keyset · owner))
        (key'?.map (.keyset · owner)) := by
    intro key? key'? owner hrel hcursor
    cases hrel with
    | some hkey => exact .some (.keyset hkey fun hgiven => Option.some.inj (hcursor hgiven))
    | none => exact .none
  have horder : ∀ {order? order'? : Option OrderBy} (owner : Owner),
      Option.Rel OrderBy.EqualUpToCase order? order'? →
      Option.Rel (Declaration.EqualUpToCase relation.arguments) (order?.map (.offset · owner))
        (order'?.map (.offset · owner)) := by
    intro order? order'? owner hrel
    cases hrel with
    | some horder => exact .some (.offset horder)
    | none => exact .none
  have hjunctionKey := rel_bind h.junction fun _ _ hjunction => hjunction.sortKey
  have hjunctionOrder := rel_bind h.junction fun _ _ hjunction => hjunction.orderBy
  refine rel_orElse (hkey _ h.sortKey ?_) (rel_orElse (hkey _ hjunctionKey ?_)
    (rel_orElse (horder _ h.orderBy) (horder _ hjunctionOrder)))
  · exact fun hgiven => (h.cursors hgiven).1
  · exact fun hgiven => (h.cursors hgiven).2

/-! ## Requests -/

theorem Request.EqualUpToCase.isRoot_eq {request request' : Request}
    (h : request.EqualUpToCase request') : request.isRoot = request'.isRoot := by
  rw [isRoot, isRoot, h.scope, ← Option.not_isSome, ← Option.not_isSome (a := request'.parentAlias),
    isSome_eq_of_rel h.parentAlias]

/-! ## The folded spelling -/

/-- A sort key in a casing.  It is left as it is when a cursor binds its columns. -/
def SortKey.cased (key : SortKey) (casing : Casing) (arguments : Arguments) : SortKey :=
  if arguments.GivesCursor then key else { key with columns := key.columns.map casing.apply }

/-- An order in a casing. -/
def OrderBy.cased (order : OrderBy) (casing : Casing) : OrderBy :=
  ⟨order.columns.map fun (column, direction) => (casing.apply column, direction)⟩

/-- A junction in a casing. -/
def Junction.cased (junction : Junction) (casing : Casing) (arguments : Arguments) : Junction :=
  { junction with
    aliasName := casing.apply junction.aliasName
    batchKey := junction.batchKey.map (·.cased casing)
    sortKey := junction.sortKey.map (·.cased casing arguments)
    orderBy := junction.orderBy.map (·.cased casing) }

/-- A relation in a casing. -/
def Relation.cased (relation : Relation) (casing : Casing) : Relation :=
  { relation with
    aliasName := casing.apply relation.aliasName
    batchKey := relation.batchKey.map (·.cased casing)
    sortKey := relation.sortKey.map (·.cased casing relation.arguments)
    orderBy := relation.orderBy.map (·.cased casing)
    junction := relation.junction.map (·.cased casing relation.arguments) }

/-- A request in a casing. -/
def Request.cased (request : Request) (casing : Casing) : Request :=
  { request with parentAlias := request.parentAlias.map casing.apply }

section

variable (casing : Casing)

theorem BatchKey.equalUpToCase_cased (key : BatchKey) : (key.cased casing).EqualUpToCase key :=
  ⟨casing.sameLetters_apply key.child, casing.sameLetters_apply key.parent⟩

theorem OrderBy.equalUpToCase_cased (order : OrderBy) : (order.cased casing).EqualUpToCase order :=
  ⟨List.forall₂_map_left_iff.2 <| List.forall₂_same.2 fun column _ =>
    ⟨casing.sameLetters_apply column.1, rfl⟩⟩

theorem SortKey.equalUpToCase_cased (key : SortKey) (arguments : Arguments) :
    (key.cased casing arguments).EqualUpToCase key := by
  unfold cased
  split
  · exact ⟨rfl, List.forall₂_same.2 fun column _ => .refl column⟩
  · exact ⟨rfl, List.forall₂_map_left_iff.2 <| List.forall₂_same.2 fun column _ =>
      casing.sameLetters_apply column⟩

/-- A sort key with a cursor is left as it is. -/
theorem SortKey.map_cased_of_givesCursor {arguments : Arguments} (h : arguments.GivesCursor)
    (key? : Option SortKey) : key?.map (·.cased casing arguments) = key? := by
  simp only [cased, if_pos h, Option.map_id']

theorem Junction.equalUpToCase_cased (junction : Junction) (arguments : Arguments) :
    (junction.cased casing arguments).EqualUpToCase junction where
  table := rfl
  aliasName := casing.sameLetters_apply junction.aliasName
  batchKey := rel_map_self (BatchKey.equalUpToCase_cased casing) junction.batchKey
  joins := rfl
  filter := rfl
  sortKey := rel_map_self (fun key => key.equalUpToCase_cased casing arguments) junction.sortKey
  orderBy := rel_map_self (OrderBy.equalUpToCase_cased casing) junction.orderBy

/-- Folding a relation is respelling it. -/
theorem Relation.equalUpToCase_cased (relation : Relation) :
    (relation.cased casing).EqualUpToCase relation where
  table := rfl
  aliasName := casing.sameLetters_apply relation.aliasName
  arguments := rfl
  sortKey := rel_map_self (fun key => key.equalUpToCase_cased casing relation.arguments)
    relation.sortKey
  orderBy := rel_map_self (OrderBy.equalUpToCase_cased casing) relation.orderBy
  hasPageInfo := rfl
  filter := rfl
  join := rfl
  batchKey := rel_map_self (BatchKey.equalUpToCase_cased casing) relation.batchKey
  junction := rel_map_self (fun junction => junction.equalUpToCase_cased casing relation.arguments)
    relation.junction
  cursors := fun hgiven => by
    refine ⟨SortKey.map_cased_of_givesCursor casing hgiven relation.sortKey, ?_⟩
    cases hjunction : relation.junction with
    | none => simp only [cased, hjunction, Option.map_none]
    | some junction =>
      simp only [cased, hjunction, Option.map_some, Option.bind_some, Junction.cased]
      exact SortKey.map_cased_of_givesCursor casing hgiven junction.sortKey

theorem Request.equalUpToCase_cased (request : Request) :
    (request.cased casing).EqualUpToCase request :=
  ⟨rel_map_self casing.sameLetters_apply request.parentAlias, rfl, rfl, rfl⟩

end

end RelationPaging
