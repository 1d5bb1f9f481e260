import RelationPaging.Dialect
import RelationPaging.Proofs.Outcome

/-!
# What the interpreters of paging arguments decide

The inversions of the two interpreters.  An interpreter that succeeds gives a decision whose order
lists the columns of the declaration under the alias of its target, and whose condition, if there
is one, compares the same columns under the same alias with values of a cursor.
`Pagination.QualifiedBy` is this property of a decision: it refers to columns of one alias only.
An interpreter that is given the declaration it asks for fails on paging arguments only.
-/

namespace RelationPaging

/-- A decision on a page refers to columns of one table only, which is given by its alias: the
order lists columns of it, and the condition compares the columns of the order, of which there is
at least one, each with a value. -/
structure Pagination.QualifiedBy (pagination : Pagination) (s : Spelling) (aliasName : String) :
    Prop where
  order : pagination.order.table = aliasName
  condition : ∀ text ∈ pagination.condition, ∃ values descending,
    pagination.order.columns ≠ [] ∧ values.length = pagination.order.columns.length ∧
      text = (Condition.after s.comparesRows (pagination.order.columns.map (·.1)) values
        descending).render (s.column aliasName)

/-! ## Cursors -/

theorem Cursor.length_of_takeColumns {members : Json.Members} {columns : List String}
    {values : List Json} (h : takeColumns members columns = .ok values) :
    values.length = columns.length := by
  induction columns generalizing members values with
  | nil =>
    cases h
    rfl
  | cons column columns ih =>
    unfold takeColumns at h
    cases hvalue : members.get? column with
    | none =>
      rw [hvalue] at h
      cases h
    | some value =>
      rw [hvalue] at h
      obtain ⟨rest, hrest, rfl⟩ := Except.map_eq_ok_iff.1 h
      rw [List.length_cons, List.length_cons, ih hrest]

/-- A cursor gives as many values as there are columns. -/
theorem Cursor.length_of_keysetValues {cursor : String} {columns : List String}
    {values : List Json} (h : keysetValues cursor columns = .ok values) :
    values.length = columns.length := by
  obtain ⟨members, _, h⟩ := Except.bind_eq_ok_iff.1 h
  split at h
  · cases h
  · exact length_of_takeColumns h

/-! ## Values of a cursor -/

/-- The JSON value that a scalar is. -/
def Scalar.json : Scalar → Json
  | null => .null
  | bool b => .bool b
  | number n => .number n
  | text s => .string s

theorem Scalar.ofJson_eq_ok_iff {value : Json} {scalar : Scalar} :
    ofJson value = .ok scalar ↔ value = scalar.json := by
  cases value <;> cases scalar <;> simp [ofJson, json]

theorem Scalar.mapM_ofJson_eq_ok_iff {values : List Json} {scalars : List Scalar} :
    values.mapM ofJson = .ok scalars ↔ values = scalars.map json := by
  simp only [Except.mapM_eq_ok_iff, ofJson_eq_ok_iff]
  rw [← List.forall₂_eq_eq_eq, List.forall₂_map_right_iff]

namespace Spelling

variable {s : Spelling} {target : PagingTarget}

/-! ## Paging by keyset -/

theorem keysetCondition_eq_ok_iff {aliasName : String} {columns : List String}
    {values : List Json} {descending : Bool} {text : String} :
    s.keysetCondition aliasName columns values descending = .ok text ↔
      ∃ scalars, values.mapM Scalar.ofJson = .ok scalars ∧
        text = (Condition.after s.comparesRows columns scalars descending).render
          (s.column aliasName) := by
  simp only [keysetCondition, Except.bind_eq_ok_iff]
  constructor
  · rintro ⟨scalars, hscalars, h⟩
    cases h
    exact ⟨scalars, hscalars, rfl⟩
  · rintro ⟨scalars, hscalars, rfl⟩
    exact ⟨scalars, hscalars, rfl⟩

theorem behindCursor_eq_ok_iff {aliasName : String} {key : SortKey} {direction : SortDirection}
    {cursor text : String} :
    s.behindCursor aliasName key direction cursor = .ok text ↔
      ∃ values scalars, Cursor.keysetValues cursor key.columns = .ok values ∧
        values.mapM Scalar.ofJson = .ok scalars ∧
        text = (Condition.after s.comparesRows (key.columns.map s.casing.apply) scalars
          direction.isDescending).render (s.column aliasName) := by
  simp only [behindCursor, Except.bind_eq_ok_iff, keysetCondition_eq_ok_iff]
  constructor
  · rintro ⟨values, hvalues, scalars, hscalars, htext⟩
    exact ⟨values, scalars, hvalues, hscalars, htext⟩
  · rintro ⟨values, scalars, hvalues, hscalars, htext⟩
    exact ⟨values, hvalues, scalars, hscalars, htext⟩

/-- The window behind a cursor takes one row more than asked for and starts behind the cursor. -/
theorem keysetWindow_eq_ok_iff {key : SortKey} {pageEnd : PageEnd} {cursor : String}
    (hcursor : target.arguments.startCursor pageEnd = .ok (some cursor)) {limit : PageLimit}
    {condition : Option String} :
    s.keysetWindow target key (some pageEnd) = .ok (limit, condition) ↔
      ∃ text, s.behindCursor target.aliasName key (key.directionFor (some pageEnd)) cursor =
        .ok text ∧ limit = .rows (oneMore pageEnd.rows) ∧ condition = some text := by
  simp only [keysetWindow, Except.bind_eq_ok_iff, Except.mapError_eq_ok_iff, hcursor]
  constructor
  · rintro ⟨_, ⟨⟩, h⟩
    obtain ⟨text, htext, h⟩ := Except.bind_eq_ok_iff.1 h
    cases h
    exact ⟨text, Except.mapError_eq_ok_iff.1 htext, rfl, rfl⟩
  · rintro ⟨text, htext, rfl, rfl⟩
    have hcondition := Except.mapError_eq_ok_iff (f := PlanError.cursor) |>.2 htext
    exact ⟨_, rfl, Except.bind_eq_ok_iff.2 ⟨text, hcondition, rfl⟩⟩

/-- The condition of a window is that for the rows behind a cursor. -/
theorem exists_behindCursor_of_keysetWindow {key : SortKey} {pageEnd : Option PageEnd}
    {limit : PageLimit} {text : String}
    (h : s.keysetWindow target key pageEnd = .ok (limit, some text)) :
    ∃ endOfPage cursor, pageEnd = some endOfPage ∧
      target.arguments.startCursor endOfPage = .ok (some cursor) ∧
      s.behindCursor target.aliasName key (key.directionFor pageEnd) cursor = .ok text := by
  cases pageEnd with
  | none => cases h
  | some pageEnd =>
    obtain ⟨cursor, hcursor, hrest⟩ := Except.bind_eq_ok_iff.1 h
    rw [Except.mapError_eq_ok_iff] at hcursor
    cases cursor with
    | none => cases hrest
    | some cursor =>
      obtain ⟨found, hfound, -, hcondition⟩ := (keysetWindow_eq_ok_iff hcursor).1 h
      cases hcondition
      exact ⟨pageEnd, cursor, rfl, hcursor, hfound⟩

/-- The condition of a window compares the columns of the key with the values of a cursor. -/
theorem exists_of_keysetWindow {key : SortKey} {pageEnd : Option PageEnd} {limit : PageLimit}
    {condition : Option String}
    (h : s.keysetWindow target key pageEnd = .ok (limit, condition)) :
    ∀ text ∈ condition, ∃ scalars, scalars.length = key.columns.length ∧
      text = (Condition.after s.comparesRows (key.columns.map s.casing.apply) scalars
        (key.directionFor pageEnd).isDescending).render (s.column target.aliasName) := by
  rintro text ⟨⟩
  obtain ⟨-, cursor, -, -, hbehind⟩ := exists_behindCursor_of_keysetWindow h
  obtain ⟨values, scalars, hvalues, hscalars, rfl⟩ := behindCursor_eq_ok_iff.1 hbehind
  have hlength := (Except.mapM_eq_ok_iff.1 hscalars).length_eq
  exact ⟨scalars, hlength.symm.trans (Cursor.length_of_keysetValues hvalues), rfl⟩

/-- The interpreter of keyset paging succeeds on a sort key with columns, when the arguments name
an end of the page and a window at that end. -/
theorem keysetPaging_eq_ok_iff {paging : KeysetPaging} :
    s.keysetPaging target = .ok paging ↔
      ∃ key pageEnd, target.sortKey = some key ∧ key.columns ≠ [] ∧
        target.arguments.pageEnd = .ok pageEnd ∧
        s.keysetWindow target key pageEnd = .ok (paging.limit, paging.condition) ∧
        paging.order = key.pageOrder s.casing target.aliasName (key.directionFor pageEnd) := by
  unfold keysetPaging
  cases hkey : target.sortKey with
  | none => simp
  | some key =>
    cases hcolumns : key.columns with
    | nil => simp [hcolumns]
    | cons column columns =>
      simp only [hcolumns, List.isEmpty_cons, Bool.false_eq_true, if_false,
        Except.bind_eq_ok_iff, Except.mapError_eq_ok_iff]
      constructor
      · rintro ⟨pageEnd, hend, ⟨limit, condition⟩, hwindow, h⟩
        cases h
        exact ⟨key, pageEnd, rfl, by simp [hcolumns], hend, hwindow, rfl⟩
      · rintro ⟨_, pageEnd, ⟨⟩, _, hend, hwindow, horder⟩
        refine ⟨pageEnd, hend, _, hwindow, ?_⟩
        rw [← horder]
        rfl

/-- A page by keyset refers to columns of its target only. -/
theorem qualifiedBy_of_keysetPaging {paging : KeysetPaging}
    (h : s.keysetPaging target = .ok paging) :
    (Pagination.keyset paging).QualifiedBy s target.aliasName := by
  obtain ⟨key, pageEnd, -, hne, -, hwindow, horder⟩ := keysetPaging_eq_ok_iff.1 h
  have hcolumns : paging.order.columns.map (·.1) = key.columns.map s.casing.apply := by
    rw [horder, SortKey.pageOrder, List.map_map]
    rfl
  refine ⟨?_, fun text htext => ?_⟩
  · show paging.order.table = target.aliasName
    rw [horder]
    rfl
  · obtain ⟨scalars, hlength, hscalars⟩ := exists_of_keysetWindow hwindow text htext
    refine ⟨scalars, _, ?_, ?_, by rw [hscalars, Pagination.order, hcolumns]⟩
    · rw [Pagination.order, horder]
      exact fun hnil => hne (List.map_eq_nil_iff.1 hnil)
    · rw [hlength, Pagination.order, horder, SortKey.pageOrder, List.length_map]

/-! ## Paging by offset -/

/-- The interpreter of offset paging succeeds on an order, when the arguments do not count from
the end and name a window. -/
theorem offsetPaging_eq_ok_iff {paging : OffsetPaging} :
    s.offsetPaging target = .ok paging ↔
      ∃ order, target.orderBy = some order ∧ target.arguments.count "last" = .ok none ∧
        target.offsetWindow = .ok (paging.limit, paging.offset) ∧
        paging.order = order.pageOrder s.casing target.aliasName := by
  unfold offsetPaging
  cases horder : target.orderBy with
  | none => simp
  | some order =>
    simp only [Except.bind_eq_ok_iff, Except.mapError_eq_ok_iff]
    constructor
    · rintro ⟨last, hlast, h⟩
      cases last with
      | some n => cases h
      | none =>
        obtain ⟨⟨limit, offset⟩, hwindow, h⟩ := Except.bind_eq_ok_iff.1 h
        cases h
        exact ⟨order, rfl, hlast, hwindow, rfl⟩
    · rintro ⟨_, ⟨⟩, hlast, hwindow, hpage⟩
      refine ⟨none, hlast, Except.bind_eq_ok_iff.2 ⟨_, hwindow, ?_⟩⟩
      rw [← hpage]
      rfl

/-- A page by offset refers to columns of its target only. -/
theorem qualifiedBy_of_offsetPaging {paging : OffsetPaging}
    (h : s.offsetPaging target = .ok paging) :
    (Pagination.offset paging).QualifiedBy s target.aliasName := by
  obtain ⟨order, -, -, -, horder⟩ := offsetPaging_eq_ok_iff.1 h
  refine ⟨?_, fun text htext => by cases htext⟩
  show paging.order.table = target.aliasName
  rw [horder]
  rfl

end Spelling

/-! ## Errors of the interpreters -/

/-- Whether an error is about the paging arguments that a relation was asked with. -/
def PlanError.isOfArguments : PlanError → Bool
  | argument _ => true
  | cursor _ => true
  | _ => false

theorem isOfArguments_of_argument {α : Type} {x : Except ArgumentError α} {error : PlanError}
    (h : x.mapError .argument = .error error) : error.isOfArguments = true := by
  obtain ⟨_, -, rfl⟩ := Except.mapError_eq_error_iff.1 h
  rfl

theorem isOfArguments_of_cursor {α : Type} {x : Except CursorError α} {error : PlanError}
    (h : x.mapError .cursor = .error error) : error.isOfArguments = true := by
  obtain ⟨_, -, rfl⟩ := Except.mapError_eq_error_iff.1 h
  rfl

namespace Spelling

variable {s : Spelling} {relation : Relation} {aliasName : String} {error : PlanError}

theorem isOfArguments_of_keysetWindow {target : PagingTarget} {key : SortKey}
    {pageEnd : Option PageEnd} (h : s.keysetWindow target key pageEnd = .error error) :
    error.isOfArguments = true := by
  cases pageEnd with
  | none => cases h
  | some pageEnd =>
    rcases Except.bind_eq_error_iff.1 h with hstart | ⟨cursor, -, h⟩
    · exact isOfArguments_of_argument hstart
    cases cursor with
    | none => cases h
    | some cursor =>
      rcases Except.bind_eq_error_iff.1 h with hbehind | ⟨_, -, h⟩
      · exact isOfArguments_of_cursor hbehind
      · cases h

theorem isOfArguments_of_keysetPaging {key : SortKey}
    (h : s.keysetPaging (.ofSortKey relation aliasName key) = .error error) :
    error.isOfArguments = true := by
  unfold keysetPaging at h
  dsimp only [PagingTarget.ofSortKey] at h
  split at h
  · cases h
    rfl
  · rcases Except.bind_eq_error_iff.1 h with hend | ⟨pageEnd, -, h⟩
    · exact isOfArguments_of_argument hend
    rcases Except.bind_eq_error_iff.1 h with hwindow | ⟨_, -, h⟩
    · exact isOfArguments_of_keysetWindow hwindow
    · cases h

end Spelling

theorem PagingTarget.isOfArguments_of_offsetWindow {target : PagingTarget} {error : PlanError}
    (h : target.offsetWindow = .error error) : error.isOfArguments = true := by
  unfold offsetWindow at h
  rcases Except.bind_eq_error_iff.1 h with hcount | ⟨rows, -, h⟩
  · exact isOfArguments_of_argument hcount
  cases rows with
  | none => cases h
  | some rows =>
    rcases Except.bind_eq_error_iff.1 h with hstart | ⟨_, -, h⟩
    swap
    · cases h
    unfold offsetStart at hstart
    rcases Except.bind_eq_error_iff.1 hstart with hcursor | ⟨cursor, -, h⟩
    · exact isOfArguments_of_argument hcursor
    cases cursor with
    | none => cases h
    | some cursor =>
      rcases Except.bind_eq_error_iff.1 h with hposition | ⟨_, -, h⟩
      · exact isOfArguments_of_cursor hposition
      · cases h

theorem Spelling.isOfArguments_of_offsetPaging {s : Spelling} {relation : Relation}
    {aliasName : String} {order : OrderBy} {error : PlanError}
    (h : s.offsetPaging (.ofOrderBy relation aliasName order) = .error error) :
    error.isOfArguments = true := by
  unfold offsetPaging at h
  dsimp only [PagingTarget.ofOrderBy] at h
  rcases Except.bind_eq_error_iff.1 h with hlast | ⟨last, -, h⟩
  · exact isOfArguments_of_argument hlast
  split at h
  · cases h
    rfl
  · rcases Except.bind_eq_error_iff.1 h with hwindow | ⟨_, -, h⟩
    · exact PagingTarget.isOfArguments_of_offsetWindow hwindow
    · cases h

end RelationPaging
