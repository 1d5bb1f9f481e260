import RelationPaging.Dialect.Standard
import RelationPaging.Proofs.Paging.Interpreters
import RelationPaging.Proofs.Paging.Walk

/-!
# Walks by offset

A client that pages by offset goes on behind the position of the last row that it got, and stops
at a page without rows.  The database drops the rows in front of the offset and takes as many rows
as the limit lets through.  `offsetWalk_visits_all` says that the pages of such a walk are the rows
of the sequence in their order, each with its position, and that a page with page information shows
one row more exactly when there is one.
-/

namespace RelationPaging

/-! ## One page -/

/-- The rows of a sequence that a page by offset takes. -/
def OffsetPaging.select {ρ : Type} (paging : OffsetPaging) (rows : List ρ) : List ρ :=
  paging.limit.take (rows.drop paging.offset.toNat)

/-- What is fetched behind a cursor, if there is one, by the arguments that ask for it. -/
def Spelling.fetchByOffset {ρ : Type} (s : Spelling) (target : PagingTarget)
    (ask : Option String → Arguments) (rows : List ρ) (start : Option String) :
    Except PlanError (List ρ) :=
  (s.offsetPaging { target with arguments := ask start }).map (·.select rows)

/-- The cursor of a row at a position. -/
def Cursor.ofPosition {ρ : Type} (row : ρ × Nat) : String :=
  Cursor.ofOffset (UInt64.ofNat row.2)

/-- How many rows stand in front of a page that starts behind a position. -/
def rowsBefore (position : Option UInt64) : Nat :=
  (position.map (·.toNat + 1)).getD 0

section

variable {s : Spelling} {target : PagingTarget} {order : OrderBy} {n : UInt64}

/-- The decision on a page that starts behind a position, or at the first row. -/
theorem offsetPaging_eq {position : Option UInt64} (horder : target.orderBy = some order)
    (h : target.arguments.Asks ⟨n, false⟩ (position.map Cursor.ofOffset)) :
    s.offsetPaging target = .ok {
      limit := target.offsetLimit n
      offset := (position.map oneMore).getD 0
      order := order.pageOrder s.casing target.aliasName } := by
  have hstart : target.offsetStart = .ok ((position.map oneMore).getD 0) := by
    refine Except.bind_eq_ok_iff.2 ⟨_, Except.mapError_eq_ok_iff.2 h.cursor, ?_⟩
    cases position with
    | none => rfl
    | some position =>
      have hposition := Cursor.toOffset_ofOffset position
      exact Except.bind_eq_ok_iff.2 ⟨_, Except.mapError_eq_ok_iff.2 hposition, rfl⟩
  have hwindow : target.offsetWindow =
      .ok (target.offsetLimit n, (position.map oneMore).getD 0) := by
    refine Except.bind_eq_ok_iff.2 ⟨_, Except.mapError_eq_ok_iff.2 h.count, ?_⟩
    exact Except.bind_eq_ok_iff.2 ⟨_, hstart, rfl⟩
  exact Spelling.offsetPaging_eq_ok_iff.2 ⟨order, horder, h.otherCount, hwindow, rfl⟩

/-- The number of rows that a page by offset lets through. -/
theorem take_offsetLimit {ρ : Type} (hn : n.toNat < UInt64.size - 1) (rows : List ρ) :
    (target.offsetLimit n).take rows =
      rows.take (n.toNat + if target.hasPageInfo then 1 else 0) := by
  unfold PagingTarget.offsetLimit PageLimit.take
  cases target.hasPageInfo with
  | false => rfl
  | true =>
    show rows.take (oneMore n).toNat = _
    rw [toNat_oneMore_of_lt hn]
    rfl

/-- What is fetched behind a position. -/
theorem fetchByOffset_eq {ρ : Type} {ask : Option String → Arguments} {rows : List ρ}
    {position : Option UInt64} (horder : target.orderBy = some order)
    (hn : n.toNat < UInt64.size - 1) (hposition : ∀ i ∈ position, i.toNat < UInt64.size - 1)
    (hask : (ask (position.map Cursor.ofOffset)).Asks ⟨n, false⟩ (position.map Cursor.ofOffset)) :
    s.fetchByOffset target ask rows (position.map Cursor.ofOffset) =
      .ok ((rows.drop (rowsBefore position)).take
        (n.toNat + if target.hasPageInfo then 1 else 0)) := by
  have hoffset : ((position.map oneMore).getD 0).toNat = rowsBefore position := by
    cases position with
    | none => rfl
    | some i => exact toNat_oneMore_of_lt (hposition i rfl)
  have hpaging : s.offsetPaging { target with
      arguments := ask (position.map Cursor.ofOffset) } = _ :=
    offsetPaging_eq horder hask
  rw [Spelling.fetchByOffset, hpaging]
  simp only [Except.map, OffsetPaging.select, hoffset, take_offsetLimit hn]

end

/-! ## Walks -/

/-- The position of the last row of a page, and the rows behind the page. -/
theorem drop_zipIdx_of_getLast? {ρ : Type} {rows : List ρ} {k size : Nat} {row : ρ × Nat}
    (h : ((rows.zipIdx.drop k).take size).getLast? = some row) :
    row.2 < rows.length ∧ (rows.zipIdx.drop k).drop size = rows.zipIdx.drop (row.2 + 1) := by
  rw [List.getLast?_eq_getElem?, List.length_take, List.length_drop, List.length_zipIdx] at h
  rw [List.getElem?_take, List.getElem?_drop, List.getElem?_zipIdx] at h
  split at h
  · next hlt =>
    obtain ⟨value, hvalue, rfl⟩ := Option.map_eq_some_iff.1 h
    obtain ⟨hbound, -⟩ := List.getElem?_eq_some_iff.1 hvalue
    refine ⟨by simpa using hbound, ?_⟩
    rw [List.drop_drop]
    -- either the page is full, or it ends with the rows
    by_cases hfull : size ≤ rows.length - k
    · congr 1
      simp only [Nat.zero_add]
      omega
    · rw [List.drop_eq_nil_of_le, List.drop_eq_nil_of_le]
      · rw [List.length_zipIdx]
        simp only [Nat.zero_add]
        omega
      · rw [List.length_zipIdx]
        omega
  · cases h

/-- A start, and the rows behind it: all of them, or those behind the position of one of them. -/
def StandsBeforeRows {ρ : Type} (rows : List ρ) (start : Option String) (rest : List (ρ × Nat)) :
    Prop :=
  ∃ position : Option UInt64, start = position.map Cursor.ofOffset ∧
    (∀ i ∈ position, i.toNat < rows.length) ∧ rest = rows.zipIdx.drop (rowsBefore position)

/-- One step of a walk by offset.  The client goes on behind the last row of the page. -/
theorem fetchStep_of_standsBeforeRows {ρ : Type} {s : Spelling} {target : PagingTarget}
    (horder : target.orderBy.isSome = true) {n : UInt64} (hpos : 1 ≤ n.toNat)
    (hn : n.toNat < UInt64.size - 1) {ask : Option String → Arguments}
    (hask : ∀ start, (ask start).Asks ⟨n, false⟩ start) {rows : List ρ}
    (hrows : rows.length < UInt64.size - 1) {start : Option String} {rest : List (ρ × Nat)}
    (hstart : StandsBeforeRows rows start rest) :
    ∃ fetched, FetchStep (s.fetchByOffset target ask rows.zipIdx) Cursor.ofPosition
      (fun fetched => (fetched.take n.toNat).getLast?) n.toNat (StandsBeforeRows rows)
      (fun fetched following => target.hasPageInfo = true →
        (fetched.length = n.toNat + 1 ↔ following ≠ [])) start rest fetched := by
  obtain ⟨order, horder⟩ := Option.isSome_iff_exists.1 horder
  obtain ⟨position, rfl, hposition, rfl⟩ := hstart
  have hbound : ∀ i ∈ position, i.toNat < UInt64.size - 1 :=
    fun i hi => Nat.lt_trans (hposition i hi) hrows
  have hfetch : s.fetchByOffset target ask rows.zipIdx (position.map Cursor.ofOffset) = _ :=
    fetchByOffset_eq horder hn hbound (hask _)
  have hpage : ∀ extra : Nat,
      (((rows.zipIdx.drop (rowsBefore position)).take (n.toNat + extra)).take n.toNat) =
        (rows.zipIdx.drop (rowsBefore position)).take n.toNat := by
    intro extra
    rw [List.take_take, Nat.min_eq_left (Nat.le_add_right _ _)]
  refine ⟨_, hfetch, hpage _, ?_, ?_, ?_⟩
  · intro hinfo
    rw [if_pos hinfo, List.length_take, min_eq_left_iff, ne_eq, List.drop_eq_nil_iff]
    omega
  · intro hnone
    rw [hpage, List.getLast?_eq_none_iff, List.take_eq_nil_iff] at hnone
    rw [hnone.resolve_left (by omega), List.drop_nil]
  · intro row hrow
    rw [hpage] at hrow
    obtain ⟨hlt, hbehind⟩ := drop_zipIdx_of_getLast? hrow
    have hword : (UInt64.ofNat row.2).toNat = row.2 :=
      UInt64.toNat_ofNat_of_lt (Nat.lt_trans hlt (Nat.lt_trans hrows (by decide)))
    refine ⟨?_, some (UInt64.ofNat row.2), rfl, ?_, ?_⟩
    · intro hempty
      rw [hempty, List.take_nil] at hrow
      cases hrow
    · rintro i ⟨⟩
      rwa [hword]
    · rw [hbehind, rowsBefore, Option.map_some, Option.getD_some, hword]

/-- **A walk by offset visits all rows.**  The client counts `n` rows for a page, goes on behind
the position of the last row of each page, and stops at a page without rows.  There is exactly one
such walk.  Its pages are all rows in their order; and if page information is asked for, one row
more than the page is fetched exactly when a row follows the page. -/
theorem offsetWalk_visits_all {ρ : Type} (s : Spelling) {target : PagingTarget}
    (horder : target.orderBy.isSome = true) {n : UInt64} (hpos : 1 ≤ n.toNat)
    (hn : n.toNat < UInt64.size - 1) {ask : Option String → Arguments}
    (hask : ∀ start, (ask start).Asks ⟨n, false⟩ start) {rows : List ρ}
    (hrows : rows.length < UInt64.size - 1) :
    ∃ fetches, (∀ xs, Walk (s.fetchByOffset target ask rows.zipIdx) Cursor.ofPosition
        (fun fetched => (fetched.take n.toNat).getLast?) none xs ↔ xs = fetches) ∧
      (pages n.toNat fetches).flatten = rows.zipIdx ∧
      (target.hasPageInfo = true → ∀ before fetched after, fetches = before ++ fetched :: after →
        (fetched.length = n.toNat + 1 ↔ (pages n.toNat after).flatten ≠ [])) := by
  have hstart : StandsBeforeRows rows none rows.zipIdx := ⟨none, rfl, by simp, rfl⟩
  obtain ⟨fetches, hfetches, hall, hshown⟩ := exists_walk hpos
    (fun _ _ => fetchStep_of_standsBeforeRows horder hpos hn hask hrows) hstart
  refine ⟨fetches, fun xs => ⟨fun hxs => hxs.unique hfetches, ?_⟩, hall, ?_⟩
  · rintro rfl
    exact hfetches
  · exact fun hinfo before fetched after hsplit => hshown before fetched after hsplit hinfo

/-- A page by names in ascending order, with page information. -/
def PagingTarget.byName : PagingTarget where
  aliasName := "u"
  arguments := []
  orderBy := some ⟨[("name", .ascending)]⟩
  hasPageInfo := true

/-- Three rows in pages of two. -/
theorem offsetWalk_visits_threeRows :
    ∃ fetches, (∀ xs, Walk ((Dialect.spellingOf .mysql .identity).fetchByOffset .byName
        (PageEnd.arguments ⟨2, false⟩) ['a', 'b', 'c'].zipIdx) Cursor.ofPosition
        (fun fetched => (fetched.take 2).getLast?) none xs ↔ xs = fetches) ∧
      (pages 2 fetches).flatten = [('a', 0), ('b', 1), ('c', 2)] ∧
      ∀ before fetched after, fetches = before ++ fetched :: after →
        (fetched.length = 3 ↔ (pages 2 after).flatten ≠ []) := by
  have horder : PagingTarget.byName.orderBy.isSome = true := rfl
  have hask : ∀ start, (PageEnd.arguments ⟨2, false⟩ start).Asks ⟨2, false⟩ start :=
    PageEnd.asks_arguments ⟨2, false⟩
  have hlength : ['a', 'b', 'c'].length < UInt64.size - 1 := by decide
  obtain ⟨fetches, hwalk, hall, hshown⟩ :=
    offsetWalk_visits_all (Dialect.spellingOf .mysql .identity) horder (by decide) (by decide) hask
      hlength
  exact ⟨fetches, hwalk, hall, hshown rfl⟩

end RelationPaging
