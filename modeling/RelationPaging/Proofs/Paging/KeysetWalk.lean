import RelationPaging.Proofs.Paging.Table
import Mathlib.Data.List.Nodup

/-!
# Walks by keyset

A client that pages by keyset goes on behind the key of the last row of a page, as long as one row
more than the page was fetched.  The database keeps the rows that satisfy the condition, sorts them
and takes as many as the limit lets through (`Table.select`).  `keysetWalk_visits_all` says that the
pages of such a walk are all rows of the table in the declared order, and that the walk from the
other end, with `last` and `before`, visits them in reverse.
-/

namespace RelationPaging

section

variable {ρ : Type}

/-! ## One page -/

/-- What is fetched behind a cursor, if there is one, by the arguments that ask for it. -/
def Spelling.fetchByKeyset (s : Spelling) (target : PagingTarget)
    (ask : Option String → Arguments) (table : Table ρ) (start : Option String) :
    Except PlanError (List ρ) :=
  (s.keysetPaging { target with arguments := ask start }).map (table.select target.aliasName)

namespace Table

/-- The cursor of a row: its values in the columns of the key, under their declared names. -/
def cursorOf (table : Table ρ) (casing : Casing) (key : SortKey) (row : ρ) : String :=
  Cursor.ofKeyset (.ofList (key.columns.map fun column =>
    (column, (table.value row (casing.apply column)).json)))

/-- The values of a row in the columns of a key. -/
def keyOf (table : Table ρ) (casing : Casing) (key : SortKey) (row : ρ) : List KeyValue :=
  key.columns.map fun column => table.value row (casing.apply column)

/-- The values of a row in given columns, as a condition has them. -/
def scalars (table : Table ρ) (columns : List String) (row : ρ) : List Scalar :=
  columns.map fun column => (table.value row column).scalar

/-- How rows are ordered by the columns of a key in a given direction. -/
def keyOrdering (table : Table ρ) (casing : Casing) (key : SortKey) (direction : SortDirection) :
    ρ → ρ → Ordering :=
  table.ordering ((key.columns.map casing.apply).map (·, direction))

/-- The rows in the order of a key. -/
def sorted (table : Table ρ) (casing : Casing) (key : SortKey) (direction : SortDirection) :
    List ρ :=
  table.rows.mergeSort fun a b => (table.keyOrdering casing key direction a b).isLE

end Table

/-- The row from which a client goes on: the last one of the page, if one row more was fetched. -/
def nextRow (size : Nat) (fetched : List ρ) : Option ρ :=
  if fetched.length = size + 1 then fetched[size - 1]? else none

/-- The walk ends when no row is left behind the page. -/
theorem drop_eq_nil_of_nextRow {size : Nat} {rest : List ρ}
    (h : nextRow size (rest.take (size + 1)) = none) : rest.drop size = [] := by
  rw [List.drop_eq_nil_iff]
  by_cases hlength : (rest.take (size + 1)).length = size + 1
  · rw [nextRow, if_pos hlength, List.getElem?_eq_none_iff] at h
    omega
  · rw [List.length_take, min_eq_left_iff] at hlength
    omega

/-- The row from which the walk goes on is followed by the rows behind the page. -/
theorem exists_append_of_nextRow {size : Nat} (hsize : 1 ≤ size) {rest : List ρ} {row : ρ}
    (h : nextRow size (rest.take (size + 1)) = some row) :
    ∃ before, rest = before ++ row :: rest.drop size := by
  unfold nextRow at h
  split at h
  · rw [List.getElem?_take_of_lt (by omega)] at h
    obtain ⟨hlt, hrow⟩ := List.getElem?_eq_some_iff.1 h
    have hdrop := List.drop_eq_getElem_cons hlt
    rw [hrow, Nat.sub_add_cancel hsize] at hdrop
    exact ⟨rest.take (size - 1), by rw [← hdrop, List.take_append_drop]⟩
  · cases h

namespace Table

variable {table : Table ρ} {casing : Casing} {key : SortKey} {direction : SortDirection}

instance transCmp_keyOrdering : Std.TransCmp (table.keyOrdering casing key direction) :=
  transCmp_ordering _

/-- Rows with distinct keys are ordered one way or the other. -/
theorem pairwise_ne_eq
    (h : table.rows.Pairwise fun a b => table.keyOf casing key a ≠ table.keyOf casing key b) :
    table.rows.Pairwise fun a b => table.keyOrdering casing key direction a b ≠ .eq := by
  refine h.imp fun {a b} hne heq => hne ?_
  refine List.map_congr_left fun column hcolumn => ?_
  refine value_eq_of_ordering heq (casing.apply column, direction) ?_
  rw [List.map_map]
  exact List.mem_map_of_mem hcolumn

theorem pairwise_sorted
    (h : table.rows.Pairwise fun a b => table.keyOf casing key a ≠ table.keyOf casing key b) :
    (table.sorted casing key direction).Pairwise fun a b =>
      table.keyOrdering casing key direction a b = .lt :=
  pairwise_lt_mergeSort (pairwise_ne_eq h)

/-- Sorting in the opposite direction reverses the rows. -/
theorem sorted_reverse
    (h : table.rows.Pairwise fun a b => table.keyOf casing key a ≠ table.keyOf casing key b) :
    table.sorted casing key direction.reverse = (table.sorted casing key direction).reverse := by
  have hperm : (table.sorted casing key direction.reverse).Perm
      (table.sorted casing key direction).reverse :=
    (List.mergeSort_perm _ _).trans
      ((List.mergeSort_perm _ _).symm.trans (List.reverse_perm _).symm)
  refine eq_of_perm_of_pairwise_lt hperm (pairwise_sorted h) ?_
  rw [List.pairwise_reverse]
  refine (pairwise_sorted h).imp fun {a b} hlt => ?_
  rw [← hlt]
  exact ordering_reverse _ _ _ _

/-! ## Conditions -/

/-- How a row is ordered against the key of another one, column by column. -/
theorem orderings_view (aliasName : String) (columns : List String) (row other : ρ) :
    (table.view aliasName other).orderings aliasName columns (table.scalars columns row) =
      (columns.map fun column => table.columnOrdering (column, .ascending) other row).map some := by
  induction columns with
  | nil => rfl
  | cons column columns ih =>
    obtain ⟨constant, hconstant, hdenote⟩ := (table.value row column).exists_constant
    rw [Sql.RowView.orderings, scalars] at ih ⊢
    rw [List.map_cons, List.zipWith_cons_cons, ih, Sql.RowView.ordering?, hconstant]
    simp [view, hdenote, columnOrdering]

/-- What is compared in the direction of the key is what follows in its order. -/
theorem ordering_behind_iff (table : Table ρ) (direction : SortDirection) (columns : List String)
    (row other : ρ) :
    table.ordering (columns.map (·, .ascending)) other row =
        (Comparison.behind direction.isDescending).ordering ↔
      table.ordering (columns.map (·, direction)) row other = .lt := by
  cases direction with
  | ascending => exact Std.OrientedCmp.gt_iff_lt
  | descending =>
    have hreverse := table.ordering_reverse columns .ascending row other
    rw [show SortDirection.descending = SortDirection.ascending.reverse from rfl, hreverse]
    rfl

/-- The condition behind the cursor of a row is true of the rows that follow it. -/
theorem satisfies_after (name : DialectName) (aliasName : String) {columns : List String}
    (hne : columns ≠ []) (row other : ρ) :
    table.satisfies aliasName
        (some ((Condition.after (Dialect.spellingOf name casing).comparesRows columns
          (table.scalars columns row) direction.isDescending).render
          ((Dialect.spellingOf name casing).column aliasName))) other =
      decide (table.ordering (columns.map (·, direction)) row other = .lt) := by
  have hlength : columns.length = (table.scalars columns row).length := (List.length_map _).symm
  have htells := Sql.tells_after (table.view aliasName other) name casing aliasName
    (Dialect.spellingOf name casing).comparesRows direction.isDescending hlength hne
  have hordering : lexicographic (columns.map fun column =>
      table.columnOrdering (column, .ascending) other row) =
        table.ordering (columns.map (·, .ascending)) other row := by
    rw [ordering, List.map_map]
    rfl
  have hbehind := table.ordering_behind_iff direction columns row other
  rw [orderings_view, Comparison.rowTruth_map_some, hordering, Comparison.truth] at htells
  rw [satisfies, Option.all_some, htells.truth?_eq]
  by_cases hlt : table.ordering (columns.map (·, direction)) row other = .lt
  · rw [if_pos (hbehind.2 hlt), decide_eq_true hlt]
    rfl
  · rw [if_neg fun h => hlt (hbehind.1 h), decide_eq_false hlt]
    rfl

/-- The cursor of a row leads behind this row. -/
theorem behindCursor_cursorOf (table : Table ρ) (name : DialectName) (casing : Casing)
    (aliasName : String) {key : SortKey} (hnodup : key.columns.Nodup) (direction : SortDirection)
    (row : ρ) :
    (Dialect.spellingOf name casing).behindCursor aliasName key direction
        (table.cursorOf casing key row) =
      .ok ((Condition.after (Dialect.spellingOf name casing).comparesRows
        (key.columns.map casing.apply) (table.scalars (key.columns.map casing.apply) row)
        direction.isDescending).render ((Dialect.spellingOf name casing).column aliasName)) := by
  have hvalues : Cursor.keysetValues (table.cursorOf casing key row) key.columns = .ok _ :=
    Cursor.keysetValues_ofKeyset hnodup fun column _ =>
      (table.value row (casing.apply column)).isWholeScalar_json
  refine Spelling.behindCursor_eq_ok_iff.2 ⟨_, _, hvalues, ?_, by rw [Dialect.spellingOf_casing]⟩
  rw [Except.mapM_eq_ok_iff, scalars, List.map_map, List.forall₂_map_left_iff,
    List.forall₂_map_right_iff, List.forall₂_same]
  exact fun column _ => KeyValue.ofJson_json _

/-- The rows that a page takes, in the order of the key. -/
theorem select_eq
    (h : table.rows.Pairwise fun a b => table.keyOf casing key a ≠ table.keyOf casing key b)
    {n : UInt64} (hn : n.toNat < UInt64.size - 1) (aliasName : String) (condition : Option String) :
    table.select aliasName
        ⟨.rows (oneMore n), key.pageOrder casing aliasName direction, condition⟩ =
      ((table.sorted casing key direction).filter (table.satisfies aliasName condition)).take
        (n.toNat + 1) := by
  have hordering : table.pageOrdering aliasName (key.pageOrder casing aliasName direction) =
      table.keyOrdering casing key direction := by
    have htable : (key.pageOrder casing aliasName direction).table = aliasName := rfl
    funext a b
    rw [pageOrdering, if_pos htable, keyOrdering, SortKey.pageOrder, List.map_map]
    rfl
  have hne : table.rows.Pairwise fun a b => table.keyOrdering casing key direction a b ≠ .eq :=
    pairwise_ne_eq h
  rw [select, hordering, mergeSort_filter hne, PageLimit.take, toNat_oneMore_of_lt hn]
  rfl

end Table

/-! ## Walks -/

variable {name : DialectName} {casing : Casing} {target : PagingTarget} {key : SortKey} {n : UInt64}
  {backward : Bool} {ask : Option String → Arguments} {table : Table ρ} {start : Option String}
  {rest : List ρ}

/-- A start, and the rows behind it in the order of the key: all of them, or those that follow the
row of the cursor. -/
def StandsBeforeKeys (table : Table ρ) (casing : Casing) (key : SortKey) (sorted : List ρ)
    (start : Option String) (rest : List ρ) : Prop :=
  (start = none ∧ rest = sorted) ∨
    ∃ before row, sorted = before ++ row :: rest ∧ start = some (table.cursorOf casing key row)

/-- The window of a page at a start keeps the rows behind it. -/
theorem exists_keysetWindow (name : DialectName) (target : PagingTarget) (hne : key.columns ≠ [])
    (hnodup : key.columns.Nodup) (hask : target.arguments.Asks ⟨n, backward⟩ start)
    (hdistinct : table.rows.Pairwise fun a b =>
      table.keyOf casing key a ≠ table.keyOf casing key b)
    (hstart : StandsBeforeKeys table casing key
      (table.sorted casing key (key.directionFor (some ⟨n, backward⟩))) start rest) :
    ∃ condition, (Dialect.spellingOf name casing).keysetWindow target key (some ⟨n, backward⟩) =
        .ok (.rows (oneMore n), condition) ∧
      (table.sorted casing key (key.directionFor (some ⟨n, backward⟩))).filter
        (table.satisfies target.aliasName condition) = rest := by
  rcases hstart with ⟨rfl, rfl⟩ | ⟨before, row, hsorted, rfl⟩
  · have hcursor := Except.mapError_eq_ok_iff (f := PlanError.argument) |>.2 hask.startCursor_eq
    refine ⟨none, Except.bind_eq_ok_iff.2 ⟨none, hcursor, rfl⟩, ?_⟩
    exact List.filter_eq_self.2 fun _ _ => rfl
  · have hbehind := table.behindCursor_cursorOf name casing target.aliasName hnodup
      (key.directionFor (some ⟨n, backward⟩)) row
    refine ⟨some _, (Spelling.keysetWindow_eq_ok_iff hask.startCursor_eq).2
      ⟨_, hbehind, rfl, rfl⟩, ?_⟩
    have hcolumns : key.columns.map casing.apply ≠ [] := by simpa using hne
    have hpairwise : (table.sorted casing key (key.directionFor (some ⟨n, backward⟩))).Pairwise _ :=
      Table.pairwise_sorted hdistinct
    rw [hsorted] at hpairwise ⊢
    rw [List.filter_congr fun other _ =>
      Table.satisfies_after name target.aliasName hcolumns row other]
    exact filter_eq_of_pairwise_lt hpairwise

/-- What is fetched at a start. -/
theorem fetchByKeyset_eq (name : DialectName) (hkey : target.sortKey = some key)
    (hne : key.columns ≠ []) (hnodup : key.columns.Nodup) (hn : n.toNat < UInt64.size - 1)
    (hask : (ask start).Asks ⟨n, backward⟩ start)
    (hdistinct : table.rows.Pairwise fun a b =>
      table.keyOf casing key a ≠ table.keyOf casing key b)
    (hstart : StandsBeforeKeys table casing key
      (table.sorted casing key (key.directionFor (some ⟨n, backward⟩))) start rest) :
    (Dialect.spellingOf name casing).fetchByKeyset target ask table start =
      .ok (rest.take (n.toNat + 1)) := by
  obtain ⟨condition, hwindow, hfilter⟩ := exists_keysetWindow name
    { target with arguments := ask start } hne hnodup hask hdistinct hstart
  have hpaging : (Dialect.spellingOf name casing).keysetPaging
      { target with arguments := ask start } =
        .ok ⟨.rows (oneMore n), key.pageOrder casing target.aliasName
          (key.directionFor (some ⟨n, backward⟩)), condition⟩ := by
    refine Spelling.keysetPaging_eq_ok_iff.2
      ⟨key, some ⟨n, backward⟩, hkey, hne, hask.pageEnd_eq, hwindow, ?_⟩
    rw [Dialect.spellingOf_casing]
  have hselect : table.select target.aliasName ⟨.rows (oneMore n),
      key.pageOrder casing target.aliasName (key.directionFor (some ⟨n, backward⟩)), condition⟩ =
        rest.take (n.toNat + 1) := by
    rw [Table.select_eq hdistinct hn, hfilter]
  rw [Spelling.fetchByKeyset, hpaging, ← hselect]
  rfl

/-- One step of a walk by keyset.  The client goes on behind the last row of the page. -/
theorem fetchStep_of_standsBeforeKeys (name : DialectName) (hkey : target.sortKey = some key)
    (hne : key.columns ≠ []) (hnodup : key.columns.Nodup) (hpos : 1 ≤ n.toNat)
    (hn : n.toNat < UInt64.size - 1) (hask : (ask start).Asks ⟨n, backward⟩ start)
    (hdistinct : table.rows.Pairwise fun a b =>
      table.keyOf casing key a ≠ table.keyOf casing key b)
    (hstart : StandsBeforeKeys table casing key
      (table.sorted casing key (key.directionFor (some ⟨n, backward⟩))) start rest) :
    ∃ fetched, FetchStep ((Dialect.spellingOf name casing).fetchByKeyset target ask table)
      (table.cursorOf casing key) (nextRow n.toNat) n.toNat
      (StandsBeforeKeys table casing key
        (table.sorted casing key (key.directionFor (some ⟨n, backward⟩))))
      (fun _ _ => True) start rest fetched := by
  have hfetch := fetchByKeyset_eq name hkey hne hnodup hn hask hdistinct hstart
  refine ⟨_, hfetch, ?_, trivial, ?_, ?_⟩
  · rw [List.take_take, Nat.min_eq_left (Nat.le_succ _)]
  · exact drop_eq_nil_of_nextRow
  · intro row hrow
    obtain ⟨before, hbefore⟩ := exists_append_of_nextRow hpos hrow
    refine ⟨by rw [hbefore]; simp, .inr ?_⟩
    rcases hstart with ⟨-, rfl⟩ | ⟨visited, last, hsorted, -⟩
    · exact ⟨before, row, hbefore, rfl⟩
    · refine ⟨visited ++ last :: before, row, ?_, rfl⟩
      rw [hsorted, List.append_assoc, List.cons_append, ← hbefore]

/-- **A walk by keyset visits all rows.**  Let the rows of a table have distinct keys.  The client
counts `n` rows for a page, from the front or from the back, and goes on behind the key of the last
row of the page as long as one row more than the page was fetched.  There is exactly one such walk
in each direction.  The pages of the walk from the front are the rows of the table in the declared
order, each of them once, and those of the walk from the back are the same rows in reverse. -/
theorem keysetWalk_visits_all (name : DialectName) {casing : Casing} {target : PagingTarget}
    {key : SortKey} (hkey : target.sortKey = some key) (hne : key.columns ≠ [])
    (hnodup : (key.columns.map casing.apply).Nodup) {n : UInt64} (hpos : 1 ≤ n.toNat)
    (hn : n.toNat < UInt64.size - 1) {ask : Bool → Option String → Arguments}
    (hask : ∀ backward start, (ask backward start).Asks ⟨n, backward⟩ start) {table : Table ρ}
    (hdistinct : table.rows.Pairwise fun a b =>
      table.keyOf casing key a ≠ table.keyOf casing key b) :
    ∃ sorted, sorted.Perm table.rows ∧
      sorted.Pairwise (fun a b => table.keyOrdering casing key key.direction a b = .lt) ∧
      ∀ backward, ∃ fetches,
        (∀ xs, Walk ((Dialect.spellingOf name casing).fetchByKeyset target (ask backward) table)
          (table.cursorOf casing key) (nextRow n.toNat) none xs ↔ xs = fetches) ∧
        (pages n.toNat fetches).flatten = if backward then sorted.reverse else sorted := by
  refine ⟨table.sorted casing key key.direction, List.mergeSort_perm _ _,
    Table.pairwise_sorted hdistinct, fun backward => ?_⟩
  have hsorted : table.sorted casing key (key.directionFor (some ⟨n, backward⟩)) =
      if backward then (table.sorted casing key key.direction).reverse
      else table.sorted casing key key.direction := by
    cases backward with
    | false => rfl
    | true => exact Table.sorted_reverse hdistinct
  obtain ⟨fetches, hfetches, hall, -⟩ := exists_walk hpos
    (fun start _ => fetchStep_of_standsBeforeKeys name hkey hne (List.Nodup.of_map _ hnodup) hpos hn
      (hask backward start) hdistinct) (.inl ⟨rfl, rfl⟩)
  refine ⟨fetches, fun xs => ⟨fun hxs => hxs.unique hfetches, ?_⟩, hall.trans hsorted⟩
  rintro rfl
  exact hfetches

end

/-- A table of two names, which do not stand in their order. -/
def Table.names : Table String where
  rows := ["b", "a"]
  value row _ := .text row
  collation _ := .standard

/-- A page by names, which are the key of the table. -/
def PagingTarget.byKey : PagingTarget where
  aliasName := "u"
  arguments := []
  sortKey := some ⟨.ascending, ["name"]⟩

/-- Two names in pages of one. -/
theorem keysetWalk_visits_names :
    ∃ sorted, sorted.Perm ["b", "a"] ∧
      sorted.Pairwise (fun a b => Table.names.keyOrdering .upper ⟨.ascending, ["name"]⟩ .ascending
        a b = .lt) ∧
      ∀ backward, ∃ fetches,
        (∀ xs, Walk ((Dialect.spellingOf .db2 .upper).fetchByKeyset .byKey
          (PageEnd.arguments ⟨1, backward⟩) .names) (Table.names.cursorOf .upper
          ⟨.ascending, ["name"]⟩) (nextRow 1) none xs ↔ xs = fetches) ∧
        (pages 1 fetches).flatten = if backward then sorted.reverse else sorted := by
  have hkey : PagingTarget.byKey.sortKey = some ⟨.ascending, ["name"]⟩ := rfl
  have hask : ∀ backward start, (PageEnd.arguments ⟨1, backward⟩ start).Asks ⟨1, backward⟩ start :=
    fun backward => PageEnd.asks_arguments ⟨1, backward⟩
  have hdistinct : Table.names.rows.Pairwise fun a b =>
      Table.names.keyOf .upper ⟨.ascending, ["name"]⟩ a ≠
        Table.names.keyOf .upper ⟨.ascending, ["name"]⟩ b := by
    simp [Table.names, Table.keyOf]
  exact keysetWalk_visits_all .db2 hkey (List.cons_ne_nil _ _) (List.nodup_singleton _) (by decide)
    (by decide) hask hdistinct

end RelationPaging
