import RelationPaging.Proofs.Sql.Backslash

/-!
# Pages on both sides of a cursor

A cursor that is accepted as the start of a page in either direction gives two conditions, one for
the rows behind it and one for the rows in front of it.  They are never both true of a row.  One of
them is true exactly if the key columns of the row differ from the values of the cursor in front of
the first NULL among these (`keysetConditions_split_iff`): the comparison goes from left to right,
and where it meets NULL both conditions are unknown.  So a cursor without NULL splits the rows that
do not tie with it, and a cursor whose first value is NULL hides all rows from both sides
(`not_forall_keysetConditions_split`).
-/

namespace RelationPaging

open Sql

/-! ## One comparison and its opposite -/

namespace Comparison

/-- A comparison of rows is decided: there are items that are not equal, and NULL is in none of the
items up to the leftmost of them. -/
def Decided (orderings : List (Option Ordering)) : Prop :=
  ∃ o, o ≠ Ordering.eq ∧ orderings.find? (· != some .eq) = some (some o)

theorem truth_behind_eq_yes_iff (descending : Bool) (o : Option Ordering) :
    (behind descending).truth o = .yes ∨ (behind !descending).truth o = .yes ↔
      ∃ p, p ≠ Ordering.eq ∧ o = some p := by
  cases descending <;> rcases o with _ | _ | _ | _ <;> simp [truth, behind, ordering]

theorem rowTruth_behind_eq_yes_iff (descending : Bool) (orderings : List (Option Ordering)) :
    (behind descending).rowTruth orderings = .yes ∨
        (behind !descending).rowTruth orderings = .yes ↔ Decided orderings := by
  rw [rowTruth, rowTruth, truth_behind_eq_yes_iff, Decided]
  refine exists_congr fun p => and_congr_right fun hp => ?_
  cases orderings.find? (· != some .eq) with
  | none => simp [Ne.symm hp]
  | some o => simp

theorem not_truth_behind_both (descending : Bool) (o : Option Ordering) :
    ¬ ((behind descending).truth o = .yes ∧ (behind !descending).truth o = .yes) := by
  cases descending <;> rcases o with _ | _ | _ | _ <;> simp [truth, behind, ordering]

end Comparison

namespace Sql

section

variable {V : Type} {view : RowView V} {aliasName : String}

/-- Whether a column of a row differs from a value of a cursor. -/
def RowView.Differs (view : RowView V) (aliasName : String) (item : String × Scalar) : Prop :=
  view.value ⟨aliasName, item.1⟩ ≠ item.2.constant.map (view.denote ⟨aliasName, item.1⟩)

/-- A column that is not NULL is ordered against a value that is not NULL, and differs from it if
they are not equal in that order. -/
theorem exists_ordering? (hcompare : ∀ reference, Std.LawfulEqCmp (view.compare reference))
    {column : String} {value : Scalar}
    (hcolumn : (view.value ⟨aliasName, column⟩).isSome = true) (hvalue : value ≠ .null) :
    ∃ o, view.ordering? ⟨aliasName, column⟩ value.constant = some o ∧
      (o ≠ .eq ↔ view.Differs aliasName (column, value)) := by
  obtain ⟨a, ha⟩ := Option.isSome_iff_exists.1 hcolumn
  obtain ⟨constant, hconstant⟩ := exists_constant hvalue
  have := hcompare ⟨aliasName, column⟩
  refine ⟨_, by rw [RowView.ordering?, ha, hconstant]; rfl, ?_⟩
  rw [RowView.Differs, ha, hconstant, Option.map_some, ne_eq, ne_eq, Option.some_inj,
    Std.LawfulEqCmp.compare_eq_iff_eq]

/-- The values in front of the first NULL decide. -/
theorem decided_orderings_iff (hcompare : ∀ reference, Std.LawfulEqCmp (view.compare reference))
    {columns : List String} {values : List Scalar}
    (hcolumns : ∀ column ∈ columns, (view.value ⟨aliasName, column⟩).isSome = true) :
    Comparison.Decided (view.orderings aliasName columns values) ↔
      ∃ item ∈ (columns.zip values).takeWhile (·.2 ≠ .null), view.Differs aliasName item := by
  induction columns generalizing values with
  | nil => simp [RowView.orderings, Comparison.Decided]
  | cons column columns ih =>
    cases values with
    | nil => simp [RowView.orderings, Comparison.Decided]
    | cons value values =>
      obtain ⟨hcolumn, hcolumns⟩ := List.forall_mem_cons.1 hcolumns
      have hcons : view.orderings aliasName (column :: columns) (value :: values) =
          view.ordering? ⟨aliasName, column⟩ value.constant ::
            view.orderings aliasName columns values := rfl
      rw [hcons, List.zip_cons_cons]
      by_cases hvalue : value = .null
      · subst hvalue
        have hordering : view.ordering? ⟨aliasName, column⟩ Scalar.null.constant = none := by
          simp [RowView.ordering?, Scalar.constant]
        rw [hordering, List.takeWhile_cons_of_neg (by simp)]
        simp [Comparison.Decided]
      · obtain ⟨o, ho, hdiffers⟩ := exists_ordering? hcompare hcolumn hvalue
        rw [ho, List.takeWhile_cons_of_pos (by simpa using hvalue), List.exists_mem_cons_iff,
          ← hdiffers, ← ih hcolumns]
        by_cases heq : o = .eq
        · simp [heq, Comparison.Decided]
        · simp [heq, Comparison.Decided]

/-! ## Conditions as a dialect reads them -/

/-- The tokens that a dialect finds in a text.  MySQL knows escapes, the others do not. -/
def tokensIn? : DialectName → List Char → Option (List Token)
  | .postgresql | .db2 => tokens?
  | .mysql => Escaping.tokens?

/-- The truth of a text in a row as a dialect reads it, if it is a condition. -/
def RowView.truthIn? (view : RowView V) (name : DialectName) (text : String) : Option Truth :=
  (((tokensIn? name text.toList).bind pieces?).bind formula?).bind
    (Formula.truth? view.atomTruth?)

theorem RowView.truthIn?_eq {name : DialectName} {text : String}
    (h : tokensIn? name text.toList = tokens? text.toList) :
    view.truthIn? name text = view.truth? text := by
  rw [truthIn?, h]
  rfl

/-- Each dialect reads the condition for the rows behind a cursor as it is meant, on MySQL under the
condition that no text in the cursor has an escape. -/
theorem truthIn?_after (view : RowView V) (name : DialectName) (casing : Casing)
    (aliasName : String) (descending : Bool) {columns : List String} {values : List Scalar}
    (hlength : columns.length = values.length) (hne : columns ≠ [])
    (hinert : name = .mysql → ∀ s ∈ values.filterMap scalarText?, IsInert s.toList) :
    view.truthIn? name ((Condition.after (Dialect.spellingOf name casing).comparesRows columns
        values descending).render ((Dialect.spellingOf name casing).column aliasName)) =
      some ((Comparison.behind descending).rowTruth
        (view.orderings aliasName columns values)) := by
  rw [RowView.truthIn?_eq]
  · exact (tells_after view name casing aliasName _ descending hlength hne).truth?_eq
  · cases name with
    | postgresql => rfl
    | db2 => rfl
    | mysql =>
      obtain ⟨ts, hts, -, hescaping, -⟩ :=
        readsBack_after casing aliasName columns values descending
      exact (hescaping (hinert rfl)).trans hts.symm

end

end Sql

/-! ## Pages -/

/-- A page of a target that is read in a given direction and starts behind a cursor. -/
def Dialect.IsPageBehind (dialect : Dialect) (target : PagingTarget) (backward : Bool)
    (cursor : String) (paging : KeysetPaging) : Prop :=
  ∃ rows arguments, arguments.Asks ⟨rows, backward⟩ (some cursor) ∧
    dialect.interpretKeyset { target with arguments := arguments } = .ok paging

theorem SortKey.isDescending_directionFor (key : SortKey) (rows : UInt64) (backward : Bool) :
    (key.directionFor (some ⟨rows, backward⟩)).isDescending =
      (key.direction.isDescending ^^ backward) := by
  cases backward <;> simp [directionFor]

/-- The condition of a page behind a cursor compares the columns of the key with the values of the
cursor, in the direction in which the page is read. -/
theorem Dialect.IsPageBehind.condition_eq {name : DialectName} {casing : Casing}
    {target : PagingTarget} {backward : Bool} {cursor : String} {paging : KeysetPaging}
    (h : (standard name casing).IsPageBehind target backward cursor paging) :
    ∃ key values scalars, target.sortKey = some key ∧ key.columns ≠ [] ∧
      Cursor.keysetValues cursor key.columns = .ok values ∧
      values.mapM Scalar.ofJson = .ok scalars ∧
      paging.condition = some ((Condition.after (spellingOf name casing).comparesRows
        (key.columns.map casing.apply) scalars (key.direction.isDescending ^^ backward)).render
          ((spellingOf name casing).column target.aliasName)) := by
  obtain ⟨rows, arguments, hasks, hpaging⟩ := h
  obtain ⟨key, pageEnd, hkey, hne, hend, hwindow, -⟩ := Spelling.keysetPaging_eq_ok_iff.1 hpaging
  obtain rfl : some ⟨rows, backward⟩ = pageEnd := Except.ok.inj (hasks.pageEnd_eq.symm.trans hend)
  obtain ⟨text, htext, -, hcondition⟩ :=
    (Spelling.keysetWindow_eq_ok_iff hasks.startCursor_eq).1 hwindow
  obtain ⟨values, scalars, hvalues, hscalars, rfl⟩ := Spelling.behindCursor_eq_ok_iff.1 htext
  refine ⟨key, values, scalars, hkey, hne, hvalues, hscalars, ?_⟩
  rw [hcondition, key.isDescending_directionFor, spellingOf_casing]

namespace Sql

/-- **A cursor splits the rows that differ from it in front of its first NULL.**  If a cursor is
accepted as the start of a page in either direction, both pages have a condition.  Of a row without
NULL in its key columns the two conditions are never both true, and one of them is true if and only
if the row differs from the cursor in a column in front of the first NULL of the cursor; without
NULL in the cursor, if and only if the row differs from it at all.  Of the order of a column nothing
is assumed but that equal means the same.  MySQL must not find escapes in the texts of the cursor,
since it would not read the texts as they are. -/
theorem keysetConditions_split_iff {V : Type} (view : RowView V) (name : DialectName)
    (casing : Casing) {target : PagingTarget} {cursor : String}
    {following preceding : KeysetPaging}
    (hfollowing : (Dialect.standard name casing).IsPageBehind target false cursor following)
    (hpreceding : (Dialect.standard name casing).IsPageBehind target true cursor preceding)
    (hcompare : ∀ reference, Std.LawfulEqCmp (view.compare reference)) :
    ∃ key values scalars after before, target.sortKey = some key ∧
      Cursor.keysetValues cursor key.columns = .ok values ∧
      values.mapM Scalar.ofJson = .ok scalars ∧ following.condition = some after ∧
      preceding.condition = some before ∧
      ((∀ column ∈ key.columns.map casing.apply,
          (view.value ⟨target.aliasName, column⟩).isSome = true) →
        (name = .mysql → ∀ s ∈ scalars.filterMap scalarText?, IsInert s.toList) →
        ∃ t u, view.truthIn? name after = some t ∧ view.truthIn? name before = some u ∧
          ¬ (t = .yes ∧ u = .yes) ∧
          (t = .yes ∨ u = .yes ↔
            ∃ item ∈ ((key.columns.map casing.apply).zip scalars).takeWhile (·.2 ≠ .null),
              view.Differs target.aliasName item) ∧
          ((∀ scalar ∈ scalars, scalar ≠ .null) →
            (t = .yes ∨ u = .yes ↔ ∃ item ∈ (key.columns.map casing.apply).zip scalars,
              view.Differs target.aliasName item))) := by
  obtain ⟨key, values, scalars, hkey, hne, hvalues, hscalars, hafter⟩ := hfollowing.condition_eq
  obtain ⟨key', values', scalars', hkey', -, hvalues', hscalars', hbefore⟩ :=
    hpreceding.condition_eq
  cases hkey.symm.trans hkey'
  cases hvalues.symm.trans hvalues'
  cases hscalars.symm.trans hscalars'
  rw [Bool.xor_false] at hafter
  rw [Bool.xor_true] at hbefore
  refine ⟨key, values, scalars, _, _, hkey, hvalues, hscalars, hafter, hbefore, ?_⟩
  intro hcolumns hinert
  have hlength : (key.columns.map casing.apply).length = scalars.length := by
    rw [List.length_map, ← Cursor.length_of_keysetValues hvalues,
      (Except.mapM_eq_ok_iff.1 hscalars).length_eq]
  have hcolumnsNe : key.columns.map casing.apply ≠ [] := fun h => hne (List.map_eq_nil_iff.1 h)
  have hsplits := (Comparison.rowTruth_behind_eq_yes_iff key.direction.isDescending
    (view.orderings target.aliasName (key.columns.map casing.apply) scalars)).trans
      (decided_orderings_iff hcompare hcolumns)
  refine ⟨_, _, truthIn?_after view name casing _ _ hlength hcolumnsNe hinert,
    truthIn?_after view name casing _ _ hlength hcolumnsNe hinert,
    Comparison.not_truth_behind_both _ _, hsplits, fun hnull => ?_⟩
  have hall : ((key.columns.map casing.apply).zip scalars).takeWhile (·.2 ≠ .null) =
      (key.columns.map casing.apply).zip scalars := by
    rw [List.takeWhile_eq_self_iff]
    intro item hitem
    simpa using hnull item.2 (List.of_mem_zip hitem).2
  rwa [hall] at hsplits

/-! ## Cursors with NULL -/

/-- A row in which all columns are false. -/
def RowView.allFalse : RowView Bool where
  value _ := some false
  denote _ constant := constant = .bool true
  compare _ := Ord.compare

/-- A table that is sorted by some columns. -/
def users (columns : List String) : PagingTarget where
  aliasName := "u"
  arguments := []
  sortKey := some ⟨.ascending, columns⟩

/-- The page of two rows of the table, in a given direction, that a condition picks. -/
def usersWhere (columns : List String) (direction : SortDirection) (condition : String) :
    KeysetPaging :=
  ⟨.rows 3, ⟨"u", columns.map (·, direction)⟩, some condition⟩

theorem isPageBehind_users {columns : List String} {backward : Bool} {cursor : String}
    {paging : KeysetPaging}
    (h : (Dialect.standard .mysql .identity).interpretKeyset
      { users columns with arguments := PageEnd.arguments ⟨2, backward⟩ (some cursor) } =
        .ok paging) :
    (Dialect.standard .mysql .identity).IsPageBehind (users columns) backward cursor paging :=
  ⟨2, _, PageEnd.asks_arguments ⟨2, backward⟩ (some cursor), h⟩

/-- The cursor of the values true and NULL, and the conditions on both sides of it. -/
def trueNullCursor : String := "eyJhIjp0cnVlLCJiIjpudWxsfQ=="

def afterTrueNull : String := "(\x60u\x60.\x60a\x60, \x60u\x60.\x60b\x60) > (TRUE, NULL)"

def beforeTrueNull : String := "(\x60u\x60.\x60a\x60, \x60u\x60.\x60b\x60) < (TRUE, NULL)"

/-- A row that differs from the first value is on one side of the cursor, although the second value
is NULL. -/
theorem keysetConditions_split_trueNull :
    (Dialect.standard .mysql .identity).IsPageBehind (users ["a", "b"]) false trueNullCursor
        (usersWhere ["a", "b"] .ascending afterTrueNull) ∧
      (Dialect.standard .mysql .identity).IsPageBehind (users ["a", "b"]) true trueNullCursor
        (usersWhere ["a", "b"] .descending beforeTrueNull) ∧
      ∃ t u, RowView.allFalse.truthIn? .mysql afterTrueNull = some t ∧
        RowView.allFalse.truthIn? .mysql beforeTrueNull = some u ∧
        ¬ (t = .yes ∧ u = .yes) ∧ (t = .yes ∨ u = .yes) := by
  have hfollowing : (Dialect.standard .mysql .identity).IsPageBehind (users ["a", "b"]) false
      trueNullCursor (usersWhere ["a", "b"] .ascending afterTrueNull) :=
    isPageBehind_users (by decide +kernel)
  have hpreceding : (Dialect.standard .mysql .identity).IsPageBehind (users ["a", "b"]) true
      trueNullCursor (usersWhere ["a", "b"] .descending beforeTrueNull) :=
    isPageBehind_users (by decide +kernel)
  refine ⟨hfollowing, hpreceding, ?_⟩
  have hread : Cursor.keysetValues trueNullCursor ["a", "b"] = .ok [.bool true, .null] := by
    decide +kernel
  obtain ⟨key, values, scalars, after, before, hkey, hvalues, hscalars, hafter, hbefore, hsplits⟩ :=
    keysetConditions_split_iff RowView.allFalse .mysql .identity hfollowing hpreceding
      fun _ => inferInstanceAs (Std.LawfulEqCmp (compare : Bool → Bool → Ordering))
  cases hkey
  cases hread.symm.trans hvalues
  cases hscalars
  cases hafter
  cases hbefore
  obtain ⟨t, u, ht, hu, hboth, heither, -⟩ :=
    hsplits (fun _ _ => rfl) fun _ _ hs => (List.not_mem_nil hs).elim
  refine ⟨t, u, ht, hu, hboth, heither.2 ⟨("a", .bool true), by decide, ?_⟩⟩
  simp [RowView.Differs, RowView.allFalse, Scalar.constant]

/-- The cursor of the value NULL, and the conditions on both sides of it. -/
def nullCursor : String := "eyJpZCI6bnVsbH0="

def afterNull : String := "(\x60u\x60.\x60id\x60) > (NULL)"

def beforeNull : String := "(\x60u\x60.\x60id\x60) < (NULL)"

/-- The cursor of NULL has no row on either side, though all rows differ from it. -/
theorem not_forall_keysetConditions_split :
    ¬ ∀ (name : DialectName) (casing : Casing) (view : RowView Bool) target cursor following
        preceding key values scalars after before,
      (Dialect.standard name casing).IsPageBehind target false cursor following →
      (Dialect.standard name casing).IsPageBehind target true cursor preceding →
      (∀ reference, Std.TransCmp (view.compare reference)) →
      (∀ reference, Std.LawfulEqCmp (view.compare reference)) →
      target.sortKey = some key → Cursor.keysetValues cursor key.columns = .ok values →
      values.mapM Scalar.ofJson = .ok scalars → following.condition = some after →
      preceding.condition = some before →
      (∀ column ∈ key.columns.map casing.apply,
        (view.value ⟨target.aliasName, column⟩).isSome = true) →
      (∃ item ∈ (key.columns.map casing.apply).zip scalars,
        view.Differs target.aliasName item) →
      (view.truthIn? name after = some .yes ∧ view.truthIn? name before ≠ some .yes) ∨
        (view.truthIn? name after ≠ some .yes ∧ view.truthIn? name before = some .yes) := by
  intro h
  have hfollowing : (Dialect.standard .mysql .identity).IsPageBehind (users ["id"]) false
      nullCursor (usersWhere ["id"] .ascending afterNull) :=
    isPageBehind_users (by decide +kernel)
  have hpreceding : (Dialect.standard .mysql .identity).IsPageBehind (users ["id"]) true
      nullCursor (usersWhere ["id"] .descending beforeNull) :=
    isPageBehind_users (by decide +kernel)
  have hread : Cursor.keysetValues nullCursor ["id"] = .ok [.null] := by decide +kernel
  have hdiffers : RowView.allFalse.Differs "u" ("id", .null) := by
    simp [RowView.Differs, RowView.allFalse, Scalar.constant]
  have hafter : RowView.allFalse.truthIn? .mysql afterNull = some .unknown := by decide +kernel
  have hbefore : RowView.allFalse.truthIn? .mysql beforeNull = some .unknown := by decide +kernel
  have hsplit := h .mysql .identity RowView.allFalse _ _ _ _ ⟨.ascending, ["id"]⟩ _ _ _ _
    hfollowing hpreceding
    (fun _ => inferInstanceAs (Std.TransCmp (compare : Bool → Bool → Ordering)))
    (fun _ => inferInstanceAs (Std.LawfulEqCmp (compare : Bool → Bool → Ordering)))
    rfl hread rfl rfl rfl (fun _ _ => rfl) ⟨_, List.mem_singleton.2 rfl, hdiffers⟩
  rw [hafter, hbefore] at hsplit
  simp at hsplit

end Sql

end RelationPaging
