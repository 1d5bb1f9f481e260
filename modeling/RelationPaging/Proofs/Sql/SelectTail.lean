import RelationPaging.Proofs.Sql.CursorCondition
import RelationPaging.Proofs.Sql.LimitClause

/-!
# The end of a select, read back

Behind its `WHERE` clause a select has an `ORDER BY` clause or none, and then the clause that cuts
the page.  A reader of this end gets the columns that the rows are sorted by, each with its table
and its direction, and the cut.  There is an `ORDER BY` clause if and only if columns are read,
since the clause cannot be read without one (`hasOrderClause_iff`).

The reader knows nothing of the page.  That it gives back the columns in their order, and then the
cut, comes from what ends a column: a direction, behind which either a comma or the first word of
the cut stands (`sortItems?_append`).
-/

namespace RelationPaging

/-! ## Reading -/

namespace Sql

/-- A column that rows are sorted by, with its direction. -/
abbrev SortItem := Reference × SortDirection

/-- The direction that a keyword stands for. -/
def direction? (token : Token) : Option SortDirection :=
  if token = keyword "ASC" then some .ascending
  else if token = keyword "DESC" then some .descending
  else none

/-- Reads sorted columns between commas, as far as they go, and gives back what follows them. -/
def sortItems? : List Token → Option (List SortItem × List Token)
  | aliasName :: dot :: column :: direction :: .symbol ',' :: rest => do
    let reference ← Reference.ofTokens? [aliasName, dot, column]
    let direction ← direction? direction
    let (items, rest) ← sortItems? rest
    return ((reference, direction) :: items, rest)
  | aliasName :: dot :: column :: direction :: rest => do
    let reference ← Reference.ofTokens? [aliasName, dot, column]
    let direction ← direction? direction
    return ([(reference, direction)], rest)
  | _ => none

/-- What a select says behind its `WHERE` clause. -/
structure SelectTail where
  order : List SortItem
  cut : Cut
  deriving DecidableEq, Repr

/-- The keywords of the order. -/
def orderKeywords : List Token :=
  [keyword "ORDER", keyword "BY"]

/-- Reads the tokens behind a `WHERE` clause. -/
def selectTail? (name : DialectName) (tokens : List Token) : Option SelectTail :=
  match orderKeywords.isPrefixOf? tokens with
  | some behind => do
    let (order, rest) ← sortItems? behind
    let cut ← cut? name rest
    return ⟨order, cut⟩
  | none => do
    let cut ← cut? name tokens
    return ⟨[], cut⟩

/-- Reads the text behind a `WHERE` clause. -/
def readSelectTail? (name : DialectName) (text : String) : Option SelectTail :=
  (tokens? text.toList).bind (selectTail? name)

/-- A text that starts with the keywords of the order. -/
def HasOrderClause (text : String) : Prop :=
  ∃ behind, tokens? text.toList = some (orderKeywords ++ behind)

/-- An order that is read has a column. -/
theorem ne_nil_of_sortItems? {tokens rest : List Token} {items : List SortItem}
    (h : sortItems? tokens = some (items, rest)) : items ≠ [] := by
  unfold sortItems? at h
  split at h
  · simp only [Option.bind_eq_bind, Option.bind_eq_some_iff, Option.pure_def,
      Option.some.injEq] at h
    obtain ⟨reference, -, direction, -, found, -, h⟩ := h
    cases h
    exact List.cons_ne_nil _ _
  · simp only [Option.bind_eq_bind, Option.bind_eq_some_iff, Option.pure_def,
      Option.some.injEq] at h
    obtain ⟨reference, -, direction, -, h⟩ := h
    cases h
    exact List.cons_ne_nil _ _
  · cases h

/-- What is read has columns if and only if there is an `ORDER BY` clause. -/
theorem hasOrderClause_iff {name : DialectName} {text : String} {tail : SelectTail}
    (h : readSelectTail? name text = some tail) : HasOrderClause text ↔ tail.order ≠ [] := by
  obtain ⟨tokens, htokens, h⟩ := Option.bind_eq_some_iff.1 h
  rw [HasOrderClause, htokens]
  unfold selectTail? at h
  split at h
  · next behind hprefix =>
    simp only [Option.bind_eq_bind, Option.bind_eq_some_iff, Option.pure_def,
      Option.some.injEq] at h
    obtain ⟨⟨order, rest⟩, horder, cut, -, rfl⟩ := h
    have hbehind := List.isPrefixOf?_eq_some_iff_append_eq.1 hprefix
    exact iff_of_true ⟨behind, congrArg some hbehind.symm⟩ (ne_nil_of_sortItems? horder)
  · next hprefix =>
    simp only [Option.bind_eq_bind, Option.bind_eq_some_iff, Option.pure_def,
      Option.some.injEq] at h
    obtain ⟨cut, -, rfl⟩ := h
    refine iff_of_false ?_ (not_not.2 rfl)
    rintro ⟨behind, heq⟩
    rw [Option.some.inj heq, List.isPrefixOf?_eq_some_iff_append_eq.2 rfl] at hprefix
    cases hprefix

end Sql

/-! ## Writing -/

/-- The columns of an order, as they are read. -/
def PageOrder.items (order : PageOrder) : List Sql.SortItem :=
  order.columns.map fun (column, direction) => (⟨order.table, column⟩, direction)

namespace Sql

variable {name : DialectName} {casing : Casing}

/-- The tokens of a sorted column. -/
def sortTokens (name : DialectName) (item : SortItem) : List Token :=
  referenceTokens name item.1.aliasName item.1.column ++ [keyword item.2.keyword]

theorem tokens?_sort (item : SortItem) :
    tokens? ((Dialect.spellingOf name casing).column item.1.aliasName item.1.column ++ " "
      ++ item.2.keyword).toList = some (sortTokens name item) := by
  obtain ⟨⟨aliasName, column⟩, direction⟩ := item
  have hblank : scan .between " ".toList = (.between, []) := by decide
  have hdirection : tokens? direction.keyword.toList = some [keyword direction.keyword] := by
    cases direction <;> decide
  have htokens := tokens?_seam (by decide) hblank
    (readsAs_column name casing aliasName column).tokens hdirection
  rw [String.toList_append, String.toList_append, htokens]
  rfl

theorem tokens?_orderColumns (order : PageOrder) :
    tokens? ((Dialect.spellingOf name casing).orderColumns order).toList =
      some (commaSeparated (order.items.map (sortTokens name))) := by
  refine tokens?_intercalate ?_
  rw [PageOrder.items, List.map_map, List.forall₂_map_left_iff, List.forall₂_map_right_iff,
    List.forall₂_same]
  exact fun column _ => tokens?_sort (⟨order.table, column.1⟩, column.2)

/-- The line of the order has the keywords in front of the columns. -/
theorem tokens?_orderLine (order : PageOrder) :
    tokens? ("  ORDER BY " ++ (Dialect.spellingOf name casing).orderColumns order).toList =
      some (orderKeywords ++ commaSeparated (order.items.map (sortTokens name))) := by
  have hkeywords : scan .between "  ORDER BY ".toList = (.between, orderKeywords) := by decide
  rw [String.toList_append, tokens?_append_of_between hkeywords, tokens?_orderColumns,
    Option.map_some]

/-- The line of the cut has the tokens of the cut. -/
theorem tokens?_cutLine (limit : PageLimit) (offset : Option UInt64) :
    tokens? ("  " ++ (Dialect.spellingOf name casing).limitClause limit offset).toList =
      some (cutTokens name limit offset) := by
  have hblank : scan .between "  ".toList = (.between, []) := by decide
  rw [String.toList_append, tokens?_append_of_between hblank, tokens?_limitClause, Option.map_some,
    List.nil_append]

@[simp] theorem direction?_keyword (direction : SortDirection) :
    direction? (keyword direction.keyword) = some direction := by
  cases direction <;> decide

theorem ofTokens?_referenceTokens (aliasName column : String) :
    Reference.ofTokens? (referenceTokens name aliasName column) = some ⟨aliasName, column⟩ :=
  (readsAs_column name .identity aliasName column).read_eq

/-- In front of a comma, a column is read and the others follow. -/
theorem sortItems?_comma (item : SortItem) (rest : List Token) :
    sortItems? (sortTokens name item ++ .symbol ',' :: rest) =
      (sortItems? rest).map fun (items, rest) => (item :: items, rest) := by
  have hreference := @ofTokens?_referenceTokens name item.1.aliasName item.1.column
  simp only [sortTokens, referenceTokens, List.cons_append, List.nil_append] at hreference ⊢
  rw [sortItems?, hreference, direction?_keyword]
  cases sortItems? rest <;> rfl

/-- In front of anything else, a column is the last one. -/
theorem sortItems?_last (item : SortItem) {rest : List Token}
    (hrest : rest.head? ≠ some (.symbol ',')) :
    sortItems? (sortTokens name item ++ rest) = some ([item], rest) := by
  have hreference := @ofTokens?_referenceTokens name item.1.aliasName item.1.column
  simp only [sortTokens, referenceTokens, List.cons_append, List.nil_append] at hreference ⊢
  rw [sortItems?, hreference, direction?_keyword]
  · rfl
  · rintro behind rfl
    exact hrest rfl

/-- Sorted columns are read up to what does not go on with a comma. -/
theorem sortItems?_append {items : List SortItem} (hne : items ≠ []) {rest : List Token}
    (hrest : rest.head? ≠ some (.symbol ',')) :
    sortItems? (commaSeparated (items.map (sortTokens name)) ++ rest) = some (items, rest) := by
  induction items with
  | nil => exact absurd rfl hne
  | cons item items ih =>
    cases items with
    | nil => simpa [commaSeparated] using sortItems?_last item hrest
    | cons next items =>
      have hbehind := ih (List.cons_ne_nil _ _)
      have hsplit : commaSeparated ((item :: next :: items).map (sortTokens name)) ++ rest =
          sortTokens name item ++
            .symbol ',' :: (commaSeparated ((next :: items).map (sortTokens name)) ++ rest) := by
        simp [commaSeparated, List.intercalate_cons_cons]
      rw [hsplit, sortItems?_comma, hbehind]
      rfl

/-- The cut does not go on with a comma, and it does not start with the keywords of the order. -/
theorem cutTokens_head (limit : PageLimit) (offset : Option UInt64) :
    (cutTokens name limit offset).head? ≠ some (.symbol ',') ∧
      orderKeywords.isPrefixOf? (cutTokens name limit offset) = none := by
  have hword : ∀ first, first ∈ ["LIMIT", "OFFSET", "FETCH"] → ∀ rest,
      (keyword first :: rest).head? ≠ some (.symbol ',') ∧
        orderKeywords.isPrefixOf? (keyword first :: rest) = none := by
    intro first hfirst rest
    have hne : keyword first ≠ keyword "ORDER" := by
      revert first
      decide
    refine ⟨by simp [keyword], ?_⟩
    simp [orderKeywords, List.isPrefixOf?, Ne.symm hne]
  cases name with
  | postgresql | mysql =>
    cases offset <;> exact hword "LIMIT" (by decide) _
  | db2 =>
    cases offset with
    | some n => exact hword "OFFSET" (by decide) _
    | none =>
      cases limit with
      | rows n => exact hword "FETCH" (by decide) _
      | all => decide

/-- The tokens behind a `WHERE` clause are read back, with an order or without. -/
theorem selectTail?_eq (items : List SortItem) (limit : PageLimit) (offset : Option UInt64) :
    selectTail? name
        ((if items = [] then [] else orderKeywords ++ commaSeparated (items.map (sortTokens name)))
          ++ cutTokens name limit offset) =
      some ⟨items, understood name limit, offset⟩ := by
  obtain ⟨hcomma, hkeywords⟩ := @cutTokens_head name limit offset
  by_cases hne : items = []
  · subst hne
    rw [if_pos rfl, List.nil_append, selectTail?, hkeywords]
    simp only [cut?_cutTokens, Option.bind_eq_bind, Option.bind_some, Option.pure_def]
  · have hprefix : orderKeywords.isPrefixOf? (orderKeywords ++
        commaSeparated (items.map (sortTokens name)) ++ cutTokens name limit offset) =
          some (commaSeparated (items.map (sortTokens name)) ++ cutTokens name limit offset) :=
      List.isPrefixOf?_eq_some_iff_append_eq.2 (List.append_assoc _ _ _).symm
    rw [if_neg hne, selectTail?, hprefix]
    simp only [sortItems?_append hne hcomma, cut?_cutTokens, Option.bind_eq_bind,
      Option.bind_some, Option.pure_def]

end Sql

end RelationPaging
