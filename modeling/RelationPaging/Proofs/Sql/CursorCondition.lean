import RelationPaging.Proofs.Paging.Interpreters
import RelationPaging.Proofs.Sql.Evaluation
import RelationPaging.Proofs.Sql.Generated

/-!
# Cursor conditions say which rows lie behind

The text of a cursor condition is read back, token by token, and evaluated in a row whose columns
may be NULL.  In every built-in dialect it has the truth of the comparison of the row of key columns
with the row of cursor values, whether the dialect compares rows or the comparison is spelled out
column by column (`truth_keysetCondition`); without NULL this is the strict lexicographic order.

`Tells` is what the induction over the columns carries: a text that is a single factor and has a
given truth.
-/

namespace RelationPaging

open Sql

/-- The constant that a scalar is. -/
def Scalar.constant : Scalar → Option Constant
  | null => none
  | bool b => some (.bool b)
  | number n => some (.number n.text)
  | text s => some (.text s)

/-- How the key columns of a row are ordered against the values of a cursor, item by item. -/
def Sql.RowView.orderings {V : Type} (view : RowView V) (aliasName : String) (columns : List String)
    (values : List Scalar) : List (Option Ordering) :=
  List.zipWith (fun column value => view.ordering? ⟨aliasName, column⟩ value.constant) columns
    values

namespace Sql

/-! ## Tokens of the parts -/

theorem Token.Within.isItem {token : Token} (h : token.Within isNumberChar) : token.IsItem := by
  obtain ⟨⟨hopen, hclose⟩, hplain⟩ := h.isPlain
  cases token with
  | quoted quote content => exact h.elim
  | word chars => exact ⟨hopen, hclose, by simp, rfl, hplain⟩
  | symbol c =>
    have hne : ∀ d, isNumberChar d = false → Token.symbol c ≠ .symbol d := by
      rintro d hd ⟨⟩
      rw [show isNumberChar c = true from h] at hd
      cases hd
    refine ⟨hopen, hclose, hne _ (by decide), ?_, hplain⟩
    unfold Comparison.ofToken?
    split
    · next heq => exact absurd heq (hne _ (by decide))
    · next heq => exact absurd heq (hne _ (by decide))
    · next heq => exact absurd heq (hne _ (by decide))
    · rfl

/-- A text whose tokens are one item of a comparison. -/
structure ReadsAs {α : Type} (read : List Token → Option α) (text : String) (ts : List Token)
    (item : α) : Prop where
  tokens : tokens? text.toList = some ts
  items : ∀ t ∈ ts, t.IsItem
  read_eq : read ts = some item

/-- The tokens of the literal of a value. -/
def literalTokens (value : Scalar) : List Token :=
  (tokens? value.literal.toList).getD []

/-- The literal of a value is read back as its constant. -/
theorem readsAs_literal (value : Scalar) :
    ReadsAs Constant.ofTokens? value.literal (literalTokens value) value.constant := by
  suffices h : ∃ ts, ReadsAs Constant.ofTokens? value.literal ts value.constant by
    obtain ⟨ts, hts⟩ := h
    rwa [literalTokens, hts.tokens]
  cases value with
  | null => exact ⟨[.word ['N', 'U', 'L', 'L']], by decide, by decide, rfl⟩
  | bool b =>
    cases b with
    | true => exact ⟨[.word ['T', 'R', 'U', 'E']], by decide, by decide, rfl⟩
    | false => exact ⟨[.word ['F', 'A', 'L', 'S', 'E']], by decide, by decide, rfl⟩
  | number n =>
    obtain ⟨ts, hts, hwithin, hchars⟩ := exists_tokens?_number n.isNumeral_chars.isNumberChar
    have htext : tokens? n.text.toList = some ts := by
      rw [Json.Number.text, String.toList_ofList, hts]
    have hne : ts ≠ [] := by
      rintro rfl
      exact n.isNumeral_chars.ne_nil hchars.symm
    refine ⟨ts, htext, fun t ht => (hwithin t ht).isItem, ?_⟩
    rw [Constant.ofTokens?_number hne hwithin, hchars]
    rfl
  | text s =>
    refine ⟨_, tokens?_textLiteral s, ?_, ?_⟩
    · rw [List.forall_mem_singleton]
      exact ⟨by simp, by simp, by simp, rfl, rfl, rfl⟩
    · rw [Constant.ofTokens?, String.ofList_toList]
      rfl

/-- The tokens of a column reference. -/
def referenceTokens (name : DialectName) (aliasName column : String) : List Token :=
  [.quoted (identifierQuote name) aliasName.toList, .symbol '.',
    .quoted (identifierQuote name) column.toList]

/-- A column reference is read back as the column of its table. -/
theorem readsAs_column (name : DialectName) (casing : Casing) (aliasName column : String) :
    ReadsAs Reference.ofTokens? ((Dialect.spellingOf name casing).column aliasName column)
      (referenceTokens name aliasName column) ⟨aliasName, column⟩ := by
  have hdot : scan .between ".".toList = (.between, [.symbol '.']) := by decide
  have hbefore : tokens? ((Dialect.spellingOf name casing).quote aliasName).toList = _ :=
    tokens?_quote aliasName
  have hbehind : tokens? ((Dialect.spellingOf name casing).quote column).toList = _ :=
    tokens?_quote column
  have htokens := tokens?_seam (by decide) hdot hbefore hbehind
  have hquoted : ∀ content, (Token.quoted (identifierQuote name) content).IsItem :=
    fun content => ⟨by simp, by simp, by simp, rfl, rfl, rfl⟩
  refine ⟨?_, ?_, ?_⟩
  · rw [Dialect.column_spellingOf, String.toList_append, String.toList_append, htokens]
    rfl
  · simp only [referenceTokens, List.forall_mem_cons]
    exact ⟨hquoted _, by decide, hquoted _, by simp⟩
  · cases name <;> simp [referenceTokens, Reference.ofTokens?, identifierQuote]

/-- Texts around a seam have their tokens around those of the seam. -/
theorem tokens?_intercalate_of_seam {separator : String} {us : List Token}
    (hbreak : separator.toList.head?.any isBreak = true)
    (hseam : scan .between separator.toList = (.between, us)) {texts : List String}
    {parts : List (List Token)}
    (h : List.Forall₂ (fun text ts => tokens? text.toList = some ts) texts parts) :
    tokens? (separator.intercalate texts).toList = some (us.intercalate parts) := by
  induction h with
  | nil => rfl
  | cons htext hrest ih =>
    cases hrest with
    | nil => simpa using htext
    | cons htext' hrest =>
      have htokens := tokens?_seam hbreak hseam htext ih
      rw [String.intercalate_cons_of_ne_nil (List.cons_ne_nil _ _), String.toList_append,
        String.toList_append, htokens, List.intercalate_cons_cons]

theorem tokens?_intercalate {texts : List String} {parts : List (List Token)}
    (h : List.Forall₂ (fun text ts => tokens? text.toList = some ts) texts parts) :
    tokens? (String.intercalate ", " texts).toList = some (commaSeparated parts) :=
  tokens?_intercalate_of_seam (by decide) (by decide) h

/-! ## Texts with a given truth -/

section

variable {V : Type} {view : RowView V} {name : DialectName} {casing : Casing} {aliasName : String}

/-- A text that is a single factor and has a given truth in a row. -/
def Tells (view : RowView V) (text : String) (truth : Truth) : Prop :=
  ∃ pieces f, piecesOf? text = some pieces ∧ (∀ p ∈ pieces, p.IsPlain) ∧
    factor? pieces = some f ∧ f.truth? view.atomTruth? = some truth

theorem Tells.truth?_eq {text : String} {truth : Truth} (h : Tells view text truth) :
    view.truth? text = some truth := by
  obtain ⟨pieces, f, hpieces, hplain, hf, htruth⟩ := h
  have hformula : formula? pieces = some f := by
    rw [formula?, alternatives?_of_forall hplain hf]
    rfl
  rw [RowView.truth?, read?, hpieces, Option.bind_some, hformula, Option.bind_some, htruth]

/-- Pieces of which there are at least two are an atom, which says what it says. -/
theorem tells_of_atom {text : String} {pieces : List Piece} {truth : Truth}
    (hpieces : piecesOf? text = some pieces) (hplain : ∀ p ∈ pieces, p.IsPlain)
    (hlength : 2 ≤ pieces.length)
    (htruth : view.atomTruth? (pieces.flatMap Piece.tokens) = some truth) :
    Tells view text truth := by
  refine ⟨pieces, .atom (pieces.flatMap Piece.tokens), hpieces, hplain, ?_, htruth⟩
  rcases pieces with _ | ⟨p, _ | ⟨p', pieces⟩⟩
  · cases hlength
  · simp only [List.length_cons, List.length_nil] at hlength
    omega
  · cases p <;> rfl

/-- The sign of a comparison, with a blank on either side, can join two sides. -/
theorem exists_isSeam_sign (comparison : Comparison) :
    ∃ sign, IsSeam (" " ++ comparison.symbol ++ " ") [.leaf sign] ∧
      Comparison.ofToken? sign = some comparison ∧ (Piece.leaf sign).IsPlain := by
  cases comparison with
  | less => exact ⟨.symbol '<', by decide⟩
  | equal => exact ⟨.symbol '=', by decide⟩
  | greater => exact ⟨.symbol '>', by decide⟩

theorem flatMap_tokens_map_leaf (ts : List Token) :
    (ts.map Piece.leaf).flatMap Piece.tokens = ts := by
  simp [List.flatMap_map, Piece.tokens]

/-- What a side of a comparison is made of, and how it is read. -/
structure IsSide {α : Type} (read : List Token → Option α) (text : String) (pieces : List Piece)
    (items : List α) : Prop where
  pieces_eq : piecesOf? text = some pieces
  isPlain : ∀ p ∈ pieces, p.IsPlain
  ne_nil : pieces ≠ []
  noSign : ∀ t ∈ pieces.flatMap Piece.tokens, Comparison.ofToken? t = none
  items_eq : itemsOf? read (pieces.flatMap Piece.tokens) = some items

/-- One item is a side. -/
theorem ReadsAs.isSide {α : Type} {read : List Token → Option α} {text : String} {ts : List Token}
    {item : α} (h : ReadsAs read text ts item) (hne : ts ≠ []) :
    IsSide read text (ts.map .leaf) [item] := by
  have hparen : ∀ t ∈ ts, t ≠ .symbol '(' ∧ t ≠ .symbol ')' :=
    fun t ht => ⟨(h.items t ht).1, (h.items t ht).2.1⟩
  refine ⟨?_, ?_, by simpa using hne, ?_, ?_⟩
  · rw [piecesOf?, h.tokens, Option.bind_some, pieces?_of_forall hparen]
  · rw [List.forall_mem_map]
    exact fun t ht => (h.items t ht).2.2.2.2
  · rw [flatMap_tokens_map_leaf]
    exact fun t ht => (h.items t ht).2.2.2.1
  · rw [flatMap_tokens_map_leaf, itemsOf?_single h.items h.read_eq]

/-- Items between commas and in parentheses are a side, which is one piece. -/
theorem exists_isSide_row {α β : Type} {read : List Token → Option β} {text : α → String}
    {tokens : α → List Token} {item : α → β} (h : ∀ x, ReadsAs read (text x) (tokens x) (item x))
    {xs : List α} (hne : xs ≠ []) :
    ∃ group, IsSide read (Condition.row (xs.map text)) [group] (xs.map item) := by
  have htexts : List.Forall₂ (fun text ts => tokens? text.toList = some ts) (xs.map text)
      (xs.map tokens) := by
    rw [List.forall₂_map_left_iff, List.forall₂_map_right_iff, List.forall₂_same]
    exact fun x _ => (h x).tokens
  have hread : List.Forall₂ (fun ts y => read ts = some y) (xs.map tokens) (xs.map item) := by
    rw [List.forall₂_map_left_iff, List.forall₂_map_right_iff, List.forall₂_same]
    exact fun x _ => (h x).read_eq
  have hitems : ∀ ts ∈ xs.map tokens, ∀ t ∈ ts, t.IsItem := by
    rw [List.forall_mem_map]
    exact fun x _ => (h x).items
  have hparen : ∀ t ∈ commaSeparated (xs.map tokens), t ≠ .symbol '(' ∧ t ≠ .symbol ')' := by
    intro t ht
    rcases mem_commaSeparated ht with rfl | ⟨ts, hts, ht⟩
    · decide
    · exact ⟨(hitems ts hts t ht).1, (hitems ts hts t ht).2.1⟩
  have hinner : piecesOf? (String.intercalate ", " (xs.map text)) =
      some ((commaSeparated (xs.map tokens)).map .leaf) := by
    rw [piecesOf?, tokens?_intercalate htexts, Option.bind_some, pieces?_of_forall hparen]
  have hgroup := piecesOf?_parenthesized hinner
  rw [flatMap_tokens_map_leaf] at hgroup
  have htokens : ∀ inner,
      [Piece.group (commaSeparated (xs.map tokens)) inner].flatMap Piece.tokens =
        rowTokens (xs.map tokens) := fun inner => List.flatMap_singleton ..
  refine ⟨_, hgroup, List.forall_mem_singleton.2 ⟨rfl, rfl⟩, List.cons_ne_nil _ _, ?_, ?_⟩
  · rw [htokens]
    exact fun t ht => ofToken?_of_mem_rowTokens hitems ht
  · rw [htokens]
    exact itemsOf?_rowTokens (by simpa using hne) hitems hread

/-- A comparison is read back from the two sides around its sign. -/
theorem tells_of_isSide {left right : String} {ps qs : List Piece} {comparison : Comparison}
    {references : List Reference} {constants : List (Option Constant)}
    (hleft : IsSide Reference.ofTokens? left ps references)
    (hright : IsSide Constant.ofTokens? right qs constants)
    (hlength : references.length = constants.length)
    (hrows : comparison.IsStrict ∨ references.length = 1) :
    Tells view (left ++ " " ++ comparison.symbol ++ " " ++ right)
      (comparison.rowTruth (List.zipWith view.ordering? references constants)) := by
  obtain ⟨sign, hseam, hsign, hplain⟩ := exists_isSeam_sign comparison
  have hpieces := piecesOf?_seam hseam hleft.pieces_eq hright.pieces_eq
  simp only [String.append_assoc] at hpieces ⊢
  have hpos := List.length_pos_of_ne_nil hleft.ne_nil
  refine tells_of_atom hpieces ?_ ?_ ?_
  · simp only [List.forall_mem_append, List.forall_mem_singleton]
    exact ⟨⟨hleft.isPlain, hplain⟩, hright.isPlain⟩
  · simp only [List.length_append, List.length_cons, List.length_nil]
    omega
  · have hread := RowComparison.ofTokens?_eq hleft.noSign hsign hleft.items_eq hright.items_eq
    have htokens : (ps ++ [Piece.leaf sign] ++ qs).flatMap Piece.tokens =
        ps.flatMap Piece.tokens ++ sign :: qs.flatMap Piece.tokens := by
      simp [Piece.tokens]
    rw [htokens, RowView.atomTruth?, hread]
    exact if_pos ⟨hlength, hrows⟩

/-- A comparison of a column with a value. -/
theorem tells_compare (comparison : Comparison) (column : String) (value : Scalar) :
    Tells view
      ((Condition.compare column comparison value).render
        ((Dialect.spellingOf name casing).column aliasName))
      (comparison.truth (view.ordering? ⟨aliasName, column⟩ value.constant)) := by
  have hliteral : literalTokens value ≠ [] := by
    intro hnil
    have hread := (readsAs_literal value).read_eq
    rw [hnil] at hread
    cases hread
  have hside : Tells view ((Dialect.spellingOf name casing).column aliasName column ++ " " ++
      comparison.symbol ++ " " ++ value.literal) _ :=
    tells_of_isSide ((readsAs_column name casing aliasName column).isSide (List.cons_ne_nil _ _))
      ((readsAs_literal value).isSide hliteral) rfl (.inr rfl)
  rwa [List.zipWith_cons_cons, List.zipWith_nil_left, Comparison.rowTruth_singleton] at hside

/-- A strict comparison of columns with values, row by row. -/
theorem tells_compareRows {comparison : Comparison} (hstrict : comparison.IsStrict)
    {columns : List String} {values : List Scalar} (hlength : columns.length = values.length)
    (hne : columns ≠ []) :
    Tells view
      ((Condition.compareRows columns comparison values).render
        ((Dialect.spellingOf name casing).column aliasName))
      (comparison.rowTruth (view.orderings aliasName columns values)) := by
  have hvalues : values ≠ [] := by
    rintro rfl
    exact hne (List.eq_nil_of_length_eq_zero hlength)
  obtain ⟨group, hleft⟩ := exists_isSide_row (readsAs_column name casing aliasName) hne
  obtain ⟨group', hright⟩ := exists_isSide_row readsAs_literal hvalues
  have hside : Tells view _ _ :=
    tells_of_isSide hleft hright (by simpa using hlength) (.inl hstrict)
  rwa [List.zipWith_map] at hside

/-- Two factors joined by a connective and put in parentheses. -/
theorem tells_connected (connect : Formula → Formula → Formula) {p q seam : String} {c : Piece}
    {t u truth : Truth} (hseam : IsSeam seam [c])
    (hformula : ∀ {ps qs f g}, alternatives? ps = some [[f]] → alternatives? qs = some [[g]] →
      formula? (ps ++ c :: qs) = some (connect f g))
    (htruth : ∀ {f g}, f.truth? view.atomTruth? = some t → g.truth? view.atomTruth? = some u →
      (connect f g).truth? view.atomTruth? = some truth)
    (hp : Tells view p t) (hq : Tells view q u) :
    Tells view ("(" ++ p ++ seam ++ q ++ ")") truth := by
  obtain ⟨ps, f, hps, hpsplain, hf, ht⟩ := hp
  obtain ⟨qs, g, hqs, hqsplain, hg, hu⟩ := hq
  have hpieces := piecesOf?_seam hseam hps hqs
  rw [List.append_assoc, List.singleton_append] at hpieces
  have hgroup := piecesOf?_parenthesized hpieces
  rw [hformula (alternatives?_of_forall hpsplain hf) (alternatives?_of_forall hqsplain hg)]
    at hgroup
  simp only [String.append_assoc] at hgroup ⊢
  exact ⟨_, connect f g, hgroup, List.forall_mem_singleton.2 ⟨rfl, rfl⟩, rfl, htruth ht hu⟩

theorem Tells.both {p q : String} {t u : Truth} (hp : Tells view p t) (hq : Tells view q u) :
    Tells view ("(" ++ p ++ " AND " ++ q ++ ")") (t.both u) := by
  have hseam : IsSeam " AND " [.leaf (.word ['A', 'N', 'D'])] := by decide
  refine tells_connected .both hseam (fun hps hqs => ?_) (fun ht hu => ?_) hp hq
  · rw [formula?, alternatives?_append_cons (by decide) hps hqs]
    rfl
  · rw [Formula.truth?, ht, hu]
    rfl

theorem Tells.either {p q : String} {t u : Truth} (hp : Tells view p t) (hq : Tells view q u) :
    Tells view ("(" ++ p ++ " OR " ++ q ++ ")") (t.either u) := by
  have hseam : IsSeam " OR " [.leaf (.word ['O', 'R'])] := by decide
  refine tells_connected .either hseam (fun hps hqs => ?_) (fun ht hu => ?_) hp hq
  · rw [formula?, alternatives?_append_cons_or (by decide) hps hqs]
    rfl
  · rw [Formula.truth?, ht, hu]
    rfl

/-- A comparison that is spelled out column by column. -/
theorem IsExpanded.tells {comparison : Comparison} {columns : List String} {values : List Scalar}
    {condition : Condition} (h : IsExpanded comparison columns values condition) :
    Tells view (condition.render ((Dialect.spellingOf name casing).column aliasName))
      (comparison.expandedTruth (view.orderings aliasName columns values)) := by
  induction h with
  | last column value => exact tells_compare comparison column value
  | more column value _ ih =>
    refine Tells.either (tells_compare comparison column value) ?_
    exact Tells.both (tells_compare .equal column value) ih

/-- The condition for the rows behind a cursor has the truth of a comparison of rows, however a
dialect spells it. -/
theorem tells_after (view : RowView V) (name : DialectName) (casing : Casing) (aliasName : String)
    (comparesRows descending : Bool) {columns : List String} {values : List Scalar}
    (hlength : columns.length = values.length) (hne : columns ≠ []) :
    Tells view
      ((Condition.after comparesRows columns values descending).render
        ((Dialect.spellingOf name casing).column aliasName))
      ((Comparison.behind descending).rowTruth (view.orderings aliasName columns values)) := by
  have hstrict := Comparison.isStrict_behind descending
  unfold Condition.after
  cases comparesRows with
  | true => exact tells_compareRows hstrict hlength hne
  | false =>
    rw [← Comparison.expandedTruth_eq hstrict]
    exact (isExpanded_expanded _ hlength hne).tells

/-! ## Conditions of cursors -/

theorem exists_constant {value : Scalar} (h : value ≠ .null) :
    ∃ constant, value.constant = some constant := by
  cases value with
  | null => exact absurd rfl h
  | bool b => exact ⟨_, rfl⟩
  | number n => exact ⟨_, rfl⟩
  | text s => exact ⟨_, rfl⟩

/-- Without NULL, all items are ordered. -/
theorem exists_orderings {columns : List String} {values : List Scalar}
    (hcolumns : ∀ column ∈ columns, (view.value ⟨aliasName, column⟩).isSome = true)
    (hvalues : ∀ value ∈ values, value ≠ .null) :
    ∃ orderings : List Ordering,
      view.orderings aliasName columns values = orderings.map some := by
  induction columns generalizing values with
  | nil => exact ⟨[], rfl⟩
  | cons column columns ih =>
    cases values with
    | nil => exact ⟨[], rfl⟩
    | cons value values =>
      obtain ⟨hcolumn, hcolumns⟩ := List.forall_mem_cons.1 hcolumns
      obtain ⟨hvalue, hvalues⟩ := List.forall_mem_cons.1 hvalues
      obtain ⟨a, ha⟩ := Option.isSome_iff_exists.1 hcolumn
      obtain ⟨constant, hconstant⟩ := exists_constant hvalue
      obtain ⟨orderings, horderings⟩ := ih hcolumns hvalues
      refine ⟨view.compare ⟨aliasName, column⟩ a (view.denote ⟨aliasName, column⟩ constant) ::
        orderings, ?_⟩
      rw [RowView.orderings] at horderings ⊢
      rw [List.zipWith_cons_cons, horderings, RowView.ordering?, ha, hconstant]
      rfl

/-- **In all dialects a cursor condition says the same.**  Its text is true, false or unknown in a
row as the comparison of the row of key columns with the row of values is, which is decided by the
leftmost pair that is not equal.  Without NULL it is true exactly if the key columns lie strictly
behind the values in lexicographic order, and it is never unknown. -/
theorem truth_keysetCondition (view : RowView V) (aliasName : String) {columns : List String}
    (hne : columns ≠ []) {values : List Json} {scalars : List Scalar}
    (hscalars : values.mapM Scalar.ofJson = .ok scalars) (hlength : values.length = columns.length)
    (descending : Bool) :
    ∃ truth, (∀ name casing, ∃ text, (Dialect.spellingOf name casing).keysetCondition aliasName
          columns values descending = .ok text ∧ view.truth? text = some truth) ∧
      truth = (Comparison.behind descending).rowTruth (view.orderings aliasName columns scalars) ∧
      ((∀ column ∈ columns, (view.value ⟨aliasName, column⟩).isSome = true) →
        (∀ value ∈ scalars, value ≠ .null) →
        ∃ orderings, view.orderings aliasName columns scalars = orderings.map some ∧
          (truth = .yes ↔ lexicographic orderings = (Comparison.behind descending).ordering) ∧
          truth ≠ .unknown) := by
  refine ⟨_, fun name casing => ⟨_, Spelling.keysetCondition_eq_ok_iff.2 ⟨_, hscalars, rfl⟩, ?_⟩,
    rfl, fun hcolumns hvalues => ?_⟩
  · have hscalarsLength := (Except.mapM_eq_ok_iff.1 hscalars).length_eq
    have hlengths := hlength.symm.trans hscalarsLength
    exact (tells_after view _ _ aliasName _ descending hlengths hne).truth?_eq
  · obtain ⟨orderings, horderings⟩ := exists_orderings hcolumns hvalues
    refine ⟨orderings, horderings, ?_⟩
    rw [horderings, Comparison.rowTruth_map_some, Comparison.truth]
    by_cases hbehind : lexicographic orderings = (Comparison.behind descending).ordering
    · simp [hbehind]
    · simp [hbehind]

/-- A row in which the column `a` is true and all others are NULL. -/
def RowView.onlyA : RowView Bool where
  value reference := if reference.column = "a" then some true else none
  denote _ constant := constant = .bool true
  compare _ := Ord.compare

/-- Behind an equal first column, NULL makes the condition unknown, as one comparison of rows and
spelled out. -/
theorem truth_keysetCondition_onlyA :
    (∃ text, (Dialect.spellingOf .postgresql .identity).keysetCondition "u" ["a", "b"]
      [.bool true, .bool false] false = .ok text ∧ RowView.onlyA.truth? text = some .unknown) ∧
    ∃ text, (Dialect.spellingOf .db2 .upper).keysetCondition "u" ["a", "b"]
      [.bool true, .bool false] false = .ok text ∧ RowView.onlyA.truth? text = some .unknown := by
  have hscalars : [Json.bool true, .bool false].mapM Scalar.ofJson =
      .ok [.bool true, .bool false] := rfl
  obtain ⟨truth, htexts, htruth, -⟩ := truth_keysetCondition RowView.onlyA "u"
    (List.cons_ne_nil "a" ["b"]) hscalars rfl false
  have hunknown : truth = .unknown := by
    rw [htruth]
    decide
  rw [hunknown] at htexts
  exact ⟨htexts .postgresql .identity, htexts .db2 .upper⟩

end

end Sql

end RelationPaging
