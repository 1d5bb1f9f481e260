import RelationPaging.Proofs.Paging.Table

/-!
# The tokens of a cursor condition

What is put into a condition cannot leave its place.  The text of a condition has the tokens of the
condition (`tokens?_render`): each name is the content of one quoted part, each text of the cursor
that of one literal, and everything else is the frame that `Token.masked` leaves.  The frame depends
on how many columns there are, on the direction and on the values that are no texts, but on no name
and on no text.  So two lists of values that are written alike are alike, value by value
(`tokens?_keysetCondition`).
-/

namespace RelationPaging

/-! ## Tokens -/

/-- The tokens of the literal of a value. -/
def Scalar.tokens : Scalar → List Sql.Token
  | null => [.word "NULL".toList]
  | bool true => [.word "TRUE".toList]
  | bool false => [.word "FALSE".toList]
  | number n => (Sql.tokens? n.text.toList).getD []
  | text s => [.quoted .single s.toList]

/-- The sign of a comparison. -/
def Comparison.token : Comparison → Sql.Token
  | less => .symbol '<'
  | equal => .symbol '='
  | greater => .symbol '>'

/-- The tokens of a condition, where `reference` gives those of the reference of a column. -/
def Condition.tokens (reference : String → List Sql.Token) : Condition → List Sql.Token
  | blank => []
  | compare column comparison value => reference column ++ comparison.token :: value.tokens
  | compareRows columns comparison values =>
    Sql.rowTokens (columns.map reference) ++
      comparison.token :: Sql.rowTokens (values.map Scalar.tokens)
  | both left right =>
    .symbol '(' :: (left.tokens reference ++
      .word "AND".toList :: (right.tokens reference ++ [.symbol ')']))
  | either left right =>
    .symbol '(' :: (left.tokens reference ++
      .word "OR".toList :: (right.tokens reference ++ [.symbol ')']))

namespace Sql

variable {name : DialectName} {casing : Casing} {aliasName : String}

theorem literalTokens_eq (value : Scalar) : literalTokens value = value.tokens := by
  cases value with
  | null => decide
  | bool b => cases b <;> decide
  | number n => rfl
  | text s =>
    rw [literalTokens, Scalar.literal, tokens?_textLiteral, Option.getD_some, Scalar.tokens]

theorem tokens?_literal (value : Scalar) :
    tokens? value.literal.toList = some value.tokens := by
  rw [← literalTokens_eq]
  exact (readsAs_literal value).tokens

/-- The sign of a comparison, with a blank on either side, ends what stands before it. -/
theorem scan_sign (comparison : Comparison) :
    (" " ++ comparison.symbol ++ " ").toList.head?.any isBreak = true ∧
      scan .between (" " ++ comparison.symbol ++ " ").toList = (.between, [comparison.token]) := by
  cases comparison <;> decide

theorem tokens?_sign {p q : String} {ts us : List Token} (comparison : Comparison)
    (hp : tokens? p.toList = some ts) (hq : tokens? q.toList = some us) :
    tokens? (p ++ " " ++ comparison.symbol ++ " " ++ q).toList =
      some (ts ++ comparison.token :: us) := by
  obtain ⟨hbreak, hscan⟩ := scan_sign comparison
  have htokens := tokens?_seam hbreak hscan hp hq
  simp only [String.toList_append, List.append_assoc] at htokens ⊢
  exact htokens

theorem scan_and : scan .between " AND ".toList = (.between, [.word ['A', 'N', 'D']]) := by decide

theorem scan_or : scan .between " OR ".toList = (.between, [.word ['O', 'R']]) := by decide

/-- Items between commas and in parentheses. -/
theorem tokens?_row {α : Type} {text : α → String} {tokens : α → List Token}
    (h : ∀ x, tokens? (text x).toList = some (tokens x)) (xs : List α) :
    tokens? (Condition.row (xs.map text)).toList = some (rowTokens (xs.map tokens)) := by
  have hopening : scan .between "(".toList = (.between, [.symbol '(']) := by decide
  have hclosing : scan .between ")".toList = (.between, [.symbol ')']) := by decide
  have htexts : List.Forall₂ (fun text ts => tokens? text.toList = some ts) (xs.map text)
      (xs.map tokens) := by
    rw [List.forall₂_map_left_iff, List.forall₂_map_right_iff, List.forall₂_same]
    exact fun x _ => h x
  have henclosed := tokens?_enclosed hopening (by decide) hclosing (tokens?_intercalate htexts)
  rw [Condition.row, String.toList_append, String.toList_append]
  exact henclosed

/-- **The text of a condition has the tokens of the condition.** -/
theorem tokens?_render (condition : Condition) :
    tokens? (condition.render ((Dialect.spellingOf name casing).column aliasName)).toList =
      some (condition.tokens (referenceTokens name aliasName)) := by
  have hcolumn : ∀ column,
      tokens? ((Dialect.spellingOf name casing).column aliasName column).toList =
        some (referenceTokens name aliasName column) :=
    fun column => (readsAs_column name casing aliasName column).tokens
  induction condition with
  | blank => rfl
  | compare column comparison value =>
    exact tokens?_sign comparison (hcolumn column) (tokens?_literal value)
  | compareRows columns comparison values =>
    exact tokens?_sign comparison (tokens?_row hcolumn columns) (tokens?_row tokens?_literal values)
  | both left right ihl ihr =>
    have htokens := tokens?_connected (by decide) scan_and ihl ihr
    simp only [List.append_assoc, List.cons_append, List.nil_append] at htokens
    exact htokens
  | either left right ihl ihr =>
    have htokens := tokens?_connected (by decide) scan_or ihl ihr
    simp only [List.append_assoc, List.cons_append, List.nil_append] at htokens
    exact htokens

/-! ## The frame -/

/-- A token without what is between its quotes. -/
def Token.masked : Token → Token
  | quoted quote _ => quoted quote []
  | word chars => word chars
  | symbol c => symbol c

theorem map_masked_commaSeparated (parts : List (List Token)) :
    (commaSeparated parts).map Token.masked =
      commaSeparated (parts.map (·.map Token.masked)) := by
  induction parts with
  | nil => rfl
  | cons ts parts ih =>
    cases parts with
    | nil => simp [commaSeparated]
    | cons ts' parts =>
      simp only [commaSeparated, List.intercalate_cons_cons, List.map_append, List.map_cons,
        List.map_nil] at ih ⊢
      rw [ih]
      rfl

theorem map_masked_rowTokens (parts : List (List Token)) :
    (rowTokens parts).map Token.masked = rowTokens (parts.map (·.map Token.masked)) := by
  rw [rowTokens, rowTokens, List.map_append, List.map_cons, map_masked_commaSeparated]
  rfl

end Sql

/-- A value without its characters, if it is a text. -/
def Scalar.masked : Scalar → Scalar
  | null => null
  | bool b => bool b
  | number n => number n
  | text _ => text ""

/-- A condition without its names and without the characters of its texts. -/
def Condition.masked : Condition → Condition
  | blank => blank
  | compare _ comparison value => compare "" comparison value.masked
  | compareRows columns comparison values =>
    compareRows (columns.map fun _ => "") comparison (values.map Scalar.masked)
  | both left right => both left.masked right.masked
  | either left right => either left.masked right.masked

theorem Scalar.tokens_masked (value : Scalar) :
    value.masked.tokens = value.tokens.map Sql.Token.masked := by
  cases value with
  | null => rfl
  | bool b => cases b <;> rfl
  | number n =>
    obtain ⟨ts, hts, hwithin, -⟩ := Sql.exists_tokens?_number n.isNumeral_chars.isNumberChar
    have htokens : (number n).tokens = ts := by
      rw [tokens, Json.Number.text, String.toList_ofList, hts, Option.getD_some]
    have hmasked : ∀ t ∈ ts, t.masked = id t := by
      intro t ht
      cases t with
      | quoted quote content => exact (hwithin _ ht).elim
      | word chars => rfl
      | symbol c => rfl
    rw [masked, htokens, List.map_congr_left hmasked, List.map_id]
  | text s => rfl

theorem Condition.tokens_masked (name : DialectName) (aliasName : String) (condition : Condition) :
    condition.masked.tokens (Sql.referenceTokens name "") =
      (condition.tokens (Sql.referenceTokens name aliasName)).map Sql.Token.masked := by
  have hsign : ∀ comparison : Comparison, comparison.token.masked = comparison.token := by
    intro comparison
    cases comparison <;> rfl
  induction condition with
  | blank => rfl
  | compare column comparison value =>
    simp only [masked, tokens, List.map_append, List.map_cons, hsign, Scalar.tokens_masked]
    rfl
  | compareRows columns comparison values =>
    have hvalues : Scalar.tokens ∘ Scalar.masked = List.map Sql.Token.masked ∘ Scalar.tokens :=
      funext Scalar.tokens_masked
    simp only [masked, tokens, List.map_append, List.map_cons, hsign, Sql.map_masked_rowTokens,
      List.map_map, hvalues]
    rfl
  | both left right ihl ihr =>
    simp only [masked, tokens, List.map_append, List.map_cons, List.map_nil, ihl, ihr]
    rfl
  | either left right ihl ihr =>
    simp only [masked, tokens, List.map_append, List.map_cons, List.map_nil, ihl, ihr]
    rfl

theorem Sql.IsExpanded.masked_eq {comparison : Comparison} {columns : List String}
    {values : List Scalar} {condition : Condition}
    (h : IsExpanded comparison columns values condition) :
    condition.masked =
      .expanded comparison (columns.map fun _ => "") (values.map Scalar.masked) := by
  induction h with
  | last column value => rfl
  | more column value _ ih =>
    rw [Condition.masked, Condition.masked, Condition.masked, ih]
    rfl

/-- Without names and texts, a comparison with values is the comparison with the values without
texts. -/
theorem Condition.masked_after (comparesRows descending : Bool) {columns : List String}
    {values : List Scalar} (hlength : columns.length = values.length) (hne : columns ≠ []) :
    (after comparesRows columns values descending).masked =
      after comparesRows (List.replicate columns.length "") (values.map Scalar.masked)
        descending := by
  rw [← List.map_const']
  cases comparesRows with
  | true => rfl
  | false => exact (Sql.isExpanded_expanded _ hlength hne).masked_eq

namespace Sql

/-! ## Values from tokens -/

/-- Lists are equal up to where a separator first stands and behind it.  It may stand there again,
so that `List.append_cons_inj_of_notMem` does not apply. -/
theorem append_cons_inj {α : Type} {a : α} {xs xs' ys ys' : List α} (hxs : a ∉ xs) (hys : a ∉ ys)
    (h : xs ++ a :: xs' = ys ++ a :: ys') : xs = ys ∧ xs' = ys' := by
  induction xs generalizing ys with
  | nil =>
    cases ys with
    | nil => exact ⟨rfl, (List.cons.inj h).2⟩
    | cons y ys => exact absurd (List.cons.inj h).1 (List.ne_of_not_mem_cons hys)
  | cons x xs ih =>
    cases ys with
    | nil => exact absurd (List.cons.inj h).1.symm (List.ne_of_not_mem_cons hxs)
    | cons y ys =>
      obtain ⟨rfl, hrest⟩ := List.cons.inj h
      obtain ⟨rfl, rfl⟩ := ih (List.not_mem_of_not_mem_cons hxs) (List.not_mem_of_not_mem_cons hys)
        hrest
      exact ⟨rfl, rfl⟩

theorem isItem_of_mem_tokens (value : Scalar) : ∀ t ∈ value.tokens, t.IsItem := by
  rw [← literalTokens_eq]
  exact (readsAs_literal value).items

theorem not_mem_tokens {t : Token} (ht : ¬ t.IsItem) (value : Scalar) : t ∉ value.tokens :=
  fun hmem => ht (isItem_of_mem_tokens value t hmem)

section

variable {comparison : Comparison} {columns : List String} {values values' : List Scalar}
  {condition condition' : Condition} {reference : String → List Token}

theorem IsExpanded.map_tokens_eq (h : IsExpanded comparison columns values condition)
    (h' : IsExpanded comparison columns values' condition')
    (htokens : condition.tokens reference = condition'.tokens reference) :
    values.map Scalar.tokens = values'.map Scalar.tokens := by
  induction h generalizing values' condition' with
  | last column value =>
    cases h' with
    | last _ value' =>
      have hvalue := List.cons.inj (List.append_cancel_left htokens)
      rw [List.map_singleton, List.map_singleton, hvalue.2]
  | more column value hrest ih =>
    cases h' with
    | more _ value' hrest' =>
      simp only [Condition.tokens, List.cons_append, List.append_assoc, List.cons.injEq,
        true_and] at htokens
      have hcompare := (List.cons.inj (List.append_cancel_left htokens)).2
      obtain ⟨hvalue, hbehind⟩ := append_cons_inj (not_mem_tokens (by decide) value)
        (not_mem_tokens (by decide) value') hcompare
      rw [hvalue] at hbehind
      have hequal := (List.cons.inj (List.append_cancel_left (List.cons.inj hbehind).2)).2
      have hlater := List.append_cancel_right (List.cons.inj (List.append_cancel_left hequal)).2
      rw [List.map_cons, hvalue, ih hrest' hlater]
      rfl

theorem rowTokens_inj {parts parts' : List (List Token)} (hne : parts ≠ []) (hne' : parts' ≠ [])
    (hcomma : ∀ ts ∈ parts, .symbol ',' ∉ ts) (hcomma' : ∀ ts ∈ parts', .symbol ',' ∉ ts)
    (h : rowTokens parts = rowTokens parts') : parts = parts' := by
  have hinner := List.append_cancel_right (List.cons.inj h).2
  rw [← List.splitOn_intercalate _ hcomma hne, ← List.splitOn_intercalate _ hcomma' hne']
  exact congrArg _ hinner

/-- Two comparisons of the same columns that have the same tokens compare with values that have. -/
theorem IsKeyComparison.map_tokens_eq {comparesRows : Bool} (hne : columns ≠ [])
    (hlength : columns.length = values.length) (hlength' : columns.length = values'.length)
    (h : IsKeyComparison comparison columns values comparesRows condition)
    (h' : IsKeyComparison comparison columns values' comparesRows condition')
    (htokens : condition.tokens reference = condition'.tokens reference) :
    values.map Scalar.tokens = values'.map Scalar.tokens := by
  cases h with
  | spelled h =>
    cases h' with
    | spelled h' => exact h.map_tokens_eq h' htokens
  | rows =>
    cases h' with
    | rows =>
      have hrows := (List.cons.inj (List.append_cancel_left htokens)).2
      have hparts : ∀ {values : List Scalar}, columns.length = values.length →
          values.map Scalar.tokens ≠ [] := by
        rintro values hlength hnil
        rw [List.map_eq_nil_iff] at hnil
        rw [hnil] at hlength
        exact hne (List.eq_nil_of_length_eq_zero hlength)
      have hcomma : ∀ values : List Scalar, ∀ ts ∈ values.map Scalar.tokens,
          Token.symbol ',' ∉ ts := by
        intro values
        rw [List.forall_mem_map]
        exact fun value _ => not_mem_tokens (by decide) value
      exact rowTokens_inj (hparts hlength) (hparts hlength') (hcomma values) (hcomma values') hrows

end

end Sql

/-! ## Values from their literals -/

/-- Values that are the same, or real numbers that are printed alike. -/
def Scalar.SamePrinted (value value' : Scalar) : Prop :=
  value = value' ∨ ∃ x y : Binary64.Finite, value = number (.real x) ∧ value' = number (.real y) ∧
    x.chars .json = y.chars .json

theorem Json.Number.samePrinted_of_text_eq {m n : Json.Number} (h : m.text = n.text) :
    Scalar.SamePrinted (.number m) (.number n) := by
  rw [text, text, String.ofList_inj] at h
  cases m with
  | whole word =>
    cases n with
    | whole word' =>
      have hvalue := KeyValue.integerOf?_chars word
      rw [h, KeyValue.integerOf?_chars, Option.some.injEq] at hvalue
      obtain ⟨value, _, _⟩ := word
      obtain ⟨value', _, _⟩ := word'
      cases hvalue
      exact .inl rfl
    | real y => exact absurd h (whole_chars_ne_real word y)
  | real x =>
    cases n with
    | whole word => exact absurd h.symm (whole_chars_ne_real word x)
    | real y => exact .inr ⟨x, y, rfl, rfl, h⟩

/-- Values with the same constant are written alike. -/
theorem Scalar.samePrinted_of_constant_eq {value value' : Scalar}
    (h : value.constant = value'.constant) : SamePrinted value value' := by
  cases value with
  | null =>
    cases value' with
    | null => exact .inl rfl
    | bool b | number n | text s => cases h
  | bool b =>
    cases value' with
    | bool b' =>
      cases h
      exact .inl rfl
    | null | number n | text s => cases h
  | number n =>
    cases value' with
    | number n' =>
      rw [constant, constant, Option.some.injEq, Sql.Constant.number.injEq] at h
      exact Json.Number.samePrinted_of_text_eq h
    | null | bool b | text s => cases h
  | text s =>
    cases value' with
    | text s' =>
      cases h
      exact .inl rfl
    | null | bool b | number n => cases h

theorem Scalar.samePrinted_of_tokens_eq {value value' : Scalar} (h : value.tokens = value'.tokens) :
    SamePrinted value value' := by
  have hread := (Sql.readsAs_literal value).read_eq
  have hread' := (Sql.readsAs_literal value').read_eq
  rw [Sql.literalTokens_eq, h] at hread
  rw [Sql.literalTokens_eq, hread, Option.some.injEq] at hread'
  exact samePrinted_of_constant_eq hread'

/-! ## Cursor conditions -/

namespace Sql

/-- **What a cursor holds cannot add tokens to its condition.**  By the rules of quotes in standard
SQL, the text of a condition has the tokens of the comparison that it stands for: a quoted part with
the very name for each name, a quoted part with the very text for each text of the cursor, and the
other values.  Without what is between quotes, the tokens are those of the comparison that has no
names and no texts, so that they depend on how many columns there are, on the direction, on the
dialect, and on the kinds and numbers of the values only.  Two lists of values with the same
condition are equal, value by value, up to real numbers that are printed alike. -/
theorem tokens?_keysetCondition (name : DialectName) (casing : Casing) (aliasName : String)
    {columns : List String} (hne : columns ≠ []) {values : List Scalar}
    (hlength : values.length = columns.length) (descending : Bool) :
    ∃ text condition,
      (Dialect.spellingOf name casing).keysetCondition aliasName columns
        (values.map Scalar.json) descending = .ok text ∧
      IsKeyComparison (if descending then .less else .greater) columns values name.comparesRows
        condition ∧
      tokens? text.toList = some (condition.tokens (referenceTokens name aliasName)) ∧
      (condition.tokens (referenceTokens name aliasName)).map Token.masked =
        (Condition.after name.comparesRows (List.replicate columns.length "")
          (values.map Scalar.masked) descending).tokens (referenceTokens name "") ∧
      ∀ values' : List Scalar, values'.length = columns.length →
        (Dialect.spellingOf name casing).keysetCondition aliasName columns
            (values'.map Scalar.json) descending = .ok text →
          List.Forall₂ Scalar.SamePrinted values values' := by
  have hrows : (Dialect.spellingOf name casing).comparesRows = name.comparesRows := by
    cases name <;> rfl
  have htext : ∀ values : List Scalar, (Dialect.spellingOf name casing).keysetCondition aliasName
      columns (values.map Scalar.json) descending =
        .ok ((Condition.after name.comparesRows columns values descending).render
          ((Dialect.spellingOf name casing).column aliasName)) := by
    intro values
    rw [Spelling.keysetCondition_eq_ok_iff]
    exact ⟨values, Scalar.mapM_ofJson_eq_ok_iff.2 rfl, by rw [hrows]⟩
  have hcompares := isKeyComparison_after name.comparesRows descending hlength.symm hne
  refine ⟨_, _, htext values, hcompares, tokens?_render _, ?_, fun values' hlength' htext' => ?_⟩
  · rw [← Condition.tokens_masked, Condition.masked_after _ _ hlength.symm hne]
  · rw [htext, Except.ok.injEq] at htext'
    have htokens := @tokens?_render name casing aliasName
      (Condition.after name.comparesRows columns values' descending)
    rw [htext', tokens?_render, Option.some.injEq] at htokens
    have hcompares' := isKeyComparison_after name.comparesRows descending hlength'.symm hne
    have hvalues := hcompares.map_tokens_eq hne hlength.symm hlength'.symm hcompares' htokens
    rw [← List.forall₂_eq_eq_eq, List.forall₂_map_left_iff, List.forall₂_map_right_iff] at hvalues
    exact hvalues.imp fun _ _ => Scalar.samePrinted_of_tokens_eq

/-- Quotes in a name and in a text stay in their quoted parts. -/
theorem tokens?_keysetCondition_quotes :
    ∃ text, (Dialect.spellingOf .db2 .upper).keysetCondition "u" ["a\" OR \"b"]
        [.string "' OR 1 = 1 --"] true = .ok text ∧
      tokens? text.toList = some [.quoted .double ['u'], .symbol '.',
        .quoted .double "a\" OR \"b".toList, .symbol '<',
        .quoted .single "' OR 1 = 1 --".toList] := by
  have hlength : [Scalar.text "' OR 1 = 1 --"].length = ["a\" OR \"b"].length := rfl
  obtain ⟨text, condition, htext, hcompares, htokens, -, -⟩ :=
    tokens?_keysetCondition .db2 .upper "u" (List.cons_ne_nil "a\" OR \"b" []) hlength true
  refine ⟨text, htext, ?_⟩
  rw [htokens]
  cases hcompares with
  | spelled h =>
    cases h with
    | last _ _ => rfl

end Sql

end RelationPaging
