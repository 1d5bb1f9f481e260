import RelationPaging.Proofs.Paging.Walk
import RelationPaging.Proofs.Sql.ConditionTokens

/-!
# The predicates of DB2

DB2 compares no rows, and a truth value is no predicate and no constant there.  `Db2.IsPredicate` is
the grammar that this leaves: a comparison of two operands, or two predicates joined by a connective
and put in parentheses.  An operand is a column in quotes, the same cast to text, a numeral, a text
in quotes, or NULL.

The conditions of a batch, the condition that never holds and the one that always holds are in the
grammar whatever the names and the scope are.  A cursor condition is in the grammar exactly when no
value of the cursor is a truth value: such a value is written as a bare keyword, which is no operand
(`Db2.isPredicate_standard`).
-/

namespace RelationPaging.Sql.Db2

/-! ## The grammar -/

/-- A column of a table given by its alias, both in double quotes. -/
def columnText (aliasName column : String) : String :=
  quoteDoubling '"' aliasName ++ "." ++ quoteDoubling '"' column

/-- What stands on either side of a comparison. -/
inductive IsOperand : String → Prop
  | column (aliasName column : String) : IsOperand (columnText aliasName column)
  | cast (aliasName column : String) :
    IsOperand ("CAST(" ++ columnText aliasName column ++ " AS VARCHAR(255))")
  | number {cs : List Char} (hnumeral : IsNumeral cs) : IsOperand (String.ofList cs)
  | text (s : String) : IsOperand (textLiteral s)
  | null : IsOperand "NULL"

/-- A comparison, or two predicates joined by a connective and put in parentheses. -/
inductive IsPredicate : String → Prop
  | compare {p q : String} (hleft : IsOperand p) (comparison : Comparison) (hright : IsOperand q) :
    IsPredicate (p ++ " " ++ comparison.symbol ++ " " ++ q)
  | both {p q : String} (hleft : IsPredicate p) (hright : IsPredicate q) :
    IsPredicate ("(" ++ p ++ " AND " ++ q ++ ")")
  | either {p q : String} (hleft : IsPredicate p) (hright : IsPredicate q) :
    IsPredicate ("(" ++ p ++ " OR " ++ q ++ ")")

/-! ## No truth values and no rows

A reader of tokens finds neither keyword of a truth value in a predicate, and no comma, without
which there is no row of two values. -/

/-- The tokens that DB2 has no use for in a predicate. -/
def foreignTokens : List Token :=
  [.word ['T', 'R', 'U', 'E'], .word ['F', 'A', 'L', 'S', 'E'], .symbol ',']

/-- A text without foreign tokens. -/
def AvoidsForeign (text : String) : Prop :=
  ∃ ts, tokens? text.toList = some ts ∧ ∀ t ∈ ts, t ∉ foreignTokens

/-- A token of a number is not foreign. -/
theorem not_mem_foreignTokens_of_within {t : Token} (h : t.Within isNumberChar) :
    t ∉ foreignTokens := by
  intro hmem
  simp only [foreignTokens, List.mem_cons, List.not_mem_nil, or_false] at hmem
  rcases hmem with rfl | rfl | rfl
  · exact absurd (h 'T' List.mem_cons_self) (by decide)
  · exact absurd (h 'F' List.mem_cons_self) (by decide)
  · exact absurd (show isNumberChar ',' = true from h) (by decide)

theorem tokens?_columnText (aliasName column : String) :
    tokens? (columnText aliasName column).toList =
      some (referenceTokens .db2 aliasName column) :=
  (readsAs_column .db2 .identity aliasName column).tokens

theorem not_mem_foreignTokens_of_reference {aliasName column : String} :
    ∀ t ∈ referenceTokens .db2 aliasName column, t ∉ foreignTokens := by
  simp [referenceTokens, foreignTokens]

theorem IsOperand.avoidsForeign {text : String} (h : IsOperand text) : AvoidsForeign text := by
  cases h with
  | column aliasName column =>
    exact ⟨_, tokens?_columnText aliasName column, not_mem_foreignTokens_of_reference⟩
  | cast aliasName column =>
    have hopening : scan .between "CAST(".toList =
        (.between, [.word ['C', 'A', 'S', 'T'], .symbol '(']) := by
      decide
    have hclosing : scan .between " AS VARCHAR(255))".toList =
        (.between, [.word ['A', 'S'], .word "VARCHAR".toList, .symbol '(', .word "255".toList,
          .symbol ')', .symbol ')']) := by
      decide
    have htokens := tokens?_enclosed hopening (by decide) hclosing
      (tokens?_columnText aliasName column)
    rw [← String.toList_append, ← String.toList_append] at htokens
    refine ⟨_, htokens, ?_⟩
    rw [List.forall_mem_append, List.forall_mem_append]
    exact ⟨⟨by decide, not_mem_foreignTokens_of_reference⟩, by decide⟩
  | number hnumeral =>
    obtain ⟨ts, hts, hwithin, -⟩ := exists_tokens?_number hnumeral.isNumberChar
    refine ⟨ts, by rw [String.toList_ofList, hts], fun t ht => ?_⟩
    exact not_mem_foreignTokens_of_within (hwithin t ht)
  | text s => exact ⟨_, tokens?_textLiteral s, by simp [foreignTokens]⟩
  | null => exact ⟨[.word ['N', 'U', 'L', 'L']], by decide, by decide⟩

theorem AvoidsForeign.connected {p q seam : String} {us : List Token}
    (hbreak : seam.toList.head?.any isBreak = true)
    (hseam : scan .between seam.toList = (.between, us)) (hus : ∀ t ∈ us, t ∉ foreignTokens)
    (hp : AvoidsForeign p) (hq : AvoidsForeign q) :
    AvoidsForeign ("(" ++ p ++ seam ++ q ++ ")") := by
  obtain ⟨ts, hts, hleft⟩ := hp
  obtain ⟨vs, hvs, hright⟩ := hq
  refine ⟨_, tokens?_connected hbreak hseam hts hvs, ?_⟩
  simp only [List.forall_mem_append]
  exact ⟨⟨by decide, ⟨hleft, hus⟩, hright⟩, by decide⟩

theorem token_not_mem_foreignTokens (comparison : Comparison) :
    comparison.token ∉ foreignTokens := by
  cases comparison <;> decide

/-- **A predicate of DB2 has neither a keyword of a truth value nor a comma.** -/
theorem IsPredicate.avoidsForeign {text : String} (h : IsPredicate text) :
    AvoidsForeign text := by
  induction h with
  | compare hleft comparison hright =>
    obtain ⟨ts, hts, hleft⟩ := hleft.avoidsForeign
    obtain ⟨us, hus, hright⟩ := hright.avoidsForeign
    refine ⟨_, tokens?_sign comparison hts hus, ?_⟩
    rw [List.forall_mem_append, List.forall_mem_cons]
    exact ⟨hleft, token_not_mem_foreignTokens comparison, hright⟩
  | both _ _ ihl ihr => exact ihl.connected (by decide) scan_and (by decide) ihr
  | either _ _ ihl ihr => exact ihl.connected (by decide) scan_or (by decide) ihr

/-! ## Cursor conditions -/

theorem isOperand_literal {value : Scalar} (h : ∀ b, value ≠ .bool b) :
    IsOperand value.literal := by
  cases value with
  | null => exact .null
  | bool b => exact absurd rfl (h b)
  | number n => exact .number n.isNumeral_chars
  | text s => exact .text s

section

variable {aliasName : String} {comparison : Comparison} {columns : List String}
  {values : List Scalar} {condition : Condition}

/-- Without truth values, a comparison that is spelled out is a predicate. -/
theorem isPredicate_of_isExpanded (h : IsExpanded comparison columns values condition)
    (hvalues : ∀ value ∈ values, ∀ b, value ≠ .bool b) :
    IsPredicate (condition.render (columnText aliasName)) := by
  induction h with
  | last column value =>
    rw [List.forall_mem_singleton] at hvalues
    exact .compare (.column aliasName column) comparison (isOperand_literal hvalues)
  | more column value _ ih =>
    obtain ⟨hvalue, hrest⟩ := List.forall_mem_cons.1 hvalues
    have hcompare : ∀ comparison, IsPredicate
        ((Condition.compare column comparison value).render (columnText aliasName)) :=
      fun comparison => .compare (.column aliasName column) comparison (isOperand_literal hvalue)
    exact .either (hcompare comparison) (.both (hcompare .equal) (ih hrest))

/-- The tokens of all values are tokens of a comparison that is spelled out. -/
theorem mem_tokens_of_isExpanded {reference : String → List Token}
    (h : IsExpanded comparison columns values condition) :
    ∀ value ∈ values, ∀ t ∈ value.tokens, t ∈ condition.tokens reference := by
  induction h with
  | last column value =>
    rw [List.forall_mem_singleton]
    exact fun t ht => List.mem_append_right _ (List.mem_cons_of_mem _ ht)
  | more column value _ ih =>
    rw [List.forall_mem_cons]
    refine ⟨fun t ht => ?_, fun later hlater t ht => ?_⟩
    · simp [Condition.tokens, ht]
    · simp [Condition.tokens, ih later hlater t ht]

/-- A comparison that is spelled out is a predicate exactly when no value is a truth value. -/
theorem isPredicate_iff_of_isExpanded (h : IsExpanded comparison columns values condition) :
    IsPredicate (condition.render (columnText aliasName)) ↔
      ∀ value ∈ values, ∀ b, value ≠ .bool b := by
  constructor
  · rintro hpredicate value hvalue b rfl
    obtain ⟨ts, hts, hforeign⟩ := hpredicate.avoidsForeign
    have hrender := @tokens?_render .db2 .identity aliasName condition
    cases hts.symm.trans hrender
    have hkeyword : ∃ t ∈ (Scalar.bool b).tokens, t ∈ foreignTokens := by
      cases b with
      | true => exact ⟨.word ['T', 'R', 'U', 'E'], by decide, by decide⟩
      | false => exact ⟨.word ['F', 'A', 'L', 'S', 'E'], by decide, by decide⟩
    obtain ⟨t, ht, hmem⟩ := hkeyword
    exact hforeign t (mem_tokens_of_isExpanded h _ hvalue t ht) hmem
  · exact isPredicate_of_isExpanded h

end

/-- **The condition for the rows behind a cursor is a predicate exactly when the cursor has no truth
value** in a column of the key. -/
theorem isPredicate_behindCursor_iff {casing : Casing} {aliasName : String} {key : SortKey}
    {direction : SortDirection} {cursor text : String} {values : List Json}
    (hcolumns : key.columns ≠ []) (hvalues : Cursor.keysetValues cursor key.columns = .ok values)
    (h : (Dialect.spellingOf .db2 casing).behindCursor aliasName key direction cursor = .ok text) :
    IsPredicate text ↔ ∀ value ∈ values, ∀ b, value ≠ .bool b := by
  obtain ⟨values', scalars, hvalues', hscalars, rfl⟩ := Spelling.behindCursor_eq_ok_iff.1 h
  obtain rfl : values = values' := Except.ok.inj (hvalues.symm.trans hvalues')
  rw [Except.mapM_eq_ok_iff] at hscalars
  have hlength : (key.columns.map casing.apply).length = scalars.length := by
    rw [List.length_map, ← hscalars.length_eq, Cursor.length_of_keysetValues hvalues]
  have hne : key.columns.map casing.apply ≠ [] := by
    rwa [ne_eq, List.map_eq_nil_iff]
  have hbool : ∀ value scalar, Scalar.ofJson value = .ok scalar →
      ((∀ b, value ≠ .bool b) ↔ ∀ b, scalar ≠ .bool b) := by
    intro value scalar hscalar
    cases value with
    | array items => cases hscalar
    | object members => cases hscalar
    | null | bool b | number n | string s =>
      cases hscalar
      simp
  rw [forall_mem_iff_of_forall₂ hbool hscalars]
  exact isPredicate_iff_of_isExpanded (isExpanded_expanded _ hlength hne)

/-! ## Conditions of a batch and constant conditions -/

/-- Two operands with the sign of equality between them. -/
theorem isPredicate_equal {p q : String} (hp : IsOperand p) (hq : IsOperand q) :
    IsPredicate (p ++ " = " ++ q) := by
  have hsign : " = " = " " ++ Comparison.equal.symbol ++ " " := by decide
  have h := IsPredicate.compare hp .equal hq
  rw [hsign]
  simpa only [String.append_assoc] using h

/-- Two digits with the sign of equality between them. -/
theorem isPredicate_digits {c d : Char} (hc : c.isDigit = true) (hd : d.isDigit = true) :
    IsPredicate (String.ofList [c] ++ " = " ++ String.ofList [d]) := by
  have hnumeral : ∀ c : Char, c.isDigit = true → IsNumeral [c] := fun c hc =>
    .positive (.mantissa (.whole (isDigits_singleton hc)))
  exact isPredicate_equal (.number (hnumeral c hc)) (.number (hnumeral d hd))

section

variable {casing : Casing}

theorem isPredicate_trueLiteral : IsPredicate (Dialect.spellingOf .db2 casing).trueLiteral := by
  have h : IsPredicate (String.ofList ['1'] ++ " = " ++ String.ofList ['1']) :=
    isPredicate_digits (by decide) (by decide)
  exact h

theorem isPredicate_falseLiteral : IsPredicate (Dialect.spellingOf .db2 casing).falseLiteral := by
  have h : IsPredicate (String.ofList ['1'] ++ " = " ++ String.ofList ['0']) :=
    isPredicate_digits (by decide) (by decide)
  exact h

/-- Without a predicate that says something, a conjunction is the condition that always holds. -/
theorem isPredicate_conjunction {predicates : List String}
    (h : ∀ predicate ∈ predicates, Text.isBlank predicate = true) :
    IsPredicate ((Dialect.spellingOf .db2 casing).conjunction predicates) := by
  have hblank : (predicates.filter fun predicate => !Text.isBlank predicate) = [] := by
    rw [List.filter_eq_nil_iff]
    intro predicate hmem
    simp [h predicate hmem]
  rw [Spelling.conjunction, hblank]
  exact isPredicate_trueLiteral

/-- A column, cast to text if it is compared with text. -/
theorem isOperand_cast (aliasName column : String) (sample : BatchValue) :
    IsOperand ((Dialect.spellingOf .db2 casing).cast (columnText aliasName column) sample) := by
  cases sample with
  | integer n => exact .column aliasName column
  | floating x => exact .column aliasName column
  | text s =>
    have hclosing : " AS VARCHAR(255))" = " AS " ++ ("VARCHAR(255)" ++ ")") := by decide
    have hcast := IsOperand.cast aliasName column
    rw [hclosing] at hcast
    simp only [← String.append_assoc] at hcast
    exact hcast

/-- The condition of a batch exists and is a predicate, whatever the scope is. -/
theorem exists_isPredicate_batchCondition (aliasName : String) (key : BatchKey)
    (scope : BatchScope) :
    ∃ text, (Dialect.standard .db2 casing).batchCondition aliasName key scope = .ok text ∧
      IsPredicate text := by
  unfold Dialect.batchCondition
  cases scope.sample? with
  | none => exact ⟨_, rfl, isPredicate_falseLiteral⟩
  | some sample =>
    refine ⟨_, rfl, ?_⟩
    have hoperand : IsOperand ((Dialect.spellingOf .db2 casing).cast
        (columnText aliasName key.child) sample) := isOperand_cast aliasName key.child sample
    have h := isPredicate_equal hoperand (.column (casing.apply temporaryTable) key.parent)
    simp only [columnText, ← String.append_assoc] at h
    exact h

end

/-! ## The predicates of the dialect -/

/-- **Each predicate of DB2 is in the grammar, but for truth values in a cursor.**  The condition
of a page by keyset compares with the values of the cursor; it is in the grammar if and only if none
of these is a truth value.  The condition of a batch is in the grammar for each scope, without keys
and with them, and so are the condition that never holds and the conjunction of no condition. -/
theorem isPredicate_standard (casing : Casing) :
    (∀ target paging text, (Dialect.standard .db2 casing).interpretKeyset target = .ok paging →
      paging.condition = some text →
        ∃ key pageEnd cursor values, target.sortKey = some key ∧
          target.arguments.pageEnd = .ok (some pageEnd) ∧
          target.arguments.startCursor pageEnd = .ok (some cursor) ∧
          Cursor.keysetValues cursor key.columns = .ok values ∧
          (IsPredicate text ↔ ∀ value ∈ values, ∀ b, value ≠ .bool b)) ∧
    (∀ aliasName key scope, ∃ text,
      (Dialect.standard .db2 casing).batchCondition aliasName key scope = .ok text ∧
        IsPredicate text) ∧
    IsPredicate (Dialect.standard .db2 casing).falseLiteral ∧
    ∀ predicates : List String, (∀ predicate ∈ predicates, Text.isBlank predicate = true) →
      IsPredicate ((Dialect.standard .db2 casing).conjunction predicates) := by
  refine ⟨fun target paging text hpaging htext => ?_, exists_isPredicate_batchCondition,
    isPredicate_falseLiteral, fun _ => isPredicate_conjunction⟩
  obtain ⟨key, pageEnd, hkey, hcolumns, hend, hwindow, -⟩ :=
    Spelling.keysetPaging_eq_ok_iff.1 hpaging
  rw [htext] at hwindow
  obtain ⟨pageEnd, cursor, rfl, hcursor, hbehind⟩ :=
    Spelling.exists_behindCursor_of_keysetWindow hwindow
  obtain ⟨values, -, hvalues, -⟩ := Spelling.behindCursor_eq_ok_iff.1 hbehind
  exact ⟨key, pageEnd, cursor, values, hkey, hend, hcursor, hvalues,
    isPredicate_behindCursor_iff hcolumns hvalues hbehind⟩

/-- A page of two rows behind a cursor, sorted by some columns. -/
def usersBehind (columns : List String) (cursor : String) : PagingTarget where
  aliasName := "U"
  arguments := PageEnd.arguments ⟨2, false⟩ (some cursor)
  sortKey := some ⟨.ascending, columns⟩

/-- The page that takes its rows from the table by a condition. -/
def usersPage (columns : List String) (condition : String) : KeysetPaging :=
  ⟨.rows 3, ⟨"U", columns.map (·, .ascending)⟩, some condition⟩

/-- The cursor of a name with an apostrophe and a number. -/
def namedCursor : String := "eyJuYW1lIjoiaXQncyIsImlkIjo3fQ=="

/-- The condition for the rows behind the name and the number. -/
def behindName : String :=
  "(\"U\".\"NAME\" > 'it''s' OR (\"U\".\"NAME\" = 'it''s' AND \"U\".\"ID\" > 7))"

/-- Behind a text and a number, the condition is in the grammar. -/
theorem isPredicate_standard_behindName :
    (Dialect.standard .db2 .upper).interpretKeyset (usersBehind ["name", "id"] namedCursor) =
        .ok (usersPage ["NAME", "ID"] behindName) ∧
      IsPredicate behindName ∧
      IsPredicate ((Dialect.standard .db2 .upper).conjunction ["", " "]) := by
  have hpaging : (Dialect.standard .db2 .upper).interpretKeyset
      (usersBehind ["name", "id"] namedCursor) = .ok (usersPage ["NAME", "ID"] behindName) :=
    Except.toOption_eq_some_iff.1 (by decide +kernel)
  have hasks := PageEnd.asks_arguments ⟨2, false⟩ (some namedCursor)
  have hread : Cursor.keysetValues namedCursor ["name", "id"] =
      .ok [.string "it's", .number (.ofCount 7)] := by
    decide +kernel
  obtain ⟨hcursors, -, -, hconjunction⟩ := isPredicate_standard .upper
  obtain ⟨key, pageEnd, cursor, values, hkey, hend, hcursor, hvalues, hiff⟩ :=
    hcursors _ _ _ hpaging rfl
  cases hkey
  cases hasks.pageEnd_eq.symm.trans hend
  cases hasks.startCursor_eq.symm.trans hcursor
  cases hread.symm.trans hvalues
  exact ⟨hpaging, hiff.2 (by simp), hconjunction _ (by decide)⟩

/-- The cursor of a flag that is set. -/
def flaggedCursor : String := "eyJmbGFnIjp0cnVlfQ=="

/-- The condition for the rows behind the flag. -/
def behindFlag : String := "\"U\".\"FLAG\" > TRUE"

/-- Behind a flag, a column is compared with the keyword of a truth value. -/
theorem not_forall_isPredicate_condition :
    ¬ ∀ casing target paging text,
      (Dialect.standard .db2 casing).interpretKeyset target = .ok paging →
      paging.condition = some text → IsPredicate text := by
  intro h
  have hpaging : (Dialect.standard .db2 .upper).interpretKeyset
      (usersBehind ["flag"] flaggedCursor) = .ok (usersPage ["FLAG"] behindFlag) :=
    Except.toOption_eq_some_iff.1 (by decide +kernel)
  obtain ⟨ts, hts, hforeign⟩ := (h _ _ _ _ hpaging rfl).avoidsForeign
  have htokens : tokens? behindFlag.toList = some [.quoted .double ['U'], .symbol '.',
      .quoted .double "FLAG".toList, .symbol '>', .word "TRUE".toList] := by
    decide
  cases htokens.symm.trans hts
  exact hforeign (.word "TRUE".toList) (by simp) (by decide)

end RelationPaging.Sql.Db2
