import RelationPaging.Proofs.Paging.Table

/-!
# The temporary table holds its scope

A reader's view of the temporary table of a batch: from the tokens of the text alone, the alias, the
column and the values, one for each row.  `readTable?` knows the two forms of a table, rows of
values and a query without rows, which each dialect spells in its own way, and understands nothing
else.  A value is an integer of 64 bits or a text; real numbers are not read.

Whatever is in the names and in the texts, the reader gives back the scope and the column
(`Dialect.readTable?_temporary`), so that the text determines both.
-/

namespace RelationPaging

/-! ## Reading values -/

/-- The value that a constant stands for, if it is an integer of 64 bits or a text. -/
def BatchValue.ofConstant? : Sql.Constant → Option BatchValue
  | .text s => some (text s)
  | .number numeral => do
    let n ← KeyValue.integerOf? numeral.toList
    if -0x8000000000000000 ≤ n ∧ n < 0x8000000000000000 then some (integer (Int64.ofInt n))
    else none
  | .bool _ => none

namespace Sql

/-- The value that tokens are the literal of. -/
def batchValueOf? (tokens : List Token) : Option BatchValue :=
  (Constant.ofTokens? tokens).join.bind BatchValue.ofConstant?

/-- The value in a row, which stands in parentheses behind the keyword of the dialect. -/
def rowValue? (keyword tokens : List Token) : Option BatchValue :=
  ((keyword ++ [Token.symbol '(']).isPrefixOf? tokens).bind fun rest =>
    if rest.getLast? = some (Token.symbol ')') then batchValueOf? rest.dropLast else none

/-! ## Reading tables -/

/-- A temporary table as it is read. -/
structure TableImage where
  aliasName : String
  column : String
  values : List BatchValue
  deriving DecidableEq, Repr

/-- What a dialect writes in front of each row. -/
def rowKeywordTokens : DialectName → List Token
  | .postgresql => []
  | .mysql => [.word "ROW".toList]
  | .db2 => []

/-- Reads a table of values: rows between commas, then the alias and the column. -/
def valuesTable? (name : DialectName) (tokens : List Token) : Option TableImage := do
  let rest ← [.word "FROM".toList, .symbol '(', .word "VALUES".toList].isPrefixOf? tokens
  match rest.reverse with
  | .symbol ')' :: .quoted q column :: .symbol '(' :: .quoted p aliasName :: .symbol ')' :: rows =>
    if p = identifierQuote name ∧ q = identifierQuote name then
      let values ← (rows.reverse.splitOn (.symbol ',')).mapM (rowValue? (rowKeywordTokens name))
      return ⟨String.ofList aliasName, String.ofList column, values⟩
    else none
  | _ => none

/-- What stands before the column in a table without rows. -/
def emptyOpening : DialectName → String
  | .postgresql => "FROM (SELECT NULL AS "
  | .mysql => "FROM (SELECT NULL AS "
  | .db2 => "FROM (SELECT CAST(NULL AS INTEGER) AS "

/-- What stands between the column and the alias in a table without rows. -/
def emptyClosing : DialectName → String
  | .postgresql => " WHERE FALSE) "
  | .mysql => " FROM DUAL WHERE FALSE) "
  | .db2 => " FROM SYSIBM.SYSDUMMY1 WHERE 1 = 0) "

/-- Reads a table without rows. -/
def emptyTable? (name : DialectName) (tokens : List Token) : Option TableImage := do
  let opening ← tokens? (emptyOpening name).toList
  let closing ← tokens? (emptyClosing name).toList
  match ← opening.isPrefixOf? tokens with
  | .quoted q column :: rest =>
    match ← closing.isPrefixOf? rest with
    | [.quoted p aliasName] =>
      if p = identifierQuote name ∧ q = identifierQuote name then
        return ⟨String.ofList aliasName, String.ofList column, []⟩
      else none
    | _ => none
  | _ => none

/-- Reads the text of a temporary table. -/
def readTable? (name : DialectName) (text : String) : Option TableImage :=
  (tokens? text.toList).bind fun tokens =>
    (valuesTable? name tokens).or (emptyTable? name tokens)

/-! ## Literals -/

/-- An integer is written in a table as it is in a condition. -/
theorem toString_eq_text (word : Json.Word) :
    toString word.value = (Json.Number.whole word).text := by
  rw [Int.toString_eq_repr, Int.repr_eq_if, ← String.toList_inj, Json.Number.text,
    String.toList_ofList, Json.Number.chars]
  by_cases hnegative : word.value < 0
  · rw [if_neg (not_le.2 hnegative), if_pos hnegative, String.toList_append, Nat.toList_repr]
    rfl
  · rw [if_pos (not_lt.1 hnegative), if_neg hnegative, Nat.toList_repr]

/-- An integer or a text is written as a value of a cursor is, and is what its constant stands
for. -/
theorem exists_scalar {value : BatchValue} (h : value.kind ≠ .floating) :
    ∃ scalar : Scalar, value.literal = scalar.literal ∧
      scalar.constant.bind BatchValue.ofConstant? = some value := by
  cases value with
  | floating x => exact absurd rfl h
  | text s => exact ⟨.text s, rfl, rfl⟩
  | integer n =>
    have hleast := n.le_toInt
    have hmost := n.toInt_lt
    let word : Json.Word := ⟨n.toInt, by omega, by omega⟩
    have hread : KeyValue.integerOf? (Json.Number.whole word).text.toList = some n.toInt := by
      rw [Json.Number.text, String.toList_ofList, KeyValue.integerOf?_chars]
    refine ⟨.number (.whole word), toString_eq_text word, ?_⟩
    simp only [Scalar.constant, Option.bind_some, BatchValue.ofConstant?, hread,
      Option.bind_eq_bind]
    rw [if_pos ⟨by omega, by omega⟩, Int64.ofInt_toInt]

/-- The literal of an integer or of a text is read back. -/
theorem exists_readsAs {value : BatchValue} (h : value.kind ≠ .floating) :
    ∃ ts, ReadsAs batchValueOf? value.literal ts value := by
  obtain ⟨scalar, hliteral, hconstant⟩ := exists_scalar h
  obtain ⟨htokens, hitems, hread⟩ := readsAs_literal scalar
  refine ⟨literalTokens scalar, by rw [hliteral, htokens], hitems, ?_⟩
  rw [batchValueOf?, hread, Option.join_some, hconstant]

/-! ## Rows -/

variable {name : DialectName} {casing : Casing}

/-- A row as it is written, without a comma in it, and read. -/
structure ReadsAsRow (name : DialectName) (text : String) (ts : List Token) (value : BatchValue) :
    Prop where
  tokens : tokens? text.toList = some ts
  noComma : Token.symbol ',' ∉ ts
  read_eq : rowValue? (rowKeywordTokens name) ts = some value

theorem exists_readsAsRow {value : BatchValue} (h : value.kind ≠ .floating) :
    ∃ ts, ReadsAsRow name ((Dialect.spellingOf name casing).valueRow value) ts value := by
  obtain ⟨ts, htokens, hitems, hread⟩ := exists_readsAs h
  have hcasing : (Dialect.spellingOf name casing).rowKeyword =
      (Dialect.spellingOf name .identity).rowKeyword := by
    cases name <;> rfl
  have hopening : scan .between ((Dialect.spellingOf name casing).rowKeyword ++ "(").toList =
      (.between, rowKeywordTokens name ++ [.symbol '(']) := by
    rw [hcasing]
    cases name <;> decide
  have hclosing : scan .between ")".toList = (.between, [.symbol ')']) := by decide
  have hrow := tokens?_enclosed hopening (by decide) hclosing htokens
  rw [← String.toList_append, ← String.toList_append] at hrow
  refine ⟨_, hrow, ?_, ?_⟩
  · have hkeyword : Token.symbol ',' ∉ rowKeywordTokens name := by
      cases name <;> decide
    have hliteral : Token.symbol ',' ∉ ts := fun hmem => (hitems _ hmem).2.2.1 rfl
    simp [hkeyword, hliteral]
  · have hprefix : (rowKeywordTokens name ++ [Token.symbol '(']).isPrefixOf?
        (rowKeywordTokens name ++ [.symbol '('] ++ ts ++ [.symbol ')']) =
          some (ts ++ [.symbol ')']) :=
      List.isPrefixOf?_eq_some_iff_append_eq.2 (List.append_assoc _ _ _).symm
    rw [rowValue?, hprefix, Option.bind_some, List.getLast?_concat, if_pos rfl,
      List.dropLast_concat, hread]

/-! ## Tables -/

theorem tokens?_valuesTable {scope : BatchScope} {parts : List (List Token)} (column : String)
    (h : List.Forall₂ (fun value ts => tokens?
      ((Dialect.spellingOf name casing).valueRow value).toList = some ts) scope.values parts) :
    tokens? ((Dialect.spellingOf name casing).valuesTable scope column).toList =
      some ([.word "FROM".toList, .symbol '(', .word "VALUES".toList] ++
        (commaSeparated parts ++ [.symbol ')',
          .quoted (identifierQuote name) (casing.apply temporaryTable).toList, .symbol '(',
          .quoted (identifierQuote name) column.toList, .symbol ')'])) := by
  have hfrom : scan .between "FROM (VALUES ".toList =
      (.between, [.word "FROM".toList, .symbol '(', .word "VALUES".toList]) := by decide
  have hbehind : scan .between ") ".toList = (.between, [.symbol ')']) := by decide
  have hopening : scan .between "(".toList = (.between, [.symbol '(']) := by decide
  have hclosing : scan .between ")".toList = (.between, [.symbol ')']) := by decide
  have hquote : ∀ identifier, tokens? ((Dialect.spellingOf name casing).quote identifier).toList =
      some [.quoted (identifierQuote name) identifier.toList] := tokens?_quote
  have hrows := tokens?_intercalate (List.forall₂_map_left_iff.2 h)
  have hnil : tokens? [] = some [] := rfl
  have hcolumn := tokens?_seam (by decide) hclosing (hquote column) hnil
  have htable := tokens?_seam (by decide) hopening (hquote (casing.apply temporaryTable)) hcolumn
  have hall := tokens?_seam (by decide) hbehind hrows htable
  unfold Spelling.valuesTable
  simp only [Dialect.temporaryAlias_spellingOf, String.toList_append, List.append_assoc,
    List.append_nil] at hall ⊢
  rw [tokens?_append_of_between hfrom, hall, Option.map_some]
  simp only [List.cons_append, List.nil_append]

/-- A table of values is read back. -/
theorem readTable?_valuesTable {scope : BatchScope} (column : String) (hne : scope.values ≠ [])
    (h : ∀ value ∈ scope.values, value.kind ≠ .floating) :
    readTable? name ((Dialect.spellingOf name casing).valuesTable scope column) =
      some ⟨casing.apply temporaryTable, column, scope.values⟩ := by
  obtain ⟨parts, hparts⟩ : ∃ parts, List.Forall₂ (fun value ts =>
      ReadsAsRow name ((Dialect.spellingOf name casing).valueRow value) ts value)
      scope.values parts :=
    exists_forall₂ fun value hvalue => exists_readsAsRow (h value hvalue)
  have hrows : (commaSeparated parts).splitOn (.symbol ',') = parts := by
    refine List.splitOn_intercalate _ (fun ts hts => ?_) ?_
    · obtain ⟨value, -, hrow⟩ := exists_mem_of_forall₂ hparts hts
      exact hrow.noComma
    · rintro rfl
      exact hne (List.forall₂_nil_right_iff.1 hparts)
  have hvalues : parts.mapM (rowValue? (rowKeywordTokens name)) = some scope.values := by
    rw [Option.mapM_eq_some_iff]
    exact hparts.flip.imp fun _ _ hrow => hrow.read_eq
  rw [readTable?, tokens?_valuesTable column (hparts.imp fun _ _ hrow => hrow.tokens),
    Option.bind_some, valuesTable?, List.isPrefixOf?_eq_some_iff_append_eq.2 rfl]
  simp only [List.reverse_append, List.reverse_cons, List.reverse_nil, List.nil_append,
    List.cons_append, Option.bind_eq_bind, Option.bind_some, List.reverse_reverse, hrows, hvalues]
  simp

/-- A table without rows, with what its dialect writes on either side of the column. -/
theorem emptyTable_eq (column : String) :
    (Dialect.spellingOf name casing).emptyTable column =
      emptyOpening name ++ (Dialect.spellingOf name casing).quote column ++ emptyClosing name ++
        (Dialect.spellingOf name casing).quote (casing.apply temporaryTable) := by
  obtain ⟨value, source, falseLiteral, htable, hopening, hclosing⟩ :
      ∃ value source falseLiteral, (Dialect.spellingOf name casing).emptyTable column =
          emptyTableFrom value source ((Dialect.spellingOf name casing).quote column) falseLiteral
            ((Dialect.spellingOf name casing).quote (casing.apply temporaryTable)) ∧
        emptyOpening name = "FROM (SELECT " ++ value ++ " AS " ∧
        emptyClosing name = source ++ " WHERE " ++ falseLiteral ++ ") " := by
    cases name with
    | postgresql => exact ⟨"NULL", "", "FALSE", rfl, by decide, by decide⟩
    | mysql => exact ⟨"NULL", " FROM DUAL", "FALSE", rfl, by decide, by decide⟩
    | db2 =>
      exact ⟨"CAST(NULL AS INTEGER)", " FROM SYSIBM.SYSDUMMY1", "1 = 0", rfl, by decide,
        by decide⟩
  unfold emptyTableFrom at htable
  simp only [htable, hopening, hclosing, String.append_assoc]

theorem exists_scan_emptyOpening (name : DialectName) :
    ∃ rest, scan .between (emptyOpening name).toList =
      (.between, .word "FROM".toList :: .symbol '(' :: .word "SELECT".toList :: rest) := by
  cases name with
  | postgresql => exact ⟨[.word "NULL".toList, .word "AS".toList], by decide⟩
  | mysql => exact ⟨[.word "NULL".toList, .word "AS".toList], by decide⟩
  | db2 =>
    exact ⟨[.word "CAST".toList, .symbol '(', .word "NULL".toList, .word "AS".toList,
      .word "INTEGER".toList, .symbol ')', .word "AS".toList], by decide⟩

theorem exists_scan_emptyClosing (name : DialectName) :
    (emptyClosing name).toList.head?.any isBreak = true ∧
      ∃ closing, scan .between (emptyClosing name).toList = (.between, closing) := by
  have hmode : ∀ name, (scan .between (emptyClosing name).toList).1 = .between := by
    intro name
    cases name <;> decide
  refine ⟨?_, _, Prod.ext (hmode name) rfl⟩
  cases name <;> decide

/-- A table of values does not start with a query. -/
theorem valuesTable?_select (rest : List Token) :
    valuesTable? name (.word "FROM".toList :: .symbol '(' :: .word "SELECT".toList :: rest) =
      none := by
  have hprefix : [Token.word "FROM".toList, .symbol '(', .word "VALUES".toList].isPrefixOf?
      (.word "FROM".toList :: .symbol '(' :: .word "SELECT".toList :: rest) = none := by
    simp [List.isPrefixOf?]
  rw [valuesTable?, hprefix]
  rfl

/-- A table without rows is read back. -/
theorem readTable?_emptyTable (column : String) :
    readTable? name ((Dialect.spellingOf name casing).emptyTable column) =
      some ⟨casing.apply temporaryTable, column, []⟩ := by
  obtain ⟨opening, hopening⟩ := exists_scan_emptyOpening name
  obtain ⟨hbreak, closing, hclosing⟩ := exists_scan_emptyClosing name
  have hquote : ∀ identifier, tokens? ((Dialect.spellingOf name casing).quote identifier).toList =
      some [.quoted (identifierQuote name) identifier.toList] := tokens?_quote
  have htable := tokens?_seam hbreak hclosing (hquote column) (hquote (casing.apply temporaryTable))
  have htokens : tokens? ((Dialect.spellingOf name casing).emptyTable column).toList =
      some (.word "FROM".toList :: .symbol '(' :: .word "SELECT".toList :: opening ++
        (.quoted (identifierQuote name) column.toList :: (closing ++
          [.quoted (identifierQuote name) (casing.apply temporaryTable).toList]))) := by
    simp only [emptyTable_eq, String.toList_append, List.append_assoc] at htable ⊢
    rw [tokens?_append_of_between hopening, htable]
    rfl
  -- A frame that ends between two tokens has the tokens that are finished in it.
  have hframe : ∀ {text : String} {ts : List Token},
      scan .between text.toList = (.between, ts) → tokens? text.toList = some ts := by
    intro text ts hscan
    rw [tokens?, hscan]
    simp [Mode.atEnd]
  have hbefore : ∀ ts us : List Token, ts.isPrefixOf? (ts ++ us) = some us :=
    fun _ _ => List.isPrefixOf?_eq_some_iff_append_eq.2 rfl
  rw [readTable?, htokens, Option.bind_some, List.cons_append, List.cons_append, List.cons_append,
    valuesTable?_select, Option.none_or, emptyTable?, hframe hopening, hframe hclosing]
  simp only [Option.bind_eq_bind, Option.bind_some, ← List.cons_append, hbefore]
  simp [hbefore]

/-- A table is read back as its scope and its column. -/
theorem readTable?_table {scope : BatchScope} (column : String)
    (h : ∀ value ∈ scope.values, value.kind ≠ .floating) :
    readTable? name ((Dialect.spellingOf name casing).table scope column) =
      some ⟨casing.apply temporaryTable, column, scope.values⟩ := by
  by_cases hne : scope.values = []
  · obtain ⟨values⟩ := scope
    cases hne
    exact readTable?_emptyTable column
  · rw [Spelling.table_eq_valuesTable _ hne]
    exact readTable?_valuesTable column hne h

/-- A table of values is written differently from one without rows, already where the rows start. -/
theorem valuesTable_ne_emptyTable (scope : BatchScope) (column column' : String) :
    (Dialect.spellingOf name casing).valuesTable scope column ≠
      (Dialect.spellingOf name casing).emptyTable column' := by
  intro h
  have hstart : ((Dialect.spellingOf name casing).valuesTable scope column).toList.take 7 =
      "FROM (V".toList := by
    unfold Spelling.valuesTable
    simp only [String.toList_append, List.append_assoc]
    exact (List.take_append_of_le_length (by decide)).trans (by decide)
  have hstart' : ((Dialect.spellingOf name casing).emptyTable column').toList.take 7 =
      "FROM (S".toList := by
    simp only [emptyTable_eq, String.toList_append, List.append_assoc]
    cases name with
    | postgresql | mysql | db2 =>
      exact (List.take_append_of_le_length (by decide)).trans (by decide)
  rw [h, hstart'] at hstart
  exact absurd hstart (by decide)

end Sql

namespace Dialect

/-- **The temporary table is a faithful image of the scope.**  From the table of a scope of integers
and texts a reader of the rules of doubled quotes gets back the column and the list of values, one
for each row and in their order, whatever the column and the texts are.  So two such tables with the
same text have the same scope and the same column; and the text of a table of values, of any kind,
is that of no table without rows. -/
theorem readTable?_temporary (name : DialectName) (casing : Casing) :
    (∀ scope column, (∀ value ∈ scope.values, value.kind ≠ .floating) →
      ∃ text, (standard name casing).temporary scope column = .ok text ∧
        Sql.readTable? name text = some ⟨casing.apply temporaryTable, column, scope.values⟩) ∧
    (∀ scope scope' column column' text, (∀ value ∈ scope.values, value.kind ≠ .floating) →
      (∀ value ∈ scope'.values, value.kind ≠ .floating) →
      (standard name casing).temporary scope column = .ok text →
      (standard name casing).temporary scope' column' = .ok text →
        scope = scope' ∧ column = column') ∧
    ∀ scope column column' text, scope.values ≠ [] →
      (standard name casing).temporary scope column = .ok text →
        (standard name casing).temporary ⟨[]⟩ column' ≠ .ok text := by
  refine ⟨fun scope column h => ⟨_, rfl, Sql.readTable?_table column h⟩, ?_, ?_⟩
  · rintro ⟨values⟩ ⟨values'⟩ column column' text h h' htext htext'
    have hread := @Sql.readTable?_table name casing _ column h
    have hread' := @Sql.readTable?_table name casing _ column' h'
    rw [Except.ok.inj htext] at hread
    rw [Except.ok.inj htext', hread, Option.some.injEq, Sql.TableImage.mk.injEq] at hread'
    obtain ⟨-, rfl, hvalues⟩ := hread'
    exact ⟨congrArg BatchScope.mk hvalues, rfl⟩
  · intro scope column column' text hne htext hempty
    have hvalues : (spellingOf name casing).valuesTable scope column = text :=
      ((spellingOf name casing).table_eq_valuesTable hne column).symm.trans (Except.ok.inj htext)
    have hnone : (spellingOf name casing).emptyTable column' = text := Except.ok.inj hempty
    exact Sql.valuesTable_ne_emptyTable scope column column' (hvalues.trans hnone.symm)

/-- Texts that look like the end of a row and the start of another one, and a quote in a column. -/
theorem readTable?_temporary_rows :
    (∃ text, (standard .mysql .identity).temporary ⟨[.text "1'), ROW('2", .text ""]⟩ "`id" =
        .ok text ∧
      Sql.readTable? .mysql text = some ⟨"temp", "`id", [.text "1'), ROW('2", .text ""]⟩) ∧
    ∃ text, (standard .db2 .upper).temporary ⟨[.integer (-7), .integer 7]⟩ "ID" = .ok text ∧
      Sql.readTable? .db2 text = some ⟨"TEMP", "ID", [.integer (-7), .integer 7]⟩ := by
  obtain ⟨hmysql, -, -⟩ := readTable?_temporary .mysql .identity
  obtain ⟨hdb2, -, -⟩ := readTable?_temporary .db2 .upper
  exact ⟨hmysql ⟨[.text "1'), ROW('2", .text ""]⟩ "`id" (by decide),
    hdb2 ⟨[.integer (-7), .integer 7]⟩ "ID" (by decide)⟩

end Dialect

end RelationPaging
