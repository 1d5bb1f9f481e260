import RelationPaging.Proofs.Batch
import RelationPaging.Proofs.Paging.Walk
import RelationPaging.Proofs.Sql.CursorCondition
import RelationPaging.Proofs.Sql.Escaping

/-!
# Backslashes in MySQL

Text literals double quotes and leave backslashes alone.  MySQL takes a backslash in a text for the
start of an escape, so a value with a backslash need not be read as it is, and its literal need not
end where it should.

`ReadsBack` is the exact condition: a text has the tokens that it is meant to have, its literals are
the given values, and a reader with escapes finds these tokens if and only if no value has an
escape.  The cursor conditions and the temporary tables of MySQL have this property
(`readsBack_mysql`), so a single backslash in a cursor breaks the condition
(`not_forall_literalsOf_mysql`).
-/

namespace RelationPaging.Sql

/-- The text that a token is the literal of. -/
def Token.literal? : Token → Option String
  | quoted .single content => some (String.ofList content)
  | _ => none

/-- The texts of the literals among tokens. -/
def literalsOf (ts : List Token) : List String :=
  ts.filterMap Token.literal?

/-- A text that has tokens, whose literals are the given ones.  A reader with escapes finds the same
tokens if none of the literals has an escape, and finds other literals if one has. -/
def ReadsBack (cs : List Char) (literals : List String) : Prop :=
  ∃ ts, tokens? cs = some ts ∧ literalsOf ts = literals ∧
    ((∀ s ∈ literals, IsInert s.toList) → Escaping.tokens? cs = some ts) ∧
    ∀ us, Escaping.tokens? cs = some us → literalsOf us = literals →
      ∀ s ∈ literals, IsInert s.toList

theorem readsBack_nil : ReadsBack [] [] :=
  ⟨[], rfl, rfl, fun _ => rfl, fun _ _ _ => by simp⟩

variable {xs cs : List Char} {mode : Mode} {ts ends : List Token} {literals : List String}

/-! ## Texts without literals -/

/-- A text that leads from between two tokens to a mode, whether escapes are known or not. -/
structure ReadsAlike (cs : List Char) (mode : Mode) (ts : List Token) : Prop where
  scan_eq : scan .between cs = (mode, ts)
  escaping : Escaping.scan (.plain .between) cs = (.plain mode, ts)

theorem readsAlike_of_not_mem (h : '\\' ∉ cs) (hscan : scan .between cs = (mode, ts)) :
    ReadsAlike cs mode ts := by
  refine ⟨hscan, ?_⟩
  rw [Escaping.scan_plain h, hscan]

theorem readsAlike_opening : ReadsAlike "(".toList .between [.symbol '('] :=
  readsAlike_of_not_mem (by decide) rfl

theorem readsAlike_closing : ReadsAlike ")".toList .between [.symbol ')'] :=
  readsAlike_of_not_mem (by decide) rfl

/-- Tokens without literals may stand in front. -/
theorem ReadsBack.of_map {ds : List Char} (h : ReadsBack ds literals) (hts : literalsOf ts = [])
    (htokens : tokens? cs = (tokens? ds).map (ts ++ ·))
    (hescaping : Escaping.tokens? cs = (Escaping.tokens? ds).map (ts ++ ·)) :
    ReadsBack cs literals := by
  obtain ⟨us, hus, hliterals, hinert, hread⟩ := h
  have happend : ∀ vs, literalsOf (ts ++ vs) = literalsOf vs := by
    intro vs
    rw [literalsOf, List.filterMap_append, ← literalsOf, hts, List.nil_append, literalsOf]
  refine ⟨ts ++ us, ?_, (happend us).trans hliterals, fun hall => ?_, fun vs hvs hvsLiterals => ?_⟩
  · rw [htokens, hus]
    rfl
  · rw [hescaping, hinert hall]
    rfl
  · rw [hescaping] at hvs
    obtain ⟨ws, hws, rfl⟩ := Option.map_eq_some_iff.1 hvs
    exact hread ws hws ((happend ws).symm.trans hvsLiterals)

theorem ReadsBack.append_between (h : ReadsBack cs literals) (hxs : ReadsAlike xs .between ts)
    (hts : literalsOf ts = []) : ReadsBack (xs ++ cs) literals := by
  refine h.of_map hts (tokens?_append_of_between hxs.scan_eq) ?_
  exact Escaping.tokensFrom?_append hxs.escaping cs

/-- What is finished at the end of a text is finished by a break as well, also among escapes. -/
theorem Escaping.tokensFrom?_append_of_isBreak {start : Escaping.Mode} {mode : Sql.Mode}
    (hxs : scan start xs = (.plain mode, ts)) (hends : mode.atEnd = some ends)
    (hbreak : cs.head?.any isBreak = true) :
    tokensFrom? start (xs ++ cs) = (tokens? cs).map (ts ++ ends ++ ·) := by
  cases cs with
  | nil => cases hbreak
  | cons c cs =>
    have hescape : mode.escape? c = none := by
      cases mode with
      | inside quote read => cases hends
      | between | word read | behind quote read => rfl
    have hnext : (Mode.plain mode).next c =
        (.plain (Sql.Mode.start c).1, ends ++ (Sql.Mode.start c).2) := by
      rw [next_plain hescape, Sql.Mode.next_of_isBreak hbreak hends]
    have hstart : (Mode.plain .between).next c =
        (.plain (Sql.Mode.start c).1, (Sql.Mode.start c).2) := next_plain rfl
    rw [tokensFrom?_append hxs, tokensFrom?_cons, hnext, tokens?, tokensFrom?_cons, hstart,
      Option.map_map, Option.map_map]
    congr 1
    funext us
    simp

theorem ReadsBack.append_isBreak (h : ReadsBack cs literals) (hbreak : cs.head?.any isBreak = true)
    (hxs : ReadsAlike xs mode ts) (hends : mode.atEnd = some ends)
    (hts : literalsOf (ts ++ ends) = []) : ReadsBack (xs ++ cs) literals :=
  h.of_map hts (tokens?_append_of_isBreak hxs.scan_eq hends hbreak)
    (Escaping.tokensFrom?_append_of_isBreak hxs.escaping hends hbreak)

/-! ## Literals -/

theorem toList_quoteDoubling (quote : Quote) (name : String) :
    (quoteDoubling quote.char name).toList =
      quote.char :: Escaping.doubled quote name.toList ++ [quote.char] := by
  rw [quoteDoubling, String.toList_ofList]
  rfl

theorem toList_textLiteral (s : String) :
    (textLiteral s).toList = '\'' :: (Escaping.doubled .single s.toList ++ ['\'']) :=
  toList_quoteDoubling .single s

theorem scan_textLiteral (s : String) :
    scan .between (textLiteral s).toList = (.behind .single s.toList, []) := by
  have hbody : scan (.inside .single []) (Escaping.doubled .single s.toList) =
      (.inside .single s.toList, []) := scan_inside_doubled .single [] s.toList
  have hopening : Mode.between.next '\'' = (.inside .single [], []) := by decide
  rw [toList_textLiteral, scan, hopening, scan_append, hbody]
  rfl

/-- A text without escapes is read as it is. -/
theorem readsAlike_textLiteral {s : String} (h : IsInert s.toList) :
    ReadsAlike (textLiteral s).toList (.behind .single s.toList) [] := by
  refine ⟨scan_textLiteral s, ?_⟩
  have hopening : (Escaping.Mode.plain .between).next '\'' = (.plain (.inside .single []), []) := by
    decide
  rw [toList_textLiteral, Escaping.scan, hopening, Escaping.scan_append,
    Escaping.scan_inside_inert [] h]
  rfl

/-- A text with escapes is read as another text. -/
theorem Escaping.exists_quoted_ne {s : String} (h : ¬ IsInert s.toList)
    (hcs : cs.head? ≠ some '\'') (hts : tokens? ((textLiteral s).toList ++ cs) = some ts) :
    ∃ content more, ts = .quoted .single content :: more ∧ content ≠ s.toList := by
  have hopening : (Mode.plain .between).next '\'' = (.plain (.inside .single []), []) := by decide
  have hlist : (textLiteral s).toList ++ cs = '\'' :: (doubled .single s.toList ++ '\'' :: cs) := by
    rw [toList_textLiteral, List.cons_append, List.append_assoc, List.singleton_append]
  rw [hlist, tokens?, tokensFrom?_cons, hopening] at hts
  obtain ⟨us, hus, rfl⟩ := Option.map_eq_some_iff.1 hts
  have hhead : us.head? ≠ some (.quoted .single s.toList) :=
    head?_ne_of_not_isInert hcs h hus
  have hmode : (Mode.plain (.inside .single [])).Reads .single [] := .inl rfl
  obtain ⟨content, more, rfl⟩ := hmode.exists_quoted hus
  refine ⟨content, more, rfl, ?_⟩
  rintro rfl
  exact hhead rfl

/-- The literal of a text is read as the text if and only if the text has no escape. -/
theorem ReadsBack.append_textLiteral (h : ReadsBack cs literals)
    (hbreak : cs.head?.any isBreak = true) (s : String) :
    ReadsBack ((textLiteral s).toList ++ cs) (s :: literals) := by
  obtain ⟨ts, hts, hliterals, hinert, hread⟩ := h
  have hcons : ∀ content us, literalsOf (.quoted .single content :: us) =
      String.ofList content :: literalsOf us := fun _ _ => rfl
  have hplain : IsInert s.toList → Escaping.tokens? ((textLiteral s).toList ++ cs) =
      (Escaping.tokens? cs).map (.quoted .single s.toList :: ·) := fun hs =>
    Escaping.tokensFrom?_append_of_isBreak (readsAlike_textLiteral hs).escaping rfl hbreak
  refine ⟨.quoted .single s.toList :: ts, ?_, ?_, fun hall => ?_, fun us hus husLiterals => ?_⟩
  · rw [tokens?_append_of_isBreak (scan_textLiteral s) rfl hbreak, hts]
    rfl
  · rw [hcons, String.ofList_toList, hliterals]
  · obtain ⟨hs, hall⟩ := List.forall_mem_cons.1 hall
    rw [hplain hs, hinert hall]
    rfl
  · by_cases hs : IsInert s.toList
    · rw [hplain hs] at hus
      obtain ⟨vs, hvs, rfl⟩ := Option.map_eq_some_iff.1 hus
      rw [hcons, List.cons.injEq] at husLiterals
      exact List.forall_mem_cons.2 ⟨hs, hread vs hvs husLiterals.2⟩
    · have hcs : cs.head? ≠ some '\'' := by
        intro hhead
        rw [hhead] at hbreak
        exact absurd hbreak (by decide)
      obtain ⟨content, more, rfl, hne⟩ := Escaping.exists_quoted_ne hs hcs hus
      rw [hcons, List.cons.injEq] at husLiterals
      refine absurd ?_ hne
      rw [← husLiterals.1, String.toList_ofList]

/-- The text that a scalar is. -/
def scalarText? : Scalar → Option String
  | .text s => some s
  | _ => none

/-- A literal that is not a text has no escape. -/
theorem exists_readsAlike_literal {value : Scalar} (h : scalarText? value = none) :
    ∃ mode ts ends, ReadsAlike value.literal.toList mode ts ∧ mode.atEnd = some ends ∧
      literalsOf (ts ++ ends) = [] := by
  cases value with
  | null => exact ⟨_, _, _, readsAlike_of_not_mem (by decide) rfl, rfl, rfl⟩
  | bool b =>
    cases b with
    | true => exact ⟨_, _, _, readsAlike_of_not_mem (by decide) rfl, rfl, rfl⟩
    | false => exact ⟨_, _, _, readsAlike_of_not_mem (by decide) rfl, rfl, rfl⟩
  | number n =>
    obtain ⟨ts, hts, hwithin, -⟩ := exists_tokens?_number n.isNumeral_chars.isNumberChar
    obtain ⟨ends, hends, htokens⟩ := Option.map_eq_some_iff.1 hts
    have hbackslash : '\\' ∉ n.chars := by
      intro hmem
      exact absurd (n.isNumeral_chars.isNumberChar _ hmem) (by decide)
    have hchars : (Scalar.number n).literal.toList = n.chars := String.toList_ofList
    rw [hchars]
    refine ⟨_, _, ends, readsAlike_of_not_mem hbackslash rfl, hends, ?_⟩
    rw [htokens, literalsOf, List.filterMap_eq_nil_iff]
    intro t ht
    cases t with
    | quoted quote content => exact (hwithin _ ht).elim
    | word chars => rfl
    | symbol c => rfl
  | text s => cases h

/-- The literal of a scalar in front of a text that is read back. -/
theorem ReadsBack.append_literal (h : ReadsBack cs literals)
    (hbreak : cs.head?.any isBreak = true) (value : Scalar) :
    ReadsBack (value.literal.toList ++ cs) ((scalarText? value).toList ++ literals) := by
  cases hvalue : scalarText? value with
  | none =>
    obtain ⟨mode, ts, ends, hread, hends, hnone⟩ := exists_readsAlike_literal hvalue
    exact h.append_isBreak hbreak hread hends hnone
  | some s =>
    obtain rfl : value = .text s := by
      cases value with
      | text t =>
        cases hvalue
        rfl
      | null | bool b | number n => cases hvalue
    exact h.append_textLiteral hbreak s

/-! ## Names -/

/-- A name in backticks has no escapes. -/
theorem readsAlike_quote (casing : Casing) (name : String) :
    ReadsAlike ((Dialect.spellingOf .mysql casing).quote name).toList (.behind .back name.toList)
      [] := by
  have hchars : ((Dialect.spellingOf .mysql casing).quote name).toList =
      '\x60' :: (Escaping.doubled .back name.toList ++ ['\x60']) := toList_quoteDoubling .back name
  have hopening : Mode.between.next '\x60' = (.inside .back [], []) := by decide
  have hopening' : (Escaping.Mode.plain .between).next '\x60' =
      (.plain (.inside .back []), []) := by
    decide
  have hbody : scan (.inside .back []) (Escaping.doubled .back name.toList) =
      (.inside .back name.toList, []) := scan_inside_doubled .back [] name.toList
  refine ⟨?_, ?_⟩
  · rw [hchars, scan, hopening, scan_append, hbody]
    rfl
  · rw [hchars, Escaping.scan, hopening', Escaping.scan_append, Escaping.scan_inside_back]
    rfl

theorem ReadsBack.append_quote (h : ReadsBack cs literals)
    (hbreak : cs.head?.any isBreak = true) (casing : Casing) (name : String) :
    ReadsBack (((Dialect.spellingOf .mysql casing).quote name).toList ++ cs) literals :=
  h.append_isBreak hbreak (readsAlike_quote casing name) rfl rfl

theorem ReadsBack.append_column (h : ReadsBack cs literals)
    (hbreak : cs.head?.any isBreak = true) (casing : Casing) (aliasName column : String) :
    ReadsBack (((Dialect.spellingOf .mysql casing).column aliasName column).toList ++ cs)
      literals := by
  have hdot : ReadsAlike ".".toList .between [.symbol '.'] :=
    readsAlike_of_not_mem (by decide) (by decide)
  have hbehind := (h.append_quote hbreak casing column).append_between hdot rfl
  have hall := hbehind.append_quote rfl casing aliasName
  rw [Dialect.column_spellingOf, String.toList_append, String.toList_append, List.append_assoc,
    List.append_assoc]
  exact hall

/-! ## Lists -/

/-- Whether each of some items has a text that is read back, where `literal?` gives the literal in
the text of an item. -/
def ReadsBackEach {α : Type} (text : α → String) (literal? : α → Option String) (items : List α) :
    Prop :=
  ∀ x ∈ items, ∀ cs literals, cs.head?.any isBreak = true → ReadsBack cs literals →
    ReadsBack ((text x).toList ++ cs) ((literal? x).toList ++ literals)

section

variable {α : Type} {text : α → String} {literal? : α → Option String} {items : List α}

/-- Items between commas are read back if each item is. -/
theorem ReadsBack.append_intercalate (h : ReadsBack cs literals)
    (hbreak : cs.head?.any isBreak = true) (hitems : ReadsBackEach text literal? items) :
    ReadsBack ((String.intercalate ", " (items.map text)).toList ++ cs)
      (items.filterMap literal? ++ literals) := by
  have hcomma : ReadsAlike ", ".toList .between [.symbol ','] :=
    readsAlike_of_not_mem (by decide) (by decide)
  induction items with
  | nil => exact h
  | cons x items ih =>
    obtain ⟨hx, hitems⟩ := List.forall_mem_cons.1 hitems
    have hliterals : (x :: items).filterMap literal? =
        (literal? x).toList ++ items.filterMap literal? := by
      cases hliteral : literal? x <;> simp [hliteral]
    rw [hliterals, List.append_assoc]
    cases items with
    | nil => exact hx _ _ hbreak h
    | cons y items =>
      have hrest := (ih hitems).append_between hcomma rfl
      have hall := hx _ _ rfl hrest
      rw [List.map_cons, String.intercalate_cons_of_ne_nil (by simp), String.toList_append,
        String.toList_append, List.append_assoc, List.append_assoc]
      exact hall

/-- Items in parentheses are read back if each item is. -/
theorem ReadsBack.append_row (h : ReadsBack cs literals)
    (hitems : ReadsBackEach text literal? items) :
    ReadsBack ((Condition.row (items.map text)).toList ++ cs)
      (items.filterMap literal? ++ literals) := by
  have hinner := (h.append_between readsAlike_closing rfl).append_intercalate rfl hitems
  have hall := hinner.append_between readsAlike_opening rfl
  rw [Condition.row, String.toList_append, String.toList_append, List.append_assoc,
    List.append_assoc]
  exact hall

end

/-! ## Cursor conditions -/

/-- The condition for the rows behind a cursor is read back. -/
theorem readsBack_after (casing : Casing) (aliasName : String) (columns : List String)
    (values : List Scalar) (descending : Bool) :
    ReadsBack ((Condition.after (Dialect.spellingOf .mysql casing).comparesRows columns values
      descending).render ((Dialect.spellingOf .mysql casing).column aliasName)).toList
      (values.filterMap scalarText?) := by
  have hsign : ∃ t, ReadsAlike (" " ++ (Comparison.behind descending).symbol ++ " ").toList .between
      [.symbol t] := by
    cases descending with
    | true => exact ⟨'<', readsAlike_of_not_mem (by decide) (by decide)⟩
    | false => exact ⟨'>', readsAlike_of_not_mem (by decide) (by decide)⟩
  obtain ⟨t, hsign⟩ := hsign
  have hliterals : ReadsBackEach Scalar.literal scalarText? values :=
    fun value _ _ _ hbreak h => h.append_literal hbreak value
  have hcolumns : ReadsBackEach ((Dialect.spellingOf .mysql casing).column aliasName)
      (fun _ => none) columns :=
    fun column _ _ _ hbreak h => h.append_column hbreak casing aliasName column
  have hbehind := (readsBack_nil.append_row hliterals).append_between hsign rfl
  have hall := hbehind.append_row hcolumns
  have hrender : (Condition.after (Dialect.spellingOf .mysql casing).comparesRows columns values
      descending).render ((Dialect.spellingOf .mysql casing).column aliasName) =
      Condition.row (columns.map ((Dialect.spellingOf .mysql casing).column aliasName)) ++
        (" " ++ (Comparison.behind descending).symbol ++ " " ++
          Condition.row (values.map Scalar.literal)) := by
    have hrows : (Dialect.spellingOf .mysql casing).comparesRows = true := rfl
    simp only [hrows, Condition.after, if_true, Condition.render, String.append_assoc]
  rw [hrender, String.toList_append, String.toList_append]
  simpa using hall

/-! ## Temporary tables -/

/-- The text that a parent key is. -/
def batchText? : BatchValue → Option String
  | .text s => some s
  | _ => none

theorem exists_text_of_kind {value : BatchValue} (h : value.kind = .text) :
    ∃ s, value = .text s := by
  cases value with
  | integer n => cases h
  | floating x => cases h
  | text s => exact ⟨s, rfl⟩

/-- A row of a table of values is read back. -/
theorem ReadsBack.append_valueRow (h : ReadsBack cs literals)
    (casing : Casing) (s : String) :
    ReadsBack (((Dialect.spellingOf .mysql casing).valueRow (.text s)).toList ++ cs)
      (s :: literals) := by
  have hopening : ReadsAlike "ROW(".toList .between [.word "ROW".toList, .symbol '('] :=
    readsAlike_of_not_mem (by decide) (by decide)
  have hliteral := (h.append_between readsAlike_closing rfl).append_textLiteral rfl s
  have hall := hliteral.append_between hopening rfl
  have hrow : (Dialect.spellingOf .mysql casing).valueRow (.text s) =
      "ROW(" ++ textLiteral s ++ ")" := rfl
  rw [hrow, String.toList_append, String.toList_append, List.append_assoc, List.append_assoc]
  exact hall

/-- The temporary table of a valid scope of texts is read back. -/
theorem readsBack_table {scope : BatchScope} (h : scope.validate = .ok (some .text))
    (casing : Casing) (column : String) :
    ReadsBack ((Dialect.spellingOf .mysql casing).table scope column).toList
      (scope.values.filterMap batchText?) := by
  obtain ⟨hne, hkeys⟩ := (scope.isJudged.some_iff .text).1 h
  have hframe : ReadsAlike "FROM (VALUES ".toList .between
      [.word "FROM".toList, .symbol '(', .word "VALUES".toList] :=
    readsAlike_of_not_mem (by decide) (by decide)
  have hbehind : ReadsAlike ") ".toList .between [.symbol ')'] :=
    readsAlike_of_not_mem (by decide) (by decide)
  have hrows : ReadsBackEach (Dialect.spellingOf .mysql casing).valueRow batchText?
      scope.values := by
    intro value hvalue cs literals _ hrest
    obtain ⟨s, rfl⟩ := exists_text_of_kind (hkeys value hvalue).2
    exact hrest.append_valueRow casing s
  have hcolumn :=
    (readsBack_nil.append_between readsAlike_closing rfl).append_quote rfl casing column
  have halias := (hcolumn.append_between readsAlike_opening rfl).append_quote rfl casing
    (casing.apply temporaryTable)
  have hvalues := (halias.append_between hbehind rfl).append_intercalate rfl hrows
  have hall := hvalues.append_between hframe rfl
  have htext : (Dialect.spellingOf .mysql casing).valuesTable scope column =
      "FROM (VALUES " ++ String.intercalate ", "
        (scope.values.map (Dialect.spellingOf .mysql casing).valueRow) ++ ") " ++
        (Dialect.spellingOf .mysql casing).quote (casing.apply temporaryTable) ++ "(" ++
        (Dialect.spellingOf .mysql casing).quote column ++ ")" := rfl
  rw [Spelling.table_eq_valuesTable _ hne, htext]
  simpa only [String.toList_append, List.append_assoc, List.append_nil] using hall

/-! ## All text that is written for MySQL -/

/-- The text that a JSON value is. -/
def jsonText? : Json → Option String
  | .string s => some s
  | _ => none

/-- The values of a cursor and their literals have the same texts. -/
theorem filterMap_scalarText? {values : List Json} {scalars : List Scalar}
    (h : values.mapM Scalar.ofJson = .ok scalars) :
    scalars.filterMap scalarText? = values.filterMap jsonText? := by
  rw [Except.mapM_eq_ok_iff] at h
  induction h with
  | nil => rfl
  | @cons value scalar values scalars hvalue _ ih =>
    have htext : scalarText? scalar = jsonText? value := by
      cases value with
      | array items => cases hvalue
      | object members => cases hvalue
      | null | bool b | number n | string s =>
        cases hvalue
        rfl
    rw [List.filterMap_cons, List.filterMap_cons, htext, ih]

/-- **On MySQL a text is read back if and only if it has no escape.**  For each cursor that the
interpreter of keyset paging accepts, and for each valid scope of texts, the condition and the
temporary table have the texts in their literals.  MySQL, which knows escapes, reads them so exactly
if in each of the texts a backslash stands only before `%` or `_`; otherwise it reads other
literals, or none that ends. -/
theorem readsBack_mysql (casing : Casing) :
    (∀ target paging pageEnd cursor,
      (Dialect.standard .mysql casing).interpretKeyset target = .ok paging →
      target.arguments.pageEnd = .ok (some pageEnd) →
      target.arguments.startCursor pageEnd = .ok (some cursor) →
        ∃ key values text, target.sortKey = some key ∧
          Cursor.keysetValues cursor key.columns = .ok values ∧ paging.condition = some text ∧
          ReadsBack text.toList (values.filterMap jsonText?)) ∧
    ∀ scope column, scope.validate = .ok (some .text) →
      ∃ text, (Dialect.standard .mysql casing).temporary scope column = .ok text ∧
        ReadsBack text.toList (scope.values.filterMap batchText?) := by
  refine ⟨?_, fun scope column hscope => ⟨_, rfl, readsBack_table hscope casing column⟩⟩
  intro target paging pageEnd cursor hpaging hend hcursor
  obtain ⟨key, pageEnd', hkey, -, hend', hwindow, -⟩ := Spelling.keysetPaging_eq_ok_iff.1 hpaging
  obtain rfl : some pageEnd = pageEnd' := Except.ok.inj (hend.symm.trans hend')
  obtain ⟨text, htext, -, hcondition⟩ := (Spelling.keysetWindow_eq_ok_iff hcursor).1 hwindow
  obtain ⟨values, scalars, hvalues, hscalars, rfl⟩ := Spelling.behindCursor_eq_ok_iff.1 htext
  refine ⟨key, values, _, hkey, hvalues, hcondition, ?_⟩
  rw [← filterMap_scalarText? hscalars]
  exact readsBack_after casing target.aliasName _ scalars _

/-! ## Pages behind a name -/

/-- The cursor of a row with a given name. -/
def nameCursor (name : String) : String :=
  Cursor.ofKeyset (.ofList (["name"].map fun column => (column, .string name)))

/-- A page of two rows behind the row with a given name. -/
def targetBehind (name : String) : PagingTarget where
  aliasName := "u"
  arguments := PageEnd.arguments ⟨2, false⟩ (some (nameCursor name))
  sortKey := some ⟨.ascending, ["name"]⟩

/-- The condition for the rows behind the row with a given name. -/
def conditionBehind (name : String) : String :=
  (Condition.compareRows ["name"] .greater [.text name]).render
    ((Dialect.spellingOf .mysql .identity).column "u")

theorem keysetValues_nameCursor (name : String) :
    Cursor.keysetValues (nameCursor name) ["name"] = .ok [.string name] := by
  have hscalar : ∀ column ∈ ["name"], (Json.string name).isWholeScalar = true := fun _ _ => rfl
  exact Cursor.keysetValues_ofKeyset (List.pairwise_singleton _ "name") hscalar

/-- The page behind a name asks for this page and no other. -/
theorem asks_targetBehind (name : String) :
    (targetBehind name).arguments.Asks ⟨2, false⟩ (some (nameCursor name)) :=
  PageEnd.asks_arguments ⟨2, false⟩ (some (nameCursor name))

theorem interpretKeyset_targetBehind (name : String) :
    (Dialect.standard .mysql .identity).interpretKeyset (targetBehind name) =
      .ok ⟨.rows 3, ⟨"u", [("name", .ascending)]⟩, some (conditionBehind name)⟩ := by
  have hbehind : (Dialect.spellingOf .mysql .identity).behindCursor "u" ⟨.ascending, ["name"]⟩
      .ascending (nameCursor name) = .ok (conditionBehind name) :=
    Spelling.behindCursor_eq_ok_iff.2 ⟨_, [.text name], keysetValues_nameCursor name, rfl, rfl⟩
  have hwindow : (Dialect.spellingOf .mysql .identity).keysetWindow (targetBehind name)
      ⟨.ascending, ["name"]⟩ (some ⟨2, false⟩) = .ok (.rows 3, some (conditionBehind name)) :=
    (Spelling.keysetWindow_eq_ok_iff (asks_targetBehind name).startCursor_eq).2
      ⟨_, hbehind, rfl, rfl⟩
  have hinterpret : (Dialect.standard .mysql .identity).interpretKeyset =
      (Dialect.spellingOf .mysql .identity).keysetPaging := rfl
  rw [hinterpret, Spelling.keysetPaging_eq_ok_iff]
  exact ⟨⟨.ascending, ["name"]⟩, some ⟨2, false⟩, rfl, List.cons_ne_nil _ _,
    (asks_targetBehind name).pageEnd_eq, hwindow, rfl⟩

/-- An apostrophe is read back, in a condition as well as in a temporary table. -/
theorem readsBack_mysql_apostrophe :
    (∃ key values text, (targetBehind "it's").sortKey = some key ∧
      Cursor.keysetValues (nameCursor "it's") key.columns = .ok values ∧
      some (conditionBehind "it's") = some text ∧
      ReadsBack text.toList (values.filterMap jsonText?)) ∧
    ∃ text, (Dialect.standard .mysql .identity).temporary ⟨[.text "it's"]⟩ "id" = .ok text ∧
      ReadsBack text.toList ["it's"] := by
  have hasks := asks_targetBehind "it's"
  obtain ⟨hcursors, hscopes⟩ := readsBack_mysql .identity
  exact ⟨hcursors _ _ _ _ (interpretKeyset_targetBehind "it's") hasks.pageEnd_eq
    hasks.startCursor_eq, hscopes ⟨[.text "it's"]⟩ "id" (by decide)⟩

/-- Behind the name that is a single backslash, the quote that should end the literal is escaped,
and MySQL finds no literal that ends. -/
theorem not_forall_literalsOf_mysql :
    ¬ ∀ target paging pageEnd cursor key values text,
      (Dialect.standard .mysql .identity).interpretKeyset target = .ok paging →
      target.arguments.pageEnd = .ok (some pageEnd) →
      target.arguments.startCursor pageEnd = .ok (some cursor) → target.sortKey = some key →
      Cursor.keysetValues cursor key.columns = .ok values → paging.condition = some text →
        ∃ ts, Escaping.tokens? text.toList = some ts ∧
          literalsOf ts = values.filterMap jsonText? := by
  intro h
  have hasks := asks_targetBehind "\\"
  obtain ⟨ts, hts, -⟩ := h _ _ _ _ _ _ _ (interpretKeyset_targetBehind "\\") hasks.pageEnd_eq
    hasks.startCursor_eq rfl (keysetValues_nameCursor "\\") rfl
  have hnone : Escaping.tokens? (conditionBehind "\\").toList = none := by decide
  rw [hnone] at hts
  cases hts

end RelationPaging.Sql
