import RelationPaging.Dialect.Standard
import RelationPaging.Proofs.Binary64.Characters
import RelationPaging.Proofs.Sql.Conjunction

/-!
# The predicates that planning writes itself

The conditions that do not come from a callback: that a row belongs to a parent of a batch, and
that it lies behind the row of a cursor.  In all built-in dialects each of them is a single factor,
an atom or a formula in parentheses (`isFactor_batchCondition`, `isFactor_render`), so that none of
them is open, whatever the names and the values in them are.
-/

namespace RelationPaging.Sql

/-! ## Factors -/

/-- A text whose parentheses match and that holds no keyword outside of them. -/
def IsPlain (text : String) : Prop :=
  ∃ pieces, piecesOf? text = some pieces ∧ ∀ p ∈ pieces, p.IsPlain

/-- A text that is a single factor. -/
def IsFactor (text : String) : Prop :=
  ∃ pieces f, piecesOf? text = some pieces ∧ (∀ p ∈ pieces, p.IsPlain) ∧ factor? pieces = some f

namespace IsFactor

variable {text : String}

theorem isPlain (h : IsFactor text) : IsPlain text := by
  obtain ⟨pieces, _, hpieces, hplain, _⟩ := h
  exact ⟨pieces, hpieces, hplain⟩

theorem exists_alternatives? (h : IsFactor text) :
    ∃ pieces f, piecesOf? text = some pieces ∧ alternatives? pieces = some [[f]] := by
  obtain ⟨pieces, f, hpieces, hplain, hf⟩ := h
  exact ⟨pieces, f, hpieces, alternatives?_of_forall hplain hf⟩

theorem exists_alternativesOf? (h : IsFactor text) :
    ∃ f, alternativesOf? text = some [[f]] := by
  obtain ⟨pieces, f, hpieces, hread⟩ := h.exists_alternatives?
  exact ⟨f, by rw [alternativesOf?, hpieces, Option.bind_some, hread]⟩

theorem isSome_read? (h : IsFactor text) : (read? text).isSome = true := by
  obtain ⟨f, hf⟩ := h.exists_alternativesOf?
  obtain ⟨g, hg, -⟩ := exists_read? hf
  rw [hg]
  rfl

theorem not_isOpen (h : IsFactor text) : ¬ IsOpen text := by
  obtain ⟨f, hf⟩ := h.exists_alternativesOf?
  rw [isOpen_iff hf]
  simp

/-- Pieces of which there are at least two are an atom, unless there is a keyword among them. -/
theorem of_two_le {pieces : List Piece} (h : piecesOf? text = some pieces)
    (hplain : ∀ p ∈ pieces, p.IsPlain) (hlength : 2 ≤ pieces.length) : IsFactor text := by
  rcases pieces with _ | ⟨p, _ | ⟨p', pieces⟩⟩
  · cases hlength
  · simp only [List.length_cons, List.length_nil] at hlength
    omega
  · refine ⟨p :: p' :: pieces, .atom ((p :: p' :: pieces).flatMap Piece.tokens), h, hplain, ?_⟩
    cases p <;> rfl

theorem ne_nil_of_factor? {pieces : List Piece} {f : Formula} (h : factor? pieces = some f) :
    pieces ≠ [] := by
  rintro rfl
  cases h

/-- A factor that goes on behind a seam without keywords is still one. -/
theorem seam {seam q : String} {piece : Piece} (hseam : IsSeam seam [piece])
    (hpiece : piece.IsPlain) (hp : IsFactor text) (hq : IsPlain q) :
    IsFactor (text ++ seam ++ q) := by
  obtain ⟨ps, f, hps, hpsplain, hf⟩ := hp
  obtain ⟨qs, hqs, hqsplain⟩ := hq
  have hpos := List.length_pos_of_ne_nil (ne_nil_of_factor? hf)
  refine of_two_le (piecesOf?_seam hseam hps hqs) ?_ ?_
  · simp only [List.forall_mem_append, List.forall_mem_singleton]
    exact ⟨⟨hpsplain, hpiece⟩, hqsplain⟩
  · simp only [List.length_append, List.length_cons, List.length_nil]
    omega

end IsFactor

namespace IsPlain

theorem seam {p seam q : String} {pieces : List Piece} (hseam : IsSeam seam pieces)
    (hpieces : ∀ p ∈ pieces, p.IsPlain) (hp : IsPlain p) (hq : IsPlain q) :
    IsPlain (p ++ seam ++ q) := by
  obtain ⟨ps, hps, hpsplain⟩ := hp
  obtain ⟨qs, hqs, hqsplain⟩ := hq
  refine ⟨_, piecesOf?_seam hseam hps hqs, ?_⟩
  simp only [List.forall_mem_append]
  exact ⟨⟨hpsplain, hpieces⟩, hqsplain⟩

theorem intercalate {texts : List String} (h : ∀ text ∈ texts, IsPlain text) :
    IsPlain (String.intercalate ", " texts) := by
  induction texts with
  | nil => exact ⟨[], by decide, by simp⟩
  | cons text texts ih =>
    obtain ⟨htext, htexts⟩ := List.forall_mem_cons.1 h
    cases texts with
    | nil => rwa [String.intercalate_singleton]
    | cons text' texts =>
      have hseam : IsSeam ", " [.leaf (.symbol ',')] := by decide
      rw [String.intercalate_cons_of_ne_nil (List.cons_ne_nil _ _)]
      exact htext.seam hseam (by decide) (ih htexts)

/-- Tokens that are neither parentheses nor keywords make a plain text. -/
theorem of_tokens? {text : String} {ts : List Token} (h : tokens? text.toList = some ts)
    (hparen : ∀ t ∈ ts, t ≠ .symbol '(' ∧ t ≠ .symbol ')')
    (hplain : ∀ t ∈ ts, (Piece.leaf t).IsPlain) : IsPlain text := by
  refine ⟨ts.map .leaf, by rw [piecesOf?, h, Option.bind_some, pieces?_of_forall hparen], ?_⟩
  rw [List.forall_mem_map]
  exact hplain

end IsPlain

/-! ## Values -/

/-- A token of number characters is neither a parenthesis nor a keyword. -/
theorem Token.Within.isPlain {token : Token} (h : token.Within isNumberChar) :
    (token ≠ .symbol '(' ∧ token ≠ .symbol ')') ∧ (Piece.leaf token).IsPlain := by
  cases token with
  | quoted quote content => exact h.elim
  | symbol c =>
    refine ⟨⟨?_, ?_⟩, rfl, rfl⟩
    · rintro ⟨⟩
      exact absurd (show isNumberChar '(' = true from h) (by decide)
    · rintro ⟨⟩
      exact absurd (show isNumberChar ')' = true from h) (by decide)
  | word chars =>
    have hkeyword : ∀ first rest, isNumberChar first = false → first ≠ 'E' →
        chars.map Char.toUpper ≠ first :: rest := by
      intro first rest hfirst hne heq
      obtain ⟨c, cs, rfl, hc, -⟩ := List.map_eq_cons_iff.1 heq
      have hnumber := h c List.mem_cons_self
      rcases toUpper_of_isNumberChar hnumber with hupper | hupper
      · rw [← hupper, hc, hfirst] at hnumber
        cases hnumber
      · exact hne (hc.symm.trans hupper)
    refine ⟨by simp, decide_eq_false ?_, decide_eq_false ?_⟩
    · exact hkeyword 'O' ['R'] (by decide) (by decide)
    · exact hkeyword 'A' ['N', 'D'] (by decide) (by decide)

/-- No character of a number is a quote. -/
theorem ofChar?_of_isNumberChar {c : Char} (h : isNumberChar c = true) :
    Quote.ofChar? c = none := by
  have hne : ∀ d, isNumberChar d = false → c ≠ d := by
    rintro d hd rfl
    rw [h] at hd
    cases hd
  rw [Quote.ofChar?, if_neg (hne _ (by decide)), if_neg (hne _ (by decide)),
    if_neg (hne _ (by decide))]

theorem isPlain_number (n : Json.Number) : IsPlain n.text := by
  obtain ⟨ts, hts, hwithin⟩ :=
    exists_tokens?_within (fun _ => ofChar?_of_isNumberChar) n.isNumeral_chars.isNumberChar
  have htext : tokens? n.text.toList = some ts := by
    rw [Json.Number.text, String.toList_ofList, hts]
  refine .of_tokens? htext (fun t ht => ?_) fun t ht => ?_
  · exact (hwithin t ht).isPlain.1
  · exact (hwithin t ht).isPlain.2

/-- A quoted part by itself is a factor. -/
theorem isFactor_of_quoted {text : String} {quote : Quote} {content : List Char}
    (h : tokens? text.toList = some [.quoted quote content]) : IsFactor text := by
  refine ⟨[.leaf (.quoted quote content)], .atom [.quoted quote content], ?_, ?_, rfl⟩
  · rw [piecesOf?, h, Option.bind_some]
    rfl
  · exact List.forall_mem_singleton.2 ⟨rfl, rfl⟩

theorem isPlain_literal (value : Scalar) : IsPlain value.literal := by
  cases value with
  | null => exact ⟨[.leaf (.word ['N', 'U', 'L', 'L'])], by decide, by decide⟩
  | bool value =>
    cases value with
    | true => exact ⟨[.leaf (.word ['T', 'R', 'U', 'E'])], by decide, by decide⟩
    | false => exact ⟨[.leaf (.word ['F', 'A', 'L', 'S', 'E'])], by decide, by decide⟩
  | number n => exact isPlain_number n
  | text s => exact (isFactor_of_quoted (tokens?_textLiteral s)).isPlain

/-! ## Columns -/

/-- The quote of identifiers in a built-in dialect. -/
def identifierQuote : DialectName → Quote
  | .postgresql => .double
  | .mysql => .back
  | .db2 => .double

variable {name : DialectName} {casing : Casing}

/-- An identifier is written in the quotes of its dialect. -/
theorem quote_eq (identifier : String) :
    (Dialect.spellingOf name casing).quote identifier =
      quoteDoubling (identifierQuote name).char identifier := by
  cases name <;> rfl

theorem tokens?_quote (identifier : String) :
    tokens? ((Dialect.spellingOf name casing).quote identifier).toList =
      some [.quoted (identifierQuote name) identifier.toList] := by
  rw [quote_eq, tokens?_quoteDoubling]

theorem isFactor_quote (identifier : String) :
    IsFactor ((Dialect.spellingOf name casing).quote identifier) :=
  isFactor_of_quoted (tokens?_quote identifier)

theorem isFactor_column (aliasName column : String) :
    IsFactor ((Dialect.spellingOf name casing).column aliasName column) := by
  have hseam : IsSeam "." [.leaf (.symbol '.')] := by decide
  rw [Dialect.column_spellingOf]
  exact (isFactor_quote aliasName).seam hseam (by decide) (isFactor_quote column).isPlain

/-! ## Conditions without columns -/

theorem isFactor_trueLiteral : IsFactor (Dialect.spellingOf name casing).trueLiteral := by
  have htrue : IsFactor "TRUE" :=
    ⟨[.leaf (.word "TRUE".toList)], .atom [.word "TRUE".toList], by decide, by decide, rfl⟩
  have hequal : piecesOf? "1 = 1" =
      some [.leaf (.word ['1']), .leaf (.symbol '='), .leaf (.word ['1'])] := by decide
  cases name with
  | postgresql => exact htrue
  | mysql => exact htrue
  | db2 => exact .of_two_le hequal (by decide) (by decide)

theorem isFactor_falseLiteral : IsFactor (Dialect.spellingOf name casing).falseLiteral := by
  have hfalse : IsFactor "FALSE" :=
    ⟨[.leaf (.word "FALSE".toList)], .atom [.word "FALSE".toList], by decide, by decide, rfl⟩
  have hequal : piecesOf? "1 = 0" =
      some [.leaf (.word ['1']), .leaf (.symbol '='), .leaf (.word ['0'])] := by decide
  cases name with
  | postgresql => exact hfalse
  | mysql => exact hfalse
  | db2 => exact .of_two_le hequal (by decide) (by decide)

/-! ## Cursor conditions -/

/-- Whether no part of a condition is blank. -/
def IsSolid : Condition → Prop
  | .blank => False
  | .compare _ _ _ => True
  | .compareRows _ _ _ => True
  | .both left right => IsSolid left ∧ IsSolid right
  | .either left right => IsSolid left ∧ IsSolid right

/-- The sign of a comparison with a blank on either side. -/
theorem isSeam_comparison (comparison : Comparison) :
    ∃ c, IsSeam (" " ++ comparison.symbol ++ " ") [.leaf (.symbol c)] := by
  cases comparison with
  | less => exact ⟨'<', by decide⟩
  | equal => exact ⟨'=', by decide⟩
  | greater => exact ⟨'>', by decide⟩

/-- Two factors joined by a connective and put in parentheses are a factor. -/
theorem isFactor_connected {p q seam : String} {c : Piece} (hseam : IsSeam seam [c])
    (hc : c.isAnd = true ∨ c.isOr = true) (hp : IsFactor p) (hq : IsFactor q) :
    IsFactor ("(" ++ p ++ seam ++ q ++ ")") := by
  obtain ⟨ps, f, hps, hf⟩ := hp.exists_alternatives?
  obtain ⟨qs, g, hqs, hg⟩ := hq.exists_alternatives?
  obtain ⟨fs, hfs⟩ : ∃ fs, alternatives? (ps ++ c :: qs) = some fs := by
    rcases hc with hand | hor
    · exact ⟨_, alternatives?_append_cons hand hf hg⟩
    · exact ⟨_, alternatives?_append_cons_or hor hf hg⟩
  obtain ⟨hne, hall⟩ := alternatives?_ne_nil hfs
  obtain ⟨h, hh⟩ := Formula.exists_ofAlternatives hne hall
  have hinner : piecesOf? (p ++ seam ++ q) = some (ps ++ c :: qs) := by
    rw [piecesOf?_seam hseam hps hqs, List.append_assoc, List.singleton_append]
  have hpieces := piecesOf?_parenthesized hinner
  rw [formula?, hfs, Option.bind_some, hh] at hpieces
  have htext : "(" ++ p ++ seam ++ q ++ ")" = "(" ++ (p ++ seam ++ q) ++ ")" := by
    simp only [String.append_assoc]
  rw [htext]
  exact ⟨_, h, hpieces, List.forall_mem_singleton.2 ⟨rfl, rfl⟩, rfl⟩

/-- A condition without blank parts is a factor if its column references are. -/
theorem isFactor_render {reference : String → String}
    (hreference : ∀ column, IsFactor (reference column)) {condition : Condition}
    (hsolid : IsSolid condition) : IsFactor (condition.render reference) := by
  induction condition with
  | blank => exact hsolid.elim
  | compare column comparison value =>
    obtain ⟨c, hseam⟩ := isSeam_comparison comparison
    have hfactor := (hreference column).seam hseam ⟨rfl, rfl⟩ (isPlain_literal value)
    simp only [String.append_assoc] at hfactor
    simp only [Condition.render, String.append_assoc]
    exact hfactor
  | compareRows columns comparison values =>
    obtain ⟨c, hseam⟩ := isSeam_comparison comparison
    have hcolumns : IsPlain (String.intercalate ", " (columns.map reference)) := by
      refine .intercalate ?_
      rw [List.forall_mem_map]
      exact fun column _ => (hreference column).isPlain
    have hvalues : IsPlain (String.intercalate ", " (values.map Scalar.literal)) := by
      refine .intercalate ?_
      rw [List.forall_mem_map]
      exact fun value _ => isPlain_literal value
    obtain ⟨ps, hps, hpsplain⟩ := hcolumns
    obtain ⟨qs, hqs, hqsplain⟩ := hvalues
    have hpieces := piecesOf?_seam hseam (piecesOf?_parenthesized hps) (piecesOf?_parenthesized hqs)
    simp only [String.append_assoc] at hpieces
    simp only [Condition.render, Condition.row, String.append_assoc]
    refine .of_two_le hpieces ?_ (by simp)
    simp only [List.forall_mem_append, List.forall_mem_singleton]
    exact ⟨⟨⟨rfl, rfl⟩, ⟨rfl, rfl⟩⟩, ⟨rfl, rfl⟩⟩
  | both left right ihl ihr =>
    have hseam : IsSeam " AND " [.leaf (.word ['A', 'N', 'D'])] := by decide
    exact isFactor_connected hseam (.inl (by decide)) (ihl hsolid.1) (ihr hsolid.2)
  | either left right ihl ihr =>
    have hseam : IsSeam " OR " [.leaf (.word ['O', 'R'])] := by decide
    exact isFactor_connected hseam (.inr (by decide)) (ihl hsolid.1) (ihr hsolid.2)

/-- A comparison that is spelled out column by column.  The last column is compared with its value,
and so is each column in front of it, or else it has this value and the later columns decide. -/
inductive IsExpanded (comparison : Comparison) : List String → List Scalar → Condition → Prop
  | last (column : String) (value : Scalar) :
    IsExpanded comparison [column] [value] (.compare column comparison value)
  | more (column : String) (value : Scalar) {column' : String} {columns : List String}
    {value' : Scalar} {values : List Scalar} {condition : Condition}
    (hrest : IsExpanded comparison (column' :: columns) (value' :: values) condition) :
    IsExpanded comparison (column :: column' :: columns) (value :: value' :: values)
      (.either (.compare column comparison value) (.both (.compare column .equal value) condition))

theorem isExpanded_expanded (comparison : Comparison) {columns : List String}
    {values : List Scalar} (hlength : columns.length = values.length) (hne : columns ≠ []) :
    IsExpanded comparison columns values (Condition.expanded comparison columns values) := by
  induction columns generalizing values with
  | nil => exact absurd rfl hne
  | cons column columns ih =>
    cases values with
    | nil => cases hlength
    | cons value values =>
      rw [List.length_cons, List.length_cons, Nat.add_right_cancel_iff] at hlength
      cases columns with
      | nil =>
        obtain rfl : values = [] := List.eq_nil_of_length_eq_zero hlength.symm
        exact .last column value
      | cons column' columns =>
        cases values with
        | nil => cases hlength
        | cons value' values => exact .more column value (ih hlength (List.cons_ne_nil _ _))

theorem IsExpanded.isSolid {comparison : Comparison} {columns : List String}
    {values : List Scalar} {condition : Condition}
    (h : IsExpanded comparison columns values condition) : IsSolid condition := by
  induction h with
  | last column value => trivial
  | more column value _ ih => exact ⟨trivial, trivial, ih⟩

/-- A comparison of the row of columns with the row of values, in a dialect that compares rows or in
one for which it is spelled out. -/
inductive IsKeyComparison (comparison : Comparison) (columns : List String) (values : List Scalar) :
    Bool → Condition → Prop
  | rows : IsKeyComparison comparison columns values true (.compareRows columns comparison values)
  | spelled {condition : Condition} (h : IsExpanded comparison columns values condition) :
    IsKeyComparison comparison columns values false condition

theorem isKeyComparison_after (comparesRows descending : Bool) {columns : List String}
    {values : List Scalar} (hlength : columns.length = values.length) (hne : columns ≠ []) :
    IsKeyComparison (Comparison.behind descending) columns values comparesRows
      (Condition.after comparesRows columns values descending) := by
  cases comparesRows with
  | true => exact .rows
  | false => exact .spelled (isExpanded_expanded _ hlength hne)

/-- The condition for the rows behind a cursor with a value for each column is a factor. -/
theorem isFactor_after (comparesRows : Bool) (aliasName : String) {columns : List String}
    {values : List Scalar} (descending : Bool) (hlength : columns.length = values.length)
    (hne : columns ≠ []) :
    IsFactor ((Condition.after comparesRows columns values descending).render
      ((Dialect.spellingOf name casing).column aliasName)) := by
  refine isFactor_render (isFactor_column aliasName) ?_
  cases isKeyComparison_after comparesRows descending hlength hne with
  | rows => trivial
  | spelled h => exact h.isSolid

/-! ## Batch conditions -/

/-- A type to which a built-in dialect casts is plain. -/
theorem isPlain_textType : IsPlain (Dialect.spellingOf name casing).textType := by
  cases name with
  | postgresql =>
    have htype : IsPlain "TEXT" := ⟨[.leaf (.word "TEXT".toList)], by decide, by decide⟩
    exact htype
  | mysql =>
    have htype : IsPlain "CHAR" := ⟨[.leaf (.word "CHAR".toList)], by decide, by decide⟩
    exact htype
  | db2 =>
    have hname : piecesOf? "VARCHAR" = some [.leaf (.word "VARCHAR".toList)] := by decide
    have hsize : piecesOf? "255" = some [.leaf (.word "255".toList)] := by decide
    have hcall := piecesOf?_call hname hsize
    have htext : "VARCHAR" ++ "(" ++ "255" ++ ")" = "VARCHAR(255)" := by decide
    rw [htext] at hcall
    refine ⟨_, hcall, ?_⟩
    simp only [List.forall_mem_append, List.forall_mem_singleton]
    exact ⟨by decide, rfl, rfl⟩

theorem isFactor_cast {reference : String} (h : IsFactor reference) (sample : BatchValue) :
    IsFactor ((Dialect.spellingOf name casing).cast reference sample) := by
  cases sample with
  | integer n => exact h
  | floating x => exact h
  | text s =>
    have hseam : IsSeam " AS " [.leaf (.word ['A', 'S'])] := by decide
    have htype : IsPlain (Dialect.spellingOf name casing).textType := isPlain_textType
    obtain ⟨ps, hps, -⟩ := h.isPlain.seam hseam (by decide) htype
    have hcast : piecesOf? "CAST" = some [.leaf (.word "CAST".toList)] := by decide
    have hcall := piecesOf?_call hcast hps
    have htext : (Dialect.spellingOf name casing).cast reference (.text s) =
        "CAST" ++ "(" ++ (reference ++ " AS " ++ (Dialect.spellingOf name casing).textType)
          ++ ")" := by
      have hopening : "CAST(" = "CAST" ++ "(" := by decide
      simp only [Spelling.cast, BatchValue.kind, hopening, String.append_assoc]
    rw [htext]
    refine .of_two_le hcall ?_ (by simp)
    simp only [List.forall_mem_append, List.forall_mem_singleton]
    exact ⟨by decide, rfl, rfl⟩

/-- The condition of a batch is a factor. -/
theorem isFactor_batchCondition {aliasName text : String} {key : BatchKey} {scope : BatchScope}
    (h : (Dialect.standard name casing).batchCondition aliasName key scope = .ok text) :
    IsFactor text := by
  unfold Dialect.batchCondition at h
  cases hsample : scope.sample? with
  | none =>
    rw [hsample] at h
    cases h
    exact isFactor_falseLiteral
  | some sample =>
    rw [hsample] at h
    obtain ⟨operand, hoperand, h⟩ := Except.bind_eq_ok_iff.1 h
    cases hoperand
    cases h
    have hequals : IsSeam " = " [.leaf (.symbol '=')] := by decide
    have hdot : IsSeam "." [.leaf (.symbol '.')] := by decide
    have hoperand : IsFactor ((Dialect.spellingOf name casing).cast
        ((Dialect.spellingOf name casing).column aliasName key.child) sample) :=
      isFactor_cast (isFactor_column aliasName key.child) sample
    have htemporary : IsFactor (Dialect.spellingOf name casing).temporaryAlias := by
      rw [Dialect.temporaryAlias_spellingOf]
      exact isFactor_quote _
    have hcompared := hoperand.seam hequals (by decide) htemporary.isPlain
    exact hcompared.seam hdot (by decide) (isFactor_quote key.parent).isPlain

end RelationPaging.Sql
