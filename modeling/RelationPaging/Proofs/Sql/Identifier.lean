import RelationPaging.Proofs.Sql.Escaping
import RelationPaging.Proofs.Sql.Generated

/-!
# Quoted identifiers end where they end

A reader's view of a single identifier: the value of the identifier that a text starts with, and the
text behind it.  An identifier is read by the rule of doubled quotes, with the quote of its dialect.

Reading and quoting are inverse to each other (`readIdentifier?_eq_some_iff`): what is read is what
quoting has written, and what quoting has written is read back unless the same quote follows, which
would double the closing one.  So an identifier does not run into the text behind it, and no two
references to a column are the same text, whatever quotes and dots are in the names.
-/

namespace RelationPaging.Sql

open Escaping (doubled doubled_cons)

/-! ## Reading -/

/-- Reads what is left of an identifier: its characters up to the quote that ends it, and the text
behind this quote.  Two quotes in a row stand for one and do not end it. -/
def readQuoted? (quote : Quote) : List Char → Option (List Char × List Char)
  | [] => none
  | [c] => if c = quote.char then some ([], []) else none
  | c :: d :: cs =>
    if c = quote.char then
      if d = quote.char then (readQuoted? quote cs).map fun (content, rest) => (d :: content, rest)
      else some ([], d :: cs)
    else (readQuoted? quote (d :: cs)).map fun (content, rest) => (c :: content, rest)

/-- Reads the identifier that a text starts with, in the quotes of a dialect: its value, and the
text behind it. -/
def readIdentifier? (name : DialectName) (text : String) : Option (String × String) :=
  match text.toList with
  | [] => none
  | c :: cs =>
    if c = (identifierQuote name).char then
      (readQuoted? (identifierQuote name) cs).map fun (content, rest) =>
        (String.ofList content, String.ofList rest)
    else none

/-- Whether a text would double the quote of an identifier in front of it. -/
def StartsWithQuote (name : DialectName) (text : String) : Prop :=
  text.toList.head? = some (identifierQuote name).char

/-! ## What is read was quoted -/

section

variable {quote : Quote} {content rest : List Char}

/-- A quote that is not followed by another one ends an identifier. -/
theorem readQuoted?_closing (h : rest.head? ≠ some quote.char) :
    readQuoted? quote (quote.char :: rest) = some ([], rest) := by
  cases rest with
  | nil => rw [readQuoted?, if_pos rfl]
  | cons d rest =>
    have hd : d ≠ quote.char := fun heq => h (congrArg some heq)
    rw [readQuoted?, if_pos rfl, if_neg hd]

/-- Any other character belongs to the identifier, and so does a doubled quote. -/
theorem readQuoted?_doubled_append (c : Char) (cs : List Char) :
    readQuoted? quote (doubled quote [c] ++ cs) =
      (readQuoted? quote cs).map fun (content, rest) => (c :: content, rest) := by
  by_cases hc : c = quote.char
  · subst hc
    simp [doubled, readQuoted?]
  · cases cs <;> simp [doubled, readQuoted?, hc]

/-- What is written in doubled quotes is read back. -/
theorem readQuoted?_doubled (h : rest.head? ≠ some quote.char) :
    readQuoted? quote (doubled quote content ++ quote.char :: rest) = some (content, rest) := by
  induction content with
  | nil => exact readQuoted?_closing h
  | cons c content ih =>
    rw [doubled_cons, List.append_assoc, readQuoted?_doubled_append, ih, Option.map_some]

/-- What is read was written in doubled quotes, and the quote behind it is not doubled. -/
theorem eq_doubled_of_readQuoted? {cs : List Char}
    (h : readQuoted? quote cs = some (content, rest)) :
    cs = doubled quote content ++ quote.char :: rest ∧ rest.head? ≠ some quote.char := by
  induction cs using readQuoted?.induct quote generalizing content with
  | case1 => cases h
  | case2 =>
    rw [readQuoted?, if_pos rfl] at h
    cases h
    exact ⟨rfl, by simp⟩
  | case3 c hc =>
    rw [readQuoted?, if_neg hc] at h
    cases h
  | case4 cs ih =>
    rw [readQuoted?, if_pos rfl, if_pos rfl] at h
    obtain ⟨⟨content, rest⟩, hcs, heq⟩ := Option.map_eq_some_iff.1 h
    cases heq
    obtain ⟨rfl, hrest⟩ := ih hcs
    exact ⟨by simp [doubled], hrest⟩
  | case5 d cs hd =>
    rw [readQuoted?, if_pos rfl, if_neg hd] at h
    cases h
    exact ⟨rfl, fun heq => hd (Option.some.inj heq)⟩
  | case6 c d cs hc ih =>
    rw [readQuoted?, if_neg hc] at h
    obtain ⟨⟨content, rest⟩, hcs, heq⟩ := Option.map_eq_some_iff.1 h
    cases heq
    obtain ⟨hdcs, hrest⟩ := ih hcs
    rw [hdcs, doubled_cons]
    exact ⟨by simp [doubled, hc], hrest⟩

end

/-! ## Identifiers -/

variable {name : DialectName} {casing : Casing}

theorem toList_quote (identifier : String) :
    ((Dialect.spellingOf name casing).quote identifier).toList =
      (identifierQuote name).char ::
        (doubled (identifierQuote name) identifier.toList ++ [(identifierQuote name).char]) := by
  rw [quote_eq, quoteDoubling, String.toList_ofList, List.cons_append]
  rfl

/-- Reading an identifier takes off what quoting has written, and nothing else is an identifier. -/
theorem readIdentifier?_eq_some_iff {text identifier rest : String} :
    readIdentifier? name text = some (identifier, rest) ↔
      text = (Dialect.spellingOf name casing).quote identifier ++ rest ∧
        ¬ StartsWithQuote name rest := by
  rw [← String.toList_inj, String.toList_append, toList_quote, readIdentifier?, StartsWithQuote]
  constructor
  · intro h
    split at h
    · cases h
    · next c cs htext =>
      split at h
      · next hc =>
        obtain ⟨⟨content, tail⟩, hread, heq⟩ := Option.map_eq_some_iff.1 h
        cases heq
        obtain ⟨rfl, hrest⟩ := eq_doubled_of_readQuoted? hread
        rw [htext, hc]
        simp [hrest]
      · cases h
  · rintro ⟨htext, hrest⟩
    rw [htext, List.cons_append, List.append_assoc]
    simp [readQuoted?_doubled hrest]

/-- Two identifiers with a text behind each are the same text only if they are the same identifier
with the same text behind it. -/
theorem quote_append_inj {identifier identifier' rest rest' : String}
    (hrest : ¬ StartsWithQuote name rest) (hrest' : ¬ StartsWithQuote name rest')
    (h : (Dialect.spellingOf name casing).quote identifier ++ rest =
      (Dialect.spellingOf name casing).quote identifier' ++ rest') :
    identifier = identifier' ∧ rest = rest' := by
  have hread := readIdentifier?_eq_some_iff.2 ⟨h, hrest'⟩
  rw [readIdentifier?_eq_some_iff.2 ⟨rfl, hrest⟩] at hread
  exact Prod.mk.inj (Option.some.inj hread)

/-- A reference to a column determines the alias and the column. -/
theorem column_inj {aliasName aliasName' column column' : String} :
    (Dialect.spellingOf name casing).column aliasName column =
        (Dialect.spellingOf name casing).column aliasName' column' ↔
      aliasName = aliasName' ∧ column = column' := by
  constructor
  · intro h
    -- neither the dot nor the end of the text is a quote
    have hdot : ∀ column, ¬ StartsWithQuote name
        ("." ++ (Dialect.spellingOf name casing).quote column) := by
      intro column
      cases name <;> simp [StartsWithQuote, identifierQuote, Quote.char]
    have hend : ¬ StartsWithQuote name "" := by simp [StartsWithQuote]
    rw [Dialect.column_spellingOf, Dialect.column_spellingOf, String.append_assoc,
      String.append_assoc] at h
    obtain ⟨rfl, hrest⟩ := quote_append_inj (hdot column) (hdot column') h
    have hcolumn := (String.append_right_inj ".").1 hrest
    exact ⟨rfl, (quote_append_inj hend hend (congrArg (· ++ "") hcolumn)).1⟩
  · rintro ⟨rfl, rfl⟩
    rfl

/-! ## Main result -/

/-- **Quoted identifiers are self-delimiting.**  In every built-in dialect, a reader takes an
identifier off a text if and only if the text is what quoting writes for it, with a text behind it
that does not start with the quote.  In front of such a text the identifier is one token.  So two
references to columns are the same text only if alias and column are the same. -/
theorem quote_selfDelimiting (name : DialectName) (casing : Casing) :
    (∀ text identifier rest, readIdentifier? name text = some (identifier, rest) ↔
      text = (Dialect.standard name casing).quote identifier ++ rest ∧
        ¬ StartsWithQuote name rest) ∧
    (∀ identifier rest, ¬ StartsWithQuote name rest →
      tokens? ((Dialect.standard name casing).quote identifier ++ rest).toList =
        (tokens? rest.toList).map (.quoted (identifierQuote name) identifier.toList :: ·)) ∧
    ∀ aliasName aliasName' column column',
      (Dialect.standard name casing).column aliasName column =
          (Dialect.standard name casing).column aliasName' column' ↔
        aliasName = aliasName' ∧ column = column' := by
  refine ⟨fun _ _ _ => readIdentifier?_eq_some_iff, fun identifier rest h => ?_,
    fun _ _ _ _ => column_inj⟩
  have hquote : (Dialect.standard name casing).quote identifier =
      quoteDoubling (identifierQuote name).char identifier := quote_eq identifier
  rw [hquote, String.toList_append, tokens?_quoteDoubling_append _ _ h]

example : readIdentifier? .mysql "`a``.`.`b`" = some ("a`.", ".`b`") := by decide

end RelationPaging.Sql
