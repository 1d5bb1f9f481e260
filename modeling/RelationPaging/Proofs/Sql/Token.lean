import RelationPaging.Batch
import RelationPaging.Dialect.Spelling
import RelationPaging.Text.Blank

/-!
# Tokens of SQL text

A reader's view of the text that planning writes: SQL text as a list of words, quoted parts and
symbols.  A quoted part runs from a quote to the next quote of the same kind that is not doubled,
and a doubled quote inside it stands for one.  White space separates tokens and is dropped.  All
three quotes of the built-in dialects are known, since none of these dialects uses the quote of
another one for anything else.

The reader is a machine that takes one character at a time, so that reading a text in two parts
is reading the first part and going on with the second (`scan_append`).  What is needed in the
sequel is when the tokens of a text are those of its parts: at a character that neither belongs to
a word nor is a quote, the part before it is finished (`tokens?_append_of_isBreak`), whence the
texts that can join two others (`tokens?_seam`).
-/

namespace RelationPaging.Sql

/-! ## Tokens -/

/-- The quotes around texts and identifiers. -/
inductive Quote where
  | single
  | double
  | back
  deriving DecidableEq, Repr

namespace Quote

/-- The character of a quote. -/
def char : Quote → Char
  | single => '\''
  | double => '"'
  | back => '\x60'

/-- The quote that a character is. -/
def ofChar? (c : Char) : Option Quote :=
  if c = '\'' then some single else if c = '"' then some double
  else if c = '\x60' then some back else none

@[simp] theorem ofChar?_char (quote : Quote) : ofChar? quote.char = some quote := by
  cases quote <;> rfl

end Quote

/-- A token of SQL text. -/
inductive Token where
  | word (chars : List Char)
  | quoted (quote : Quote) (content : List Char)
  | symbol (char : Char)
  deriving DecidableEq, Repr

/-- The characters of words: letters, digits, the underscore, the dollar sign and all that is
neither ASCII nor white space. -/
def isWordChar (c : Char) : Bool :=
  c.isAlphanum || c = '_' || c = '$' || (128 ≤ c.toNat && !Text.isWhiteSpace c)

/-- The characters that end whatever stands before them. -/
def isBreak (c : Char) : Bool :=
  (Quote.ofChar? c).isNone && !isWordChar c

/-! ## Reading -/

/-- Where the reader stands: between two tokens, in a word, inside of quotes, or behind a quote
that ends a quoted part unless the same quote follows. -/
inductive Mode where
  | between
  | word (read : List Char)
  | inside (quote : Quote) (read : List Char)
  | behind (quote : Quote) (read : List Char)
  deriving DecidableEq, Repr

namespace Mode

/-- What a character does between two tokens. -/
def start (c : Char) : Mode × List Token :=
  if Text.isWhiteSpace c then (between, [])
  else
    match Quote.ofChar? c with
    | some quote => (inside quote [], [])
    | none => if isWordChar c then (word [c], []) else (between, [.symbol c])

/-- One character further: the mode that follows and the tokens that are finished. -/
def next : Mode → Char → Mode × List Token
  | between, c => start c
  | word read, c =>
    if isWordChar c then (word (read ++ [c]), [])
    else ((start c).1, .word read :: (start c).2)
  | inside quote read, c =>
    if c = quote.char then (behind quote read, []) else (inside quote (read ++ [c]), [])
  | behind quote read, c =>
    if c = quote.char then (inside quote (read ++ [c]), [])
    else ((start c).1, .quoted quote read :: (start c).2)

/-- The token that the end of the text finishes.  Inside of quotes the text may not end. -/
def atEnd : Mode → Option (List Token)
  | between => some []
  | word read => some [.word read]
  | inside _ _ => none
  | behind quote read => some [.quoted quote read]

end Mode

/-- Reads a text from a given mode: the mode at the end and the tokens finished on the way. -/
def scan : Mode → List Char → Mode × List Token
  | mode, [] => (mode, [])
  | mode, c :: cs =>
    ((scan (mode.next c).1 cs).1, (mode.next c).2 ++ (scan (mode.next c).1 cs).2)

/-- The tokens of a text, unless it ends inside of quotes. -/
def tokens? (cs : List Char) : Option (List Token) :=
  (scan .between cs).1.atEnd.map ((scan .between cs).2 ++ ·)

/-! ## Reading in parts -/

theorem scan_append (mode : Mode) (xs ys : List Char) :
    scan mode (xs ++ ys) =
      ((scan (scan mode xs).1 ys).1, (scan mode xs).2 ++ (scan (scan mode xs).1 ys).2) := by
  induction xs generalizing mode with
  | nil => rfl
  | cons x xs ih =>
    rw [List.cons_append, scan, ih]
    simp only [scan, List.append_assoc]

/-- A break ends what stands before it. -/
theorem Mode.next_of_isBreak {mode : Mode} {c : Char} {ts : List Token} (hc : isBreak c = true)
    (h : mode.atEnd = some ts) : mode.next c = ((start c).1, ts ++ (start c).2) := by
  simp only [isBreak, Bool.and_eq_true, Bool.not_eq_true', Option.isNone_iff_eq_none] at hc
  obtain ⟨hquote, hword⟩ := hc
  cases mode with
  | between =>
    cases h
    rfl
  | word read =>
    cases h
    simp [next, hword]
  | inside quote read => cases h
  | behind quote read =>
    cases h
    have hne : c ≠ quote.char := by
      rintro rfl
      rw [Quote.ofChar?_char] at hquote
      cases hquote
    simp [next, hne]

/-- Between two tokens nothing is left over from what stands before. -/
theorem tokens?_append_of_between {xs ys : List Char} {ts : List Token}
    (h : scan .between xs = (.between, ts)) :
    tokens? (xs ++ ys) = (tokens? ys).map (ts ++ ·) := by
  simp only [tokens?, scan_append, h, Option.map_map]
  congr 1
  funext us
  exact List.append_assoc ts _ us

/-- What is finished at the end of a text is finished by a break as well. -/
theorem tokens?_append_of_isBreak {xs cs : List Char} {mode : Mode} {ts ends : List Token}
    (hxs : scan .between xs = (mode, ts)) (hends : mode.atEnd = some ends)
    (hbreak : cs.head?.any isBreak = true) :
    tokens? (xs ++ cs) = (tokens? cs).map (ts ++ ends ++ ·) := by
  cases cs with
  | nil => cases hbreak
  | cons c cs =>
    have hnext := Mode.next_of_isBreak hbreak hends
    have hstart : Mode.between.next c = Mode.start c := rfl
    simp only [tokens?, scan_append, hxs, scan, hnext, hstart, Option.map_map]
    congr 1
    funext us
    simp

/-- A seam starts with a break and leaves the reader between two tokens, so that it can stand
between any two texts; the tokens of the whole are those of the three parts. -/
theorem tokens?_seam {xs seam ys : List Char} {ts us vs : List Token}
    (hbreak : seam.head?.any isBreak = true) (hseam : scan .between seam = (.between, us))
    (hxs : tokens? xs = some ts) (hys : tokens? ys = some vs) :
    tokens? (xs ++ seam ++ ys) = some (ts ++ us ++ vs) := by
  obtain ⟨ends, hends, rfl⟩ := Option.map_eq_some_iff.1 hxs
  have hbehind : (seam ++ ys).head?.any isBreak = true := by
    cases seam with
    | nil => cases hbreak
    | cons c cs => exact hbreak
  rw [List.append_assoc, tokens?_append_of_isBreak rfl hends hbehind,
    tokens?_append_of_between hseam, hys]
  simp only [Option.map_some, List.append_assoc]

/-- A text between an opening and a closing that leave the reader between two tokens. -/
theorem tokens?_enclosed {opening body closing : List Char} {ts us vs : List Token}
    (hopening : scan .between opening = (.between, us))
    (hbreak : closing.head?.any isBreak = true)
    (hclosing : scan .between closing = (.between, vs)) (hbody : tokens? body = some ts) :
    tokens? (opening ++ body ++ closing) = some (us ++ ts ++ vs) := by
  have hend : tokens? (body ++ closing ++ []) = some (ts ++ vs ++ []) :=
    tokens?_seam hbreak hclosing hbody rfl
  rw [List.append_nil, List.append_nil] at hend
  rw [List.append_assoc, tokens?_append_of_between hopening, hend, Option.map_some,
    List.append_assoc]

/-- Two texts around a seam, in parentheses. -/
theorem tokens?_connected {p q seam : String} {ts us vs : List Token}
    (hbreak : seam.toList.head?.any isBreak = true)
    (hseam : scan .between seam.toList = (.between, us)) (hp : tokens? p.toList = some ts)
    (hq : tokens? q.toList = some vs) :
    tokens? ("(" ++ p ++ seam ++ q ++ ")").toList =
      some ([.symbol '('] ++ (ts ++ us ++ vs) ++ [.symbol ')']) := by
  have hopening : scan .between "(".toList = (.between, [.symbol '(']) := by decide
  have hclosing : scan .between ")".toList = (.between, [.symbol ')']) := by decide
  have hbody := tokens?_seam hbreak hseam hp hq
  have henclosed := tokens?_enclosed hopening (by decide) hclosing hbody
  simp only [String.toList_append, List.append_assoc] at henclosed ⊢
  exact henclosed

/-! ## Quoted parts -/

/-- Inside of quotes, a text with its quotes doubled is read as it was. -/
theorem scan_inside_doubled (quote : Quote) (read content : List Char) :
    scan (.inside quote read)
        (content.flatMap fun c => if c = quote.char then [quote.char, quote.char] else [c]) =
      (.inside quote (read ++ content), []) := by
  induction content generalizing read with
  | nil => simp [scan]
  | cons c content ih =>
    rw [List.flatMap_cons, scan_append]
    by_cases hc : c = quote.char
    · subst hc
      simp [scan, Mode.next, ih]
    · simp [scan, Mode.next, hc, ih]

/-- Behind the closing quote of a part with its quotes doubled, the whole of it has been read. -/
theorem scan_quoteDoubling (quote : Quote) (name : String) :
    scan .between (quoteDoubling quote.char name).toList = (.behind quote name.toList, []) := by
  have hstart : (Mode.between).next quote.char = (.inside quote [], []) := by
    cases quote <;> decide
  have hbody := scan_inside_doubled quote [] name.toList
  rw [List.nil_append] at hbody
  simp only [quoteDoubling, String.toList_ofList, List.cons_append, scan, hstart, scan_append,
    hbody]
  simp [Mode.next]

/-- A part between quotes, with the quotes in it doubled, is one token. -/
theorem tokens?_quoteDoubling (quote : Quote) (name : String) :
    tokens? (quoteDoubling quote.char name).toList = some [.quoted quote name.toList] := by
  rw [tokens?, scan_quoteDoubling]
  rfl

/-- It is the first token of any text that it starts, unless the same quote follows. -/
theorem tokens?_quoteDoubling_append (quote : Quote) (name : String) {cs : List Char}
    (h : cs.head? ≠ some quote.char) :
    tokens? ((quoteDoubling quote.char name).toList ++ cs) =
      (tokens? cs).map (.quoted quote name.toList :: ·) := by
  simp only [tokens?, scan_append, scan_quoteDoubling, List.nil_append]
  cases cs with
  | nil => rfl
  | cons c cs =>
    have hc : c ≠ quote.char := fun heq => h (congrArg some heq)
    simp only [scan, Mode.next, if_neg hc, Option.map_map]
    rfl

/-- The literal of a text is one token. -/
theorem tokens?_textLiteral (s : String) :
    tokens? (textLiteral s).toList = some [.quoted .single s.toList] :=
  tokens?_quoteDoubling .single s

/-! ## Words and numbers -/

/-- A token without quotes, all of whose characters belong to a class. -/
def Token.Within (p : Char → Bool) : Token → Prop
  | word chars => ∀ c ∈ chars, p c = true
  | quoted _ _ => False
  | symbol c => p c = true

/-- A mode outside of quotes, with all characters that were read in a class. -/
def Mode.Within (p : Char → Bool) : Mode → Prop
  | between => True
  | word read => ∀ c ∈ read, p c = true
  | inside _ _ => False
  | behind _ _ => False

section

variable {p : Char → Bool}

theorem Mode.Within.start (hp : ∀ c, p c = true → Quote.ofChar? c = none) {c : Char}
    (hc : p c = true) : (start c).1.Within p ∧ ∀ t ∈ (start c).2, t.Within p := by
  unfold Mode.start
  rw [hp c hc]
  split
  · exact ⟨trivial, by simp⟩
  · by_cases hword : isWordChar c
    · simp [hword, Within, hc]
    · simp [hword, Within, Token.Within, hc]

theorem Mode.Within.next (hp : ∀ c, p c = true → Quote.ofChar? c = none) {mode : Mode} {c : Char}
    (hmode : mode.Within p) (hc : p c = true) :
    (mode.next c).1.Within p ∧ ∀ t ∈ (mode.next c).2, t.Within p := by
  obtain ⟨hstart, htokens⟩ := Within.start hp hc
  cases mode with
  | between => exact ⟨hstart, htokens⟩
  | word read =>
    by_cases hword : isWordChar c
    · rw [Mode.next, if_pos hword]
      refine ⟨fun d hd => ?_, by simp⟩
      rcases List.mem_append.1 hd with hd | hd
      · exact hmode d hd
      · rw [List.mem_singleton.1 hd]
        exact hc
    · rw [Mode.next, if_neg hword]
      exact ⟨hstart, List.forall_mem_cons.2 ⟨hmode, htokens⟩⟩
  | inside quote read => exact hmode.elim
  | behind quote read => exact hmode.elim

theorem Mode.Within.scan (hp : ∀ c, p c = true → Quote.ofChar? c = none) {mode : Mode}
    {cs : List Char} (hmode : mode.Within p) (hcs : ∀ c ∈ cs, p c = true) :
    (scan mode cs).1.Within p ∧ ∀ t ∈ (scan mode cs).2, t.Within p := by
  induction cs generalizing mode with
  | nil => exact ⟨hmode, by simp [Sql.scan]⟩
  | cons c cs ih =>
    obtain ⟨hc, hcs⟩ := List.forall_mem_cons.1 hcs
    obtain ⟨hnext, hfirst⟩ := hmode.next hp hc
    obtain ⟨hlast, hrest⟩ := ih hnext hcs
    exact ⟨hlast, fun t ht => (List.mem_append.1 ht).elim (hfirst t) (hrest t)⟩

/-- A text without quotes has tokens, and they are made of its characters. -/
theorem exists_tokens?_within (hp : ∀ c, p c = true → Quote.ofChar? c = none) {cs : List Char}
    (hcs : ∀ c ∈ cs, p c = true) : ∃ ts, tokens? cs = some ts ∧ ∀ t ∈ ts, t.Within p := by
  have hbetween : Mode.between.Within p := trivial
  obtain ⟨hmode, htokens⟩ := hbetween.scan hp hcs
  unfold tokens?
  cases hlast : (scan .between cs).1 with
  | between => exact ⟨_, rfl, by simpa using htokens⟩
  | word read =>
    rw [hlast] at hmode
    refine ⟨_, rfl, fun t ht => ?_⟩
    rcases List.mem_append.1 ht with ht | ht
    · exact htokens t ht
    · rw [List.mem_singleton.1 ht]
      exact hmode
  | inside quote read =>
    rw [hlast] at hmode
    exact hmode.elim
  | behind quote read =>
    rw [hlast] at hmode
    exact hmode.elim

end

end RelationPaging.Sql
