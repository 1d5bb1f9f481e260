import RelationPaging.Proofs.Sql.Generated
import RelationPaging.Proofs.Sql.Truth

/-!
# What a condition says of a row

A reader's view of the atoms of a condition, as far as cursor conditions have any: a comparison of
columns with constants, one of each or a row of each.  `RowView` is what a database knows about one
row of a table, and `RowView.truth?` is the truth of the text of a condition in that row, from the
tokens of the text alone.  A text that is not understood has none.
-/

namespace RelationPaging.Sql

/-! ## Columns and constants -/

/-- A column as a condition refers to it. -/
structure Reference where
  aliasName : String
  column : String
  deriving DecidableEq, Repr

/-- The column that tokens refer to.  Single quotes are for texts, not for names. -/
def Reference.ofTokens? : List Token → Option Reference
  | [.quoted p aliasName, .symbol '.', .quoted q column] =>
    if p = .single ∨ q = .single then none
    else some ⟨String.ofList aliasName, String.ofList column⟩
  | _ => none

/-- A constant other than NULL.  A number is given by its text. -/
inductive Constant where
  | bool (value : Bool)
  | number (text : String)
  | text (value : String)
  deriving DecidableEq, Repr

/-- The characters of a token. -/
def Token.chars : Token → List Char
  | word chars => chars
  | quoted _ content => content
  | symbol char => [char]

/-- The characters of a token that can be part of a number. -/
def Token.numberChars? : Token → Option (List Char)
  | word chars => if chars.all isNumberChar then some chars else none
  | symbol char => if isNumberChar char then some [char] else none
  | quoted _ _ => none

/-- The constant that tokens are, where the inner option is absent for NULL. -/
def Constant.ofTokens? : List Token → Option (Option Constant)
  | [] => none
  | [.word ['N', 'U', 'L', 'L']] => some none
  | [.word ['T', 'R', 'U', 'E']] => some (some (bool true))
  | [.word ['F', 'A', 'L', 'S', 'E']] => some (some (bool false))
  | [.quoted .single content] => some (some (text (String.ofList content)))
  | tokens => (tokens.mapM Token.numberChars?).map fun parts =>
      some (number (String.ofList parts.flatten))

/-! ## Comparisons -/

/-- The comparison that a token is the sign of. -/
def Comparison.ofToken? : Token → Option Comparison
  | .symbol '<' => some .less
  | .symbol '=' => some .equal
  | .symbol '>' => some .greater
  | _ => none

/-- Reads a row of items in parentheses, or one item. -/
def itemsOf? {α : Type} (read : List Token → Option α) (tokens : List Token) : Option (List α) :=
  if tokens.head? = some (.symbol '(') then
    if tokens.getLast? = some (.symbol ')') then
      (tokens.tail.dropLast.splitOn (.symbol ',')).mapM read
    else none
  else (read tokens).map ([·])

/-- A comparison of columns with constants. -/
structure RowComparison where
  references : List Reference
  comparison : Comparison
  constants : List (Option Constant)
  deriving DecidableEq, Repr

/-- The comparison that the tokens of an atom are. -/
def RowComparison.ofTokens? (tokens : List Token) : Option RowComparison :=
  match tokens.dropWhile fun token => (Comparison.ofToken? token).isNone with
  | [] => none
  | sign :: right => do
    let left := tokens.takeWhile fun token => (Comparison.ofToken? token).isNone
    return ⟨← itemsOf? Reference.ofTokens? left, ← Comparison.ofToken? sign,
      ← itemsOf? Constant.ofTokens? right⟩

/-! ## Rows -/

/-- What a database knows about one row: the values of the columns, which are absent where they are
NULL, what a constant stands for where it is compared with a column, and how the values of a column
are ordered. -/
structure RowView (V : Type) where
  value : Reference → Option V
  denote : Reference → Constant → V
  compare : Reference → V → V → Ordering

namespace RowView

variable {V : Type}

/-- How a column is ordered against a constant, unless one of the two is NULL. -/
def ordering? (view : RowView V) (reference : Reference) (constant : Option Constant) :
    Option Ordering := do
  return view.compare reference (← view.value reference) (view.denote reference (← constant))

/-- The truth of a comparison in a row.  Both sides have the same number of items, and rows are
compared by strict comparisons only. -/
def truthOf? (view : RowView V) (c : RowComparison) : Option Truth :=
  if c.references.length = c.constants.length ∧
      (c.comparison.IsStrict ∨ c.references.length = 1) then
    some (c.comparison.rowTruth (List.zipWith view.ordering? c.references c.constants))
  else none

/-- The truth of an atom in a row, if it is a comparison. -/
def atomTruth? (view : RowView V) (tokens : List Token) : Option Truth :=
  (RowComparison.ofTokens? tokens).bind view.truthOf?

/-- The truth of a text in a row, if it is a condition. -/
def truth? (view : RowView V) (text : String) : Option Truth :=
  (read? text).bind (Formula.truth? view.atomTruth?)

end RowView

/-! ## Reading comparisons back -/

/-- A token that neither separates items nor ends them. -/
def Token.IsItem (token : Token) : Prop :=
  token ≠ .symbol '(' ∧ token ≠ .symbol ')' ∧ token ≠ .symbol ',' ∧
    Comparison.ofToken? token = none ∧ (Piece.leaf token).IsPlain

instance (token : Token) : Decidable token.IsItem :=
  inferInstanceAs (Decidable (_ ∧ _ ∧ _ ∧ _ ∧ _))

theorem itemsOf?_single {α : Type} {read : List Token → Option α} {ts : List Token} {x : α}
    (hitems : ∀ t ∈ ts, t.IsItem) (h : read ts = some x) : itemsOf? read ts = some [x] := by
  have hhead : ts.head? ≠ some (.symbol '(') := by
    intro hhead
    exact (hitems _ (List.mem_of_head? hhead)).1 rfl
  rw [itemsOf?, if_neg hhead, h]
  rfl

/-- Items between commas. -/
def commaSeparated (parts : List (List Token)) : List Token :=
  [.symbol ','].intercalate parts

/-- Items between commas, in parentheses. -/
def rowTokens (parts : List (List Token)) : List Token :=
  .symbol '(' :: commaSeparated parts ++ [.symbol ')']

theorem mem_commaSeparated {parts : List (List Token)} {t : Token}
    (h : t ∈ commaSeparated parts) : t = .symbol ',' ∨ ∃ ts ∈ parts, t ∈ ts := by
  induction parts with
  | nil => simp [commaSeparated] at h
  | cons ts parts ih =>
    cases parts with
    | nil => exact .inr ⟨ts, List.mem_cons_self, by simpa [commaSeparated] using h⟩
    | cons ts' parts =>
      rw [commaSeparated, List.intercalate_cons_cons, List.append_assoc, List.mem_append] at h
      rcases h with h | h
      · exact .inr ⟨ts, List.mem_cons_self, h⟩
      · rcases List.mem_cons.1 h with h | h
        · exact .inl h
        · rcases ih h with h | ⟨us, hus, h⟩
          · exact .inl h
          · exact .inr ⟨us, List.mem_cons_of_mem ts hus, h⟩

/-- There is no sign in a row of items. -/
theorem ofToken?_of_mem_rowTokens {parts : List (List Token)}
    (hitems : ∀ ts ∈ parts, ∀ t ∈ ts, t.IsItem) {t : Token} (h : t ∈ rowTokens parts) :
    Comparison.ofToken? t = none := by
  rw [rowTokens, List.cons_append, List.mem_cons, List.mem_append, List.mem_singleton] at h
  rcases h with rfl | h | rfl
  · rfl
  · rcases mem_commaSeparated h with rfl | ⟨ts, hts, h⟩
    · rfl
    · exact (hitems ts hts t h).2.2.2.1
  · rfl

theorem itemsOf?_rowTokens {α : Type} {read : List Token → Option α} {parts : List (List Token)}
    {items : List α} (hne : parts ≠ []) (hitems : ∀ ts ∈ parts, ∀ t ∈ ts, t.IsItem)
    (h : List.Forall₂ (fun ts x => read ts = some x) parts items) :
    itemsOf? read (rowTokens parts) = some items := by
  have hlast : (rowTokens parts).getLast? = some (.symbol ')') := List.getLast?_concat
  have hinner : (rowTokens parts).tail.dropLast = commaSeparated parts := by
    rw [rowTokens, List.cons_append, List.tail_cons, List.dropLast_concat]
  have hcomma : ∀ ts ∈ parts, Token.symbol ',' ∉ ts := by
    intro ts hts hmem
    exact (hitems ts hts _ hmem).2.2.1 rfl
  have hhead : (rowTokens parts).head? = some (.symbol '(') := rfl
  rw [itemsOf?, if_pos hhead, if_pos hlast, hinner, commaSeparated,
    List.splitOn_intercalate _ hcomma hne]
  exact Option.mapM_eq_some_iff.2 h

/-- A comparison is read back from its two sides. -/
theorem RowComparison.ofTokens?_eq {left right : List Token} {sign : Token}
    {comparison : Comparison} {references : List Reference} {constants : List (Option Constant)}
    (hleft : ∀ t ∈ left, Comparison.ofToken? t = none)
    (hsign : Comparison.ofToken? sign = some comparison)
    (hreferences : itemsOf? Reference.ofTokens? left = some references)
    (hconstants : itemsOf? Constant.ofTokens? right = some constants) :
    ofTokens? (left ++ sign :: right) = some ⟨references, comparison, constants⟩ := by
  have hside : ∀ t ∈ left, (Comparison.ofToken? t).isNone = true := by
    intro t ht
    rw [hleft t ht]
    rfl
  have hright : (left ++ sign :: right).dropWhile (fun t => (Comparison.ofToken? t).isNone) =
      sign :: right := by
    rw [List.dropWhile_append_of_pos hside]
    simp [hsign]
  have hbefore : (left ++ sign :: right).takeWhile (fun t => (Comparison.ofToken? t).isNone) =
      left := by
    rw [List.takeWhile_append_of_pos hside]
    simp [hsign]
  rw [ofTokens?, hright]
  simp only [hbefore, hreferences, hsign, hconstants]
  rfl

/-! ## Reading literals back -/

/-- The characters that a reader holds back. -/
def Mode.pending : Mode → List Char
  | between => []
  | word read => read
  | inside _ read => read
  | behind _ read => read

/-- Outside of quotes and without white space, no character is lost. -/
theorem Mode.chars_next {mode : Mode} {c : Char} (hmode : mode.Within isNumberChar)
    (hc : isNumberChar c = true) :
    (mode.next c).2.flatMap Token.chars ++ (mode.next c).1.pending = mode.pending ++ [c] := by
  have hstart : (start c).2.flatMap Token.chars ++ (start c).1.pending = [c] := by
    rw [start, isWhiteSpace_of_isNumberChar hc, ofChar?_of_isNumberChar hc]
    cases isWordChar c <;> rfl
  cases mode with
  | between => exact hstart
  | word read =>
    by_cases hword : isWordChar c
    · simp [next, hword, pending]
    · rw [next, if_neg hword, List.flatMap_cons, List.append_assoc, hstart]
      rfl
  | inside quote read => exact hmode.elim
  | behind quote read => exact hmode.elim

theorem chars_scan {mode : Mode} {cs : List Char} (hmode : mode.Within isNumberChar)
    (hcs : ∀ c ∈ cs, isNumberChar c = true) :
    (scan mode cs).2.flatMap Token.chars ++ (scan mode cs).1.pending = mode.pending ++ cs := by
  induction cs generalizing mode with
  | nil => simp [scan]
  | cons c cs ih =>
    obtain ⟨hc, hcs⟩ := List.forall_mem_cons.1 hcs
    obtain ⟨hnext, -⟩ := hmode.next (fun _ => ofChar?_of_isNumberChar) hc
    have hstep := Mode.chars_next hmode hc
    rw [scan, List.flatMap_append, List.append_assoc, ih hnext hcs, ← List.append_assoc, hstep,
      List.append_assoc]
    rfl

/-- The tokens of a number have its characters. -/
theorem exists_tokens?_number {cs : List Char} (hcs : ∀ c ∈ cs, isNumberChar c = true) :
    ∃ ts, tokens? cs = some ts ∧ (∀ t ∈ ts, t.Within isNumberChar) ∧
      ts.flatMap Token.chars = cs := by
  obtain ⟨ts, hts, hwithin⟩ := exists_tokens?_within (fun _ => ofChar?_of_isNumberChar) hcs
  refine ⟨ts, hts, hwithin, ?_⟩
  have hchars : (scan .between cs).2.flatMap Token.chars ++ (scan .between cs).1.pending = cs :=
    chars_scan trivial hcs
  obtain ⟨ends, hends, rfl⟩ := Option.map_eq_some_iff.1 hts
  have hpending : ends.flatMap Token.chars = (scan .between cs).1.pending := by
    cases hmode : (scan .between cs).1 with
    | inside quote read =>
      rw [hmode] at hends
      cases hends
    | between | word read | behind quote read =>
      rw [hmode] at hends
      cases hends
      simp [Mode.pending, Token.chars]
  rw [List.flatMap_append, hpending, hchars]

/-- Tokens of number characters are a number. -/
theorem Constant.ofTokens?_number {ts : List Token} (hne : ts ≠ [])
    (h : ∀ t ∈ ts, t.Within isNumberChar) :
    ofTokens? ts = some (some (.number (String.ofList (ts.flatMap Token.chars)))) := by
  have hparts : ts.mapM Token.numberChars? = some (ts.map Token.chars) := by
    refine Option.mapM_eq_some_iff.2 ?_
    rw [List.forall₂_map_right_iff, List.forall₂_same]
    intro t ht
    have hwithin := h t ht
    cases t with
    | word chars => exact if_pos (List.all_eq_true.2 hwithin)
    | quoted quote content => exact hwithin.elim
    | symbol c => exact if_pos hwithin
  unfold ofTokens?
  split
  · exact absurd rfl hne
  · exact absurd (h _ List.mem_cons_self 'N' (by decide)) (by decide)
  · exact absurd (h _ List.mem_cons_self 'T' (by decide)) (by decide)
  · exact absurd (h _ List.mem_cons_self 'F' (by decide)) (by decide)
  · exact (h _ List.mem_cons_self).elim
  · rw [hparts]
    rfl

end RelationPaging.Sql
