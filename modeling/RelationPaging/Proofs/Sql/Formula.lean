import RelationPaging.Proofs.Outcome
import RelationPaging.Proofs.Sql.Token

/-!
# Boolean text

How boolean SQL text is read: parentheses first, and `AND` binding tighter than `OR`.  What stands
between these keywords is an atom, of which only the tokens matter; parentheses that belong to an
atom, as those of a call or of a list of values, are part of it.

Reading goes in two steps.  `nest` puts the tokens between matching parentheses into one piece and
reads what is inside of it, so that `alternatives?` only has to split a list of pieces, first at
`OR` and then at `AND`.  Both steps are homomorphisms for `splice`, the gluing of two lists at the
ends that meet: `nest_append` for what is read in a row, and `alternatives?_append_cons` for what
is joined by `AND`.
-/

namespace RelationPaging.Sql

/-! ## Splicing lists -/

section

variable {α β : Type}

/-- Two lists in a row, with the last item of the first one and the first item of the second one
joined into one. -/
def splice (join : α → α → α) : List α → List α → List α
  | [x], y :: ys => join x y :: ys
  | x :: xs, ys => x :: splice join xs ys
  | [], ys => ys

variable {join : α → α → α}

@[simp] theorem splice_singleton (x y : α) (ys : List α) :
    splice join [x] (y :: ys) = join x y :: ys := rfl

@[simp] theorem splice_cons_cons (x x' : α) (xs ys : List α) :
    splice join (x :: x' :: xs) ys = x :: splice join (x' :: xs) ys := rfl

theorem splice_cons {xs : List α} (hxs : xs ≠ []) (x : α) (ys : List α) :
    splice join (x :: xs) ys = x :: splice join xs ys := by
  cases xs with
  | nil => exact absurd rfl hxs
  | cons x' xs => rfl

theorem splice_ne_nil {xs : List α} (hxs : xs ≠ []) (ys : List α) : splice join xs ys ≠ [] := by
  rcases xs with _ | ⟨x, _ | ⟨x', xs⟩⟩
  · exact absurd rfl hxs
  · cases ys <;> simp [splice]
  · simp

/-- What is done to the first item is done before the lists are spliced, if joining respects it. -/
theorem modifyHead_splice {f : α → α} (hf : ∀ x y, join (f x) y = f (join x y)) {xs ys : List α}
    (hxs : xs ≠ []) (hys : ys ≠ []) :
    (splice join xs ys).modifyHead f = splice join (xs.modifyHead f) ys := by
  obtain ⟨y, ys, rfl⟩ := List.exists_cons_of_ne_nil hys
  rcases xs with _ | ⟨x, _ | ⟨x', xs⟩⟩
  · exact absurd rfl hxs
  · simp [hf]
  · simp

/-- A relation that respects joining respects splicing. -/
theorem splice_forall₂ {R : α → β → Prop} {join' : β → β → β}
    (hR : ∀ {x y x' y'}, R x y → R x' y' → R (join x x') (join' y y')) {xs xs' : List α}
    {ys ys' : List β} (hxs : List.Forall₂ R xs ys) (hne : xs' ≠ [])
    (hxs' : List.Forall₂ R xs' ys') :
    List.Forall₂ R (splice join xs xs') (splice join' ys ys') := by
  obtain ⟨x', xs', rfl⟩ := List.exists_cons_of_ne_nil hne
  obtain ⟨y', ys', hxy', hrest', rfl⟩ := List.forall₂_cons_left_iff.1 hxs'
  induction hxs with
  | nil => exact hxs'
  | cons hxy hrest ih =>
    cases hrest with
    | nil => exact .cons (hR hxy hxy') hrest'
    | cons hnext hrest => exact .cons hxy ih

/-- Splitting a list at a separator cuts around what stands between two lists. -/
theorem splitOnP_append_cons_of_neg {p : α → Bool} {c : α} (hc : p c = false) (xs ys : List α) :
    (xs ++ c :: ys).splitOnP p =
      splice (fun x y => x ++ c :: y) (xs.splitOnP p) (ys.splitOnP p) := by
  induction xs with
  | nil =>
    obtain ⟨y, zs, hzs⟩ := List.exists_cons_of_ne_nil (List.splitOnP_ne_nil p ys)
    simp [List.splitOnP_cons_eq_if_modifyHead, hc, hzs]
  | cons x xs ih =>
    rw [List.cons_append, List.splitOnP_cons_eq_if_modifyHead, List.splitOnP_cons_eq_if_modifyHead,
      ih]
    by_cases hx : p x
    · rw [if_pos hx, if_pos hx, splice_cons (List.splitOnP_ne_nil p xs)]
    · rw [if_neg hx, if_neg hx]
      apply modifyHead_splice
      · intro u w
        rfl
      · exact List.splitOnP_ne_nil p xs
      · exact List.splitOnP_ne_nil p ys

end

/-! ## Formulas -/

/-- A boolean formula over atoms, which are given by their tokens. -/
inductive Formula where
  | atom (tokens : List Token)
  | both (left right : Formula)
  | either (left right : Formula)
  deriving DecidableEq, Repr

/-- Alternatives, each of which is a list of formulas that hold together. -/
abbrev Alternatives := List (List Formula)

namespace Formula

/-- Whether a formula holds when the atoms have the given truth values. -/
def Holds (v : List Token → Prop) : Formula → Prop
  | atom tokens => v tokens
  | both left right => left.Holds v ∧ right.Holds v
  | either left right => left.Holds v ∨ right.Holds v

/-- The atoms of a formula. -/
def atoms : Formula → List (List Token)
  | atom tokens => [tokens]
  | both left right => left.atoms ++ right.atoms
  | either left right => left.atoms ++ right.atoms

/-- Formulas joined by a connective; there is none without any formula. -/
def chain (connective : Formula → Formula → Formula) : List Formula → Option Formula
  | [] => none
  | f :: fs =>
    match chain connective fs with
    | none => some f
    | some g => some (connective f g)

/-- The formula that alternatives are. -/
def ofAlternatives (alternatives : Alternatives) : Option Formula :=
  (alternatives.mapM (chain both)).bind (chain either)

end Formula

/-! ## Pieces -/

/-- A token outside of parentheses, or a pair of parentheses with the tokens between them and the
formula that these tokens are, if they are one. -/
inductive Piece where
  | leaf (token : Token)
  | group (tokens : List Token) (inner : Option Formula)
  deriving DecidableEq, Repr

namespace Piece

/-- The tokens of a piece. -/
def tokens : Piece → List Token
  | leaf token => [token]
  | group tokens _ => .symbol '(' :: tokens ++ [.symbol ')']

/-- Whether a piece is a keyword, which is given in upper case. -/
def isKeyword (keyword : List Char) : Piece → Bool
  | leaf (.word chars) => chars.map Char.toUpper = keyword
  | _ => false

/-- Whether a piece is the keyword `OR`. -/
def isOr : Piece → Bool := isKeyword ['O', 'R']

/-- Whether a piece is the keyword `AND`. -/
def isAnd : Piece → Bool := isKeyword ['A', 'N', 'D']

/-- Whether a piece is neither of the keywords. -/
def IsPlain (piece : Piece) : Prop :=
  piece.isOr = false ∧ piece.isAnd = false

instance (piece : Piece) : Decidable piece.IsPlain :=
  inferInstanceAs (Decidable (_ ∧ _))

end Piece

/-- What stands between two keywords: a formula in parentheses, or an atom. -/
def factor? : List Piece → Option Formula
  | [] => none
  | [.group _ inner] => inner
  | pieces => some (.atom (pieces.flatMap Piece.tokens))

/-- The factors of one alternative. -/
def factors? (pieces : List Piece) : Option (List Formula) :=
  (pieces.splitOnP Piece.isAnd).mapM factor?

/-- The alternatives that pieces are, each with its factors. -/
def alternatives? (pieces : List Piece) : Option Alternatives :=
  (pieces.splitOnP Piece.isOr).mapM factors?

/-- The formula that pieces are. -/
def formula? (pieces : List Piece) : Option Formula :=
  (alternatives? pieces).bind Formula.ofAlternatives

/-! ## Parentheses -/

/-- Reads one more token in front of what was read: a closing parenthesis starts a level, an opening
one ends a level and makes it a piece of the level around it. -/
def nestStep (token : Token) : List (List Piece) → Option (List (List Piece))
  | [] => none
  | level :: levels =>
    if token = .symbol ')' then some ([] :: level :: levels)
    else if token = .symbol '(' then
      match levels with
      | [] => none
      | outer :: levels =>
        some ((.group (level.flatMap Piece.tokens) (formula? level) :: outer) :: levels)
    else some ((.leaf token :: level) :: levels)

/-- The levels that are open in front of a list of tokens, the innermost one first. -/
def nest : List Token → Option (List (List Piece))
  | [] => some [[]]
  | token :: tokens => (nest tokens).bind (nestStep token)

/-- The pieces of a list of tokens with matching parentheses. -/
def pieces? (tokens : List Token) : Option (List Piece) :=
  match nest tokens with
  | some [pieces] => some pieces
  | _ => none

/-- The pieces of a text. -/
def piecesOf? (text : String) : Option (List Piece) :=
  (tokens? text.toList).bind pieces?

/-- The alternatives that a text is at its outermost level. -/
def alternativesOf? (text : String) : Option Alternatives :=
  (piecesOf? text).bind alternatives?

/-- The formula that a text is. -/
def read? (text : String) : Option Formula :=
  (piecesOf? text).bind formula?

/-! ## Reading in a row -/

theorem nest_ne_nil {ts : List Token} {levels : List (List Piece)} (h : nest ts = some levels) :
    levels ≠ [] := by
  cases ts with
  | nil =>
    cases h
    simp
  | cons t ts =>
    obtain ⟨inner, -, h⟩ := Option.bind_eq_some_iff.1 h
    cases inner with
    | nil => cases h
    | cons level inner =>
      unfold nestStep at h
      grind

/-- A token is read in front of two lists in a row as it is read in front of the first one. -/
theorem nestStep_splice {t : Token} {levels levels' others : List (List Piece)}
    (hothers : others ≠ []) (h : nestStep t levels = some levels') :
    nestStep t (splice (· ++ ·) levels others) = some (splice (· ++ ·) levels' others) := by
  obtain ⟨other, others, rfl⟩ := List.exists_cons_of_ne_nil hothers
  cases levels with
  | nil => cases h
  | cons level levels =>
    by_cases hclose : t = .symbol ')'
    · subst hclose
      cases h
      cases levels <;> simp [nestStep]
    · by_cases hopen : t = .symbol '('
      · subst hopen
        rcases levels with _ | ⟨outer, _ | ⟨next, levels⟩⟩
        · cases h
        · cases h
          simp [nestStep]
        · cases h
          simp [nestStep]
      · simp only [nestStep, if_neg hclose, if_neg hopen, Option.some.injEq] at h
        subst h
        cases levels <;> simp [nestStep, hclose, hopen]

theorem nest_append {xs ys : List Token} {levels others : List (List Piece)}
    (hxs : nest xs = some levels) (hys : nest ys = some others) :
    nest (xs ++ ys) = some (splice (· ++ ·) levels others) := by
  induction xs generalizing levels with
  | nil =>
    cases hxs
    obtain ⟨other, others, rfl⟩ := List.exists_cons_of_ne_nil (nest_ne_nil hys)
    simpa using hys
  | cons x xs ih =>
    obtain ⟨inner, hinner, hstep⟩ := Option.bind_eq_some_iff.1 hxs
    rw [List.cons_append, nest, ih hinner]
    exact nestStep_splice (nest_ne_nil hys) hstep

theorem pieces?_eq_some_iff {ts : List Token} {pieces : List Piece} :
    pieces? ts = some pieces ↔ nest ts = some [pieces] := by
  unfold pieces?
  constructor
  · intro h
    split at h
    · next heq =>
      cases h
      exact heq
    · cases h
  · intro h
    rw [h]

theorem pieces?_append {xs ys : List Token} {ps qs : List Piece} (hxs : pieces? xs = some ps)
    (hys : pieces? ys = some qs) : pieces? (xs ++ ys) = some (ps ++ qs) := by
  rw [pieces?_eq_some_iff] at *
  exact nest_append hxs hys

theorem pieces?_parenthesized {ts : List Token} {ps : List Piece} (h : pieces? ts = some ps) :
    pieces? (.symbol '(' :: ts ++ [.symbol ')']) =
      some [.group (ps.flatMap Piece.tokens) (formula? ps)] := by
  have hclose : nest [.symbol ')'] = some [[], []] := rfl
  have hrow := nest_append (pieces?_eq_some_iff.1 h) hclose
  rw [pieces?_eq_some_iff, List.cons_append, nest, hrow]
  simp [nestStep]

/-- Tokens that are not parentheses are pieces by themselves. -/
theorem pieces?_of_forall {ts : List Token} (h : ∀ t ∈ ts, t ≠ .symbol '(' ∧ t ≠ .symbol ')') :
    pieces? ts = some (ts.map .leaf) := by
  rw [pieces?_eq_some_iff]
  induction ts with
  | nil => rfl
  | cons t ts ih =>
    obtain ⟨⟨hopen, hclose⟩, hts⟩ := List.forall_mem_cons.1 h
    rw [nest, ih hts]
    simp [nestStep, hopen, hclose]

/-! ## Reading joined texts -/

/-- A text that can stand between any two texts and is read as the given pieces there. -/
def IsSeam (seam : String) (pieces : List Piece) : Prop :=
  seam.toList.head?.any isBreak = true ∧ (scan .between seam.toList).1 = .between ∧
    pieces? (scan .between seam.toList).2 = some pieces

instance (seam : String) (pieces : List Piece) : Decidable (IsSeam seam pieces) :=
  inferInstanceAs (Decidable (_ ∧ _ ∧ _))

theorem piecesOf?_seam {p seam q : String} {ps seamPieces qs : List Piece}
    (hseam : IsSeam seam seamPieces) (hp : piecesOf? p = some ps) (hq : piecesOf? q = some qs) :
    piecesOf? (p ++ seam ++ q) = some (ps ++ seamPieces ++ qs) := by
  obtain ⟨hbreak, hbetween, hpieces⟩ := hseam
  obtain ⟨ts, hts, hps⟩ := Option.bind_eq_some_iff.1 hp
  obtain ⟨us, hus, hqs⟩ := Option.bind_eq_some_iff.1 hq
  have htokens := tokens?_seam hbreak (Prod.ext hbetween rfl) hts hus
  rw [piecesOf?, String.toList_append, String.toList_append, htokens, Option.bind_some]
  exact pieces?_append (pieces?_append hps hpieces) hqs

theorem piecesOf?_call {p q : String} {ps qs : List Piece} (hp : piecesOf? p = some ps)
    (hq : piecesOf? q = some qs) :
    piecesOf? (p ++ "(" ++ q ++ ")") =
      some (ps ++ [.group (qs.flatMap Piece.tokens) (formula? qs)]) := by
  obtain ⟨ts, hts, hps⟩ := Option.bind_eq_some_iff.1 hp
  obtain ⟨us, hus, hqs⟩ := Option.bind_eq_some_iff.1 hq
  have hopening : scan .between "(".toList = (.between, [.symbol '(']) := by decide
  have hclosing : scan .between ")".toList = (.between, [.symbol ')']) := by decide
  have htokens : tokens? (p ++ "(" ++ q ++ ")").toList =
      some (ts ++ (.symbol '(' :: us ++ [.symbol ')'])) := by
    have hinner := tokens?_seam (by decide) hopening hts hus
    have houter := tokens?_seam (by decide) hclosing hinner (show tokens? [] = some [] from rfl)
    simp only [String.toList_append, List.append_nil, List.append_assoc] at houter ⊢
    exact houter
  rw [piecesOf?, htokens, Option.bind_some]
  exact pieces?_append hps (pieces?_parenthesized hqs)

theorem piecesOf?_parenthesized {text : String} {ps : List Piece} (h : piecesOf? text = some ps) :
    piecesOf? ("(" ++ text ++ ")") =
      some [.group (ps.flatMap Piece.tokens) (formula? ps)] := by
  have hempty : piecesOf? "" = some [] := by decide
  have hcall := piecesOf?_call hempty h
  rwa [String.empty_append, List.nil_append] at hcall

/-! ## Reading conjunctions -/

theorem factors?_append_cons {xs ys : List Piece} {c : Piece} (hc : c.isAnd = true)
    {fs gs : List Formula} (hxs : factors? xs = some fs) (hys : factors? ys = some gs) :
    factors? (xs ++ c :: ys) = some (fs ++ gs) := by
  unfold factors? at *
  rw [List.splitOnP_append_cons _ _ hc, List.mapM_append, hxs, hys]
  rfl

/-- A conjunction of two lists of alternatives joins the last one of the first list with the first
one of the second list, and leaves the others alone. -/
theorem alternatives?_append_cons {xs ys : List Piece} {c : Piece} (hc : c.isAnd = true)
    {fs gs : Alternatives} (hxs : alternatives? xs = some fs)
    (hys : alternatives? ys = some gs) :
    alternatives? (xs ++ c :: ys) = some (splice (· ++ ·) fs gs) := by
  have hor : c.isOr = false := by
    cases c with
    | group ts inner => rfl
    | leaf t =>
      cases t with
      | quoted quote content => rfl
      | symbol c => rfl
      | word chars =>
        have hchars : chars.map Char.toUpper = ['A', 'N', 'D'] := of_decide_eq_true hc
        simp [Piece.isOr, Piece.isKeyword, hchars]
  unfold alternatives? at *
  rw [Option.mapM_eq_some_iff] at *
  rw [splitOnP_append_cons_of_neg hor]
  refine splice_forall₂ ?_ hxs (List.splitOnP_ne_nil _ _) hys
  intro x fs y gs hx hy
  exact factors?_append_cons hc hx hy

theorem alternatives?_append_cons_or {xs ys : List Piece} {c : Piece} (hc : c.isOr = true)
    {fs gs : Alternatives} (hxs : alternatives? xs = some fs)
    (hys : alternatives? ys = some gs) : alternatives? (xs ++ c :: ys) = some (fs ++ gs) := by
  unfold alternatives? at *
  rw [List.splitOnP_append_cons _ _ hc, List.mapM_append, hxs, hys]
  rfl

/-- Pieces without keywords are one alternative with one factor. -/
theorem alternatives?_of_forall {pieces : List Piece} {f : Formula}
    (h : ∀ p ∈ pieces, p.IsPlain) (hf : factor? pieces = some f) :
    alternatives? pieces = some [[f]] := by
  have hfactors : factors? pieces = some [f] := by
    unfold factors?
    rw [List.splitOnP_eq_singleton fun p hp => (h p hp).2]
    simp [hf]
  unfold alternatives?
  rw [List.splitOnP_eq_singleton fun p hp => (h p hp).1]
  simp [hfactors]

/-- The conjunction binds tighter, and keywords may be in either case. -/
example :
    read? "a or b AND c" =
      some (.either (.atom [.word ['a']]) (.both (.atom [.word ['b']]) (.atom [.word ['c']]))) := by
  decide +kernel

end RelationPaging.Sql
