import RelationPaging.Proofs.Sql.Formula

/-!
# Conjunctions of texts

What becomes of boolean texts that are joined by `AND` without parentheses.  A text is open when
it has several alternatives at its outermost level; `AND` then joins only the last alternative
of the text in front of it with the first one of the text behind it, and the other alternatives
stand by themselves.  So the joined text is implied by all texts together
(`textHolds_conjunction`) and is equivalent to them if none is open
(`textHolds_conjunction_iff`).  Texts that share no atom, of which there are at least two and at
least one is open, always have an assignment that fulfils the joined text and not all of them
(`forall_textHolds_conjunction_iff`).
-/

namespace RelationPaging.Sql

variable {v : List Token → Prop}

/-! ## Truth of formulas -/

namespace Formula

theorem holds_of_forall_atoms {f : Formula} (h : ∀ a ∈ f.atoms, v a) : f.Holds v := by
  induction f with
  | atom tokens => exact h tokens (List.mem_singleton.2 rfl)
  | both left right ihl ihr =>
    exact ⟨ihl fun a ha => h a (List.mem_append_left _ ha),
      ihr fun a ha => h a (List.mem_append_right _ ha)⟩
  | either left right ihl ihr => exact .inl (ihl fun a ha => h a (List.mem_append_left _ ha))

theorem not_holds_of_forall_atoms {f : Formula} (h : ∀ a ∈ f.atoms, ¬ v a) : ¬ f.Holds v := by
  induction f with
  | atom tokens => exact h tokens (List.mem_singleton.2 rfl)
  | both left right ihl ihr =>
    intro hf
    exact ihl (fun a ha => h a (List.mem_append_left _ ha)) hf.1
  | either left right ihl ihr =>
    rintro (hf | hf)
    · exact ihl (fun a ha => h a (List.mem_append_left _ ha)) hf
    · exact ihr (fun a ha => h a (List.mem_append_right _ ha)) hf

theorem eq_or_exists_of_chain_cons {connective : Formula → Formula → Formula} {f h : Formula}
    {fs : List Formula} (hchain : chain connective (f :: fs) = some h) :
    fs = [] ∧ h = f ∨ ∃ g, chain connective fs = some g ∧ h = connective f g := by
  cases fs with
  | nil =>
    cases hchain
    exact .inl ⟨rfl, rfl⟩
  | cons f' fs =>
    refine .inr ?_
    rw [chain] at hchain
    cases hrest : chain connective (f' :: fs) with
    | none =>
      rw [chain] at hrest
      split at hrest <;> cases hrest
    | some g =>
      rw [hrest] at hchain
      cases hchain
      exact ⟨g, rfl, rfl⟩

theorem holds_chain_both {fs : List Formula} {f : Formula} (h : chain both fs = some f) :
    f.Holds v ↔ ∀ g ∈ fs, g.Holds v := by
  induction fs generalizing f with
  | nil => cases h
  | cons g gs ih =>
    rw [List.forall_mem_cons]
    rcases eq_or_exists_of_chain_cons h with ⟨rfl, rfl⟩ | ⟨rest, hrest, rfl⟩
    · simp
    · rw [← ih hrest]
      rfl

theorem holds_chain_either {fs : List Formula} {f : Formula} (h : chain either fs = some f) :
    f.Holds v ↔ ∃ g ∈ fs, g.Holds v := by
  induction fs generalizing f with
  | nil => cases h
  | cons g gs ih =>
    rw [List.exists_mem_cons_iff]
    rcases eq_or_exists_of_chain_cons h with ⟨rfl, rfl⟩ | ⟨rest, hrest, rfl⟩
    · simp
    · rw [← ih hrest]
      rfl

theorem mem_atoms_chain {connective : Formula → Formula → Formula}
    (hatoms : ∀ f g, (connective f g).atoms = f.atoms ++ g.atoms) {fs : List Formula} {f : Formula}
    (h : chain connective fs = some f) {a : List Token} :
    a ∈ f.atoms ↔ ∃ g ∈ fs, a ∈ g.atoms := by
  induction fs generalizing f with
  | nil => cases h
  | cons g gs ih =>
    rw [List.exists_mem_cons_iff]
    rcases eq_or_exists_of_chain_cons h with ⟨rfl, rfl⟩ | ⟨rest, hrest, rfl⟩
    · simp
    · rw [← ih hrest, hatoms, List.mem_append]

theorem isSome_chain {connective : Formula → Formula → Formula} {fs : List Formula} :
    (chain connective fs).isSome = true ↔ fs ≠ [] := by
  cases fs with
  | nil => simp [chain]
  | cons f fs =>
    rw [chain]
    split <;> simp

end Formula

/-! ## Truth of alternatives -/

/-- Whether all formulas of some alternative hold. -/
def Meets (v : List Token → Prop) (alternatives : Alternatives) : Prop :=
  ∃ alternative ∈ alternatives, ∀ f ∈ alternative, f.Holds v

/-- The formula of alternatives holds when all formulas of some alternative do. -/
theorem Formula.holds_ofAlternatives {alternatives : Alternatives} {f : Formula}
    (h : ofAlternatives alternatives = some f) : f.Holds v ↔ Meets v alternatives := by
  obtain ⟨fs, hfs, hchain⟩ := Option.bind_eq_some_iff.1 h
  rw [holds_chain_either hchain]
  refine (exists_mem_iff_of_forall₂ ?_ (Option.mapM_eq_some_iff.1 hfs)).symm
  intro alternative g hboth
  exact (holds_chain_both hboth).symm

/-- The atoms of a formula are those of its alternatives. -/
theorem Formula.mem_atoms_ofAlternatives {alternatives : Alternatives} {f : Formula}
    (h : ofAlternatives alternatives = some f) {a : List Token} :
    a ∈ f.atoms ↔ ∃ g ∈ alternatives.flatten, a ∈ g.atoms := by
  obtain ⟨fs, hfs, hchain⟩ := Option.bind_eq_some_iff.1 h
  have hmem : (∃ alternative ∈ alternatives, ∃ g ∈ alternative, a ∈ g.atoms) ↔
      ∃ g ∈ fs, a ∈ g.atoms := by
    refine exists_mem_iff_of_forall₂ ?_ (Option.mapM_eq_some_iff.1 hfs)
    intro alternative g hboth
    exact (mem_atoms_chain (fun _ _ => rfl) hboth).symm
  rw [mem_atoms_chain (fun _ _ => rfl) hchain, ← hmem]
  simp only [List.mem_flatten]
  constructor
  · rintro ⟨alternative, halternative, g, hg, ha⟩
    exact ⟨g, ⟨alternative, halternative, hg⟩, ha⟩
  · rintro ⟨g, ⟨alternative, halternative, hg⟩, ha⟩
    exact ⟨alternative, halternative, g, hg, ha⟩

/-- There is a formula for alternatives when there is an alternative and none is without
formulas. -/
theorem Formula.exists_ofAlternatives {alternatives : Alternatives}
    (hne : alternatives ≠ []) (h : ∀ alternative ∈ alternatives, alternative ≠ []) :
    ∃ f, ofAlternatives alternatives = some f := by
  obtain ⟨fs, hfs⟩ : ∃ fs, List.Forall₂ (fun x y => chain both x = some y) alternatives fs :=
    exists_forall₂ fun alternative halternative =>
      Option.isSome_iff_exists.1 (isSome_chain.2 (h alternative halternative))
  have hfsne : fs ≠ [] := by
    rintro rfl
    exact hne (List.forall₂_nil_right_iff.1 hfs)
  obtain ⟨f, hf⟩ := Option.isSome_iff_exists.1 (isSome_chain.2 hfsne)
  exact ⟨f, Option.bind_eq_some_iff.2 ⟨fs, Option.mapM_eq_some_iff.2 hfs, hf⟩⟩

/-- Alternatives that were read are some, and none is without formulas. -/
theorem alternatives?_ne_nil {pieces : List Piece} {fs : Alternatives}
    (h : alternatives? pieces = some fs) : fs ≠ [] ∧ ∀ alternative ∈ fs, alternative ≠ [] := by
  have hread := Option.mapM_eq_some_iff.1 h
  refine ⟨?_, fun alternative halternative => ?_⟩
  · rintro rfl
    exact List.splitOnP_ne_nil _ _ (List.forall₂_nil_right_iff.1 hread)
  · obtain ⟨part, -, hpart⟩ := exists_mem_of_forall₂ hread halternative
    rintro rfl
    exact List.splitOnP_ne_nil _ _
      (List.forall₂_nil_right_iff.1 (Option.mapM_eq_some_iff.1 hpart))

/-! ## Truth of spliced alternatives -/

theorem flatten_splice {α : Type} (xs ys : List (List α)) :
    (splice (· ++ ·) xs ys).flatten = xs.flatten ++ ys.flatten := by
  induction xs with
  | nil => rfl
  | cons x xs ih =>
    rcases xs with _ | ⟨x', xs⟩
    · cases ys <;> simp [splice]
    · rw [splice_cons_cons, List.flatten_cons, ih, ← List.append_assoc]
      rfl

theorem length_splice {α : Type} {join : α → α → α} {xs ys : List α} (hxs : xs ≠ [])
    (hys : ys ≠ []) : (splice join xs ys).length + 1 = xs.length + ys.length := by
  obtain ⟨y, ys, rfl⟩ := List.exists_cons_of_ne_nil hys
  induction xs with
  | nil => exact absurd rfl hxs
  | cons x xs ih =>
    rcases xs with _ | ⟨x', xs⟩
    · simp only [splice_singleton, List.length_cons, List.length_nil]
      omega
    · have htail := ih (List.cons_ne_nil x' xs)
      simp only [splice_cons_cons, List.length_cons] at htail ⊢
      omega

/-- Only the first item of the second list is joined. -/
theorem mem_splice_of_mem_tail {α : Type} {join : α → α → α} (xs : List α) {ys : List α} {y : α}
    (h : y ∈ ys.tail) : y ∈ splice join xs ys := by
  induction xs with
  | nil => exact List.mem_of_mem_tail h
  | cons x xs ih =>
    rcases xs with _ | ⟨x', xs⟩
    · cases ys with
      | nil => cases h
      | cons y' ys => exact List.mem_cons_of_mem _ h
    · exact List.mem_cons_of_mem _ ih

theorem splice_unit {α : Type} (xs : List (List α)) :
    xs ≠ [] → splice (· ++ ·) xs [[]] = xs := by
  induction xs with
  | nil => simp
  | cons x xs ih =>
    intro _
    rcases xs with _ | ⟨x', xs⟩
    · simp
    · rw [splice_cons_cons, ih (List.cons_ne_nil x' xs)]

/-- What fulfils both lists of alternatives fulfils them when they are spliced. -/
theorem Meets.splice {fs gs : Alternatives} (hfs : Meets v fs) (hgs : Meets v gs) :
    Meets v (splice (· ++ ·) fs gs) := by
  obtain ⟨g, hg, hvg⟩ := hgs
  obtain ⟨first, gs, rfl⟩ := List.exists_cons_of_ne_nil (List.ne_nil_of_mem hg)
  rcases List.mem_cons.1 hg with rfl | hg
  · induction fs with
    | nil =>
      obtain ⟨f, hf, -⟩ := hfs
      cases hf
    | cons f fs ih =>
      obtain ⟨f', hf', hvf'⟩ := hfs
      rcases List.mem_cons.1 hf' with rfl | hf'
      · rcases fs with _ | ⟨f₂, fs⟩
        · refine ⟨f' ++ g, List.mem_cons_self, fun h hh => ?_⟩
          exact (List.mem_append.1 hh).elim (hvf' h) (hvg h)
        · exact ⟨f', List.mem_cons_self, hvf'⟩
      · obtain ⟨h, hh, hvh⟩ := ih ⟨f', hf', hvf'⟩
        rw [splice_cons (List.ne_nil_of_mem hf')]
        exact ⟨h, List.mem_cons_of_mem _ hh, hvh⟩
  · exact ⟨g, mem_splice_of_mem_tail fs hg, hvg⟩

/-- Lists of alternatives, spliced in their order. -/
def spliceAll (parts : List Alternatives) : Alternatives :=
  parts.foldr (splice (· ++ ·)) [[]]

theorem spliceAll_ne_nil {parts : List Alternatives} (h : ∀ part ∈ parts, part ≠ []) :
    spliceAll parts ≠ [] := by
  cases parts with
  | nil => simp [spliceAll]
  | cons part parts => exact splice_ne_nil (h part List.mem_cons_self) _

theorem flatten_spliceAll (parts : List Alternatives) :
    (spliceAll parts).flatten = parts.flatten.flatten := by
  induction parts with
  | nil => rfl
  | cons part parts ih =>
    rw [spliceAll, List.foldr_cons, flatten_splice, ← spliceAll, ih, List.flatten_cons,
      List.flatten_append]

/-- Splicing joins alternatives, and drops none. -/
theorem length_le_length_spliceAll {parts : List Alternatives}
    (h : ∀ part ∈ parts, part ≠ []) {part : Alternatives} (hpart : part ∈ parts) :
    part.length ≤ (spliceAll parts).length := by
  induction parts with
  | nil => cases hpart
  | cons first parts ih =>
    obtain ⟨hfirst, hparts⟩ := List.forall_mem_cons.1 h
    have hrest := spliceAll_ne_nil hparts
    have hlength : (spliceAll (first :: parts)).length + 1 =
        first.length + (spliceAll parts).length := length_splice hfirst hrest
    have hposfirst := List.length_pos_of_ne_nil hfirst
    have hposrest := List.length_pos_of_ne_nil hrest
    rcases List.mem_cons.1 hpart with rfl | hpart
    · omega
    · have hle := ih hparts hpart
      omega

theorem length_spliceAll_eq_one {parts : List Alternatives}
    (h : ∀ part ∈ parts, part.length = 1) : (spliceAll parts).length = 1 := by
  induction parts with
  | nil => rfl
  | cons first parts ih =>
    obtain ⟨hfirst, hparts⟩ := List.forall_mem_cons.1 h
    have hrest := ih hparts
    have hnefirst : first ≠ [] := List.ne_nil_of_length_eq_add_one hfirst
    have hnerest : spliceAll parts ≠ [] := List.ne_nil_of_length_eq_add_one hrest
    have hlength : (spliceAll (first :: parts)).length + 1 =
        first.length + (spliceAll parts).length := length_splice hnefirst hnerest
    omega

theorem Meets.spliceAll {parts : List Alternatives} (h : ∀ part ∈ parts, Meets v part) :
    Meets v (spliceAll parts) := by
  induction parts with
  | nil => exact ⟨[], List.mem_cons_self, by simp⟩
  | cons part parts ih =>
    obtain ⟨hpart, hparts⟩ := List.forall_mem_cons.1 h
    exact hpart.splice (ih hparts)

/-- Alternatives of which each list has a single one are joined into a single one, which is met
when all lists are. -/
theorem meets_spliceAll_iff {parts : List Alternatives}
    (h : ∀ part ∈ parts, part.length = 1) :
    Meets v (spliceAll parts) ↔ ∀ part ∈ parts, Meets v part := by
  refine ⟨fun hmeets part hpart => ?_, Meets.spliceAll⟩
  obtain ⟨alternative, halternative⟩ := List.length_eq_one_iff.1 (length_spliceAll_eq_one h)
  obtain ⟨only, rfl⟩ := List.length_eq_one_iff.1 (h part hpart)
  have hflatten := flatten_spliceAll parts
  rw [halternative] at hflatten hmeets
  obtain ⟨_, hmem, hholds⟩ := hmeets
  obtain rfl := List.mem_singleton.1 hmem
  refine ⟨only, List.mem_singleton.2 rfl, fun f hf => hholds f ?_⟩
  rw [List.flatten_singleton] at hflatten
  rw [hflatten]
  exact List.mem_flatten.2 ⟨only, List.mem_flatten.2 ⟨[only], hpart, List.mem_singleton.2 rfl⟩, hf⟩

/-- The atoms that occur in alternatives. -/
def partAtoms (part : Alternatives) : List (List Token) :=
  part.flatten.flatMap Formula.atoms

theorem mem_partAtoms {part : Alternatives} {f : Formula} {a : List Token}
    (hf : f ∈ part.flatten) (ha : a ∈ f.atoms) : a ∈ partAtoms part :=
  List.mem_flatMap.2 ⟨f, hf, ha⟩

/-- Alternatives are missed when all of their atoms are false. -/
theorem not_meets_avoiding {part : Alternatives}
    (hne : ∀ alternative ∈ part, alternative ≠ []) :
    ¬ Meets (fun a => a ∉ partAtoms part) part := by
  rintro ⟨alternative, halternative, hholds⟩
  obtain ⟨f, fs, rfl⟩ := List.exists_cons_of_ne_nil (hne alternative halternative)
  refine Formula.not_holds_of_forall_atoms (fun a ha => ?_) (hholds f List.mem_cons_self)
  exact not_not.2 (mem_partAtoms (List.mem_flatten.2 ⟨_, halternative, List.mem_cons_self⟩) ha)

/-- The formulas of alternatives that share no atom with `part` hold when exactly the atoms of
`part` are false. -/
theorem holds_avoiding {part other : Alternatives}
    (hatoms : (partAtoms other).Disjoint (partAtoms part)) {f : Formula} (hf : f ∈ other.flatten) :
    f.Holds fun a => a ∉ partAtoms part :=
  Formula.holds_of_forall_atoms fun _ ha => hatoms (mem_partAtoms hf ha)

/-- Behind the first of several alternatives stands another one. -/
theorem exists_mem_tail {fs : Alternatives} (h : 2 ≤ fs.length) : ∃ f, f ∈ fs.tail := by
  rcases fs with _ | ⟨f, _ | ⟨f', fs⟩⟩
  · cases h
  · simp only [List.length_cons, List.length_nil] at h
    omega
  · exact ⟨f', List.mem_cons_self⟩

/-- If one of at least two lists of alternatives has several of them, and no two lists share an
atom, then the spliced alternatives can be met without all lists being met. -/
theorem exists_meets_spliceAll {parts : List Alternatives}
    (hne : ∀ part ∈ parts, part ≠ [] ∧ ∀ alternative ∈ part, alternative ≠ [])
    (hatoms : parts.Pairwise fun part part' => (partAtoms part).Disjoint (partAtoms part'))
    (hlength : 2 ≤ parts.length) {wide : Alternatives} (hwide : wide ∈ parts)
    (hopen : 2 ≤ wide.length) :
    ∃ v, Meets v (spliceAll parts) ∧ ∃ part ∈ parts, ¬ Meets v part := by
  rcases parts with _ | ⟨first, _ | ⟨second, others⟩⟩
  · cases hwide
  · simp only [List.length_cons, List.length_nil] at hlength
    omega
  · obtain ⟨hfirst, -⟩ := List.pairwise_cons.1 hatoms
    obtain ⟨hnefirst, hneothers⟩ := List.forall_mem_cons.1 hne
    by_cases hfirstwide : 2 ≤ first.length
    · -- the first alternative of the first list stands by itself, and the second list is missed
      obtain ⟨a, a', rest, rfl⟩ : ∃ a a' rest, first = a :: a' :: rest := by
        rcases first with _ | ⟨a, _ | ⟨a', rest⟩⟩
        · cases hfirstwide
        · simp only [List.length_cons, List.length_nil] at hfirstwide
          omega
        · exact ⟨a, a', rest, rfl⟩
      refine ⟨fun b => b ∉ partAtoms second, ⟨a, List.mem_cons_self, fun f hf => ?_⟩, second,
        by simp, not_meets_avoiding (hneothers second List.mem_cons_self).2⟩
      have hmem : f ∈ (a :: a' :: rest).flatten :=
        List.mem_flatten.2 ⟨a, List.mem_cons_self, hf⟩
      exact holds_avoiding (hfirst second List.mem_cons_self) hmem
    · -- an alternative of the other lists stands by itself, and the first list is missed
      have hmem : wide ∈ second :: others := by
        rcases List.mem_cons.1 hwide with rfl | hmem
        · exact absurd hopen hfirstwide
        · exact hmem
      have hle := length_le_length_spliceAll (fun part hpart => (hneothers part hpart).1) hmem
      obtain ⟨a, ha⟩ := exists_mem_tail (Nat.le_trans hopen hle)
      refine ⟨fun b => b ∉ partAtoms first, ⟨a, mem_splice_of_mem_tail first ha, fun f hf => ?_⟩,
        first, List.mem_cons_self, not_meets_avoiding hnefirst.2⟩
      have hmemf : f ∈ (spliceAll (second :: others)).flatten :=
        List.mem_flatten.2 ⟨a, List.mem_of_mem_tail ha, hf⟩
      rw [flatten_spliceAll] at hmemf
      obtain ⟨alternative, halternative, hf⟩ := List.mem_flatten.1 hmemf
      obtain ⟨part, hpart, halternative⟩ := List.mem_flatten.1 halternative
      exact holds_avoiding (List.disjoint_symm (hfirst part hpart))
        (List.mem_flatten.2 ⟨alternative, halternative, hf⟩)

/-! ## Texts -/

/-- Whether a text is read as a formula that holds. -/
def TextHolds (v : List Token → Prop) (text : String) : Prop :=
  ∃ f, read? text = some f ∧ f.Holds v

/-- A text is open when it has several alternatives at its outermost level. -/
def IsOpen (text : String) : Prop :=
  ∃ alternatives, alternativesOf? text = some alternatives ∧ 2 ≤ alternatives.length

instance (text : String) : Decidable (IsOpen text) :=
  decidable_of_iff ((alternativesOf? text).any (2 ≤ ·.length) = true) <| by
    simp only [IsOpen, Option.any_eq_true, decide_eq_true_eq]

/-- The atoms of the formula that a text is. -/
def textAtoms (text : String) : List (List Token) :=
  ((read? text).map Formula.atoms).getD []

theorem read?_eq (text : String) :
    read? text = (alternativesOf? text).bind Formula.ofAlternatives := by
  simp only [read?, alternativesOf?, Option.bind_assoc]
  rfl

/-- The alternatives of a text are those of its formula. -/
theorem exists_read? {text : String} {alternatives : Alternatives}
    (h : alternativesOf? text = some alternatives) :
    ∃ f, read? text = some f ∧ Formula.ofAlternatives alternatives = some f := by
  obtain ⟨pieces, -, hread⟩ := Option.bind_eq_some_iff.1 h
  obtain ⟨hne, hall⟩ := alternatives?_ne_nil hread
  obtain ⟨f, hf⟩ := Formula.exists_ofAlternatives hne hall
  exact ⟨f, by rw [read?_eq, h, Option.bind_some, hf], hf⟩

theorem textHolds_iff {text : String} {alternatives : Alternatives}
    (h : alternativesOf? text = some alternatives) :
    TextHolds v text ↔ Meets v alternatives := by
  obtain ⟨f, hread, hf⟩ := exists_read? h
  rw [← Formula.holds_ofAlternatives hf]
  constructor
  · rintro ⟨g, hg, hholds⟩
    rw [hread] at hg
    cases hg
    exact hholds
  · intro hholds
    exact ⟨f, hread, hholds⟩

theorem mem_textAtoms_iff {text : String} {alternatives : Alternatives}
    (h : alternativesOf? text = some alternatives) {a : List Token} :
    a ∈ textAtoms text ↔ a ∈ partAtoms alternatives := by
  obtain ⟨f, hread, hf⟩ := exists_read? h
  rw [textAtoms, hread, Option.map_some, Option.getD_some, Formula.mem_atoms_ofAlternatives hf,
    partAtoms, List.mem_flatMap]

theorem isOpen_iff {text : String} {alternatives : Alternatives}
    (h : alternativesOf? text = some alternatives) :
    IsOpen text ↔ 2 ≤ alternatives.length := by
  constructor
  · rintro ⟨others, hothers, hlength⟩
    rw [h] at hothers
    cases hothers
    exact hlength
  · intro hlength
    exact ⟨alternatives, h, hlength⟩

/-! ## Joining texts -/

theorem alternativesOf?_and {p q : String} {fs gs : Alternatives}
    (hp : alternativesOf? p = some fs) (hq : alternativesOf? q = some gs) :
    alternativesOf? (p ++ " AND " ++ q) = some (splice (· ++ ·) fs gs) := by
  obtain ⟨ps, hps, hfs⟩ := Option.bind_eq_some_iff.1 hp
  obtain ⟨qs, hqs, hgs⟩ := Option.bind_eq_some_iff.1 hq
  have hseam : IsSeam " AND " [.leaf (.word ['A', 'N', 'D'])] := by decide
  rw [alternativesOf?, piecesOf?_seam hseam hps hqs, Option.bind_some, List.append_assoc]
  exact alternatives?_append_cons (by decide) hfs hgs

/-- The alternatives of texts joined by `AND` are those of the texts, spliced. -/
theorem alternativesOf?_intercalate {texts : List String} {parts : List Alternatives}
    (hne : texts ≠ []) (h : List.Forall₂ (fun p fs => alternativesOf? p = some fs) texts parts) :
    alternativesOf? (String.intercalate " AND " texts) = some (spliceAll parts) := by
  induction h with
  | nil => exact absurd rfl hne
  | @cons p fs texts parts hp hrest ih =>
    cases texts with
    | nil =>
      cases hrest
      obtain ⟨pieces, -, hread⟩ := Option.bind_eq_some_iff.1 hp
      have hspliced : spliceAll [fs] = fs := splice_unit fs (alternatives?_ne_nil hread).1
      rw [String.intercalate_singleton, hp, hspliced]
    | cons q texts =>
      have hq := List.cons_ne_nil q texts
      rw [String.intercalate_cons_of_ne_nil hq, alternativesOf?_and hp (ih hq)]
      rfl

section

variable {texts : List String}

theorem exists_parts (hread : ∀ p ∈ texts, (read? p).isSome = true) :
    ∃ parts, List.Forall₂ (fun p fs => alternativesOf? p = some fs) texts parts := by
  refine exists_forall₂ fun p hp => ?_
  obtain ⟨f, hf⟩ := Option.isSome_iff_exists.1 (hread p hp)
  rw [read?_eq] at hf
  obtain ⟨alternatives, halternatives, -⟩ := Option.bind_eq_some_iff.1 hf
  exact ⟨alternatives, halternatives⟩

theorem forall_textHolds_iff {parts : List Alternatives}
    (h : List.Forall₂ (fun p fs => alternativesOf? p = some fs) texts parts) :
    (∀ p ∈ texts, TextHolds v p) ↔ ∀ part ∈ parts, Meets v part := by
  refine forall_mem_iff_of_forall₂ ?_ h
  intro p fs hp
  exact textHolds_iff hp

/-- The joined text holds when all texts hold. -/
theorem textHolds_conjunction (hne : texts ≠ []) (h : ∀ p ∈ texts, TextHolds v p) :
    TextHolds v (String.intercalate " AND " texts) := by
  have hread : ∀ p ∈ texts, (read? p).isSome = true := fun p hp => by
    obtain ⟨f, hf, -⟩ := h p hp
    rw [hf]
    rfl
  obtain ⟨parts, hparts⟩ := exists_parts hread
  rw [textHolds_iff (alternativesOf?_intercalate hne hparts)]
  exact .spliceAll ((forall_textHolds_iff hparts).1 h)

/-- The joined text is equivalent to all texts together when none of them is open. -/
theorem textHolds_conjunction_iff (hne : texts ≠ [])
    (hread : ∀ p ∈ texts, (read? p).isSome = true) (hclosed : ∀ p ∈ texts, ¬ IsOpen p) :
    TextHolds v (String.intercalate " AND " texts) ↔ ∀ p ∈ texts, TextHolds v p := by
  obtain ⟨parts, hparts⟩ := exists_parts hread
  rw [textHolds_iff (alternativesOf?_intercalate hne hparts),
    forall_textHolds_iff hparts]
  refine meets_spliceAll_iff fun part hpart => ?_
  obtain ⟨p, hp, hpart'⟩ := exists_mem_of_forall₂ hparts hpart
  obtain ⟨pieces, -, hpieces⟩ := Option.bind_eq_some_iff.1 hpart'
  have hpos := List.length_pos_of_ne_nil (alternatives?_ne_nil hpieces).1
  have hnot := hclosed p hp
  rw [isOpen_iff hpart'] at hnot
  omega

/-- The same with the case of a single text, which may be open. -/
theorem textHolds_conjunction_iff_of_closed (hne : texts ≠ [])
    (hread : ∀ p ∈ texts, (read? p).isSome = true)
    (h : texts.length = 1 ∨ ∀ p ∈ texts, ¬ IsOpen p) :
    TextHolds v (String.intercalate " AND " texts) ↔ ∀ p ∈ texts, TextHolds v p := by
  rcases h with hlength | hclosed
  · obtain ⟨p, rfl⟩ := List.length_eq_one_iff.1 hlength
    simp
  · exact textHolds_conjunction_iff hne hread hclosed

/-- The joined text is equivalent to all texts together exactly when each of its alternatives
implies all of them. -/
theorem forall_textHolds_conjunction_iff_implies (hne : texts ≠ [])
    {alternatives : Alternatives}
    (h : alternativesOf? (String.intercalate " AND " texts) = some alternatives) :
    (∀ v, TextHolds v (String.intercalate " AND " texts) ↔ ∀ p ∈ texts, TextHolds v p) ↔
      ∀ alternative ∈ alternatives, ∀ v, (∀ f ∈ alternative, f.Holds v) →
        ∀ p ∈ texts, TextHolds v p := by
  constructor
  · intro hiff alternative halternative v hholds
    exact (hiff v).1 ((textHolds_iff h).2 ⟨alternative, halternative, hholds⟩)
  · intro himplies v
    refine ⟨fun hjoined => ?_, textHolds_conjunction hne⟩
    obtain ⟨alternative, halternative, hholds⟩ := (textHolds_iff h).1 hjoined
    exact himplies alternative halternative v hholds

/-- For texts that share no atom, the joined text is equivalent to all texts together exactly when
there is one text only or none is open. -/
theorem forall_textHolds_conjunction_iff (hne : texts ≠ [])
    (hread : ∀ p ∈ texts, (read? p).isSome = true)
    (hatoms : texts.Pairwise fun p q => (textAtoms p).Disjoint (textAtoms q)) :
    (∀ v, TextHolds v (String.intercalate " AND " texts) ↔ ∀ p ∈ texts, TextHolds v p) ↔
      texts.length = 1 ∨ ∀ p ∈ texts, ¬ IsOpen p := by
  constructor
  · intro hiff
    by_contra hcontra
    obtain ⟨hlength, hopen⟩ := not_or.1 hcontra
    obtain ⟨p, hp, hwide⟩ : ∃ p ∈ texts, IsOpen p := by
      by_contra hnone
      exact hopen fun p hp hwide => hnone ⟨p, hp, hwide⟩
    obtain ⟨parts, hparts⟩ := exists_parts hread
    have hpos := List.length_pos_of_ne_nil hne
    have hsame := hparts.length_eq
    obtain ⟨part, hpart, hpartp⟩ := exists_mem_of_forall₂ hparts.flip hp
    have hnonempty : ∀ part ∈ parts, part ≠ [] ∧ ∀ alternative ∈ part, alternative ≠ [] := by
      intro part hpart
      obtain ⟨q, -, hq⟩ := exists_mem_of_forall₂ hparts hpart
      obtain ⟨pieces, -, hpieces⟩ := Option.bind_eq_some_iff.1 hq
      exact alternatives?_ne_nil hpieces
    have hdisjoint : parts.Pairwise fun part part' =>
        (partAtoms part).Disjoint (partAtoms part') := by
      refine pairwise_of_forall₂ ?_ hparts hatoms
      intro q q' part part' hq hq' hqq' a ha ha'
      exact hqq' ((mem_textAtoms_iff hq).2 ha) ((mem_textAtoms_iff hq').2 ha')
    obtain ⟨v, hmeets, part', hpart', hmiss⟩ := exists_meets_spliceAll hnonempty hdisjoint
      (by omega) hpart ((isOpen_iff hpartp).1 hwide)
    have hholds := (textHolds_iff (alternativesOf?_intercalate hne hparts)).2 hmeets
    have hall := (hiff v).1 hholds
    rw [forall_textHolds_iff hparts] at hall
    exact hmiss (hall part' hpart')
  · intro h v
    exact textHolds_conjunction_iff_of_closed hne hread h

end

end RelationPaging.Sql
