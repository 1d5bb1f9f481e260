import RelationPaging.Proofs.Planner.Origin
import RelationPaging.Proofs.Planner.Predicates
import RelationPaging.Proofs.Sql.Generated

/-!
# What the `WHERE` clause of a page means

The predicates of a plan are answers of callbacks, the condition of a batch and the condition of a
cursor.  The two conditions are factors by themselves; an answer of a callback is any boolean
text, and the `WHERE` clause takes it as it is.  So the clause means the conjunction of the
predicates as long as no callback answers an open text beside other predicates, and means
something weaker otherwise.
-/

namespace RelationPaging

namespace Planner

variable {relation : Relation} {request : Request} {name : DialectName} {casing : Casing}
  {policy : MissingPolicy} {draft : Draft} {pagination : Pagination} {page : PageSelect}
  {text : String}

/-! ## The predicates of a plan as texts -/

namespace EmitsSelect

/-- With a built-in dialect, the condition of the page is a factor. -/
theorem isFactor_condition
    (h : (standard name casing policy).EmitsSelect relation request draft pagination page text)
    {condition : String} (hcondition : pagination.condition = some condition) :
    Sql.IsFactor condition := by
  obtain ⟨stages, _, hstages, _, hpagination, _⟩ := h.emitted
  obtain ⟨declaration, hdeclaration⟩ : ∃ declaration, relation.declaration? = some declaration := by
    have hsome := Task.isSome_of_paginate hstages.paginate
    rw [hpagination] at hsome
    exact Option.isSome_iff_exists.1 hsome.symm
  obtain ⟨values, descending, hne, hlength, rfl⟩ :=
    (h.qualifiedBy hdeclaration).condition condition hcondition
  refine Sql.isFactor_after _ _ _ ?_ ?_
  · rw [List.length_map, hlength]
  · exact fun hnil => hne (List.map_eq_nil_iff.1 hnil)

/-- With a built-in dialect, a predicate that is not the answer of a callback is a factor. -/
theorem answers_or_isFactor
    (h : (standard name casing policy).EmitsSelect relation request draft pagination page text)
    {predicate : String} (hpredicate : predicate ∈ draft.planned.predicates) :
    ((standard name casing policy).task relation request).Answers predicate ∨
      Sql.IsFactor predicate := by
  obtain ⟨-, horigin⟩ := h.origin hpredicate
  rcases horigin with hanswer | ⟨aliasName, key, scope, hbatch⟩ | hcondition
  · exact .inl hanswer
  · exact .inr (Sql.isFactor_batchCondition hbatch)
  · exact .inr (h.isFactor_condition hcondition)

/-- The clause is made of all predicates of the plan, since none of them is blank. -/
theorem conjunction_eq {planner : Planner}
    (h : planner.EmitsSelect relation request draft pagination page text) (s : Spelling)
    (hne : draft.planned.predicates ≠ []) :
    s.conjunction draft.planned.predicates =
      String.intercalate " AND " draft.planned.predicates := by
  rw [Spelling.conjunction_eq_clauseOf fun predicate hmem => (h.origin hmem).1,
    Spelling.clauseOf, if_neg hne]

/-- If the callbacks answer boolean text or nothing, every predicate of the plan is boolean text,
and the open ones among them are answers of callbacks. -/
theorem read?_predicate
    (h : (standard name casing policy).EmitsSelect relation request draft pagination page text)
    (hanswers : ∀ answer, ((standard name casing policy).task relation request).Answers answer →
      Text.isBlank answer = true ∨ (Sql.read? answer).isSome = true)
    {predicate : String} (hpredicate : predicate ∈ draft.planned.predicates) :
    (Sql.read? predicate).isSome = true ∧ (Sql.IsOpen predicate →
      ((standard name casing policy).task relation request).Answers predicate) := by
  rcases h.answers_or_isFactor hpredicate with hanswer | hfactor
  · refine ⟨?_, fun _ => hanswer⟩
    rcases hanswers predicate hanswer with hblank | hread
    · rw [(h.origin hpredicate).1] at hblank
      cases hblank
    · exact hread
  · exact ⟨hfactor.isSome_read?, fun hopen => absurd hopen hfactor.not_isOpen⟩

end EmitsSelect

/-! ## Posts of a user

Posts that are joined to a user and have a filter of their own, at which the meaning of the clause
is shown. -/

/-- Posts with a filter. -/
def filteredPosts (filter : String) : Relation where
  table := "posts"
  aliasName := "p"
  sortKey := some ⟨.ascending, ["id"]⟩
  join := some fun user post _ => .ok (some (post ++ ".author_id = " ++ user ++ ".id"))
  filter := some fun _ _ => .ok (some filter)

/-- The posts of one user, which are joined to the user. -/
def ofUser : Request where
  parentAlias := some "u"
  joinCondition := some "TRUE"

/-- The plan of filtered posts of one user. -/
def filteredPostsDraft (filter : String) : Draft where
  planned := ⟨.joinedToMany, some .keyset, ["p.author_id = u.id", filter]⟩
  fragments := ["LEFT JOIN LATERAL (\n  SELECT \"p\".*\n  FROM posts \"p\"\n"
    ++ "  WHERE p.author_id = u.id AND " ++ filter
    ++ "\n  ORDER BY \"p\".\"id\" ASC\n  LIMIT ALL\n) \"p\" ON TRUE"]

/-- The tokens of the condition that joins posts to their user. -/
def ofUserTokens : List Sql.Token :=
  [.word "p".toList, .symbol '.', .word "author_id".toList, .symbol '=', .word "u".toList,
    .symbol '.', .word "id".toList]

/-- A filter that is a choice, in parentheses. -/
def closedChoice : String := "(p.published OR p.featured)"

/-- A filter that is a choice, without parentheses. -/
def openChoice : String := "p.published OR p.featured"

/-! ## Main results -/

/-- **The clause means the conjunction of the predicates when these are closed.**  Let the callbacks
answer boolean text, blank text or nothing.  Whenever planning with a built-in dialect emits a
select, its `WHERE` clause is boolean text, and it is the literal for truth if there are no
predicates.  It holds when all predicates hold.  It is equivalent to all predicates exactly when
each of its alternatives implies all of them.  It is so if there is one predicate or no
predicate is open, and for predicates that share no atom in no other case.  Only a callback can
answer an open predicate. -/
theorem where_holds_iff
    (hdraft : ((standard name casing policy).draft relation request).outcome = .ok draft)
    (hdeclared : relation.declaration?.isSome = true)
    (hanswers : ∀ answer, ((standard name casing policy).task relation request).Answers answer →
      Text.isBlank answer = true ∨ (Sql.read? answer).isSome = true) :
    ∃ pagination page text offset clause alternatives,
      (standard name casing policy).EmitsSelect relation request draft pagination page text ∧
      text = (Dialect.spellingOf name casing).select page offset ∧
      "  WHERE " ++ clause ∈ (Dialect.spellingOf name casing).selectLines page offset ∧
      clause = (Dialect.spellingOf name casing).conjunction draft.planned.predicates ∧
      Sql.alternativesOf? clause = some alternatives ∧
      (draft.planned.predicates = [] → clause = (Dialect.spellingOf name casing).trueLiteral) ∧
      (∀ p ∈ draft.planned.predicates, (Sql.read? p).isSome = true ∧
        (Sql.IsOpen p → ((standard name casing policy).task relation request).Answers p)) ∧
      (draft.planned.predicates ≠ [] →
        (∀ v, (∀ p ∈ draft.planned.predicates, Sql.TextHolds v p) → Sql.TextHolds v clause) ∧
        ((∀ v, Sql.TextHolds v clause ↔ ∀ p ∈ draft.planned.predicates, Sql.TextHolds v p) ↔
          ∀ alternative ∈ alternatives, ∀ v, (∀ f ∈ alternative, f.Holds v) →
            ∀ p ∈ draft.planned.predicates, Sql.TextHolds v p) ∧
        (draft.planned.predicates.length = 1 ∨
            (∀ p ∈ draft.planned.predicates, ¬ Sql.IsOpen p) →
          ∀ v, Sql.TextHolds v clause ↔ ∀ p ∈ draft.planned.predicates, Sql.TextHolds v p) ∧
        (draft.planned.predicates.Pairwise
            (fun p q => (Sql.textAtoms p).Disjoint (Sql.textAtoms q)) →
          ((∀ v, Sql.TextHolds v clause ↔ ∀ p ∈ draft.planned.predicates, Sql.TextHolds v p) ↔
            draft.planned.predicates.length = 1 ∨
              ∀ p ∈ draft.planned.predicates, ¬ Sql.IsOpen p))) := by
  obtain ⟨pagination, page, text, hemits⟩ := exists_emitsSelect hdraft hdeclared
  obtain ⟨offset, htext⟩ := hemits.exists_text_eq
  have hpredicates : ∀ p ∈ draft.planned.predicates, (Sql.read? p).isSome = true ∧
      (Sql.IsOpen p → ((standard name casing policy).task relation request).Answers p) :=
    fun p hp => hemits.read?_predicate hanswers hp
  have hread : ∀ p ∈ draft.planned.predicates, (Sql.read? p).isSome = true :=
    fun p hp => (hpredicates p hp).1
  have hline : "  WHERE " ++ (Dialect.spellingOf name casing).conjunction draft.planned.predicates ∈
      (Dialect.spellingOf name casing).selectLines page offset := by
    rw [← hemits.predicates_eq]
    simp [Spelling.selectLines]
  by_cases hne : draft.planned.predicates = []
  · have hclause : (Dialect.spellingOf name casing).conjunction draft.planned.predicates =
        (Dialect.spellingOf name casing).trueLiteral := by
      rw [hne]
      rfl
    have htrue : Sql.IsFactor (Dialect.spellingOf name casing).trueLiteral :=
      Sql.isFactor_trueLiteral
    obtain ⟨f, hf⟩ := htrue.exists_alternativesOf?
    rw [← hclause] at hf
    exact ⟨pagination, page, text, offset, _, _, hemits, htext, hline, rfl, hf, fun _ => hclause,
      hpredicates, fun hnonempty => absurd hne hnonempty⟩
  · have hclause := hemits.conjunction_eq (Dialect.spellingOf name casing) hne
    obtain ⟨parts, hparts⟩ := Sql.exists_parts hread
    have halternatives := Sql.alternativesOf?_intercalate hne hparts
    rw [hclause] at hline
    refine ⟨pagination, page, text, offset, _, _, hemits, htext, hline, hclause.symm,
      halternatives, fun hnil => absurd hnil hne, hpredicates, fun _ => ⟨?_, ?_, ?_, ?_⟩⟩
    · intro v hall
      exact Sql.textHolds_conjunction hne hall
    · exact Sql.forall_textHolds_conjunction_iff_implies hne halternatives
    · intro hclosed v
      exact Sql.textHolds_conjunction_iff_of_closed hne hread hclosed
    · exact Sql.forall_textHolds_conjunction_iff hne hread

/-- What the callbacks of filtered posts answer for one user. -/
theorem eq_of_answers_filteredPosts {filter answer : String}
    (h : ((standard .postgresql .identity .error).task (filteredPosts filter) ofUser).Answers
      answer) : answer = "p.author_id = u.id" ∨ answer = filter := by
  cases h with
  | join hjoin hparent h =>
    cases hjoin
    cases hparent
    have htext : Casing.identity.apply "p" ++ ".author_id = " ++ Casing.identity.apply "u"
        ++ ".id" = "p.author_id = u.id" := by decide +kernel
    exact .inl ((Option.some.inj (Except.ok.inj h)).symm.trans htext)
  | junctionJoin hjunction hjoins hparent h => cases hjunction
  | junctionFilter hjunction hfilter halias h => cases hjunction
  | filter hfilter h =>
    cases hfilter
    cases h
    exact .inr rfl

/-- A choice in parentheses restricts the posts of a user. -/
theorem where_holds_iff_closedChoice :
    ((standard .postgresql .identity .error).draft (filteredPosts closedChoice) ofUser).outcome =
        .ok (filteredPostsDraft closedChoice) ∧
      (filteredPosts closedChoice).declaration?.isSome = true ∧
      (∀ answer, ((standard .postgresql .identity .error).task (filteredPosts closedChoice)
          ofUser).Answers answer →
        Text.isBlank answer = true ∨ (Sql.read? answer).isSome = true) ∧
      ∀ v, Sql.TextHolds v "p.author_id = u.id AND (p.published OR p.featured)" ↔
        ∀ p ∈ ["p.author_id = u.id", closedChoice], Sql.TextHolds v p := by
  have hdraft : ((standard .postgresql .identity .error).draft (filteredPosts closedChoice)
      ofUser).outcome = .ok (filteredPostsDraft closedChoice) :=
    Except.toOption_eq_some_iff.1 (by decide +kernel)
  have hanswers : ∀ answer, ((standard .postgresql .identity .error).task
      (filteredPosts closedChoice) ofUser).Answers answer →
        Text.isBlank answer = true ∨ (Sql.read? answer).isSome = true := by
    intro answer hanswer
    rcases eq_of_answers_filteredPosts hanswer with rfl | rfl
    · exact .inr (by decide +kernel)
    · exact .inr (by decide +kernel)
  have hclosed : ∀ p ∈ ["p.author_id = u.id", closedChoice], ¬ Sql.IsOpen p := by
    decide +kernel
  obtain ⟨_, _, _, _, clause, _, _, _, _, hclause, _, _, _, hmeaning⟩ :=
    where_holds_iff hdraft rfl hanswers
  obtain ⟨-, -, hiff, -⟩ := hmeaning (List.cons_ne_nil _ _)
  have hequal : clause = "p.author_id = u.id AND (p.published OR p.featured)" := by
    rw [hclause]
    decide +kernel
  rw [hequal] at hiff
  exact ⟨hdraft, rfl, hanswers, hiff (.inr hclosed)⟩

/-- The clause does not always mean the conjunction of the predicates: with an open choice it lets
featured posts of other users pass. -/
theorem not_forall_where_holds_iff :
    ¬ ∀ (name : DialectName) (casing : Casing) (policy : MissingPolicy) (relation : Relation)
        (request : Request) (draft : Draft) (pagination : Pagination) (page : PageSelect)
        (text : String),
      (standard name casing policy).EmitsSelect relation request draft pagination page text →
      (∀ answer, ((standard name casing policy).task relation request).Answers answer →
        Text.isBlank answer = true ∨ (Sql.read? answer).isSome = true) →
      draft.planned.predicates ≠ [] → ∀ v,
        Sql.TextHolds v ((Dialect.spellingOf name casing).conjunction draft.planned.predicates) ↔
          ∀ p ∈ draft.planned.predicates, Sql.TextHolds v p := by
  intro h
  have hdraft : ((standard .postgresql .identity .error).draft (filteredPosts openChoice)
      ofUser).outcome = .ok (filteredPostsDraft openChoice) :=
    Except.toOption_eq_some_iff.1 (by decide +kernel)
  obtain ⟨pagination, page, text, hemits⟩ := exists_emitsSelect hdraft rfl
  have hanswers : ∀ answer, ((standard .postgresql .identity .error).task
      (filteredPosts openChoice) ofUser).Answers answer →
        Text.isBlank answer = true ∨ (Sql.read? answer).isSome = true := by
    intro answer hanswer
    rcases eq_of_answers_filteredPosts hanswer with rfl | rfl
    · exact .inr (by decide +kernel)
    · exact .inr (by decide +kernel)
  -- the user is another one, but the post is featured
  have hiff := h _ _ _ _ _ _ _ _ _ hemits hanswers (List.cons_ne_nil _ _) fun tokens =>
    tokens = [.word "p".toList, .symbol '.', .word "featured".toList]
  have hclause : Sql.read? ((Dialect.spellingOf .postgresql .identity).conjunction
      ["p.author_id = u.id", openChoice]) = some (.either
        (.both (.atom ofUserTokens)
          (.atom [.word "p".toList, .symbol '.', .word "published".toList]))
        (.atom [.word "p".toList, .symbol '.', .word "featured".toList])) := by
    decide +kernel
  have hjoin : Sql.read? "p.author_id = u.id" = some (.atom ofUserTokens) := by
    decide +kernel
  obtain ⟨f, hf, hholds⟩ := hiff.1 ⟨_, hclause, .inr rfl⟩ "p.author_id = u.id" List.mem_cons_self
  cases hjoin.symm.trans hf
  have hother : ofUserTokens ≠ [.word "p".toList, .symbol '.', .word "featured".toList] := by decide
  exact hother hholds

end Planner

end RelationPaging
