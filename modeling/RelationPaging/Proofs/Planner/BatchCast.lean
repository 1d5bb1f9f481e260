import RelationPaging.Proofs.Planner.BatchAgreement

/-!
# The cast of a key column suits all keys

The condition of a batch compares a key column with the keys in the temporary table.  Whether the
column is cast to text for this is decided by the first key alone.  As only valid scopes are
planned, the first key speaks for all of them (`Spelling.castsByLiterals_cast`).

`Spelling.CastsByLiterals` says so of the text of the condition and of the literals in the rows of
the table, and `Planner.isJudged_and_castsByLiterals` that it holds in every plan of a batch.
-/

namespace RelationPaging

namespace Spelling

variable (s : Spelling)

/-- A condition compares a key column, given by its reference, with a column of keys in the one way
or the other: cast to text exactly if all keys are written as texts, and as it is exactly if all of
them are written as numbers. -/
structure CastsByLiterals (reference target condition : String) (literals : List String) :
    Prop where
  cast_iff : condition = "CAST(" ++ reference ++ " AS " ++ s.textType ++ ") = " ++ target ↔
    ∀ literal ∈ literals, IsTextLiteral literal
  plain_iff : condition = reference ++ " = " ++ target ↔
    ∀ literal ∈ literals, IsNumericLiteral literal
  cast_or_plain : condition = "CAST(" ++ reference ++ " AS " ++ s.textType ++ ") = " ++ target ∨
    condition = reference ++ " = " ++ target

/-- A column that is cast is not written like one that is not. -/
theorem cast_ne_plain (reference target : String) :
    "CAST(" ++ reference ++ " AS " ++ s.textType ++ ") = " ++ target ≠
      reference ++ " = " ++ target := by
  intro h
  have hlength := congrArg (fun text : String => text.toList.length) h
  simp only [String.toList_append, List.length_append] at hlength
  have hcast : "CAST(".toList.length = 5 := by decide
  have hclosing : ") = ".toList.length = 4 := by decide
  have hequals : " = ".toList.length = 3 := by decide
  omega

/-- In a valid scope the first key decides for all of them. -/
theorem castsByLiterals_cast {scope : BatchScope} {kind : BatchKind} {sample : BatchValue}
    (hvalid : scope.validate = .ok (some kind)) (hsample : scope.sample? = some sample)
    (reference target : String) :
    s.CastsByLiterals reference target (s.cast reference sample ++ " = " ++ target)
      scope.literals := by
  have hkind : sample.kind = kind :=
    (((scope.isJudged.some_iff kind).1 hvalid).2 sample (List.mem_of_head? hsample)).2
  have hne := s.cast_ne_plain reference target
  by_cases htext : kind = .text
  · have hcast : s.cast reference sample ++ " = " ++ target =
        "CAST(" ++ reference ++ " AS " ++ s.textType ++ ") = " ++ target := by
      have hseam : ") = " = ")" ++ " = " := by decide
      simp only [cast, hkind, htext, hseam, String.append_assoc]
    rw [hcast]
    refine ⟨?_, ?_, .inl rfl⟩
    · simp [BatchScope.forall_isTextLiteral_iff hvalid, htext]
    · simp [BatchScope.forall_isNumericLiteral_iff hvalid, htext, hne]
  · have hplain : s.cast reference sample = reference := by
      unfold cast
      split
      · next heq => exact absurd (hkind.symm.trans heq) htext
      · rfl
      · rfl
    rw [hplain]
    refine ⟨?_, ?_, .inr rfl⟩
    · simp [BatchScope.forall_isTextLiteral_iff hvalid, htext, hne.symm]
    · simp [BatchScope.forall_isNumericLiteral_iff hvalid, htext]

/-- The temporary table with the given literals in its rows, one in each, under the name and with
the column that the condition of a batch compares with. -/
def batchTableOf (literals : List String) (key : BatchKey) : String :=
  "FROM (VALUES "
    ++ ", ".intercalate (literals.map fun literal => s.rowKeyword ++ "(" ++ literal ++ ")")
    ++ ") " ++ s.batchTable ++ "(" ++ s.batchColumn key ++ ")"

end Spelling

/-- The table of a scope has the literals of its values in its rows. -/
theorem Dialect.table_eq_batchTableOf (name : DialectName) (casing : Casing) {scope : BatchScope}
    (hne : scope.values ≠ []) (key : BatchKey) :
    (spellingOf name casing).table scope (casing.apply key.parent) =
      (spellingOf name casing).batchTableOf scope.literals key := by
  have hrows : scope.literals.map (fun literal =>
      (spellingOf name casing).rowKeyword ++ "(" ++ literal ++ ")") =
        scope.values.map (spellingOf name casing).valueRow := List.map_map
  rw [Spelling.table_eq_valuesTable _ hne]
  unfold Spelling.valuesTable Spelling.batchTableOf
  simp only [hrows, batchTable_spellingOf, Spelling.batchColumn, spellingOf_casing]

namespace Planner

variable {name : DialectName} {casing : Casing} {policy : MissingPolicy} {relation : Relation}
  {request : Request} {scope : BatchScope} {draft : Draft}

/-- A batch that is planned has a valid scope, whose condition and table are those of the plan. -/
theorem exists_castsByLiterals (hbatched : (relation.shape request.isRoot).isBatched = true)
    (hscope : request.scope = some scope) (hne : scope.values ≠ [])
    (hdraft : ((standard name casing policy).draft relation request).outcome = .ok draft) :
    ∃ kind key condition others more,
      scope.validate = .ok (some kind) ∧
      ((standard name casing policy).task relation request).batchKey? = some key ∧
      draft.planned.predicates = condition :: others ∧
      draft.fragments = (Dialect.spellingOf name casing).batchTableOf scope.literals key :: more ∧
      (Dialect.spellingOf name casing).CastsByLiterals
        ((Dialect.spellingOf name casing).column
          ((standard name casing policy).task relation request).keyedAlias
          (casing.apply key.child))
        ((Dialect.spellingOf name casing).batchTable ++ "."
          ++ (Dialect.spellingOf name casing).batchColumn key)
        condition scope.literals := by
  obtain ⟨-, hinputs, -⟩ := (course _ relation request).of_ok hdraft
  obtain ⟨condition, hcondition⟩ := hinputs.batchCondition hbatched
  obtain ⟨_, key, kind?, hgiven, hkey, hvalid, hwritten⟩ :=
    Task.batchCondition_eq_ok_iff.1 hcondition
  cases hscope.symm.trans hgiven
  obtain ⟨others, hpredicates⟩ := exists_predicates_eq_cons hbatched
    (structuralPredicate_of_isBatched _ hbatched hcondition) hdraft
  obtain ⟨emission, hfragments, htemporary, -⟩ := exists_fragments hdraft
  have htable := temporary_eq_table hbatched
    (Task.batchInputs_eq_ok_iff.2 ⟨hscope, hkey⟩) htemporary
  rw [Dialect.table_eq_batchTableOf name casing hne] at htable
  obtain ⟨sample, hsample⟩ : ∃ sample, scope.sample? = some sample :=
    ⟨_, List.head?_eq_some_head hne⟩
  obtain ⟨kind, rfl⟩ : ∃ kind, kind? = some kind := by
    cases kind? with
    | some kind => exact ⟨kind, rfl⟩
    | none => exact absurd (scope.isJudged.none_iff.1 hvalid) hne
  have hcasing : ((standard name casing policy).task relation request).dialect.casing = casing :=
    standard_casing name casing policy
  rw [hcasing] at hwritten
  have hcompared : condition = (Dialect.spellingOf name casing).cast _ sample ++ " = " ++ _ :=
    Dialect.batchCondition_eq_of_sample? hsample hwritten
  refine ⟨kind, key, condition, others, emission.select.toList ++ emission.trailing.toList, hvalid,
    hkey, hpredicates, ?_, ?_⟩
  · rw [hfragments, Emission.toList, htable, List.append_assoc]
    rfl
  · rw [hcompared]
    exact Spelling.castsByLiterals_cast _ hvalid hsample _ _

/-! ## Main result -/

/-- **The check of a scope is exact and protects the cast.**  A scope is valid exactly if it has no
values, or finite values of one kind, which is its kind; otherwise the check names the first value
that is not finite, or else the kind of the first value and that of the first value of another kind.
Whenever planning a batch with a built-in dialect succeeds and the scope has values, the scope is
valid, its literals are the rows of the temporary table, and the condition of the batch casts the
key column to text exactly if all rows are texts, and leaves it as it is exactly if all of them are
finite numbers. -/
theorem isJudged_and_castsByLiterals (name : DialectName) (casing : Casing)
    (policy : MissingPolicy) :
    (∀ scope : BatchScope, scope.IsJudged) ∧
    ∀ relation request fragments planned scope,
      (relation.shape request.isRoot).isBatched = true → request.scope = some scope →
      scope.values ≠ [] →
      ((standard name casing policy).plan relation request fragments).1.outcome = .ok planned →
      ∃ kind key condition others more,
        scope.validate = .ok (some kind) ∧
        ((standard name casing policy).task relation request).batchKey? = some key ∧
        planned.predicates = condition :: others ∧
        ((standard name casing policy).plan relation request fragments).2 = fragments.append
          ((Dialect.spellingOf name casing).batchTableOf scope.literals key :: more) ∧
        (Dialect.spellingOf name casing).CastsByLiterals
          ((Dialect.spellingOf name casing).column
            ((standard name casing policy).task relation request).keyedAlias
            (casing.apply key.child))
          ((Dialect.spellingOf name casing).batchTable ++ "."
            ++ (Dialect.spellingOf name casing).batchColumn key)
          condition scope.literals := by
  refine ⟨BatchScope.isJudged, fun relation request fragments planned scope hbatched hscope hne
    hplan => ?_⟩
  obtain ⟨draft, hdraft, rfl⟩ := exists_draft_of_plan _ _ _ hplan
  obtain ⟨kind, key, condition, others, more, hvalid, hkey, hpredicates, hfragments, hcasts⟩ :=
    exists_castsByLiterals hbatched hscope hne hdraft
  refine ⟨kind, key, condition, others, more, hvalid, hkey, hpredicates, ?_, hcasts⟩
  rw [plan_of_ok _ _ _ hdraft, hfragments]

/-- Among keys of all kinds the first one that is not finite is named.  The key of the filtered tags
of several posts is cast, so the keys of the posts are texts. -/
theorem isJudged_and_castsByLiterals_filteredTags :
    (⟨[.text "a", .integer 1, .floating .notANumber, .floating (.infinite true)]⟩ :
        BatchScope).validate = .error (.nonFinite (.floating .notANumber)) ∧
      ((standard .db2 .upper .error).plan filteredTags ofPosts .empty).1.outcome =
        .ok filteredTagsDraft.planned ∧
      ∀ literal ∈ ["'a'", "'b'"], IsTextLiteral literal := by
  obtain ⟨hjudged, hcasts⟩ := isJudged_and_castsByLiterals .db2 .upper .error
  refine ⟨?_, plan_filteredTags .empty, ?_⟩
  · exact ((hjudged _).nonFinite_iff _).2 ⟨[.text "a", .integer 1], [.floating (.infinite true)],
      rfl, by decide, rfl⟩
  · obtain ⟨kind, key, condition, others, more, -, hkey, hpredicates, -, hcasts⟩ :=
      hcasts filteredTags ofPosts .empty filteredTagsDraft.planned ⟨[.text "a", .text "b"]⟩ rfl rfl
        (by decide) (plan_filteredTags .empty)
    cases hkey
    obtain ⟨rfl, -⟩ := List.cons.inj hpredicates
    exact hcasts.cast_iff.1 (by decide +kernel)

end Planner

end RelationPaging
