import RelationPaging.Batch
import RelationPaging.Proofs.Binary64.Characters

/-!
# The check of a batch scope is exact

A scope is searched twice, first for a value that is not finite and then for one of another kind
than the first value.  `BatchScope.IsJudged` says what the two searches find together: each outcome
of the check is tied to the values by an equivalence, and a defect names the first value that is
one.

The kind that a scope is found to have can be seen in the literals of its values
(`isTextLiteral_literal_iff`, `isNumericLiteral_literal_iff`).
-/

namespace RelationPaging

/-! ## The first item with a property -/

/-- An item of a list that has a property, which no item in front of it has. -/
def IsFirst {α : Type} (p : α → Prop) (xs : List α) (x : α) : Prop :=
  ∃ before after, xs = before ++ x :: after ∧ (∀ y ∈ before, ¬ p y) ∧ p x

/-- The first item with a property is what a search for it finds. -/
theorem isFirst_iff_find? {α : Type} {p : α → Prop} {q : α → Bool} (hpq : ∀ x, q x = true ↔ p x)
    {xs : List α} {x : α} : IsFirst p xs x ↔ xs.find? q = some x := by
  simp only [List.find?_eq_some_iff_append, IsFirst, Bool.not_eq_true', ← Bool.not_eq_true, hpq]
  constructor
  · rintro ⟨before, after, hxs, hbefore, hx⟩
    exact ⟨hx, before, after, hxs, hbefore⟩
  · rintro ⟨hx, before, after, hxs, hbefore⟩
    exact ⟨before, after, hxs, hbefore, hx⟩

namespace BatchScope

variable {scope : BatchScope}

/-! ## Searching for another kind -/

/-- The first value may be searched along with the others. -/
theorem commonKind_cons (first : BatchValue) (others : List BatchValue) :
    commonKind ⟨first :: others⟩ =
      match (first :: others).find? (·.kind != first.kind) with
      | some value => .error (.mixed first.kind value.kind)
      | none => .ok (some first.kind) := by
  have hothers : (others.map BatchValue.kind).find? (· != first.kind) =
      (others.find? (·.kind != first.kind)).map BatchValue.kind := List.find?_map
  rw [List.find?_cons, bne_self_eq_false, commonKind, List.map_cons]
  dsimp only
  rw [hothers]
  cases others.find? (·.kind != first.kind) <;> rfl

theorem commonKind_eq_none_iff : scope.commonKind = .ok none ↔ scope.values = [] := by
  obtain ⟨values⟩ := scope
  cases values with
  | nil => exact ⟨fun _ => rfl, fun _ => rfl⟩
  | cons first others =>
    rw [commonKind_cons]
    split <;> simp

theorem commonKind_eq_some_iff {kind : BatchKind} :
    scope.commonKind = .ok (some kind) ↔
      scope.values ≠ [] ∧ ∀ value ∈ scope.values, value.kind = kind := by
  obtain ⟨values⟩ := scope
  cases values with
  | nil => simp [commonKind]
  | cons first others =>
    rw [commonKind_cons]
    cases hfind : (first :: others).find? (·.kind != first.kind) with
    | some value =>
      have hne : value.kind ≠ first.kind := by simpa using List.find?_some hfind
      have hmem := List.mem_of_find?_eq_some hfind
      simp only [reduceCtorEq, false_iff, not_and]
      intro _ hkind
      exact hne ((hkind value hmem).trans (hkind first List.mem_cons_self).symm)
    | none =>
      have hall : ∀ value ∈ first :: others, value.kind = first.kind := by
        simpa using List.find?_eq_none.1 hfind
      simp only [Except.ok.injEq, Option.some.injEq]
      refine ⟨?_, fun h => h.2 first List.mem_cons_self⟩
      rintro rfl
      exact ⟨List.cons_ne_nil _ _, hall⟩

theorem commonKind_eq_mixed_iff {first other : BatchKind} :
    scope.commonKind = .error (.mixed first other) ↔
      ∃ sample value, scope.sample? = some sample ∧ sample.kind = first ∧
        IsFirst (·.kind ≠ first) scope.values value ∧ value.kind = other := by
  obtain ⟨values⟩ := scope
  cases values with
  | nil => simp [commonKind, sample?]
  | cons sample others =>
    have hfirst : ∀ value, IsFirst (·.kind ≠ sample.kind) (sample :: others) value ↔
        (sample :: others).find? (·.kind != sample.kind) = some value :=
      fun value => isFirst_iff_find? fun x => by simp
    rw [commonKind_cons]
    constructor
    · intro h
      split at h
      · next value hfind =>
        cases h
        exact ⟨sample, value, rfl, rfl, (hfirst value).2 hfind, rfl⟩
      · cases h
    · rintro ⟨_, value, hsample, rfl, hvalue, rfl⟩
      cases hsample
      rw [(hfirst value).1 hvalue]

theorem commonKind_ne_nonFinite (value : BatchValue) :
    scope.commonKind ≠ .error (.nonFinite value) := by
  obtain ⟨values⟩ := scope
  cases values with
  | nil => simp [commonKind]
  | cons first others =>
    rw [commonKind_cons]
    split <;> simp

/-! ## Searching for a value that is not finite -/

theorem validate_eq_nonFinite_iff {value : BatchValue} :
    scope.validate = .error (.nonFinite value) ↔
      IsFirst (·.isFinite = false) scope.values value := by
  rw [isFirst_iff_find? (q := (!·.isFinite)) fun x => by simp, validate]
  cases scope.values.find? (!·.isFinite) with
  | some other => simp
  | none => simp [commonKind_ne_nonFinite]

/-- Any other outcome is that of the second search, which is made if all values are finite. -/
theorem validate_eq_iff {outcome : Except Defect (Option BatchKind)}
    (h : ∀ value, outcome ≠ .error (.nonFinite value)) :
    scope.validate = outcome ↔
      (∀ value ∈ scope.values, value.isFinite = true) ∧ scope.commonKind = outcome := by
  have hfinite : (∀ value ∈ scope.values, value.isFinite = true) ↔
      scope.values.find? (!·.isFinite) = none := by simp
  rw [hfinite, validate]
  cases scope.values.find? (!·.isFinite) with
  | some value => simp [(h value).symm]
  | none => simp

/-- A scope is valid when all of its values are finite and of one kind. -/
theorem exists_validate_eq_ok_iff :
    (∃ kind, scope.validate = .ok kind) ↔
      (∀ value ∈ scope.values, value.isFinite = true) ∧
        ∀ value ∈ scope.values, ∀ other ∈ scope.values, value.kind = other.kind := by
  have hvalid : ∀ kind : Option BatchKind, scope.validate = .ok kind ↔
      (∀ value ∈ scope.values, value.isFinite = true) ∧ scope.commonKind = .ok kind :=
    fun kind => validate_eq_iff (by simp)
  simp only [hvalid, exists_and_left, Option.exists, commonKind_eq_none_iff, commonKind_eq_some_iff]
  refine and_congr_right' ?_
  cases scope.values with
  | nil => simp
  | cons first others =>
    simp only [reduceCtorEq, false_or, ne_eq, not_false_eq_true, true_and]
    constructor
    · rintro ⟨kind, hkind⟩ value hvalue other hother
      rw [hkind value hvalue, hkind other hother]
    · exact fun hsame => ⟨first.kind, fun value hvalue =>
        hsame value hvalue first List.mem_cons_self⟩

/-! ## The check -/

/-- The outcomes of the check of a scope, each with what the values are when it occurs. -/
structure IsJudged (scope : BatchScope) : Prop where
  /-- A scope without values is valid and has no kind. -/
  none_iff : scope.validate = .ok none ↔ scope.values = []
  /-- The kind of a scope is that of every value, and every value is finite. -/
  some_iff : ∀ kind, scope.validate = .ok (some kind) ↔
    scope.values ≠ [] ∧ ∀ value ∈ scope.values, value.isFinite = true ∧ value.kind = kind
  /-- The first value that is not finite is a defect, whatever the kinds are. -/
  nonFinite_iff : ∀ value, scope.validate = .error (.nonFinite value) ↔
    IsFirst (·.isFinite = false) scope.values value
  /-- Of finite values, the first one of another kind than the first value is a defect. -/
  mixed_iff : ∀ first other, scope.validate = .error (.mixed first other) ↔
    (∀ value ∈ scope.values, value.isFinite = true) ∧
      ∃ sample value, scope.sample? = some sample ∧ sample.kind = first ∧
        IsFirst (·.kind ≠ first) scope.values value ∧ value.kind = other

theorem isJudged (scope : BatchScope) : scope.IsJudged := by
  constructor
  case none_iff =>
    rw [validate_eq_iff (by simp), commonKind_eq_none_iff, and_iff_right_iff_imp]
    intro hnil
    simp [hnil]
  case some_iff =>
    intro kind
    rw [validate_eq_iff (by simp), commonKind_eq_some_iff, and_left_comm]
    simp only [forall_and]
  case nonFinite_iff => exact fun value => validate_eq_nonFinite_iff
  case mixed_iff =>
    intro first other
    rw [validate_eq_iff (by simp), commonKind_eq_mixed_iff]

end BatchScope

/-! ## Literals -/

/-- A text between quotes, with the quotes in it doubled. -/
def IsTextLiteral (literal : String) : Prop :=
  ∃ s, literal = textLiteral s

/-- A numeral, which is what a finite number is written as. -/
def IsNumericLiteral (literal : String) : Prop :=
  IsNumeral literal.toList

theorem quote_mem_textLiteral (s : String) : '\'' ∈ (textLiteral s).toList := by
  simp [textLiteral]

namespace BatchValue

theorem isNumericLiteral_integer (n : Int64) : IsNumericLiteral (integer n).literal := by
  have hdigits : ∀ m : Nat, IsUnsigned m.repr.toList := by
    intro m
    rw [Nat.toList_repr]
    exact .mantissa (.whole (isDigits_toDigits m))
  rw [literal, Int.toString_eq_repr, Int.repr_eq_if, IsNumericLiteral]
  split
  · exact .positive (hdigits _)
  · rw [String.toList_append]
    exact .negative (hdigits _)

theorem isNumericLiteral_finite (x : Binary64.Finite) :
    IsNumericLiteral (floating (.finite x)).literal := by
  rw [literal, Binary64.text, IsNumericLiteral, String.toList_ofList]
  exact Binary64.isNumeral_chars (by decide) x

/-- Infinities and not-a-number are words, which are neither numerals nor texts. -/
theorem exists_mem_literal_of_not_isFinite {value : BatchValue} (h : value.isFinite = false) :
    (∃ c ∈ value.literal.toList, isNumberChar c = false) ∧ '\'' ∉ value.literal.toList := by
  cases value with
  | integer n => cases h
  | text s => cases h
  | floating x =>
    cases x with
    | finite x => cases h
    | infinite negative => cases negative <;> exact ⟨⟨'f', by decide, by decide⟩, by decide⟩
    | notANumber => exact ⟨⟨'a', by decide, by decide⟩, by decide⟩

/-- A value is written as a numeral if and only if it is a finite number. -/
theorem isNumericLiteral_literal_iff {value : BatchValue} :
    IsNumericLiteral value.literal ↔ value.isFinite = true ∧ value.kind ≠ .text := by
  constructor
  · intro h
    constructor
    · cases hfinite : value.isFinite with
      | true => rfl
      | false =>
        obtain ⟨⟨c, hmem, hc⟩, -⟩ := exists_mem_literal_of_not_isFinite hfinite
        rw [h.isNumberChar c hmem] at hc
        cases hc
    · intro hkind
      cases value with
      | text s => exact absurd (h.isNumberChar _ (quote_mem_textLiteral s)) (by decide)
      | integer n => cases hkind
      | floating x => cases hkind
  · rintro ⟨hfinite, hkind⟩
    cases value with
    | integer n => exact isNumericLiteral_integer n
    | text s => exact absurd rfl hkind
    | floating x =>
      cases x with
      | finite x => exact isNumericLiteral_finite x
      | infinite negative => cases hfinite
      | notANumber => cases hfinite

/-- A value is written as a text if and only if it is one. -/
theorem isTextLiteral_literal_iff {value : BatchValue} :
    IsTextLiteral value.literal ↔ value.kind = .text := by
  constructor
  · rintro ⟨s, hs⟩
    have hquote : '\'' ∈ value.literal.toList := hs ▸ quote_mem_textLiteral s
    cases hfinite : value.isFinite with
    | false => exact absurd hquote (exists_mem_literal_of_not_isFinite hfinite).2
    | true =>
      by_cases hkind : value.kind = .text
      · exact hkind
      · have hnumeral := isNumericLiteral_literal_iff.2 ⟨hfinite, hkind⟩
        exact absurd (hnumeral.isNumberChar _ hquote) (by decide)
  · intro hkind
    cases value with
    | text s => exact ⟨s, rfl⟩
    | integer n => cases hkind
    | floating x => cases hkind

end BatchValue

namespace BatchScope

variable {scope : BatchScope} {kind : BatchKind}

/-- The literals of the values of a scope, in order. -/
def literals (scope : BatchScope) : List String :=
  scope.values.map BatchValue.literal

/-- The literals of a valid scope are those of texts if and only if its kind is. -/
theorem forall_isTextLiteral_iff (h : scope.validate = .ok (some kind)) :
    (∀ literal ∈ scope.literals, IsTextLiteral literal) ↔ kind = .text := by
  obtain ⟨hne, hvalues⟩ := (isJudged scope).some_iff kind |>.1 h
  obtain ⟨value, hvalue⟩ := List.exists_mem_of_ne_nil _ hne
  rw [literals, List.forall_mem_map]
  simp only [BatchValue.isTextLiteral_literal_iff]
  constructor
  · intro htext
    rw [← (hvalues value hvalue).2, htext value hvalue]
  · rintro rfl
    exact fun value hvalue => (hvalues value hvalue).2

/-- Otherwise they are numerals, each of them. -/
theorem forall_isNumericLiteral_iff (h : scope.validate = .ok (some kind)) :
    (∀ literal ∈ scope.literals, IsNumericLiteral literal) ↔ kind ≠ .text := by
  obtain ⟨hne, hvalues⟩ := (isJudged scope).some_iff kind |>.1 h
  obtain ⟨value, hvalue⟩ := List.exists_mem_of_ne_nil _ hne
  rw [literals, List.forall_mem_map]
  simp only [BatchValue.isNumericLiteral_literal_iff]
  constructor
  · intro hnumeric
    rw [← (hvalues value hvalue).2]
    exact (hnumeric value hvalue).2
  · intro hkind value hvalue
    obtain ⟨hfinite, heq⟩ := hvalues value hvalue
    exact ⟨hfinite, heq ▸ hkind⟩

end BatchScope

end RelationPaging
