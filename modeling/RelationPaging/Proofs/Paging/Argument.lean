import RelationPaging.Paging.Argument
import RelationPaging.Proofs.Binary64.Characters
import RelationPaging.Proofs.Outcome
import RelationPaging.Proofs.Text.Decimal
import Mathlib.Data.List.DropRight

/-!
# What paging arguments say

What the readers of paging arguments accept, said without them.  An argument is absent if it is
missing or null.  `IsCount` is the grammar of counts: a JSON integer below `2 ^ 64`, or a text of
digits that have such a value, with at most one plus sign in front of them and with white space
around.  An argument is read as a count or as a cursor exactly if it holds one, and as none exactly
if it is absent; everything else is refused.
-/

namespace RelationPaging

/-! ## Trimmed texts -/

namespace Text

/-- A text is its trimmed form with white space on both sides of it. -/
theorem exists_append_trim (cs : List Char) :
    ∃ before after, cs = before ++ trim cs ++ after ∧
      (∀ c ∈ before, isWhiteSpace c = true) ∧ ∀ c ∈ after, isWhiteSpace c = true := by
  have hright : ∀ xs : List Char, xs.rdropWhile isWhiteSpace ++ xs.rtakeWhile isWhiteSpace = xs :=
    fun xs => List.rdropWhile_append_rtakeWhile
  have htrim : trim cs = (cs.dropWhile isWhiteSpace).rdropWhile isWhiteSpace := rfl
  refine ⟨cs.takeWhile isWhiteSpace, (cs.dropWhile isWhiteSpace).rtakeWhile isWhiteSpace, ?_,
    fun c hc => List.mem_takeWhile_imp hc, fun c hc => List.mem_rtakeWhile_imp hc⟩
  rw [htrim, List.append_assoc, hright, List.takeWhile_append_dropWhile]

/-- A trimmed text neither starts nor ends with white space. -/
theorem trim_ends (cs : List Char) :
    (∀ c ∈ (trim cs).head?, isWhiteSpace c = false) ∧
      ∀ c ∈ (trim cs).getLast?, isWhiteSpace c = false := by
  have htrim : trim cs = (cs.dropWhile isWhiteSpace).rdropWhile isWhiteSpace := rfl
  rw [htrim]
  constructor
  · intro c hc
    obtain ⟨dropped, hdropped⟩ := List.rdropWhile_prefix isWhiteSpace (cs.dropWhile isWhiteSpace)
    have hne := List.ne_nil_of_mem (List.mem_of_mem_head? hc)
    have hfirst := List.head?_dropWhile_not isWhiteSpace cs
    rw [← hdropped, List.head?_append_of_ne_nil _ hne, hc] at hfirst
    exact hfirst
  · intro c hc
    obtain ⟨hne, rfl⟩ := List.mem_getLast?_eq_getLast hc
    simpa using List.rdropWhile_last_not isWhiteSpace _ hne

/-- What stands in front of a character that is no white space is dropped up to it. -/
theorem dropWhile_append_of_ne_nil {before cs : List Char} (rest : List Char)
    (hbefore : ∀ c ∈ before, isWhiteSpace c = true) (hne : cs ≠ [])
    (hfirst : ∀ c ∈ cs.head?, isWhiteSpace c = false) :
    (before ++ (cs ++ rest)).dropWhile isWhiteSpace = cs ++ rest := by
  obtain ⟨c, cs, rfl⟩ := List.exists_cons_of_ne_nil hne
  have hc : ¬ isWhiteSpace c = true := by
    rw [hfirst c rfl]
    exact Bool.false_ne_true
  rw [List.dropWhile_append_of_pos hbefore, List.cons_append, List.dropWhile_cons_of_neg hc]

/-- White space around a text that neither starts nor ends with it is trimmed off. -/
theorem trim_append {before cs after : List Char} (hbefore : ∀ c ∈ before, isWhiteSpace c = true)
    (hfirst : ∀ c ∈ cs.head?, isWhiteSpace c = false)
    (hlast : ∀ c ∈ cs.getLast?, isWhiteSpace c = false)
    (hafter : ∀ c ∈ after, isWhiteSpace c = true) :
    trim (before ++ cs ++ after) = cs := by
  by_cases hne : cs = []
  · have hblank : ∀ c ∈ before ++ after, isWhiteSpace c = true :=
      List.forall_mem_append.2 ⟨hbefore, hafter⟩
    rw [hne, List.append_nil, trim, List.dropWhile_eq_nil_iff.2 hblank]
    rfl
  · have hright : (after.reverse ++ (cs.reverse ++ [])).dropWhile isWhiteSpace =
        cs.reverse ++ [] :=
      dropWhile_append_of_ne_nil [] (fun c hc => hafter c (List.mem_reverse.1 hc))
        (List.reverse_ne_nil_iff.2 hne) fun c hc => hlast c (List.head?_reverse ▸ hc)
    rw [List.append_nil] at hright
    rw [trim, List.append_assoc, dropWhile_append_of_ne_nil after hbefore hne hfirst,
      List.reverse_append, hright, List.reverse_reverse]

end Text

/-! ## Counts -/

/-- The values that denote a count: the integer, and each text of digits that have the count as
their value, with at most one plus sign in front of them and with white space around. -/
inductive IsCount (n : UInt64) : Json → Prop
  | number {word : Json.Word} (hword : word.value = n.toNat) : IsCount n (.number (.whole word))
  | text {s : String} {before sign digits after : List Char}
    (hs : s.toList = before ++ (sign ++ digits) ++ after)
    (hbefore : ∀ c ∈ before, Text.isWhiteSpace c = true) (hsign : sign = [] ∨ sign = ['+'])
    (hdigits : IsDigits digits) (hvalue : Nat.ofDigitChars 10 digits 0 = n.toNat)
    (hafter : ∀ c ∈ after, Text.isWhiteSpace c = true) : IsCount n (.string s)

/-- A number counts rows if it is an integer that fits. -/
theorem Json.Number.count?_eq_some_iff {number : Json.Number} {n : UInt64} :
    number.count? = some n ↔ IsCount n (.number number) := by
  constructor
  · intro h
    cases number with
    | real value => cases h
    | whole word =>
      by_cases hsign : 0 ≤ word.value
      · rw [count?, if_pos hsign, Option.some.injEq] at h
        have hbound := word.most
        have hvalue : (UInt64.ofNat word.value.toNat).toNat = word.value.toNat :=
          UInt64.toNat_ofNat_of_lt' (by simp only [UInt64.size]; omega)
        rw [h] at hvalue
        exact .number (by omega)
      · rw [count?, if_neg hsign] at h
        cases h
  · intro h
    cases h with
    | @number word hword =>
      rw [count?, if_pos (by omega), hword, Int.toNat_natCast, UInt64.ofNat_toNat]

/-- A text counts rows if it is a numeral of the grammar. -/
theorem Text.readCount?_trim_eq_some_iff {s : String} {n : UInt64} :
    readCount? (trim s.toList) = some n ↔ IsCount n (.string s) := by
  constructor
  · intro h
    obtain ⟨before, after, hs, hbefore, hafter⟩ := exists_append_trim s.toList
    obtain ⟨sign, digits, hsign, hne, hdigits, hvalue, htrim⟩ := readCount?_eq_some_iff.1 h
    rw [htrim] at hs
    exact .text hs hbefore hsign ⟨hne, hdigits⟩ hvalue hafter
  · intro h
    cases h with
    | @text _ before sign digits after hs hbefore hsign hdigits hvalue hafter =>
      have hchars : ∀ c ∈ sign ++ digits, isWhiteSpace c = false := by
        intro c hc
        refine isWhiteSpace_of_isNumberChar ?_
        rcases List.mem_append.1 hc with hc | hc
        · rcases hsign with rfl | rfl
          · cases hc
          · rw [List.mem_singleton.1 hc]
            decide
        · exact hdigits.isNumberChar c hc
      have hfirst : ∀ c ∈ (sign ++ digits).head?, isWhiteSpace c = false :=
        fun c hc => hchars c (List.mem_of_mem_head? hc)
      have hlast : ∀ c ∈ (sign ++ digits).getLast?, isWhiteSpace c = false :=
        fun c hc => hchars c (List.mem_of_mem_getLast? hc)
      rw [hs, trim_append hbefore hfirst hlast hafter, readCount?_eq_some_iff]
      exact ⟨sign, digits, hsign, hdigits.ne_nil, hdigits.isDigit, hvalue, rfl⟩

namespace Arguments

theorem countOf?_eq_some_iff {value : Json} {n : UInt64} :
    countOf? value = some n ↔ IsCount n value := by
  cases value with
  | number number => exact Json.Number.count?_eq_some_iff
  | string s => exact Text.readCount?_trim_eq_some_iff
  | null | bool b | array items | object members =>
    constructor
    · intro h
      cases h
    · intro h
      cases h

/-! ## Arguments -/

variable {arguments : Arguments} {name : String}

/-- An argument that is missing or null. -/
def IsAbsent (arguments : Arguments) (name : String) : Prop :=
  arguments.get? name = none ∨ arguments.get? name = some .null

/-- An argument that holds a count. -/
def HoldsCount (arguments : Arguments) (name : String) (n : UInt64) : Prop :=
  ∃ value, arguments.get? name = some value ∧ IsCount n value

/-- An argument that holds a text, which may be a cursor. -/
def HoldsText (arguments : Arguments) (name text : String) : Prop :=
  arguments.get? name = some (.string text)

theorem given?_eq_none_iff : arguments.given? name = none ↔ arguments.IsAbsent name := by
  rw [given?, IsAbsent]
  cases arguments.get? name with
  | none => simp
  | some value => simp

theorem given?_eq_some_iff {value : Json} :
    arguments.given? name = some value ↔ arguments.get? name = some value ∧ value ≠ .null := by
  rw [given?, Option.filter_eq_some_iff, bne_iff_ne]

theorem count_eq_none_iff : arguments.count name = .ok none ↔ arguments.IsAbsent name := by
  rw [count, ← given?_eq_none_iff]
  cases arguments.given? name with
  | none => simp
  | some value =>
    cases hcount : countOf? value with
    | none => simp [hcount]
    | some n => simp [hcount]

theorem count_eq_some_iff {n : UInt64} :
    arguments.count name = .ok (some n) ↔ arguments.HoldsCount name n := by
  have hcount : arguments.count name = .ok (some n) ↔
      ∃ value, arguments.given? name = some value ∧ countOf? value = some n := by
    rw [count]
    cases arguments.given? name with
    | none => simp
    | some value =>
      cases hvalue : countOf? value with
      | none => simp [hvalue]
      | some m => simp [hvalue]
  rw [hcount]
  simp only [given?_eq_some_iff, countOf?_eq_some_iff]
  constructor
  · rintro ⟨value, ⟨hvalue, -⟩, hn⟩
    exact ⟨value, hvalue, hn⟩
  · rintro ⟨value, hvalue, hn⟩
    refine ⟨value, ⟨hvalue, ?_⟩, hn⟩
    rintro rfl
    cases hn

theorem cursor_eq_none_iff : arguments.cursor name = .ok none ↔ arguments.IsAbsent name := by
  rw [cursor, ← given?_eq_none_iff]
  cases arguments.given? name with
  | none => simp
  | some value => cases value <;> simp

theorem cursor_eq_some_iff {text : String} :
    arguments.cursor name = .ok (some text) ↔ arguments.HoldsText name text := by
  have hcursor : arguments.cursor name = .ok (some text) ↔
      arguments.given? name = some (.string text) := by
    rw [cursor]
    cases arguments.given? name with
    | none => simp
    | some value => cases value <;> simp
  rw [hcursor, given?_eq_some_iff, HoldsText]
  simp

/-- An argument holds one count at most. -/
theorem HoldsCount.unique {m n : UInt64} (hm : arguments.HoldsCount name m)
    (hn : arguments.HoldsCount name n) : m = n := by
  have hcount := count_eq_some_iff.2 hm
  rw [count_eq_some_iff.2 hn] at hcount
  cases hcount
  rfl

theorem HoldsCount.not_isAbsent {n : UInt64} (h : arguments.HoldsCount name n) :
    ¬ arguments.IsAbsent name := by
  intro habsent
  have hnone := count_eq_none_iff.2 habsent
  rw [count_eq_some_iff.2 h] at hnone
  cases hnone

theorem HoldsText.not_isAbsent {text : String} (h : arguments.HoldsText name text) :
    ¬ arguments.IsAbsent name := by
  intro habsent
  rcases habsent with hnone | hnull
  · cases h.symm.trans hnone
  · cases h.symm.trans hnull

end Arguments

end RelationPaging
