import RelationPaging.Proofs.Paging.Argument

/-!
# Which arguments are counts, and which are not

An argument that counts rows may come as a JSON integer or as a text.  `IsCount` says which values
denote which count, and `IsNoCount` which values denote none: every value but null is of one of the
two kinds and not of both (`countOf?_eq_none_iff`).  So a count is read, an absent argument is
passed over and every other argument is refused with the value that was found (`count_decides`).

A text is refused for what is left of it once white space and one plus sign are taken away: nothing,
something that is not a digit, or digits whose value has no place in 64 bits.  Leading zeros do not
matter, so each count has texts of every length.
-/

namespace RelationPaging

/-! ## Texts that are no counts -/

namespace Text

/-- A text is its first plus sign, if it starts with one, and what stands behind it. -/
theorem dropPlus_eq_iff_split {cs body : List Char} :
    dropPlus cs = body ↔
      ∃ sign, (sign = [] ∧ body.head? ≠ some '+' ∨ sign = ['+']) ∧ cs = sign ++ body := by
  constructor
  · rintro rfl
    unfold dropPlus
    split
    · exact ⟨['+'], .inr rfl, rfl⟩
    · next hplus =>
      refine ⟨[], .inl ⟨rfl, fun hhead => ?_⟩, rfl⟩
      obtain ⟨rest, hrest⟩ := List.head?_eq_some_iff.1 hhead
      exact hplus rest hrest
  · rintro ⟨sign, ⟨rfl, hhead⟩ | rfl, rfl⟩
    · unfold dropPlus
      split
      · exact absurd rfl hhead
      · rfl
    · rfl

/-- A text is no numeral of a count if, behind a plus sign, it is not made of digits or these have
too large a value. -/
theorem readCount?_eq_none_iff {cs : List Char} :
    readCount? cs = none ↔
      ¬ IsDigits (dropPlus cs) ∨ 2 ^ 64 ≤ Nat.ofDigitChars 10 (dropPlus cs) 0 := by
  by_cases hdigits : IsDigits (dropPlus cs)
  · have hread := readNatural?_eq_some_iff.2 ⟨hdigits.ne_nil, hdigits.isDigit, rfl⟩
    rw [readCount?, hread, Option.bind_some, or_iff_right (not_not.2 hdigits),
      decimalValue_eq_ofDigitChars]
    simp [UInt64.size]
  · refine iff_of_true ?_ (.inl hdigits)
    rw [Option.eq_none_iff_forall_ne_some]
    intro n h
    obtain ⟨sign, digits, hsign, hne, hall, -, hcs⟩ := readCount?_eq_some_iff.1 h
    rw [(dropPlus_eq_iff hall).2 ⟨sign, hsign, hcs⟩] at hdigits
    exact hdigits ⟨hne, hall⟩

end Text

/-- The values, null aside, that denote no count: negative integers, real numbers whatever their
value, values of other types, and texts that, without the white space around them and without one
plus sign in front, are not made of digits or have too large a value. -/
inductive IsNoCount : Json → Prop
  | negative {word : Json.Word} (hword : word.value < 0) : IsNoCount (.number (.whole word))
  | real (value : Binary64.Finite) : IsNoCount (.number (.real value))
  | bool (value : Bool) : IsNoCount (.bool value)
  | array (items : List Json) : IsNoCount (.array items)
  | object (members : Json.Members) : IsNoCount (.object members)
  | text {s : String} {before sign body after : List Char}
    (hs : s.toList = before ++ (sign ++ body) ++ after)
    (hbefore : ∀ c ∈ before, Text.isWhiteSpace c = true)
    (hfirst : ∀ c ∈ (sign ++ body).head?, Text.isWhiteSpace c = false)
    (hsign : sign = [] ∧ body.head? ≠ some '+' ∨ sign = ['+'])
    (hbody : ¬ IsDigits body ∨ 2 ^ 64 ≤ Nat.ofDigitChars 10 body 0)
    (hlast : ∀ c ∈ (sign ++ body).getLast?, Text.isWhiteSpace c = false)
    (hafter : ∀ c ∈ after, Text.isWhiteSpace c = true) : IsNoCount (.string s)

theorem Json.Number.count?_eq_none_iff {number : Json.Number} :
    number.count? = none ↔ IsNoCount (.number number) := by
  cases number with
  | real value => exact iff_of_true rfl (.real value)
  | whole word =>
    constructor
    · intro h
      refine .negative (not_le.1 fun hsign => ?_)
      rw [count?, if_pos hsign] at h
      cases h
    · intro h
      cases h with
      | negative hword => rw [count?, if_neg (not_le.2 hword)]

theorem Text.readCount?_trim_eq_none_iff {s : String} :
    readCount? (trim s.toList) = none ↔ IsNoCount (.string s) := by
  rw [readCount?_eq_none_iff]
  constructor
  · intro hbody
    obtain ⟨before, after, hs, hbefore, hafter⟩ := exists_append_trim s.toList
    obtain ⟨hfirst, hlast⟩ := trim_ends s.toList
    obtain ⟨sign, hsign, htrim⟩ := dropPlus_eq_iff_split.1 (rfl : dropPlus (trim s.toList) = _)
    rw [htrim] at hfirst hlast
    exact .text (htrim ▸ hs) hbefore hfirst hsign hbody hlast hafter
  · intro h
    cases h with
    | @text _ before sign body after hs hbefore hfirst hsign hbody hlast hafter =>
      rw [hs, trim_append hbefore hfirst hlast hafter,
        dropPlus_eq_iff_split.2 ⟨sign, hsign, rfl⟩]
      exact hbody

namespace Arguments

/-- Null aside, a value denotes a count or is one of those that denote none. -/
theorem countOf?_eq_none_iff {value : Json} (hvalue : value ≠ .null) :
    countOf? value = none ↔ IsNoCount value := by
  cases value with
  | null => exact absurd rfl hvalue
  | number number => exact Json.Number.count?_eq_none_iff
  | string s => exact Text.readCount?_trim_eq_none_iff
  | bool value => exact iff_of_true rfl (.bool value)
  | array items => exact iff_of_true rfl (.array items)
  | object members => exact iff_of_true rfl (.object members)

variable {arguments : Arguments} {name : String}

/-- An argument is refused, with the value that was found, if that denotes no count. -/
theorem count_eq_error_iff {cause : ArgumentError} :
    arguments.count name = .error cause ↔
      ∃ found, arguments.get? name = some found ∧ IsNoCount found ∧
        cause = .notCount name found := by
  have hcount : arguments.count name = .error cause ↔
      ∃ found, arguments.given? name = some found ∧ countOf? found = none ∧
        cause = .notCount name found := by
    rw [count]
    cases arguments.given? name with
    | none => simp
    | some found => cases hfound : countOf? found <;> simp [hfound, eq_comm]
  rw [hcount]
  simp only [given?_eq_some_iff, and_assoc]
  refine exists_congr fun found => and_congr_right fun _ => ?_
  constructor
  · rintro ⟨hne, hfound, hcause⟩
    exact ⟨(countOf?_eq_none_iff hne).1 hfound, hcause⟩
  · rintro ⟨hfound, hcause⟩
    have hne : found ≠ .null := by
      rintro rfl
      cases hfound
    exact ⟨hne, (countOf?_eq_none_iff hne).2 hfound, hcause⟩

end Arguments

/-! ## Spellings of a count -/

/-- The values that spell a count: its number, and each text of white space, at most one plus sign,
any number of zeros, the decimal digits of the count and white space. -/
inductive SpellsCount (n : UInt64) : Json → Prop
  | number : SpellsCount n (.number (.ofCount n))
  | text {s : String} {before sign after : List Char} (zeros : Nat)
    (hs : s.toList =
      before ++ (sign ++ (List.replicate zeros '0' ++ Nat.toDigits 10 n.toNat)) ++ after)
    (hbefore : ∀ c ∈ before, Text.isWhiteSpace c = true) (hsign : sign = [] ∨ sign = ['+'])
    (hafter : ∀ c ∈ after, Text.isWhiteSpace c = true) : SpellsCount n (.string s)

theorem IsDigits.replicate_append {digits : List Char} (h : IsDigits digits) (zeros : Nat) :
    IsDigits (List.replicate zeros '0' ++ digits) where
  ne_nil := List.append_ne_nil_of_right_ne_nil _ h.ne_nil
  isDigit := by
    refine List.forall_mem_append.2 ⟨fun c hc => ?_, h.isDigit⟩
    rw [List.eq_of_mem_replicate hc]
    rfl

/-- Leading zeros do not change a value. -/
theorem ofDigitChars_replicate_append (digits : List Char) (zeros : Nat) :
    Nat.ofDigitChars 10 (List.replicate zeros '0' ++ digits) 0 = Nat.ofDigitChars 10 digits 0 := by
  induction zeros with
  | zero => rfl
  | succ zeros ih =>
    rw [List.replicate_succ, List.cons_append, Nat.ofDigitChars_cons]
    exact ih

theorem SpellsCount.isCount {n : UInt64} {value : Json} (h : SpellsCount n value) :
    IsCount n value := by
  cases h with
  | number => exact .number rfl
  | @text s before sign after zeros hs hbefore hsign hafter =>
    refine .text hs hbefore hsign ((isDigits_toDigits _).replicate_append zeros) ?_ hafter
    rw [ofDigitChars_replicate_append, Nat.ofDigitChars_toDigits (by decide) (by decide)]

namespace Arguments

/-- An argument is read as a count if and only if it holds that one, as none if and only if it is
missing or null, and is refused with the value that was found if and only if that denotes no count;
all values that spell a count are read as it. -/
theorem count_decides (arguments : Arguments) (name : String) :
    (∀ n, arguments.count name = .ok (some n) ↔ arguments.HoldsCount name n) ∧
      (arguments.count name = .ok none ↔ arguments.IsAbsent name) ∧
      (∀ cause, arguments.count name = .error cause ↔
        ∃ found, arguments.get? name = some found ∧ IsNoCount found ∧
          cause = .notCount name found) ∧
      ∀ n value, SpellsCount n value → arguments.get? name = some value →
        arguments.count name = .ok (some n) :=
  ⟨fun _ => count_eq_some_iff, count_eq_none_iff, fun _ => count_eq_error_iff,
    fun _ value hspells hvalue => count_eq_some_iff.2 ⟨value, hvalue, hspells.isCount⟩⟩

/-- The largest count with a plus sign, zeros, and the ideographic space and a line break around. -/
theorem count_decides_largest :
    SpellsCount 18446744073709551615 (.string "\u3000+0018446744073709551615\n") ∧
      Json.Members.get? [("first", .string "\u3000+0018446744073709551615\n")] "first" =
        some (.string "\u3000+0018446744073709551615\n") ∧
      Arguments.count [("first", .string "\u3000+0018446744073709551615\n")] "first" =
        .ok (some 18446744073709551615) := by
  have hspells :
      SpellsCount 18446744073709551615 (.string "\u3000+0018446744073709551615\n") :=
    @SpellsCount.text _ _ ['\u3000'] ['+'] ['\n'] 2 (by decide)
      (List.forall_mem_singleton.2 (by decide)) (.inr rfl)
      (List.forall_mem_singleton.2 (by decide))
  exact ⟨hspells, rfl, (count_decides _ "first").2.2.2 _ _ hspells rfl⟩

end Arguments

end RelationPaging
