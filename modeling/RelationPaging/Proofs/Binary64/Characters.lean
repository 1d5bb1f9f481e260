import RelationPaging.Json.Number
import RelationPaging.Text.Blank

/-!
# Numbers are written as numerals

Whatever its value, a finite number is written as a numeral: digits on either side of a point or
without one, with a sign in front or without one, and with an exponent of ten or without one.  This
is so for every layout whose non-negative exponents have a plus sign or none.

The text of a numeral consists of digits, signs, points and exponent marks, so it holds neither
quotes nor parentheses nor words of SQL.
-/

namespace RelationPaging

/-- The characters of which numbers are written. -/
def isNumberChar (c : Char) : Bool :=
  c.isDigit || c = '-' || c = '+' || c = '.' || c = 'e'

/-- The exponent mark is the only letter among them. -/
theorem toUpper_of_isNumberChar {c : Char} (h : isNumberChar c = true) :
    c.toUpper = c ∨ c.toUpper = 'E' := by
  by_cases hdigit : c.isDigit = true
  · have hbound : c.val ≤ 57 := by
      simp only [Char.isDigit, Bool.and_eq_true, decide_eq_true_eq] at hdigit
      exact hdigit.2
    have hnat : c.val.toNat ≤ 57 := UInt32.le_iff_toNat_le.1 hbound
    refine .inl (dif_neg fun hlower => ?_)
    have hle : 97 ≤ c.val.toNat := UInt32.le_iff_toNat_le.1 hlower.1
    omega
  · simp only [isNumberChar, hdigit, Bool.false_or, Bool.or_eq_true, decide_eq_true_eq] at h
    rcases h with ((rfl | rfl) | rfl) | rfl <;> decide

/-- None of them is white space. -/
theorem isWhiteSpace_of_isNumberChar {c : Char} (h : isNumberChar c = true) :
    Text.isWhiteSpace c = false := by
  have hrange : 0x2B ≤ c.toNat ∧ c.toNat ≤ 0x65 := by
    by_cases hdigit : c.isDigit = true
    · have hbounds : 48 ≤ c.toNat ∧ c.toNat ≤ 57 := Char.isDigit_iff_toNat.1 hdigit
      omega
    · simp only [isNumberChar, hdigit, Bool.false_or, Bool.or_eq_true, decide_eq_true_eq] at h
      rcases h with ((rfl | rfl) | rfl) | rfl <;> decide
  rw [Text.isWhiteSpace, List.any_eq_false]
  have hgap : ∀ range ∈ Text.whiteSpaceRanges, range.2 < 0x2B ∨ 0x65 < range.1 := by decide
  intro range hmem
  have := hgap range hmem
  simp only [Bool.and_eq_true, decide_eq_true_eq]
  omega

/-! ## Numerals -/

/-- Digits, of which there is at least one. -/
structure IsDigits (cs : List Char) : Prop where
  ne_nil : cs ≠ []
  isDigit : ∀ c ∈ cs, c.isDigit = true

/-- Digits, with a point between two of them or without one. -/
inductive IsMantissa : List Char → Prop
  | whole {digits : List Char} (hdigits : IsDigits digits) : IsMantissa digits
  | fraction {before after : List Char} (hbefore : IsDigits before) (hafter : IsDigits after) :
    IsMantissa (before ++ '.' :: after)

/-- A numeral without a sign: a mantissa with an exponent of ten or without one. -/
inductive IsUnsigned : List Char → Prop
  | mantissa {cs : List Char} (hmantissa : IsMantissa cs) : IsUnsigned cs
  | scientific {cs sign exponent : List Char} (hmantissa : IsMantissa cs)
    (hsign : sign ∈ [[], ['+'], ['-']]) (hexponent : IsDigits exponent) :
    IsUnsigned (cs ++ 'e' :: (sign ++ exponent))

/-- A numeral. -/
inductive IsNumeral : List Char → Prop
  | positive {cs : List Char} (hunsigned : IsUnsigned cs) : IsNumeral cs
  | negative {cs : List Char} (hunsigned : IsUnsigned cs) : IsNumeral ('-' :: cs)

/-! ### Their characters -/

theorem IsDigits.isNumberChar {cs : List Char} (h : IsDigits cs) :
    ∀ c ∈ cs, isNumberChar c = true := by
  intro c hc
  simp [RelationPaging.isNumberChar, h.isDigit c hc]

theorem IsMantissa.isNumberChar {cs : List Char} (h : IsMantissa cs) :
    ∀ c ∈ cs, isNumberChar c = true := by
  cases h with
  | whole hdigits => exact hdigits.isNumberChar
  | fraction hbefore hafter =>
    rw [List.forall_mem_append, List.forall_mem_cons]
    exact ⟨hbefore.isNumberChar, by decide, hafter.isNumberChar⟩

theorem IsMantissa.ne_nil {cs : List Char} (h : IsMantissa cs) : cs ≠ [] := by
  cases h with
  | whole hdigits => exact hdigits.ne_nil
  | fraction hbefore hafter => exact List.append_ne_nil_of_left_ne_nil hbefore.ne_nil _

theorem IsUnsigned.isNumberChar {cs : List Char} (h : IsUnsigned cs) :
    ∀ c ∈ cs, isNumberChar c = true := by
  cases h with
  | mantissa hmantissa => exact hmantissa.isNumberChar
  | scientific hmantissa hsign hexponent =>
    have hsigns : ∀ sign ∈ [[], ['+'], ['-']], sign.all RelationPaging.isNumberChar = true := by
      decide
    rw [List.forall_mem_append, List.forall_mem_cons, List.forall_mem_append]
    exact ⟨hmantissa.isNumberChar, by decide, List.all_eq_true.1 (hsigns _ hsign),
      hexponent.isNumberChar⟩

theorem IsUnsigned.ne_nil {cs : List Char} (h : IsUnsigned cs) : cs ≠ [] := by
  cases h with
  | mantissa hmantissa => exact hmantissa.ne_nil
  | scientific hmantissa hsign hexponent =>
    exact List.append_ne_nil_of_left_ne_nil hmantissa.ne_nil _

/-- A numeral is made of number characters. -/
theorem IsNumeral.isNumberChar {cs : List Char} (h : IsNumeral cs) :
    ∀ c ∈ cs, isNumberChar c = true := by
  cases h with
  | positive hunsigned => exact hunsigned.isNumberChar
  | negative hunsigned =>
    rw [List.forall_mem_cons]
    exact ⟨by decide, hunsigned.isNumberChar⟩

theorem IsNumeral.ne_nil {cs : List Char} (h : IsNumeral cs) : cs ≠ [] := by
  cases h with
  | positive hunsigned => exact hunsigned.ne_nil
  | negative hunsigned => exact List.cons_ne_nil _ _

/-! ## Numbers -/

theorem isDigits_singleton {c : Char} (h : c.isDigit = true) : IsDigits [c] :=
  ⟨List.cons_ne_nil _ _, List.forall_mem_singleton.2 h⟩

theorem isDigits_toDigits (n : Nat) : IsDigits (Nat.toDigits 10 n) := by
  refine ⟨Nat.toDigits_ne_nil, fun c hc => ?_⟩
  exact Nat.isDigit_of_mem_toDigits (by decide) (by decide) hc

namespace Binary64

theorem isDigit_of_mem_replicate_zero {n : Nat} :
    ∀ c ∈ List.replicate n '0', c.isDigit = true := by
  intro c hc
  rw [List.eq_of_mem_replicate hc]
  decide

/-- The digits of a shortest decimal are digits of a natural number. -/
theorem isDigits_shortest (x : Finite) (tie : TieRule) : IsDigits (x.shortest tie).digits := by
  have hstrip : ∀ digits, IsDigits digits → IsDigits (Finite.stripZeros digits) := by
    intro digits hdigits
    cases digits with
    | nil => exact hdigits
    | cons first rest =>
      refine ⟨List.cons_ne_nil _ _, fun c hc => hdigits.isDigit c ?_⟩
      rcases List.mem_cons.1 hc with rfl | hc
      · exact List.mem_cons_self
      · have hrest := (List.dropWhile_sublist _).subset (List.mem_reverse.1 hc)
        exact List.mem_cons_of_mem _ (List.mem_reverse.1 hrest)
  exact hstrip _ (isDigits_toDigits _)

/-- A positional form has digits on both sides of its point. -/
theorem isMantissa_positional {d : ShortDecimal} (hd : IsDigits d.digits) :
    IsMantissa (positional d) := by
  have hzero : IsDigits ['0'] := isDigits_singleton (by decide)
  unfold positional
  by_cases hsmall : d.point ≤ 0
  · have hafter : IsDigits (List.replicate (-d.point).toNat '0' ++ d.digits) := by
      refine ⟨List.append_ne_nil_of_right_ne_nil _ hd.ne_nil, ?_⟩
      rw [List.forall_mem_append]
      exact ⟨isDigit_of_mem_replicate_zero, hd.isDigit⟩
    rw [if_pos hsmall]
    exact .fraction hzero hafter
  · rw [if_neg hsmall]
    by_cases hlong : d.digits.length ≤ d.point.toNat
    · have hbefore :
          IsDigits (d.digits ++ List.replicate (d.point.toNat - d.digits.length) '0') := by
        refine ⟨List.append_ne_nil_of_left_ne_nil hd.ne_nil _, ?_⟩
        rw [List.forall_mem_append]
        exact ⟨hd.isDigit, isDigit_of_mem_replicate_zero⟩
      simp only [if_pos hlong]
      exact .fraction hbefore hzero
    · have hbefore : IsDigits (d.digits.take d.point.toNat) := by
        refine ⟨?_, fun c hc => hd.isDigit c (List.mem_of_mem_take hc)⟩
        rw [ne_eq, List.take_eq_nil_iff, not_or]
        exact ⟨by omega, hd.ne_nil⟩
      have hafter : IsDigits (d.digits.drop d.point.toNat) := by
        refine ⟨?_, fun c hc => hd.isDigit c (List.mem_of_mem_drop hc)⟩
        rw [ne_eq, List.drop_eq_nil_iff]
        exact hlong
      simp only [if_neg hlong, List.append_assoc]
      exact .fraction hbefore hafter

/-- A form with an exponent has one digit in front of its point, if it has a point. -/
theorem isUnsigned_scientific {layout : Layout} {d : ShortDecimal}
    (hsign : layout.positiveSign ∈ [[], ['+']]) (hd : IsDigits d.digits) :
    IsUnsigned (scientific layout d) := by
  obtain ⟨sign, exponent, hsigns, hexponent, hmark⟩ : ∃ sign exponent,
      sign ∈ [[], ['+'], ['-']] ∧ IsDigits exponent ∧
        (if 0 ≤ d.point - 1 then
          'e' :: layout.positiveSign ++ Nat.toDigits 10 (d.point - 1).toNat
        else 'e' :: '-' :: Nat.toDigits 10 (-(d.point - 1)).toNat) = 'e' :: (sign ++ exponent) := by
    by_cases hexponent : 0 ≤ d.point - 1
    · exact ⟨layout.positiveSign, _, List.mem_append_left [['-']] hsign, isDigits_toDigits _,
        if_pos hexponent⟩
    · exact ⟨['-'], _, by decide, isDigits_toDigits _, if_neg hexponent⟩
  unfold scientific
  simp only [hmark]
  split
  · next first second more heq =>
    rw [heq] at hd
    have hdigit := hd.isDigit
    rw [List.forall_mem_cons] at hdigit
    have hfirst : IsDigits [first] := isDigits_singleton hdigit.1
    have hmore : IsDigits (second :: more) := ⟨List.cons_ne_nil _ _, hdigit.2⟩
    exact .scientific (.fraction hfirst hmore) hsigns hexponent
  · exact .scientific (.whole hd) hsigns hexponent

/-- A finite number is written as a numeral. -/
theorem isNumeral_chars {layout : Layout} (hsign : layout.positiveSign ∈ [[], ['+']])
    (x : Finite) : IsNumeral (x.chars layout) := by
  have hmagnitude : IsUnsigned (x.magnitudeChars layout) := by
    unfold Finite.magnitudeChars
    by_cases hzero : x.isZero = true
    · rw [if_pos hzero]
      have hdigit : IsDigits ['0'] := isDigits_singleton (by decide)
      exact .mantissa (.fraction hdigit hdigit)
    · rw [if_neg hzero]
      dsimp only
      split
      · exact .mantissa (isMantissa_positional (isDigits_shortest x _))
      · exact isUnsigned_scientific hsign (isDigits_shortest x _)
  unfold Finite.chars
  split
  · exact .negative hmagnitude
  · exact .positive hmagnitude

/-- A positional form has a point. -/
theorem point_mem_positional (d : ShortDecimal) : '.' ∈ positional d := by
  unfold positional
  dsimp only
  split
  · simp
  · split <;> simp

/-- A form with an exponent has the mark of it. -/
theorem mark_mem_scientific (layout : Layout) (d : ShortDecimal) : 'e' ∈ scientific layout d := by
  unfold scientific
  dsimp only
  split
  · split <;> simp
  · split <;> simp

/-- A number is written with a point or with an exponent. -/
theorem mem_chars {layout : Layout} (x : Finite) : '.' ∈ x.chars layout ∨ 'e' ∈ x.chars layout := by
  have hmagnitude : '.' ∈ x.magnitudeChars layout ∨ 'e' ∈ x.magnitudeChars layout := by
    unfold Finite.magnitudeChars
    split
    · exact .inl (by decide)
    · dsimp only
      split
      · exact .inl (point_mem_positional _)
      · exact .inr (mark_mem_scientific _ _)
  unfold Finite.chars
  split
  · exact hmagnitude.imp (List.mem_cons_of_mem _) (List.mem_cons_of_mem _)
  · exact hmagnitude

end Binary64

namespace Json.Number

/-- A number of JSON is written as a numeral. -/
theorem isNumeral_chars (n : Json.Number) : IsNumeral n.chars := by
  cases n with
  | whole word =>
    have hdigits : ∀ m, IsUnsigned (Nat.toDigits 10 m) :=
      fun m => .mantissa (.whole (isDigits_toDigits m))
    unfold chars
    dsimp only
    split
    · exact .negative (hdigits _)
    · exact .positive (hdigits _)
  | real value => exact Binary64.isNumeral_chars (by decide) value

/-- An integer is written with digits and a sign only. -/
theorem isDigit_of_mem_whole {word : Json.Word} {c : Char} (h : c ∈ (whole word).chars) :
    c = '-' ∨ c.isDigit = true := by
  unfold chars at h
  dsimp only at h
  split at h
  · rcases List.mem_cons.1 h with rfl | h
    · exact .inl rfl
    · exact .inr ((isDigits_toDigits _).isDigit c h)
  · exact .inr ((isDigits_toDigits _).isDigit c h)

/-- An integer and a real number are written differently, even if they are equal. -/
theorem whole_chars_ne_real (word : Json.Word) (x : Binary64.Finite) :
    (whole word).chars ≠ (real x).chars := by
  intro h
  have hreal : '.' ∈ (real x).chars ∨ 'e' ∈ (real x).chars := Binary64.mem_chars x
  rw [← h] at hreal
  rcases hreal with hmem | hmem
  · exact absurd (isDigit_of_mem_whole hmem) (by decide)
  · exact absurd (isDigit_of_mem_whole hmem) (by decide)

end Json.Number

end RelationPaging
