import RelationPaging.Text.Decimal
import Mathlib.Data.Nat.Digits.Defs

/-!
# Decimal text read back

The digits of a natural number have it as their value, and they start with a zero for zero only.
So a count is read as it is written (`readCount?_showCount`), and what is read as a count are digits
with at most one plus sign in front of them (`readCount?_eq_some_iff`).
-/

namespace RelationPaging.Text

theorem decimalValue_eq_ofDigitChars (digits : List Char) :
    decimalValue digits = Nat.ofDigitChars 10 digits 0 := rfl

theorem decimalValue_toDigits (n : Nat) : decimalValue (Nat.toDigits 10 n) = n := by
  rw [decimalValue_eq_ofDigitChars, Nat.ofDigitChars_toDigits (by decide) (by decide)]

theorem isDigit_toDigits (n : Nat) : ∀ c ∈ Nat.toDigits 10 n, c.isDigit = true :=
  fun _ hc => Nat.isDigit_of_mem_toDigits (by decide) (by decide) hc

/-- A number has a first digit. -/
theorem exists_toDigits_eq_cons (n : Nat) :
    ∃ first rest, Nat.toDigits 10 n = first :: rest ∧ first.isDigit = true := by
  obtain ⟨first, rest, heq⟩ := List.exists_cons_of_ne_nil
    (show Nat.toDigits 10 n ≠ [] from Nat.toDigits_ne_nil)
  have hfirst : first ∈ Nat.toDigits 10 n := by
    rw [heq]
    exact List.mem_cons_self
  exact ⟨first, rest, heq, isDigit_toDigits n first hfirst⟩

/-- The digits of a positive number do not start with a zero. -/
theorem head?_toDigits_ne_zero {n : Nat} (h : n ≠ 0) : (Nat.toDigits 10 n).head? ≠ some '0' := by
  induction n using Nat.strongRecOn with
  | ind n ih =>
    have hdigit : ∀ d < 10, d ≠ 0 → Nat.digitChar d ≠ '0' := by decide
    rw [Nat.toDigits_eq_if (by decide)]
    by_cases hsmall : n < 10
    · rw [if_pos hsmall]
      intro heq
      exact hdigit n hsmall h (Option.some.inj heq)
    · obtain ⟨first, rest, heq, -⟩ := exists_toDigits_eq_cons (n / 10)
      have hfirst := ih (n / 10) (by omega) (by omega)
      rw [heq] at hfirst
      rw [if_neg hsmall, heq]
      exact hfirst

theorem readNatural?_toDigits (n : Nat) : readNatural? (Nat.toDigits 10 n) = some n := by
  have hne : (Nat.toDigits 10 n).isEmpty = false :=
    List.isEmpty_eq_false_iff.2 Nat.toDigits_ne_nil
  have hdigits : (Nat.toDigits 10 n).all Char.isDigit = true :=
    List.all_eq_true.2 (isDigit_toDigits n)
  rw [readNatural?, hne, hdigits, decimalValue_toDigits]
  rfl

theorem dropPlus_of_forall {cs : List Char} (h : ∀ c ∈ cs, c.isDigit = true) :
    dropPlus cs = cs := by
  unfold dropPlus
  split
  · have hplus : '+'.isDigit = true := h '+' List.mem_cons_self
    cases hplus
  · rfl

theorem toList_showCount (n : UInt64) : (showCount n).toList = Nat.toDigits 10 n.toNat := by
  rw [showCount, Nat.toString_eq_repr, Nat.toList_repr]

/-- A count is read as it is written. -/
theorem readCount?_showCount (n : UInt64) : readCount? (showCount n).toList = some n := by
  have hlt : n.toNat < UInt64.size := n.toNat_lt_size
  rw [readCount?, toList_showCount, dropPlus_of_forall (isDigit_toDigits _), readNatural?_toDigits,
    Option.bind_some, if_pos hlt, UInt64.ofNat_toNat]

/-! ## What is read -/

theorem readNatural?_eq_some_iff {cs : List Char} {n : Nat} :
    readNatural? cs = some n ↔
      cs ≠ [] ∧ (∀ c ∈ cs, c.isDigit = true) ∧ decimalValue cs = n := by
  unfold readNatural?
  split
  · next h =>
    rw [Bool.and_eq_true, Bool.not_eq_true', List.isEmpty_eq_false_iff, List.all_eq_true] at h
    exact ⟨fun heq => ⟨h.1, h.2, Option.some.inj heq⟩, fun heq => by rw [heq.2.2]⟩
  · next h =>
    rw [Bool.and_eq_true, Bool.not_eq_true', List.isEmpty_eq_false_iff, List.all_eq_true] at h
    exact ⟨by rintro ⟨⟩, fun heq => absurd ⟨heq.1, heq.2.1⟩ h⟩

/-- One leading plus sign does not count, as long as there is no second one. -/
theorem dropPlus_eq_iff {cs digits : List Char} (hdigits : ∀ c ∈ digits, c.isDigit = true) :
    dropPlus cs = digits ↔ ∃ sign, (sign = [] ∨ sign = ['+']) ∧ cs = sign ++ digits := by
  constructor
  · rintro rfl
    unfold dropPlus at hdigits ⊢
    split
    · exact ⟨['+'], .inr rfl, rfl⟩
    · exact ⟨[], .inl rfl, rfl⟩
  · rintro ⟨sign, rfl | rfl, rfl⟩
    · exact dropPlus_of_forall hdigits
    · rfl

/-- Exactly at most one plus sign and one or more digits of a 64-bit number are read as it. -/
theorem readCount?_eq_some_iff {cs : List Char} {n : UInt64} :
    readCount? cs = some n ↔
      ∃ sign digits, (sign = [] ∨ sign = ['+']) ∧ digits ≠ [] ∧
        (∀ c ∈ digits, c.isDigit = true) ∧ decimalValue digits = n.toNat ∧ cs = sign ++ digits := by
  have hbound : ∀ m : Nat, (if m < UInt64.size then some (UInt64.ofNat m) else none) = some n ↔
      m = n.toNat := by
    intro m
    have hn : n.toNat < UInt64.size := n.toNat_lt_size
    by_cases hm : m < UInt64.size
    · rw [if_pos hm, Option.some.injEq, ← UInt64.toNat_inj, UInt64.toNat_ofNat_of_lt' hm]
    · rw [if_neg hm]
      exact ⟨by rintro ⟨⟩, fun heq => absurd (heq ▸ hn) hm⟩
  simp only [readCount?, Option.bind_eq_some_iff, readNatural?_eq_some_iff, hbound]
  constructor
  · rintro ⟨_, ⟨hne, hdigits, rfl⟩, hvalue⟩
    obtain ⟨sign, hsign, hcs⟩ := (dropPlus_eq_iff hdigits).1 rfl
    exact ⟨sign, dropPlus cs, hsign, hne, hdigits, hvalue, hcs⟩
  · rintro ⟨sign, digits, hsign, hne, hdigits, hvalue, hcs⟩
    have hdrop := (dropPlus_eq_iff hdigits).2 ⟨sign, hsign, hcs⟩
    rw [hdrop]
    exact ⟨_, ⟨hne, hdigits, rfl⟩, hvalue⟩

end RelationPaging.Text
