import RelationPaging.Casing
import Mathlib.Data.List.Forall2

/-!
# Letter case

Two texts have the same letters when they differ in nothing but the case of letters of ASCII.  This
is said of code points, without reference to a casing: a capital letter stands 32 places in front of
its small letter.

A casing other than the identity folds exactly this difference away.  Texts with the same letters
are folded to the same text, and folding leaves the letters of a text as they are, so that folding a
second time changes nothing.
-/

namespace RelationPaging

/-! ## Characters -/

/-- Two characters are equal, or one is a capital letter and the other its small letter. -/
def SameLetter (c d : Char) : Prop :=
  c = d ∨ (65 ≤ c.toNat ∧ c.toNat ≤ 90 ∧ d.toNat = c.toNat + 32) ∨
    (65 ≤ d.toNat ∧ d.toNat ≤ 90 ∧ c.toNat = d.toNat + 32)

instance : DecidableRel SameLetter := fun c d =>
  inferInstanceAs (Decidable (c = d ∨ (65 ≤ c.toNat ∧ c.toNat ≤ 90 ∧ d.toNat = c.toNat + 32) ∨
    (65 ≤ d.toNat ∧ d.toNat ≤ 90 ∧ c.toNat = d.toNat + 32)))

namespace Casing

variable {casing : Casing}

/-- A capital letter and its small letter are folded to one character. -/
theorem foldChar_capital (h : casing ≠ .identity) {n : Nat} (hn : n < 26) :
    casing.foldChar (Char.ofNat (n + 65)) = casing.foldChar (Char.ofNat (n + 65 + 32)) := by
  have hupper : ∀ n < 26, upper.foldChar (Char.ofNat (n + 65)) =
      upper.foldChar (Char.ofNat (n + 65 + 32)) := by decide
  have hlower : ∀ n < 26, lower.foldChar (Char.ofNat (n + 65)) =
      lower.foldChar (Char.ofNat (n + 65 + 32)) := by decide
  cases casing with
  | identity => exact absurd rfl h
  | upper => exact hupper n hn
  | lower => exact hlower n hn

theorem foldChar_of_toNat (h : casing ≠ .identity) {c d : Char} (hlow : 65 ≤ c.toNat)
    (hhigh : c.toNat ≤ 90) (hd : d.toNat = c.toNat + 32) :
    casing.foldChar c = casing.foldChar d := by
  obtain ⟨n, hn⟩ := Nat.exists_eq_add_of_le' hlow
  have hfold := foldChar_capital h (n := n) (by omega)
  rwa [← hn, ← hd, Char.ofNat_toNat, Char.ofNat_toNat] at hfold

/-- The same letter is folded to the same character. -/
theorem foldChar_eq_of_sameLetter (h : casing ≠ .identity) {c d : Char} (hcd : SameLetter c d) :
    casing.foldChar c = casing.foldChar d := by
  rcases hcd with rfl | ⟨hlow, hhigh, hd⟩ | ⟨hlow, hhigh, hc⟩
  · rfl
  · exact foldChar_of_toNat h hlow hhigh hd
  · exact (foldChar_of_toNat h hlow hhigh hc).symm

/-- Behind the letters of ASCII nothing is folded. -/
theorem foldChar_of_le (casing : Casing) {c : Char} (hc : 128 ≤ c.toNat) :
    casing.foldChar c = c := by
  have hupper : ¬ ('a'.val ≤ c.val ∧ c.val ≤ 'z'.val) := fun h => by
    have hle : c.toNat ≤ 122 := UInt32.le_iff_toNat_le.1 h.2
    omega
  have hlower : ¬ (c.val ≥ 'A'.val ∧ c.val ≤ 'Z'.val) := fun h => by
    have hle : c.toNat ≤ 90 := UInt32.le_iff_toNat_le.1 h.2
    omega
  cases casing with
  | identity => rfl
  | upper => exact dif_neg hupper
  | lower => exact dif_neg hlower

/-- Folding a character leaves its letter as it is. -/
theorem sameLetter_foldChar (casing : Casing) (c : Char) : SameLetter (casing.foldChar c) c := by
  by_cases hc : c.toNat < 128
  · have hascii : ∀ n < 128, ∀ casing ∈ [identity, upper, lower],
        SameLetter (casing.foldChar (Char.ofNat n)) (Char.ofNat n) := by decide
    have hfold := hascii c.toNat hc casing (by cases casing <;> decide)
    rwa [Char.ofNat_toNat] at hfold
  · exact .inl (foldChar_of_le casing (Nat.le_of_not_lt hc))

end Casing

/-! ## Texts -/

theorem map_eq_map_of_forall₂ {α β γ : Type} {R : α → β → Prop} {f : α → γ} {g : β → γ}
    {xs : List α} {ys : List β} (h : List.Forall₂ R xs ys) (hfg : ∀ x y, R x y → f x = g y) :
    xs.map f = ys.map g := by
  rw [← List.forall₂_eq_eq_eq, List.forall₂_map_left_iff, List.forall₂_map_right_iff]
  exact h.imp hfg

/-- Two texts are equal but for the case of letters of ASCII. -/
def SameLetters (s t : String) : Prop := List.Forall₂ SameLetter s.toList t.toList

instance : DecidableRel SameLetters := fun s t =>
  inferInstanceAs (Decidable (List.Forall₂ SameLetter s.toList t.toList))

theorem SameLetters.refl (s : String) : SameLetters s s :=
  List.forall₂_same.2 fun _ _ => .inl rfl

namespace Casing

variable {casing : Casing}

/-- Texts with the same letters are folded to the same text. -/
theorem apply_eq_of_sameLetters (h : casing ≠ .identity) {s t : String} (hst : SameLetters s t) :
    casing.apply s = casing.apply t := by
  rw [apply, apply, map_eq_map_of_forall₂ hst fun _ _ => foldChar_eq_of_sameLetter h]

/-- Folding a text leaves its letters as they are. -/
theorem sameLetters_apply (casing : Casing) (s : String) : SameLetters (casing.apply s) s := by
  rw [SameLetters, apply, String.toList_ofList, List.forall₂_map_left_iff]
  exact List.forall₂_same.2 fun c _ => sameLetter_foldChar casing c

end Casing

end RelationPaging
