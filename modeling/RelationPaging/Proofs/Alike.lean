import RelationPaging.Planner
import RelationPaging.Proofs.Planner.Asking

/-!
# Computations that come out alike

Some laws of planning compare two runs: the same relation in two dialects, or the same relation
spelled in two ways.  `Except.Alike E R` is what such a law says of two outcomes: either both are
failures, with errors in the relation `E`, or both are successes, with values in the relation `R`.
Two plannings are alike when they have also made the same calls.

Outcomes that are alike stay so along a sequence of steps, so that two runs are compared step by
step, each step by a lemma of its own.
-/

namespace RelationPaging

/-! ## Outcomes -/

namespace Except

variable {ε α β α' β' : Type} {E : ε → ε → Prop} {R : α → β → Prop} {S : α' → β' → Prop}

/-- Two outcomes are failures with related errors or successes with related values. -/
inductive Alike (E : ε → ε → Prop) (R : α → β → Prop) : Except ε α → Except ε β → Prop
  | ok {a : α} {b : β} (h : R a b) : Alike E R (.ok a) (.ok b)
  | error {e e' : ε} (h : E e e') : Alike E R (.error e) (.error e')

namespace Alike

/-- An outcome is like itself. -/
theorem self {R : α → α → Prop} (hE : ∀ e, E e e) (hR : ∀ a, R a a) (x : Except ε α) :
    Alike E R x x := by
  cases x with
  | ok a => exact .ok (hR a)
  | error e => exact .error (hE e)

/-- Two outcomes that are alike are both failures or both successes. -/
theorem cases_outcome {x : Except ε α} {y : Except ε β} (h : Alike E R x y) :
    (∃ e e', x = .error e ∧ y = .error e' ∧ E e e') ∨
      ∃ a b, x = .ok a ∧ y = .ok b ∧ R a b := by
  cases h with
  | ok h => exact .inr ⟨_, _, rfl, rfl, h⟩
  | error h => exact .inl ⟨_, _, rfl, rfl, h⟩

/-- Values that two outcomes do have may be related in another way. -/
theorem imp {R' : α → β → Prop} {x : Except ε α} {y : Except ε β} (h : Alike E R x y)
    (himp : ∀ a b, x = .ok a → y = .ok b → R a b → R' a b) : Alike E R' x y := by
  cases h with
  | ok h => exact .ok (himp _ _ rfl rfl h)
  | error h => exact .error h

theorem bind {x : Except ε α} {y : Except ε β} {f : α → Except ε α'} {g : β → Except ε β'}
    (h : Alike E R x y) (hfg : ∀ a b, R a b → Alike E S (f a) (g b)) :
    Alike E S (x >>= f) (y >>= g) := by
  cases h with
  | ok h => exact hfg _ _ h
  | error h => exact .error h

/-- A step that both runs take needs no comparison. -/
theorem bind_self (hE : ∀ e, E e e) (x : Except ε α) {f : α → Except ε α'}
    {g : α → Except ε β'} (hfg : ∀ a, Alike E S (f a) (g a)) : Alike E S (x >>= f) (x >>= g) := by
  cases x with
  | ok a => exact hfg a
  | error e => exact .error (hE e)

theorem map {x : Except ε α} {y : Except ε β} {f : α → α'} {g : β → β'} (h : Alike E R x y)
    (hfg : ∀ a b, R a b → S (f a) (g b)) : Alike E S (x.map f) (y.map g) := by
  cases h with
  | ok h => exact .ok (hfg _ _ h)
  | error h => exact .error h

theorem mapError {δ : Type} {D : δ → δ → Prop} {x : Except ε α} {y : Except ε β} {f g : ε → δ}
    (h : Alike E R x y) (hfg : ∀ e e', E e e' → D (f e) (g e')) :
    Alike D R (x.mapError f) (y.mapError g) := by
  cases h with
  | ok h => exact .ok h
  | error h => exact .error (hfg _ _ h)

/-- What the values of two outcomes have in common, the outcomes have. -/
theorem isSome_bind_toOption {x : Except ε α} {y : Except ε β} {f : α → Option α'}
    {g : β → Option β'} (h : Alike E R x y) (hfg : ∀ a b, R a b → (f a).isSome = (g b).isSome) :
    (x.toOption.bind f).isSome = (y.toOption.bind g).isSome := by
  cases h with
  | ok h => exact hfg _ _ h
  | error => rfl

end Alike

end Except

/-! ## Inputs -/

section

variable {α β γ δ : Type} {R : α → β → Prop} {S : γ → δ → Prop} {a : Option α} {b : Option β}

/-- Of two inputs in a relation both are there or none is. -/
theorem cases_rel (h : Option.Rel R a b) :
    a = none ∧ b = none ∨ ∃ x y, a = some x ∧ b = some y ∧ R x y := by
  cases h with
  | some h => exact .inr ⟨_, _, rfl, rfl, h⟩
  | none => exact .inl ⟨rfl, rfl⟩

theorem rel_map_self {R : α → α → Prop} {f : α → α} (hf : ∀ x, R (f x) x) (a : Option α) :
    Option.Rel R (a.map f) a := by
  cases a with
  | some x => exact .some (hf x)
  | none => exact .none

theorem isSome_eq_of_rel (h : Option.Rel R a b) : a.isSome = b.isSome := by
  cases h <;> rfl

theorem map_eq_map_of_rel {f : α → γ} {g : β → γ} (h : Option.Rel R a b)
    (hfg : ∀ x y, R x y → f x = g y) : a.map f = b.map g := by
  cases h with
  | some h => exact congrArg some (hfg _ _ h)
  | none => rfl

theorem bind_eq_bind_of_rel {f : α → Option γ} {g : β → Option γ} (h : Option.Rel R a b)
    (hfg : ∀ x y, R x y → f x = g y) : a.bind f = b.bind g := by
  cases h with
  | some h => exact hfg _ _ h
  | none => rfl

theorem rel_bind {f : α → Option γ} {g : β → Option δ} (h : Option.Rel R a b)
    (hfg : ∀ x y, R x y → Option.Rel S (f x) (g y)) : Option.Rel S (a.bind f) (b.bind g) := by
  cases h with
  | some h => exact hfg _ _ h
  | none => exact .none

theorem rel_orElse {a' : Option α} {b' : Option β} (h : Option.Rel R a b)
    (h' : Option.Rel R a' b') : Option.Rel R (a <|> a') (b <|> b') := by
  cases h with
  | some h => exact .some h
  | none => exact h'

end

/-- An input that is there or not in both runs is found or found missing in both. -/
theorem Relation.require_alike {α β : Type} {E : PlanError → PlanError → Prop} {R : α → β → Prop}
    {relation relation' : Relation} {what : MissingInput} {input : Option α} {input' : Option β}
    (hE : E (relation.lacks what) (relation'.lacks what)) (h : Option.Rel R input input') :
    Except.Alike E R (relation.require what input) (relation'.require what input') := by
  cases h with
  | some h => exact .ok h
  | none => exact .error hE

/-! ## Plannings -/

namespace Planning

variable {α β α' β' : Type} {E : PlanError → PlanError → Prop} {R : α → β → Prop}
  {S : α' → β' → Prop}

/-- Two plannings have made the same calls, and their outcomes are alike. -/
structure Alike (E : PlanError → PlanError → Prop) (R : α → β → Prop) (x : Planning α)
    (y : Planning β) : Prop where
  calls : x.calls = y.calls
  outcome : Except.Alike E R x.outcome y.outcome

theorem alike_ofExcept {x : Except PlanError α} {y : Except PlanError β}
    (h : Except.Alike E R x y) : Alike E R (ofExcept x) (ofExcept y) :=
  ⟨rfl, h⟩

theorem Alike.bind {x : Planning α} {y : Planning β} {f : α → Planning α'} {g : β → Planning β'}
    (h : Alike E R x y) (hfg : ∀ a b, R a b → Alike E S (f a) (g b)) :
    Alike E S (x >>= f) (y >>= g) := by
  obtain ⟨x, calls⟩ := x
  obtain ⟨y, calls'⟩ := y
  obtain ⟨rfl, houtcome⟩ := h
  cases houtcome with
  | ok h =>
    obtain ⟨hcalls, houtcome⟩ := hfg _ _ h
    exact ⟨congrArg (calls ++ ·) hcalls, houtcome⟩
  | error h => exact ⟨rfl, .error h⟩

/-- When the callbacks of two relations answer alike, so do lists of calls. -/
theorem alike_askAll {relation relation' : Relation}
    (hanswer : ∀ call, relation.answer? call = relation'.answer? call)
    (hcallback : ∀ call reason, E (.callback call reason) (.callback call reason))
    (calls : List Invocation) :
    Alike E (fun _ _ => True) (askAll relation calls) (askAll relation' calls) := by
  have heq : askAll relation calls = askAll relation' calls := by
    induction calls with
    | nil => rfl
    | cons call calls ih => rw [askAll, askAll, hanswer, ih]
  rw [← heq]
  rcases askAll_eq relation calls with ⟨-, hasked⟩ | ⟨_, call, _, reason, -, -, -, hasked⟩
  · rw [hasked]
    exact ⟨rfl, .ok trivial⟩
  · rw [hasked]
    exact ⟨rfl, .error (hcallback call reason)⟩

end Planning

end RelationPaging
