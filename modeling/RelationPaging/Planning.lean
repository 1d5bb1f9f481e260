import RelationPaging.PlanError

/-!
# Computations that call callbacks

Planning asks callbacks for predicates, and the first failure ends it.  What was asked is part
of the result: a computation gives its outcome together with the calls it made, in order, and
the calls made before a failure are kept.
-/

namespace RelationPaging

/-- A computation with its outcome and the calls it made. -/
structure Planning (α : Type) where
  outcome : Except PlanError α
  calls : List Invocation

namespace Planning

variable {α β : Type}

/-- The computation that gives an outcome without calling anything. -/
def ofExcept (outcome : Except PlanError α) : Planning α := ⟨outcome, []⟩

/-- The computation that fails without calling anything. -/
def fail (error : PlanError) : Planning α := ofExcept (.error error)

/-- Asks a callback and takes its answer. -/
def ask (call : Invocation) (answer : CallbackAnswer) : Planning (Option String) :=
  ⟨answer.mapError (.callback call), [call]⟩

/-- Goes on with the value of a computation.  After a failure nothing more is called. -/
def andThen (x : Planning α) (f : α → Planning β) : Planning β :=
  match x.outcome with
  | .ok a => ⟨(f a).outcome, x.calls ++ (f a).calls⟩
  | .error e => ⟨.error e, x.calls⟩

instance : Monad Planning where
  pure a := ofExcept (.ok a)
  bind := andThen

/-! ## Facts about outcomes and calls -/

@[simp] theorem outcome_ofExcept (outcome : Except PlanError α) :
    (ofExcept outcome).outcome = outcome := rfl

@[simp] theorem calls_ofExcept (outcome : Except PlanError α) :
    (ofExcept outcome).calls = [] := rfl

@[simp] theorem outcome_pure (a : α) : (pure a : Planning α).outcome = .ok a := rfl

@[simp] theorem calls_pure (a : α) : (pure a : Planning α).calls = [] := rfl

theorem bind_def (x : Planning α) (f : α → Planning β) : x >>= f = x.andThen f := rfl

theorem andThen_of_ok {x : Planning α} {a : α} (f : α → Planning β) (h : x.outcome = .ok a) :
    x.andThen f = ⟨(f a).outcome, x.calls ++ (f a).calls⟩ := by
  simp [andThen, h]

theorem andThen_of_error {x : Planning α} {e : PlanError} (f : α → Planning β)
    (h : x.outcome = .error e) : x.andThen f = ⟨.error e, x.calls⟩ := by
  simp [andThen, h]

/-- A sequence succeeds when both of its parts do. -/
theorem andThen_outcome_eq_ok_iff {x : Planning α} {f : α → Planning β} {b : β} :
    (x.andThen f).outcome = .ok b ↔ ∃ a, x.outcome = .ok a ∧ (f a).outcome = .ok b := by
  unfold andThen
  split <;> simp_all

end Planning

end RelationPaging
