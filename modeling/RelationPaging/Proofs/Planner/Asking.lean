import RelationPaging.Proofs.Outcome
import RelationPaging.Relation

/-!
# Asking callbacks in order

Which callbacks a planning asks, and in which order, can be said without running it.  This module
has the words for it: `Relation.answer?` is what a call of a callback answers, and
`Planning.askAll` asks a list of calls one after the other.  A list of calls is cut short by the
first one that fails and by nothing else, which is the only way in which the log of a planning can
be shorter than expected.
-/

namespace RelationPaging

/-! ## Sequences of plannings -/

namespace Planning

variable {α β γ : Type}

instance : LawfulMonad Planning :=
  .mk' _
    (fun x => by
      obtain ⟨outcome, calls⟩ := x
      cases outcome <;> simp [Functor.map, andThen, ofExcept])
    (fun a f => by simp [bind_def, andThen])
    (fun x f g => by
      obtain ⟨outcome, calls⟩ := x
      cases outcome with
      | error e => rfl
      | ok a =>
        simp only [bind_def, andThen]
        cases (f a).outcome <;> simp)

@[simp] theorem ofExcept_ok_bind (a : α) (f : α → Planning β) : ofExcept (.ok a) >>= f = f a := by
  simp [bind_def, andThen]

theorem ofExcept_pure (a : α) : ofExcept (pure a) = pure a := rfl

theorem ofExcept_bind (x : Except PlanError α) (f : α → Except PlanError β) :
    ofExcept (x >>= f) = ofExcept x >>= fun a => ofExcept (f a) := by
  cases x with
  | error e => rfl
  | ok a => exact (ofExcept_ok_bind a fun a => ofExcept (f a)).symm

/-- What follows a step that calls nothing matters at the value of the step only. -/
theorem ofExcept_bind_congr {x : Except PlanError α} {f g : α → Planning β}
    (h : ∀ a, x = .ok a → f a = g a) : ofExcept x >>= f = ofExcept x >>= g := by
  cases x with
  | error e => rfl
  | ok a => rw [ofExcept_ok_bind, ofExcept_ok_bind, h a rfl]

end Planning

/-! ## Answers -/

namespace Relation

/-- What the callback that a call asks answers, if the relation has this callback. -/
def answer? (relation : Relation) : Invocation → Option CallbackAnswer
  | .join parent child => relation.join.map fun join => join parent child relation.arguments
  | .junctionJoin parent junction => (relation.junction.bind (·.joins)).map fun joins =>
      joins.toJunction parent junction relation.arguments
  | .targetJoin junction target => (relation.junction.bind (·.joins)).map fun joins =>
      joins.toTarget junction target relation.arguments
  | .junctionFilter aliasName => (relation.junction.bind (·.filter)).map fun filter =>
      filter aliasName relation.arguments
  | .filter aliasName => relation.filter.map fun filter => filter aliasName relation.arguments

/-- A call resolves when there is a callback for it and this callback does not fail. -/
def Resolves (relation : Relation) (call : Invocation) : Prop :=
  ∃ text, relation.answer? call = some (.ok text)

/-- The text that a call resolves to, if it does and there is any text. -/
def text? (relation : Relation) (call : Invocation) : Option String :=
  match relation.answer? call with
  | some (.ok text) => text
  | _ => none

variable {relation : Relation} {call : Invocation}

theorem text?_of_answer? {text : Option String} (h : relation.answer? call = some (.ok text)) :
    relation.text? call = text := by
  simp [text?, h]

theorem text?_eq_some_iff {text : String} :
    relation.text? call = some text ↔ relation.answer? call = some (.ok (some text)) := by
  unfold text?
  split
  · next h => simp [h]
  · next h =>
    simp only [reduceCtorEq, false_iff]
    exact h _

end Relation

/-! ## Asking a list of calls -/

namespace Planning

variable {relation : Relation} {call : Invocation} {calls : List Invocation}

/-- Asks the callbacks of a relation in the order of the calls.  A callback that the relation does
not have answers nothing. -/
def askAll (relation : Relation) : List Invocation → Planning Unit
  | [] => pure ()
  | call :: calls => do
    let _ ← ask call ((relation.answer? call).getD (.ok none))
    askAll relation calls

@[simp] theorem askAll_nil : askAll relation [] = pure () := rfl

theorem askAll_append (calls others : List Invocation) :
    askAll relation (calls ++ others) =
      askAll relation calls >>= fun _ => askAll relation others := by
  induction calls with
  | nil => simp
  | cons call calls ih => simp only [List.cons_append, askAll, bind_assoc, ih]

/-- To ask one callback is to ask a list of one call and to take the text it resolves to. -/
theorem ask_bind {answer : CallbackAnswer} (h : relation.answer? call = some answer)
    {α : Type} (f : Option String → Planning α) :
    ask call answer >>= f = askAll relation [call] >>= fun _ => f (relation.text? call) := by
  simp only [askAll, h, Option.getD_some, bind_assoc, pure_bind]
  cases answer with
  | error reason => rfl
  | ok text =>
    rw [Relation.text?_of_answer? h]
    rfl

theorem askAll_cons_of_error {reason : String}
    (h : relation.answer? call = some (.error reason)) (calls : List Invocation) :
    askAll relation (call :: calls) = ⟨.error (.callback call reason), [call]⟩ := by
  simp [askAll, h, ask, bind_def, andThen, Except.mapError]

/-- A call that does not fail is logged, and the rest of the calls is asked. -/
theorem askAll_cons_of_forall_ne
    (h : ∀ reason, relation.answer? call ≠ some (.error reason)) (calls : List Invocation) :
    askAll relation (call :: calls) =
      ⟨(askAll relation calls).outcome, call :: (askAll relation calls).calls⟩ := by
  cases hanswer : relation.answer? call with
  | none => simp [askAll, hanswer, ask, bind_def, andThen, Except.mapError]
  | some answer =>
    cases answer with
    | error reason => exact absurd hanswer (h reason)
    | ok text => simp [askAll, hanswer, ask, bind_def, andThen, Except.mapError]

/-- The log of a list of calls is the whole list if no call fails; otherwise it ends with the
first call that does. -/
theorem askAll_eq (relation : Relation) (calls : List Invocation) :
    (∀ call ∈ calls, ∀ reason, relation.answer? call ≠ some (.error reason)) ∧
        askAll relation calls = ⟨.ok (), calls⟩ ∨
      ∃ before call after reason, calls = before ++ call :: after ∧
        (∀ earlier ∈ before, ∀ reason, relation.answer? earlier ≠ some (.error reason)) ∧
        relation.answer? call = some (.error reason) ∧
        askAll relation calls = ⟨.error (.callback call reason), before ++ [call]⟩ := by
  induction calls with
  | nil => exact .inl ⟨by simp, rfl⟩
  | cons call calls ih =>
    by_cases hcall : ∃ reason, relation.answer? call = some (.error reason)
    · obtain ⟨reason, hreason⟩ := hcall
      exact .inr ⟨[], call, calls, reason, rfl, by simp, hreason,
        askAll_cons_of_error hreason calls⟩
    · have hne : ∀ reason, relation.answer? call ≠ some (.error reason) := not_exists.1 hcall
      rw [askAll_cons_of_forall_ne hne]
      rcases ih with ⟨hall, hasked⟩ | ⟨before, failing, after, reason, rfl, hall, hreason, hasked⟩
      · exact .inl ⟨List.forall_mem_cons.2 ⟨hne, hall⟩, by rw [hasked]⟩
      · exact .inr ⟨call :: before, failing, after, reason, rfl,
          List.forall_mem_cons.2 ⟨hne, hall⟩, hreason, by rw [hasked]; rfl⟩

end Planning

end RelationPaging
