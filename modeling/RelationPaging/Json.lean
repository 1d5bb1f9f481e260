import RelationPaging.Json.Number

/-!
# JSON values

The values that arguments and cursors carry.  An object is a list of members.  As it stands in
a text it may list a key twice and in any order; in *canonical* form its keys increase in the
order of code points and the last member of a repeated key is kept, so that an object is
determined by what its keys are bound to.  Arguments and decoded cursors are always canonical.
-/

namespace RelationPaging

/-- A JSON value. -/
inductive Json where
  | null
  | bool (value : Bool)
  | number (value : Json.Number)
  | string (value : String)
  | array (items : List Json)
  | object (members : List (String × Json))
  deriving Inhabited, Repr

namespace Json

/-- The members of an object. -/
abbrev Members := List (String × Json)

/-! ## Equality -/

mutual

/-- Whether two values are the same, member by member. -/
def same : Json → Json → Bool
  | null, null => true
  | bool a, bool b => a == b
  | number m, number n => decide (m = n)
  | string s, string t => decide (s = t)
  | array xs, array ys => sameItems xs ys
  | object ms, object ns => sameMembers ms ns
  | _, _ => false
termination_by structural value => value

/-- Whether two lists of values are the same. -/
def sameItems : List Json → List Json → Bool
  | [], [] => true
  | x :: xs, y :: ys => same x y && sameItems xs ys
  | _, _ => false
termination_by structural items => items

/-- Whether two lists of members are the same. -/
def sameMembers : Members → Members → Bool
  | [], [] => true
  | (k, x) :: ms, (l, y) :: ns => decide (k = l) && same x y && sameMembers ms ns
  | _, _ => false
termination_by structural members => members

end

mutual

theorem same_iff (x y : Json) : same x y = true ↔ x = y := by
  cases x <;> cases y <;> simp [same]
  case array.array xs ys => exact sameItems_iff xs ys
  case object.object ms ns => exact sameMembers_iff ms ns

theorem sameItems_iff (xs ys : List Json) : sameItems xs ys = true ↔ xs = ys := by
  cases xs with
  | nil => cases ys <;> simp [sameItems]
  | cons x xs =>
    cases ys with
    | nil => simp [sameItems]
    | cons y ys => simp [sameItems, same_iff x y, sameItems_iff xs ys]

theorem sameMembers_iff (ms ns : Members) : sameMembers ms ns = true ↔ ms = ns := by
  match ms, ns with
  | [], [] => simp [sameMembers]
  | [], _ :: _ => simp [sameMembers]
  | _ :: _, [] => simp [sameMembers]
  | (k, x) :: ms, (l, y) :: ns => simp [sameMembers, same_iff x y, sameMembers_iff ms ns]

end

instance : DecidableEq Json := fun x y =>
  decidable_of_iff (same x y = true) (same_iff x y)

/-! ## Members by key -/

namespace Members

/-- The value bound to a key. -/
def get? (members : Members) (key : String) : Option Json :=
  List.lookup key members

/-- Binds a key to a value, at its place in the order of keys.  A value that the key had before
is replaced. -/
def insert (key : String) (value : Json) : Members → Members
  | [] => [(key, value)]
  | (k, v) :: rest =>
    if key < k then (key, value) :: (k, v) :: rest
    else if key = k then (key, value) :: rest
    else (k, v) :: insert key value rest

/-- The members without the ones of a key. -/
def erase (key : String) (members : Members) : Members :=
  members.filter fun member => member.1 != key

/-- Members as they stand in a text, brought into canonical order. -/
def ofList (members : List (String × Json)) : Members :=
  members.foldl (fun sorted (key, value) => sorted.insert key value) []

end Members

/-! ## Canonical form -/

mutual

/-- A value with the members of every object in it in canonical order. -/
def canonical : Json → Json
  | null => null
  | bool b => bool b
  | number n => number n
  | string s => string s
  | array items => array (canonicalItems items)
  | object members => object (Members.ofList (canonicalMembers members))
termination_by structural value => value

/-- The canonical forms of a list of values. -/
def canonicalItems : List Json → List Json
  | [] => []
  | item :: items => item.canonical :: canonicalItems items
termination_by structural items => items

/-- Members, in the order of the text, with canonical values. -/
def canonicalMembers : Members → Members
  | [] => []
  | (key, value) :: members => (key, value.canonical) :: canonicalMembers members
termination_by structural members => members

end

end Json

end RelationPaging
