import RelationPaging.Proofs.Cursor
import RelationPaging.Proofs.Json.Nesting

/-!
# Keyset cursors read back

A keyset cursor gives back its object whatever is in it, arrays and objects included, as long as
its numbers are integers: real numbers are left out, since reading them rounds.  The object has to
nest within the limit of the reader, and a cursor made from one that nests deeper is refused.  An
object that was read from any cursor nests within the limit, so making a cursor from it and reading
that gives the object again (`keyset_round_trip`).
-/

namespace RelationPaging.Cursor

/-- What a keyset cursor holds is an object in canonical form that nests within the limit. -/
theorem canonical_and_nesting_of_toKeyset {cursor : String} {members : Json.Members}
    (h : toKeyset cursor = .ok members) :
    (Json.object members).canonical = .object members ∧
      (Json.object members).nesting ≤ Json.nestingLimit := by
  obtain ⟨text, -, hread⟩ := Except.bind_eq_ok_iff.1 h
  split at hread
  · cases hread
  · next found hfound =>
    cases hread
    exact Json.canonical_and_nesting_of_read? hfound
  · cases hread

/-- A cursor made from an object gives it back if it nests within the limit. -/
theorem toKeyset_ofKeyset_eq_ite {members : Json.Members}
    (hcanonical : (Json.object members).canonical = .object members)
    (hwhole : (Json.object members).isWhole = true) :
    toKeyset (ofKeyset members) =
      if (Json.object members).nesting ≤ Json.nestingLimit then .ok members
      else .error .notJson := by
  have hread := Json.read?_text_eq_ite hcanonical hwhole
  rw [toKeyset, ofKeyset, toText_ofText]
  by_cases hnests : (Json.object members).nesting ≤ Json.nestingLimit
  · rw [if_pos hnests] at hread ⊢
    simp only [bind, Except.bind, hread]
  · rw [if_neg hnests] at hread ⊢
    simp only [bind, Except.bind, hread]

/-- A keyset cursor gives back every object of integers, texts, arrays and objects that nests at
most 127 deep, and is refused if the object nests deeper; and an object that any cursor gives is
what a cursor made from it gives. -/
theorem keyset_round_trip :
    (∀ members : Json.Members, (Json.object members).canonical = .object members →
      (Json.object members).isWhole = true →
        toKeyset (ofKeyset members) =
          if (Json.object members).nesting ≤ 127 then .ok members else .error .notJson) ∧
      ∀ (cursor : String) (members : Json.Members), toKeyset cursor = .ok members →
        (Json.object members).isWhole = true → toKeyset (ofKeyset members) = .ok members := by
  constructor
  · intro members hcanonical hwhole
    exact toKeyset_ofKeyset_eq_ite hcanonical hwhole
  · intro cursor members hread hwhole
    obtain ⟨hcanonical, hnests⟩ := canonical_and_nesting_of_toKeyset hread
    rw [toKeyset_ofKeyset_eq_ite hcanonical hwhole, if_pos hnests]

/-- An object that nests three deep, with a quote, a control character and a character outside of
the basic plane, and a cursor whose text has blanks and its keys in another order. -/
theorem keyset_round_trip_nested :
    (Json.object [("\x01\"", .array [.object [], .string "😀\n"])]).canonical =
        .object [("\x01\"", .array [.object [], .string "😀\n"])] ∧
      (Json.object [("\x01\"", .array [.object [], .string "😀\n"])]).isWhole = true ∧
      toKeyset (ofKeyset [("\x01\"", .array [.object [], .string "😀\n"])]) =
        .ok [("\x01\"", .array [.object [], .string "😀\n"])] ∧
      toKeyset "eyJiIjoyLCAiYSI6WzFdfQ==" =
        .ok [("a", .array [.number (.whole ⟨1, by decide, by decide⟩)]),
          ("b", .number (.whole ⟨2, by decide, by decide⟩))] ∧
      toKeyset (ofKeyset [("a", .array [.number (.whole ⟨1, by decide, by decide⟩)]),
          ("b", .number (.whole ⟨2, by decide, by decide⟩))]) =
        .ok [("a", .array [.number (.whole ⟨1, by decide, by decide⟩)]),
          ("b", .number (.whole ⟨2, by decide, by decide⟩))] :=
  have hread : toKeyset "eyJiIjoyLCAiYSI6WzFdfQ==" =
      .ok [("a", .array [.number (.whole ⟨1, by decide, by decide⟩)]),
        ("b", .number (.whole ⟨2, by decide, by decide⟩))] := by decide +kernel
  ⟨rfl, rfl, keyset_round_trip.1 _ rfl rfl, hread, keyset_round_trip.2 _ _ hread rfl⟩

end RelationPaging.Cursor
