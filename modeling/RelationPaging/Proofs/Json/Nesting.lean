import RelationPaging.Proofs.Json.RoundTrip
import RelationPaging.Proofs.Outcome

/-!
# How deep documents nest

The reader takes a limit on the nesting of arrays and objects.  A smaller limit refuses exactly what
nests deeper than it and changes nothing else (`readDocument?_eq_some_iff`): reading under it is
reading under a larger one and then looking how deep the result nests.  So whatever is read nests as
deep as the limit allows, and the compact text of a value without real numbers is read under a limit
if and only if the value nests no deeper.

Canonical form keeps its promises as well: bringing a value into it twice is bringing it into it
once, and does not make it nest deeper.  So the values that `read?` gives are those that it reads
back from their own text.
-/

namespace RelationPaging.Json

/-! ## A smaller limit -/

/-- What follows the first item or member: the end, or a comma and the others. -/
def Follows {α : Type} (close : Char) (read? : List Char → Option (List α × List Char)) (first : α)
    (after : List Char) (all : List α) (rest : List Char) : Prop :=
  (∃ more others, skipSpace after = ',' :: more ∧ read? more = some (others, rest) ∧
    all = first :: others) ∨
  skipSpace after = close :: rest ∧ all = [first]

/-- One or more items: the first one, and then the end of the array or the others. -/
theorem readItems?_succ_eq_some_iff {fuel depth : Nat} {cs rest : List Char}
    {items : List Json} :
    readItems? (fuel + 1) depth cs = some (items, rest) ↔
      ∃ item after, readValue? fuel depth cs = some (item, after) ∧
        Follows ']' (readItems? fuel depth) item after items rest := by
  constructor
  · intro h
    rw [readItems?] at h
    split at h
    · cases h
    · next item after hitem =>
      refine ⟨item, after, hitem, ?_⟩
      split at h
      · next more hafter =>
        obtain ⟨⟨others, rest⟩, hothers, heq⟩ := Option.map_eq_some_iff.1 h
        cases heq
        exact Or.inl ⟨more, others, hafter, hothers, rfl⟩
      · next hafter =>
        cases h
        exact Or.inr ⟨hafter, rfl⟩
      · cases h
  · rintro ⟨item, after, hitem, ⟨more, others, hafter, hothers, rfl⟩ | ⟨hafter, rfl⟩⟩
    · simp only [readItems?, hitem, hafter, hothers, Option.map_some]
    · simp only [readItems?, hitem, hafter]

/-- One or more members: the first one, and then the end of the object or the others. -/
theorem readMembers?_succ_eq_some_iff {fuel depth : Nat} {cs rest : List Char}
    {members : Members} :
    readMembers? (fuel + 1) depth cs = some (members, rest) ↔
      ∃ text key colon start value after, skipSpace cs = '"' :: text ∧
        readString? text = some (key, colon) ∧ skipSpace colon = ':' :: start ∧
        readValue? fuel depth start = some (value, after) ∧
        Follows '\x7d' (readMembers? fuel depth) (String.ofList key, value) after members
          rest := by
  constructor
  · intro h
    rw [readMembers?] at h
    split at h
    · next text htext =>
      split at h
      · cases h
      · next key colon hkey =>
        split at h
        · next start hcolon =>
          split at h
          · cases h
          · next value after hvalue =>
            refine ⟨text, key, colon, start, value, after, htext, hkey, hcolon, hvalue, ?_⟩
            simp only at h
            split at h
            · next more hafter =>
              obtain ⟨⟨others, rest⟩, hothers, heq⟩ := Option.map_eq_some_iff.1 h
              cases heq
              exact Or.inl ⟨more, others, hafter, hothers, rfl⟩
            · next hafter =>
              cases h
              exact Or.inr ⟨hafter, rfl⟩
            · cases h
        · cases h
    · cases h
  · rintro ⟨text, key, colon, start, value, after, htext, hkey, hcolon, hvalue,
      ⟨more, others, hafter, hothers, rfl⟩ | ⟨hafter, rfl⟩⟩
    · simp only [readMembers?, htext, hkey, hcolon, hvalue, hafter, hothers, Option.map_some]
    · simp only [readMembers?, htext, hkey, hcolon, hvalue, hafter]

/-- With some fuel, a smaller limit refuses what nests deeper and nothing else. -/
structure RefusesDeeper (fuel : Nat) : Prop where
  value : ∀ {depth limit : Nat} (_ : depth ≤ limit) {cs rest : List Char} {value : Json},
    readValue? fuel depth cs = some (value, rest) ↔
      readValue? fuel limit cs = some (value, rest) ∧ value.nesting ≤ depth
  items : ∀ {depth limit : Nat} (_ : depth ≤ limit) {cs rest : List Char} {items : List Json},
    readItems? fuel depth cs = some (items, rest) ↔
      readItems? fuel limit cs = some (items, rest) ∧ nestingItems items ≤ depth
  members : ∀ {depth limit : Nat} (_ : depth ≤ limit) {cs rest : List Char} {members : Members},
    readMembers? fuel depth cs = some (members, rest) ↔
      readMembers? fuel limit cs = some (members, rest) ∧ nestingMembers members ≤ depth

/-- What is read and made into a value was read as something. -/
theorem exists_of_map_eq_some {α : Type} {x : Option (α × List Char)} {f : α → Json}
    {value : Json} {rest : List Char}
    (h : (x.map fun (a, rest) => (f a, rest)) = some (value, rest)) : ∃ a, f a = value := by
  obtain ⟨⟨a, rest⟩, -, heq⟩ := Option.map_eq_some_iff.1 h
  cases heq
  exact ⟨a, rfl⟩

namespace RefusesDeeper

variable {fuel depth limit : Nat} {cs rest : List Char} {value : Json}

/-- What is between brackets takes one level off the limit. -/
theorem enclosed_iff {f : Nat → Option (Json × List Char)}
    (hnests : ∀ depth, f depth = some (value, rest) → 0 < value.nesting)
    (hf : ∀ {depth limit : Nat}, depth ≤ limit →
      (f depth = some (value, rest) ↔ f limit = some (value, rest) ∧ value.nesting ≤ depth + 1)) :
    depth ≤ limit →
    ((match depth with | 0 => none | depth + 1 => f depth) = some (value, rest) ↔
      (match limit with | 0 => none | limit + 1 => f limit) = some (value, rest) ∧
        value.nesting ≤ depth) := by
  intro hle
  cases depth with
  | succ depth =>
    obtain ⟨limit, rfl⟩ := Nat.exists_eq_add_of_le' (Nat.le_of_add_left_le hle)
    exact hf (Nat.le_of_succ_le_succ hle)
  | zero =>
    cases limit with
    | zero => simp
    | succ limit =>
      constructor
      · rintro ⟨⟩
      · rintro ⟨hvalue, hnesting⟩
        exact absurd (hnests _ hvalue) (Nat.not_lt.2 hnesting)

/-- An array or object is read under a limit if what is in it is read under one less. -/
theorem map_iff {α : Type} {x y : Option (α × List Char)} {f : α → Json} {nests : α → Nat}
    (hnests : ∀ a, (f a).nesting = nests a + 1)
    (hinner : ∀ {a rest}, x = some (a, rest) ↔ y = some (a, rest) ∧ nests a ≤ depth) :
    (x.map fun (a, rest) => (f a, rest)) = some (value, rest) ↔
      (y.map fun (a, rest) => (f a, rest)) = some (value, rest) ∧
        value.nesting ≤ depth + 1 := by
  simp only [Option.map_eq_some_iff, Prod.exists, Prod.mk.injEq, hinner]
  constructor
  · rintro ⟨a, _, ⟨hy, hle⟩, rfl, rfl⟩
    exact ⟨⟨a, _, hy, rfl, rfl⟩, by rw [hnests]; omega⟩
  · rintro ⟨⟨a, _, hy, rfl, rfl⟩, hle⟩
    rw [hnests] at hle
    exact ⟨a, _, ⟨hy, by omega⟩, rfl, rfl⟩

theorem value_succ (h : RefusesDeeper fuel) (hle : depth ≤ limit) :
    readValue? (fuel + 1) depth cs = some (value, rest) ↔
      readValue? (fuel + 1) limit cs = some (value, rest) ∧ value.nesting ≤ depth := by
  rw [readValue?, readValue?]
  generalize skipSpace cs = start
  -- Under both limits the same character decides, so one case distinction serves both sides.
  split
  · exact iff_self_and.2 (by rintro ⟨⟩; exact Nat.zero_le _)
  · exact iff_self_and.2 (by rintro ⟨⟩; exact Nat.zero_le _)
  · exact iff_self_and.2 (by rintro ⟨⟩; exact Nat.zero_le _)
  · refine iff_self_and.2 fun hread => ?_
    obtain ⟨chars, rfl⟩ :=
      exists_of_map_eq_some (f := fun chars => string (String.ofList chars)) hread
    exact Nat.zero_le _
  · refine enclosed_iff (fun depth hread => ?_) (fun hle => ?_) hle
    · split at hread
      · cases hread
        decide
      · obtain ⟨items, rfl⟩ := exists_of_map_eq_some hread
        exact Nat.succ_pos _
    · split
      · refine iff_self_and.2 fun hread => ?_
        cases hread
        exact Nat.le_add_left 1 _
      · exact map_iff (fun _ => by rw [nesting]) (h.items hle)
  · refine enclosed_iff (fun depth hread => ?_) (fun hle => ?_) hle
    · split at hread
      · cases hread
        decide
      · obtain ⟨members, rfl⟩ := exists_of_map_eq_some hread
        exact Nat.succ_pos _
    · split
      · refine iff_self_and.2 fun hread => ?_
        cases hread
        exact Nat.le_add_left 1 _
      · exact map_iff (fun _ => by rw [nesting]) (h.members hle)
  · refine iff_self_and.2 fun hread => ?_
    obtain ⟨n, rfl⟩ := exists_of_map_eq_some hread
    exact Nat.zero_le _

/-- The first one and the others are read under a limit together. -/
theorem follows_iff {α : Type} {close : Char} {x y : List Char → Option (List α × List Char)}
    {nests : List α → Nat} {first : α} {after : List Char} {all : List α} (least : Nat)
    (hnil : nests [] = 0) (hcons : ∀ others, nests (first :: others) = max least (nests others))
    (hothers : ∀ {more others rest},
      x more = some (others, rest) ↔ y more = some (others, rest) ∧ nests others ≤ depth) :
    least ≤ depth ∧ Follows close x first after all rest ↔
      Follows close y first after all rest ∧ nests all ≤ depth := by
  simp only [Follows, hothers]
  constructor
  · rintro ⟨hfirst, ⟨more, others, hafter, ⟨hread, hnests⟩, rfl⟩ | ⟨hafter, rfl⟩⟩
    · exact ⟨.inl ⟨more, others, hafter, hread, rfl⟩, by rw [hcons]; omega⟩
    · exact ⟨.inr ⟨hafter, rfl⟩, by rw [hcons, hnil]; omega⟩
  · rintro ⟨⟨more, others, hafter, hread, rfl⟩ | ⟨hafter, rfl⟩, hnests⟩
    · rw [hcons, Nat.max_le] at hnests
      exact ⟨hnests.1, .inl ⟨more, others, hafter, ⟨hread, hnests.2⟩, rfl⟩⟩
    · rw [hcons, Nat.max_le] at hnests
      exact ⟨hnests.1, .inr ⟨hafter, rfl⟩⟩

theorem items_succ (h : RefusesDeeper fuel) (hle : depth ≤ limit) {items : List Json} :
    readItems? (fuel + 1) depth cs = some (items, rest) ↔
      readItems? (fuel + 1) limit cs = some (items, rest) ∧ nestingItems items ≤ depth := by
  have hfollows : ∀ item after, item.nesting ≤ depth ∧
      Follows ']' (readItems? fuel depth) item after items rest ↔
        Follows ']' (readItems? fuel limit) item after items rest ∧ nestingItems items ≤ depth :=
    fun item _ => follows_iff item.nesting rfl (fun _ => rfl) (h.items hle)
  simp only [readItems?_succ_eq_some_iff, h.value hle, and_assoc, hfollows]
  constructor
  · rintro ⟨item, after, hitem, hrest, hnests⟩
    exact ⟨⟨item, after, hitem, hrest⟩, hnests⟩
  · rintro ⟨⟨item, after, hitem, hrest⟩, hnests⟩
    exact ⟨item, after, hitem, hrest, hnests⟩

theorem members_succ (h : RefusesDeeper fuel) (hle : depth ≤ limit) {members : Members} :
    readMembers? (fuel + 1) depth cs = some (members, rest) ↔
      readMembers? (fuel + 1) limit cs = some (members, rest) ∧
        nestingMembers members ≤ depth := by
  have hfollows : ∀ (key : List Char) (value : Json) after, value.nesting ≤ depth ∧
      Follows '\x7d' (readMembers? fuel depth) (String.ofList key, value) after members rest ↔
        Follows '\x7d' (readMembers? fuel limit) (String.ofList key, value) after members rest ∧
          nestingMembers members ≤ depth :=
    fun _ value _ => follows_iff value.nesting rfl (fun _ => rfl) (h.members hle)
  simp only [readMembers?_succ_eq_some_iff, h.value hle, and_assoc, hfollows]
  constructor
  · rintro ⟨text, key, colon, start, value, after, htext, hkey, hcolon, hvalue, hrest, hnests⟩
    exact ⟨⟨text, key, colon, start, value, after, htext, hkey, hcolon, hvalue, hrest⟩, hnests⟩
  · rintro ⟨⟨text, key, colon, start, value, after, htext, hkey, hcolon, hvalue, hrest⟩, hnests⟩
    exact ⟨text, key, colon, start, value, after, htext, hkey, hcolon, hvalue, hrest, hnests⟩

end RefusesDeeper

/-- By induction on the fuel, since an array hands on less fuel and less of the limit at once. -/
theorem refusesDeeper (fuel : Nat) : RefusesDeeper fuel := by
  induction fuel with
  | zero =>
    exact ⟨fun _ => by simp [readValue?], fun _ => by simp [readItems?],
      fun _ => by simp [readMembers?]⟩
  | succ fuel ih =>
    exact ⟨fun hle => ih.value_succ hle, fun hle => ih.items_succ hle,
      fun hle => ih.members_succ hle⟩

/-! ## Documents -/

section

variable {text : String} {depth limit : Nat} {value : Json}

theorem readDocument?_eq_some_iff_exists :
    readDocument? text limit = some value ↔
      ∃ rest, readValue? (2 * text.toList.length + 2) limit text.toList = some (value, rest) ∧
        (skipSpace rest).isEmpty = true := by
  simp only [readDocument?]
  split
  · next read rest hread => simp [hread, and_comm]
  · next hread => simp [hread]

/-- Reading under a limit is reading under a larger one and looking how deep the result nests. -/
theorem readDocument?_eq_some_iff (hle : depth ≤ limit) :
    readDocument? text depth = some value ↔
      readDocument? text limit = some value ∧ value.nesting ≤ depth := by
  simp only [readDocument?_eq_some_iff_exists, (refusesDeeper _).value hle]
  constructor
  · rintro ⟨rest, ⟨hread, hnests⟩, hrest⟩
    exact ⟨⟨rest, hread, hrest⟩, hnests⟩
  · rintro ⟨⟨rest, hread, hrest⟩, hnests⟩
    exact ⟨rest, ⟨hread, hnests⟩, hrest⟩

/-- The compact text of a value without real numbers is read if it nests no deeper than the limit,
and else not. -/
theorem readDocument?_text_eq_ite (hwhole : value.isWhole = true) :
    readDocument? value.text limit = if value.nesting ≤ limit then some value else none := by
  split
  · next hle => exact readDocument?_text hwhole hle
  · next hlt =>
    rw [Option.eq_none_iff_forall_ne_some]
    intro found hfound
    obtain ⟨hread, hnests⟩ := (readDocument?_eq_some_iff (Nat.le_of_not_le hlt)).1 hfound
    rw [readDocument?_text hwhole le_rfl] at hread
    cases hread
    exact hlt hnests

end

/-! ## Canonical form -/

theorem nestingMembers_le_iff {members : Members} {depth : Nat} :
    nestingMembers members ≤ depth ↔ ∀ member ∈ members, member.2.nesting ≤ depth := by
  induction members with
  | nil => simp [nestingMembers]
  | cons first rest ih => rw [nestingMembers, Nat.max_le, ih, List.forall_mem_cons]

theorem isWholeMembers_iff {members : Members} :
    isWholeMembers members = true ↔ ∀ member ∈ members, member.2.isWhole = true := by
  induction members with
  | nil => simp [isWholeMembers]
  | cons first rest ih => rw [isWholeMembers, Bool.and_eq_true, ih, List.forall_mem_cons]

theorem canonicalMembers_eq_self {members : Members}
    (h : ∀ member ∈ members, member.2.canonical = member.2) :
    canonicalMembers members = members := by
  induction members with
  | nil => rfl
  | cons first rest ih =>
    obtain ⟨hfirst, hrest⟩ := List.forall_mem_cons.1 h
    rw [canonicalMembers, hfirst, ih hrest]

mutual

/-- Canonical form does not nest deeper: it leaves members out and adds none. -/
theorem nesting_canonical_le (value : Json) : value.canonical.nesting ≤ value.nesting := by
  match value with
  | null | bool _ | number _ | string _ => exact le_rfl
  | array items =>
    rw [canonical, nesting, nesting]
    exact Nat.succ_le_succ (nestingItems_canonicalItems_le items)
  | object members =>
    have hle := nestingMembers_le_iff.1 (nestingMembers_canonicalMembers_le members)
    rw [canonical, nesting, nesting]
    refine Nat.succ_le_succ (nestingMembers_le_iff.2 fun member hmember => ?_)
    exact hle member (Members.mem_of_mem_ofList hmember)

theorem nestingItems_canonicalItems_le (items : List Json) :
    nestingItems (canonicalItems items) ≤ nestingItems items := by
  match items with
  | [] => exact le_rfl
  | item :: items =>
    exact max_le_max (nesting_canonical_le item) (nestingItems_canonicalItems_le items)

theorem nestingMembers_canonicalMembers_le (members : Members) :
    nestingMembers (canonicalMembers members) ≤ nestingMembers members := by
  match members with
  | [] => exact le_rfl
  | (_, value) :: members =>
    exact max_le_max (nesting_canonical_le value) (nestingMembers_canonicalMembers_le members)

end

mutual

/-- Canonical form is kept by bringing it into canonical form again. -/
theorem canonical_canonical (value : Json) : value.canonical.canonical = value.canonical := by
  match value with
  | null | bool _ | number _ | string _ => rfl
  | array items => rw [canonical, canonical, canonicalItems_canonicalItems items]
  | object members =>
    have hmembers : canonicalMembers (.ofList (canonicalMembers members)) =
        .ofList (canonicalMembers members) :=
      canonicalMembers_eq_self fun member hmember =>
        canonical_of_mem_canonicalMembers members member (Members.mem_of_mem_ofList hmember)
    rw [canonical, canonical, hmembers, (Members.sorted_ofList _).ofList_eq]

theorem canonicalItems_canonicalItems (items : List Json) :
    canonicalItems (canonicalItems items) = canonicalItems items := by
  match items with
  | [] => rfl
  | item :: items =>
    rw [canonicalItems, canonicalItems, canonical_canonical item,
      canonicalItems_canonicalItems items]

theorem canonical_of_mem_canonicalMembers (members : Members) :
    ∀ member ∈ canonicalMembers members, member.2.canonical = member.2 := by
  match members with
  | [] => exact List.forall_mem_nil _
  | (_, value) :: members =>
    exact List.forall_mem_cons.2
      ⟨canonical_canonical value, canonical_of_mem_canonicalMembers members⟩

end

/-! ## Values that are read -/

/-- What is read is in canonical form and nests within the limit. -/
theorem canonical_and_nesting_of_read? {text : String} {value : Json}
    (h : read? text = some value) : value.canonical = value ∧ value.nesting ≤ nestingLimit := by
  obtain ⟨document, hdocument, rfl⟩ := Option.map_eq_some_iff.1 h
  have hnests := ((readDocument?_eq_some_iff le_rfl).1 hdocument).2
  exact ⟨canonical_canonical document, (nesting_canonical_le document).trans hnests⟩

/-- A value in canonical form without real numbers is read back from its compact text if it nests
within the limit, and is refused else. -/
theorem read?_text_eq_ite {value : Json} (hcanonical : value.canonical = value)
    (hwhole : value.isWhole = true) :
    read? value.text = if value.nesting ≤ nestingLimit then some value else none := by
  rw [read?, readDocument?_text_eq_ite hwhole]
  split
  · rw [Option.map_some, hcanonical]
  · rfl

end RelationPaging.Json
