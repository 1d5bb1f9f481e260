import RelationPaging.Proofs.Cursor.Keyset
import RelationPaging.Proofs.Cursor.Offset
import Mathlib.Data.List.Perm.Subperm

/-!
# The values that a cursor holds for columns

A keyset cursor is read against the columns of a sort key.  It gives values exactly if the columns
are distinct and are the keys of its object, in whatever order (`keysetValues_eq_ok_iff`).  Each
column takes its value out of the object, so a repeated column finds none the second time; and as
there are as many keys as columns, none is left over.
-/

namespace RelationPaging

namespace Json.Members

variable {members : Members} {columns : List String} {values : List Json}

/-- An object whose keys are exactly the given columns, each of them listed once, with its values in
the order of the columns. -/
structure BindsExactly (members : Members) (columns : List String) (values : List Json) : Prop where
  nodup : columns.Nodup
  keys : ∀ key, (members.get? key).isSome = true ↔ key ∈ columns
  values : columns.map members.get? = values.map some

/-- A key that is taken out is bound no more. -/
theorem get?_erase_self (members : Members) (key : String) :
    (members.erase key).get? key = none := by
  induction members with
  | nil => rfl
  | cons first rest ih =>
    obtain ⟨k, v⟩ := first
    unfold erase at ih ⊢
    by_cases hk : k = key
    · rw [List.filter_cons_of_neg (by simpa using hk), ih]
    · rw [List.filter_cons_of_pos (by simpa using hk), get?_cons, if_neg (Ne.symm hk), ih]

/-- Columns that are bound are all keys if and only if there are as many keys as columns. -/
theorem length_eq_iff (hsorted : members.Sorted) (hnodup : columns.Nodup)
    (hbound : ∀ column ∈ columns, (members.get? column).isSome = true) :
    members.length = columns.length ↔
      ∀ key, (members.get? key).isSome = true ↔ key ∈ columns := by
  have hsubset : columns ⊆ members.map (·.1) :=
    fun column hcolumn => isSome_get?_iff.1 (hbound column hcolumn)
  have hsubperm := List.subperm_of_subset hnodup hsubset
  rw [← List.length_map (·.1)]
  constructor
  · intro hlength key
    rw [isSome_get?_iff, (hsubperm.perm_of_length_le hlength.le).mem_iff]
  · intro hkeys
    have hsubset' : members.map (·.1) ⊆ columns :=
      fun key hkey => (hkeys key).1 (isSome_get?_iff.2 hkey)
    exact (List.subperm_of_subset hsorted.nodup_keys hsubset').length_le.antisymm
      hsubperm.length_le

end Json.Members

namespace Cursor

/-- A cursor of an object: the base64 form of a JSON text that denotes it. -/
def HoldsObject (cursor : String) (members : Json.Members) : Prop :=
  ∃ text, Holds cursor text ∧ Json.read? text = some (.object members)

theorem toKeyset_eq_ok_iff {cursor : String} {members : Json.Members} :
    toKeyset cursor = .ok members ↔ HoldsObject cursor members := by
  simp only [toKeyset, Except.bind_eq_ok_iff, HoldsObject, holds_iff, toText_eq_ok_iff]
  refine exists_congr fun text => and_congr_right fun _ => ?_
  cases Json.read? text with
  | none => simp
  | some value => cases value <;> simp

variable {members : Json.Members} {columns : List String} {values : List Json}

/-- Columns take their values out of an object if they are distinct and bound. -/
theorem takeColumns_eq_ok_iff :
    takeColumns members columns = .ok values ↔
      columns.Nodup ∧ columns.map members.get? = values.map some := by
  induction columns generalizing members values with
  | nil =>
    rw [takeColumns, Except.ok.injEq, List.map_nil, List.nil_eq, List.nil_eq, List.map_eq_nil_iff]
    exact (and_iff_right List.nodup_nil).symm
  | cons column columns ih =>
    -- The other columns find what the object has for them, if the first one is not among them.
    have hothers : column ∉ columns →
        columns.map (members.erase column).get? = columns.map members.get? := by
      intro hfirst
      refine List.map_congr_left fun other hother => Json.Members.get?_erase ?_
      rintro rfl
      exact hfirst hother
    rw [takeColumns, List.nodup_cons]
    constructor
    · intro h
      cases hvalue : members.get? column with
      | none =>
        rw [hvalue] at h
        cases h
      | some value =>
        rw [hvalue] at h
        obtain ⟨rest, hrest, rfl⟩ := Except.map_eq_ok_iff.1 h
        obtain ⟨hnodup, hvalues⟩ := ih.1 hrest
        have hfirst : column ∉ columns := by
          intro hmem
          have hsome :
              (members.erase column).get? column ∈ columns.map (members.erase column).get? :=
            List.mem_map_of_mem hmem
          rw [hvalues, Json.Members.get?_erase_self] at hsome
          simp at hsome
        rw [hothers hfirst] at hvalues
        exact ⟨⟨hfirst, hnodup⟩, by rw [List.map_cons, List.map_cons, hvalue, hvalues]⟩
    · rintro ⟨⟨hfirst, hnodup⟩, hvalues⟩
      obtain ⟨value, rest, rfl, hvalue, hrest⟩ := List.map_eq_cons_iff.1 hvalues.symm
      rw [← hothers hfirst] at hrest
      rw [← hvalue, Except.map_eq_ok_iff]
      exact ⟨rest, ih.2 ⟨hnodup, hrest.symm⟩, rfl⟩

/-- What a keyset cursor holds is in order. -/
theorem sorted_of_toKeyset {cursor : String} (h : toKeyset cursor = .ok members) :
    members.Sorted := by
  obtain ⟨hcanonical, -⟩ := canonical_and_nesting_of_toKeyset h
  rw [Json.canonical, Json.object.injEq] at hcanonical
  rw [← hcanonical]
  exact Json.Members.sorted_ofList _

/-- A cursor gives values for columns if and only if its object binds exactly these columns to these
values. -/
theorem keysetValues_eq_ok_iff {cursor : String} :
    keysetValues cursor columns = .ok values ↔
      ∃ members, HoldsObject cursor members ∧ members.BindsExactly columns values := by
  simp only [keysetValues, Except.bind_eq_ok_iff, ← toKeyset_eq_ok_iff]
  refine exists_congr fun members => and_congr_right fun hmembers => ?_
  have hsorted := sorted_of_toKeyset hmembers
  have hbound : columns.map members.get? = values.map some →
      ∀ column ∈ columns, (members.get? column).isSome = true := by
    intro hvalues column hcolumn
    have hmem : members.get? column ∈ columns.map members.get? := List.mem_map_of_mem hcolumn
    rw [hvalues] at hmem
    obtain ⟨value, -, hvalue⟩ := List.mem_map.1 hmem
    rw [← hvalue, Option.isSome_some]
  constructor
  · intro h
    split at h
    · cases h
    next hlength =>
      obtain ⟨hnodup, hvalues⟩ := takeColumns_eq_ok_iff.1 h
      have hkeys := (Json.Members.length_eq_iff hsorted hnodup (hbound hvalues)).1
      exact ⟨hnodup, hkeys (not_not.1 hlength), hvalues⟩
  · rintro ⟨hnodup, hkeys, hvalues⟩
    have hlength := (Json.Members.length_eq_iff hsorted hnodup (hbound hvalues)).2 hkeys
    rw [if_neg (not_not.2 hlength)]
    exact takeColumns_eq_ok_iff.2 ⟨hnodup, hvalues⟩

end Cursor

end RelationPaging
