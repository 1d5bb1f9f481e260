import RelationPaging.Json
import Mathlib.Data.List.Lemmas
import Mathlib.Data.List.Nodup
import Mathlib.Data.String.Basic

/-!
# Members in canonical order

Members are in canonical order when their keys increase (`Members.Sorted`).  Bringing members into
this order gives such members, and leaves them alone if they are in order already.

Members with distinct keys are found by key wherever they stand, and canonical order does not change
what is found (`get?_ofList`), so that members in this order are determined by what they bind
(`Sorted.ext`).
-/

namespace RelationPaging.Json

namespace Members

/-- The keys increase. -/
def Sorted (members : Members) : Prop :=
  members.Pairwise fun a b => a.1 < b.1

/-! ## Inserting -/

theorem mem_insert {key : String} {value : Json} {members : Members} {member : String × Json}
    (h : member ∈ members.insert key value) : member = (key, value) ∨ member ∈ members := by
  induction members with
  | nil => exact .inl (List.mem_singleton.1 h)
  | cons first rest ih =>
    obtain ⟨k, v⟩ := first
    unfold insert at h
    split at h
    · exact List.mem_cons.1 h
    · split at h
      · exact (List.mem_cons.1 h).imp id (List.mem_cons_of_mem _)
      · rcases List.mem_cons.1 h with rfl | h
        · exact .inr List.mem_cons_self
        · exact (ih h).imp id (List.mem_cons_of_mem _)

theorem Sorted.insert {members : Members} (h : members.Sorted) (key : String) (value : Json) :
    (members.insert key value).Sorted := by
  induction members with
  | nil => exact List.pairwise_singleton _ _
  | cons first rest ih =>
    obtain ⟨k, v⟩ := first
    obtain ⟨hfirst, hrest⟩ := List.pairwise_cons.1 h
    unfold Members.insert
    by_cases hlt : key < k
    · rw [if_pos hlt]
      refine List.pairwise_cons.2 ⟨fun member hmember => ?_, h⟩
      rcases List.mem_cons.1 hmember with rfl | hmember
      · exact hlt
      · exact lt_trans hlt (hfirst member hmember)
    · rw [if_neg hlt]
      by_cases heq : key = k
      · rw [if_pos heq]
        subst heq
        exact List.pairwise_cons.2 ⟨hfirst, hrest⟩
      · rw [if_neg heq]
        refine List.pairwise_cons.2 ⟨fun member hmember => ?_, ih hrest⟩
        rcases mem_insert hmember with rfl | hmember
        · exact lt_of_le_of_ne (not_lt.1 hlt) (Ne.symm heq)
        · exact hfirst member hmember

/-- A key that is larger than all others goes to the end. -/
theorem insert_of_forall_lt {members : Members} {key : String} (value : Json)
    (h : ∀ member ∈ members, member.1 < key) :
    members.insert key value = members ++ [(key, value)] := by
  induction members with
  | nil => rfl
  | cons first rest ih =>
    obtain ⟨k, v⟩ := first
    obtain ⟨hfirst, hrest⟩ := List.forall_mem_cons.1 h
    rw [insert, if_neg (lt_asymm hfirst), if_neg (ne_of_gt hfirst), ih hrest]
    rfl

/-! ## Ordering -/

/-- Members into which further ones are inserted one after the other. -/
def insertAll (sorted members : Members) : Members :=
  members.foldl (fun sorted member => sorted.insert member.1 member.2) sorted

theorem insertAll_cons (sorted : Members) (member : String × Json) (members : Members) :
    sorted.insertAll (member :: members) = (sorted.insert member.1 member.2).insertAll members :=
  rfl

theorem Sorted.insertAll {sorted : Members} (h : sorted.Sorted) (members : Members) :
    (sorted.insertAll members).Sorted := by
  induction members generalizing sorted with
  | nil => exact h
  | cons first rest ih => exact ih (h.insert first.1 first.2)

theorem sorted_ofList (members : Members) : (ofList members).Sorted := by
  have hnil : Sorted [] := List.Pairwise.nil
  exact hnil.insertAll members

theorem mem_of_mem_insertAll {sorted members : Members} {member : String × Json}
    (h : member ∈ sorted.insertAll members) : member ∈ sorted ∨ member ∈ members := by
  induction members generalizing sorted with
  | nil => exact .inl h
  | cons first rest ih =>
    rcases ih h with hmember | hmember
    · rcases mem_insert hmember with rfl | hmember
      · exact .inr List.mem_cons_self
      · exact .inl hmember
    · exact .inr (List.mem_cons_of_mem _ hmember)

/-- Ordering adds no members. -/
theorem mem_of_mem_ofList {members : Members} {member : String × Json}
    (h : member ∈ ofList members) : member ∈ members := by
  rcases mem_of_mem_insertAll h with hnil | hmember
  · cases hnil
  · exact hmember

/-- Members that come in order are put at the end. -/
theorem Sorted.insertAll_eq {sorted members : Members} (h : (sorted ++ members).Sorted) :
    sorted.insertAll members = sorted ++ members := by
  induction members generalizing sorted with
  | nil => exact (List.append_nil sorted).symm
  | cons first rest ih =>
    obtain ⟨key, value⟩ := first
    have hlast : ∀ member ∈ sorted, member.1 < key := fun member hmember =>
      (List.pairwise_append.1 h).2.2 member hmember (key, value) List.mem_cons_self
    rw [insertAll_cons, insert_of_forall_lt value hlast, ih (by simpa using h), List.append_assoc]
    rfl

/-- Members in order stay as they are. -/
theorem Sorted.ofList_eq {members : Members} (h : members.Sorted) : ofList members = members := by
  have hnil : Sorted ([] ++ members) := h
  exact hnil.insertAll_eq

/-! ## Finding -/

@[simp] theorem get?_nil (column : String) : get? [] column = none := rfl

theorem get?_cons (key : String) (value : Json) (members : Members) (column : String) :
    get? ((key, value) :: members) column =
      if column = key then some value else members.get? column := by
  by_cases h : column = key
  · subst h
    rw [if_pos rfl, get?, List.lookup_cons_self]
  · rw [if_neg h, get?, List.lookup_cons, beq_false_of_ne h]
    rfl

/-- Inserting binds the key anew and leaves the other keys alone. -/
theorem get?_insert (members : Members) (key : String) (value : Json) (column : String) :
    (members.insert key value).get? column =
      if column = key then some value else members.get? column := by
  induction members with
  | nil => exact get?_cons key value [] column
  | cons first rest ih =>
    obtain ⟨k, v⟩ := first
    unfold insert
    by_cases hlt : key < k
    · rw [if_pos hlt, get?_cons]
    · rw [if_neg hlt]
      by_cases heq : key = k
      · subst heq
        rw [if_pos rfl, get?_cons, get?_cons]
        split <;> rfl
      · rw [if_neg heq, get?_cons, ih, get?_cons]
        by_cases hcolumn : column = k
        · subst hcolumn
          rw [if_pos rfl, if_neg (Ne.symm heq), if_pos rfl]
        · rw [if_neg hcolumn, if_neg hcolumn]

theorem get?_erase {members : Members} {key column : String} (h : column ≠ key) :
    (members.erase key).get? column = members.get? column := by
  induction members with
  | nil => rfl
  | cons first rest ih =>
    obtain ⟨k, v⟩ := first
    unfold erase at ih ⊢
    by_cases hk : k = key
    · subst hk
      rw [List.filter_cons_of_neg (by simp), ih, get?_cons, if_neg h]
    · rw [List.filter_cons_of_pos (by simpa using hk), get?_cons, ih, get?_cons]

/-! ## Members by what they bind -/

variable {members others : Members} {key : String} {value : Json}

theorem isSome_get?_iff {key : String} :
    (members.get? key).isSome = true ↔ key ∈ members.map (·.1) := by
  induction members with
  | nil => simp
  | cons first rest ih =>
    obtain ⟨k, v⟩ := first
    rw [get?_cons, List.map_cons, List.mem_cons, ← ih]
    by_cases hk : key = k
    · simp [hk]
    · simp [hk]

theorem get?_eq_none_iff : members.get? key = none ↔ key ∉ members.map (·.1) := by
  rw [← isSome_get?_iff, Bool.not_eq_true, Option.isSome_eq_false_iff, Option.isNone_iff_eq_none]

/-- A key has the value of its only member. -/
theorem get?_eq_some_iff_mem (hnodup : (members.map (·.1)).Nodup) :
    members.get? key = some value ↔ (key, value) ∈ members := by
  induction members with
  | nil => simp
  | cons first rest ih =>
    obtain ⟨k, v⟩ := first
    rw [List.map_cons, List.nodup_cons] at hnodup
    obtain ⟨hfirst, hrest⟩ := hnodup
    rw [get?_cons, List.mem_cons, Prod.mk.injEq]
    by_cases hkey : key = k
    · have hothers : (key, value) ∉ rest := by
        intro hmem
        rw [hkey] at hmem
        exact hfirst (List.mem_map.2 ⟨_, hmem, rfl⟩)
      rw [if_pos hkey, Option.some.injEq, or_iff_left hothers, and_iff_right hkey, eq_comm]
    · rw [if_neg hkey, ih hrest, or_iff_right fun hfirst => hkey hfirst.1]

theorem Sorted.nodup_keys (h : members.Sorted) : (members.map (·.1)).Nodup := by
  rw [List.nodup_iff_pairwise_ne, List.pairwise_map]
  exact h.imp ne_of_lt

/-- Members in canonical order that are the same up to their order are the same. -/
theorem Sorted.eq_of_perm (hmembers : members.Sorted) (hothers : others.Sorted)
    (hperm : members.Perm others) : members = others :=
  hperm.eq_of_pairwise (fun _ _ _ _ hlt hgt => absurd hlt (lt_asymm hgt)) hmembers hothers

/-- Members with distinct keys that bind the same are the same up to their order. -/
theorem perm_of_get?_eq (hmembers : (members.map (·.1)).Nodup)
    (hothers : (others.map (·.1)).Nodup) (h : ∀ key, members.get? key = others.get? key) :
    members.Perm others := by
  refine (List.perm_ext_iff_of_nodup (hmembers.of_map _) (hothers.of_map _)).2 ?_
  rintro ⟨key, value⟩
  rw [← get?_eq_some_iff_mem hmembers, h, get?_eq_some_iff_mem hothers]

/-- Members in canonical order are determined by what they bind. -/
theorem Sorted.ext (hmembers : members.Sorted) (hothers : others.Sorted)
    (h : ∀ key, members.get? key = others.get? key) : members = others :=
  hmembers.eq_of_perm hothers (perm_of_get?_eq hmembers.nodup_keys hothers.nodup_keys h)

/-- Members that are inserted one after the other hide the ones that were there. -/
theorem get?_insertAll (hnodup : (members.map (·.1)).Nodup) (sorted : Members) :
    (sorted.insertAll members).get? key = (members.get? key).or (sorted.get? key) := by
  induction members generalizing sorted with
  | nil => rfl
  | cons first rest ih =>
    obtain ⟨k, v⟩ := first
    rw [List.map_cons, List.nodup_cons] at hnodup
    obtain ⟨hfirst, hrest⟩ := hnodup
    rw [insertAll_cons, ih hrest, get?_insert, get?_cons]
    by_cases hkey : key = k
    · rw [if_pos hkey, if_pos hkey, hkey, get?_eq_none_iff.2 hfirst]
      rfl
    · rw [if_neg hkey, if_neg hkey]

/-- The object made from bindings binds what they do. -/
theorem get?_ofList (hnodup : (members.map (·.1)).Nodup) :
    (ofList members).get? key = members.get? key :=
  (get?_insertAll hnodup []).trans Option.or_none

/-- The object made from bindings has them as its members. -/
theorem ofList_perm (hnodup : (members.map (·.1)).Nodup) : (ofList members).Perm members :=
  perm_of_get?_eq (sorted_ofList members).nodup_keys hnodup fun _ => get?_ofList hnodup

/-- The order of bindings does not matter. -/
theorem ofList_eq_of_perm (hnodup : (members.map (·.1)).Nodup) (hperm : others.Perm members) :
    ofList others = ofList members := by
  have hothers : (others.map (·.1)).Nodup := (hperm.map _).nodup_iff.2 hnodup
  have hobjects : (ofList others).Perm (ofList members) :=
    ((ofList_perm hothers).trans hperm).trans (ofList_perm hnodup).symm
  exact (sorted_ofList others).eq_of_perm (sorted_ofList members) hobjects

/-! ## Members that bind columns -/

theorem map_fst_binding (f : String → Json) (columns : List String) :
    (columns.map fun column => (column, f column)).map (·.1) = columns := by
  rw [List.map_map]
  exact List.map_id columns

/-- The object that binds distinct columns has a member for each of them. -/
theorem length_ofList_map (f : String → Json) {columns : List String} (hnodup : columns.Nodup) :
    (ofList (columns.map fun column => (column, f column))).length = columns.length := by
  rw [← map_fst_binding f columns] at hnodup
  rw [(ofList_perm hnodup).length_eq, List.length_map]

/-- The object that binds distinct columns is looked up by column. -/
theorem get?_ofList_map (f : String → Json) {columns : List String} (hnodup : columns.Nodup)
    {column : String} (h : column ∈ columns) :
    (ofList (columns.map fun column => (column, f column))).get? column = some (f column) := by
  rw [← map_fst_binding f columns] at hnodup
  rw [get?_ofList hnodup, get?_eq_some_iff_mem hnodup]
  exact List.mem_map_of_mem h

end Members

end RelationPaging.Json
