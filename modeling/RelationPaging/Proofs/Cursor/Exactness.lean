import RelationPaging.Proofs.Cursor.Columns

/-!
# Cursors and their columns match exactly

A keyset cursor is read against any list of columns with one of two outcomes.  If the columns are
distinct and are the keys of its object, each of them finds what the object binds it to; otherwise
the cursor is refused, with the two counts or with the first column that is repeated or not bound
(`Refuses`).  So an object can be read back in any order of its columns if it can be read back at
all, which for an object without real numbers is to say if it nests within the limit of the reader
(`keysetValues_exact`).

The reader of a cursor knows nothing of the order in which the columns were bound, since an object
in canonical order is determined by what it binds (`Sorted.ext`).
-/

namespace RelationPaging

namespace Json.Members

variable {members others : Members} {key : String} {value : Json} {columns : List String}
  {values : List Json}

/-! ## Values by position -/

theorem BindsExactly.length_eq (h : members.BindsExactly columns values) :
    values.length = columns.length := by
  simpa using (congrArg List.length h.values).symm

/-- The value at a position is the one of the column there. -/
theorem BindsExactly.getElem?_eq (h : members.BindsExactly columns values) {i : Nat}
    (hi : i < columns.length) : values[i]? = members.get? columns[i] := by
  have hvalue := congrArg (·[i]?) h.values
  have hlength : i < values.length := h.length_eq ▸ hi
  simpa [hi, hlength] using hvalue.symm

/-- There are values for columns that are distinct and are the keys. -/
theorem exists_bindsExactly_iff :
    (∃ values, members.BindsExactly columns values) ↔
      columns.Nodup ∧ ∀ key, key ∈ columns ↔ (members.get? key).isSome = true := by
  constructor
  · rintro ⟨values, hbinds⟩
    exact ⟨hbinds.nodup, fun key => (hbinds.keys key).symm⟩
  · rintro ⟨hnodup, hkeys⟩
    have hbound : ∀ column ∈ columns, ∃ value, members.get? column = some value :=
      fun column hcolumn => Option.isSome_iff_exists.1 ((hkeys column).1 hcolumn)
    obtain ⟨values, hvalues⟩ := exists_forall₂ hbound
    refine ⟨values, hnodup, fun key => (hkeys key).symm, ?_⟩
    rw [← List.forall₂_eq_eq_eq, List.forall₂_map_left_iff, List.forall₂_map_right_iff]
    exact hvalues

/-- An object in canonical order binds exactly the columns of some bindings to their values if and
only if it is the one that is made from them. -/
theorem Sorted.bindsExactly_iff (hsorted : members.Sorted) (hnodup : (others.map (·.1)).Nodup) :
    members.BindsExactly (others.map (·.1)) (others.map (·.2)) ↔ members = ofList others := by
  constructor
  · intro hbinds
    have hvalues := hbinds.values
    rw [List.map_map, List.map_map, List.map_inj_left] at hvalues
    refine hsorted.ext (sorted_ofList others) fun key => ?_
    rw [get?_ofList hnodup]
    by_cases hkey : key ∈ others.map (·.1)
    · obtain ⟨⟨key, value⟩, hmem, rfl⟩ := List.mem_map.1 hkey
      exact (hvalues _ hmem).trans ((get?_eq_some_iff_mem hnodup).2 hmem).symm
    · rw [get?_eq_none_iff.2 hkey, ← Option.isNone_iff_eq_none, ← Option.isSome_eq_false_iff,
        ← Bool.not_eq_true, hbinds.keys]
      exact hkey
  · rintro rfl
    refine ⟨hnodup, fun key => ?_, ?_⟩
    · rw [get?_ofList hnodup, isSome_get?_iff]
    · rw [List.map_map, List.map_map, List.map_inj_left]
      intro member hmem
      exact (get?_ofList hnodup).trans ((get?_eq_some_iff_mem hnodup).2 hmem)

end Json.Members

namespace Cursor

/-! ## Refusals -/

/-- Why an object gives no values for columns: there are more or fewer columns than keys, or there
is a first column that is not bound or that was listed before. -/
inductive Refuses (members : Json.Members) (columns : List String) : CursorError → Prop where
  | keyCount (hlength : members.length ≠ columns.length) :
      Refuses members columns (.keyCount members.length columns.length)
  | missingColumn {before after : List String} {column : String}
      (hlength : members.length = columns.length) (hcolumns : columns = before ++ column :: after)
      (hnodup : before.Nodup) (hbound : ∀ earlier ∈ before, (members.get? earlier).isSome = true)
      (hmissing : column ∈ before ∨ members.get? column = none) :
      Refuses members columns (.missingColumn column)

variable {members : Json.Members} {columns : List String} {cause : CursorError}

/-- Taking columns stops at the first one that is not bound or was taken before. -/
theorem exists_of_takeColumns_eq_error (h : takeColumns members columns = .error cause) :
    ∃ before column after, columns = before ++ column :: after ∧ before.Nodup ∧
      (∀ earlier ∈ before, (members.get? earlier).isSome = true) ∧
      (column ∈ before ∨ members.get? column = none) ∧ cause = .missingColumn column := by
  induction columns generalizing members with
  | nil => cases h
  | cons first columns ih =>
    rw [takeColumns] at h
    cases hvalue : members.get? first with
    | none =>
      rw [hvalue, Except.error.injEq] at h
      exact ⟨[], first, columns, rfl, List.nodup_nil, by simp, .inr hvalue, h.symm⟩
    | some value =>
      rw [hvalue] at h
      obtain ⟨before, column, after, rfl, hnodup, hbound, hmissing, rfl⟩ :=
        ih (Except.map_eq_error_iff.1 h)
      -- What is bound once the first column is taken out is another column.
      have hne : ∀ earlier ∈ before, earlier ≠ first := by
        rintro earlier hmem rfl
        have hsome := hbound earlier hmem
        rw [Json.Members.get?_erase_self] at hsome
        cases hsome
      refine ⟨first :: before, column, after, rfl,
        List.nodup_cons.2 ⟨fun hmem => hne first hmem rfl, hnodup⟩,
        List.forall_mem_cons.2 ⟨by rw [hvalue]; rfl, fun earlier hmem => ?_⟩, ?_, rfl⟩
      · rw [← Json.Members.get?_erase (hne earlier hmem)]
        exact hbound earlier hmem
      · by_cases hcolumn : column = first
        · exact .inl (hcolumn ▸ List.mem_cons_self)
        · rw [Json.Members.get?_erase hcolumn] at hmissing
          exact hmissing.imp_left (List.mem_cons_of_mem _)

/-- A cursor of an object is refused for what is wrong with the columns. -/
theorem refuses_of_keysetValues {cursor : String} (hmembers : toKeyset cursor = .ok members)
    (h : keysetValues cursor columns = .error cause) : Refuses members columns cause := by
  rw [keysetValues, Except.bind_eq_error_iff, hmembers] at h
  obtain h | ⟨found, hfound, h⟩ := h
  · cases h
  · cases hfound
    split at h
    · next hlength =>
      cases h
      exact .keyCount hlength
    · next hlength =>
      obtain ⟨before, column, after, hcolumns, hnodup, hbound, hmissing, rfl⟩ :=
        exists_of_takeColumns_eq_error h
      exact .missingColumn (not_not.1 hlength) hcolumns hnodup hbound hmissing

/-! ## Values in the order of the columns -/

/-- For a cursor of an object, the object decides what the cursor gives for columns. -/
theorem keysetValues_eq_ok_iff_bindsExactly {cursor : String} {values : List Json}
    (hmembers : toKeyset cursor = .ok members) :
    keysetValues cursor columns = .ok values ↔ members.BindsExactly columns values := by
  rw [keysetValues_eq_ok_iff]
  constructor
  · rintro ⟨found, hfound, hbinds⟩
    rw [← toKeyset_eq_ok_iff, hmembers, Except.ok.injEq] at hfound
    rwa [hfound]
  · exact fun hbinds => ⟨members, toKeyset_eq_ok_iff.1 hmembers, hbinds⟩

/-- Bindings are read back in any order of their columns if and only if their object is. -/
theorem keysetValues_perm_iff {bindings permuted : Json.Members}
    (hnodup : (bindings.map (·.1)).Nodup) (hperm : permuted.Perm bindings) (cursor : String) :
    keysetValues cursor (permuted.map (·.1)) = .ok (permuted.map (·.2)) ↔
      toKeyset cursor = .ok (.ofList bindings) := by
  have hpermuted : (permuted.map (·.1)).Nodup := (hperm.map _).nodup_iff.2 hnodup
  rw [← Json.Members.ofList_eq_of_perm hnodup hperm, keysetValues_eq_ok_iff]
  constructor
  · rintro ⟨members, hmembers, hbinds⟩
    rw [← toKeyset_eq_ok_iff] at hmembers
    rwa [← ((sorted_of_toKeyset hmembers).bindsExactly_iff hpermuted).1 hbinds]
  · intro h
    exact ⟨_, toKeyset_eq_ok_iff.1 h, ((sorted_of_toKeyset h).bindsExactly_iff hpermuted).2 rfl⟩

/-! ## Objects read back -/

/-- An object that is made from bindings without real numbers is given back by its cursor if and
only if it nests within the limit. -/
theorem toKeyset_ofKeyset_ofList_iff {bindings : Json.Members}
    (hcanonical : ∀ binding ∈ bindings, binding.2.canonical = binding.2)
    (hwhole : ∀ binding ∈ bindings, binding.2.isWhole = true) :
    toKeyset (ofKeyset (.ofList bindings)) = .ok (.ofList bindings) ↔
      (Json.object (Json.Members.ofList bindings)).nesting ≤ Json.nestingLimit := by
  have hobject : (Json.object (Json.Members.ofList bindings)).canonical =
      .object (Json.Members.ofList bindings) := by
    rw [Json.canonical, Json.canonicalMembers_eq_self fun member hmember =>
      hcanonical member (Json.Members.mem_of_mem_ofList hmember),
      (Json.Members.sorted_ofList bindings).ofList_eq]
  have hintegers : (Json.object (Json.Members.ofList bindings)).isWhole = true :=
    Json.isWholeMembers_iff.2 fun member hmember =>
      hwhole member (Json.Members.mem_of_mem_ofList hmember)
  rw [toKeyset_ofKeyset_eq_ite hobject hintegers]
  simp

/-- A cursor of an object gives values for columns if and only if these are distinct and are its
keys, each column the value that it is bound to, and it is refused in every other case.  So an
object is read back in every order of its columns if and only if its cursor gives it back, which for
an object without real numbers is so if and only if it nests at most 127 deep. -/
theorem keysetValues_exact :
    (∀ (cursor : String) (members : Json.Members), toKeyset cursor = .ok members →
      ∀ columns : List String,
        ((∃ values, keysetValues cursor columns = .ok values) ↔
          columns.Nodup ∧ ∀ key, key ∈ columns ↔ (members.get? key).isSome = true) ∧
        (∀ values, keysetValues cursor columns = .ok values →
          values.length = columns.length ∧
            ∀ i (hi : i < columns.length), values[i]? = members.get? columns[i]) ∧
        ((¬ ∃ values, keysetValues cursor columns = .ok values) →
          ∃ cause, keysetValues cursor columns = .error cause ∧ Refuses members columns cause)) ∧
    ∀ bindings permuted : Json.Members, (bindings.map (·.1)).Nodup → permuted.Perm bindings →
      (keysetValues (ofKeyset (.ofList bindings)) (permuted.map (·.1)) =
          .ok (permuted.map (·.2)) ↔
        toKeyset (ofKeyset (.ofList bindings)) = .ok (.ofList bindings)) ∧
      ((∀ binding ∈ bindings, binding.2.canonical = binding.2 ∧ binding.2.isWhole = true) →
        (keysetValues (ofKeyset (.ofList bindings)) (permuted.map (·.1)) =
            .ok (permuted.map (·.2)) ↔
          (Json.object (Json.Members.ofList bindings)).nesting ≤ 127)) := by
  constructor
  · intro cursor members hmembers columns
    have hvalues (values : List Json) :
        keysetValues cursor columns = .ok values ↔ members.BindsExactly columns values :=
      keysetValues_eq_ok_iff_bindsExactly hmembers
    refine ⟨?_, fun values h => ?_, fun hrefused => ?_⟩
    · rw [exists_congr hvalues, Json.Members.exists_bindsExactly_iff]
    · have hbinds := (hvalues values).1 h
      exact ⟨hbinds.length_eq, fun i hi => hbinds.getElem?_eq hi⟩
    · cases h : keysetValues cursor columns with
      | ok values => exact absurd ⟨values, h⟩ hrefused
      | error cause => exact ⟨cause, rfl, refuses_of_keysetValues hmembers h⟩
  · intro bindings permuted hnodup hperm
    have hback := keysetValues_perm_iff hnodup hperm (ofKeyset (.ofList bindings))
    refine ⟨hback, fun hintegers => hback.trans ?_⟩
    exact toKeyset_ofKeyset_ofList_iff (fun binding hmem => (hintegers binding hmem).1)
      fun binding hmem => (hintegers binding hmem).2

/-- A cursor with its keys in another order than the columns, a repeated column, and the bindings of
two columns in both orders. -/
theorem keysetValues_exact_twoColumns :
    toKeyset "eyJpZCI6NywgImRheSI6WyJ4Il19" =
        .ok [("day", .array [.string "x"]), ("id", .number (.ofCount 7))] ∧
      (∃ values, keysetValues "eyJpZCI6NywgImRheSI6WyJ4Il19" ["id", "day"] = .ok values) ∧
      (∃ cause, keysetValues "eyJpZCI6NywgImRheSI6WyJ4Il19" ["id", "id"] = .error cause ∧
        Refuses [("day", .array [.string "x"]), ("id", .number (.ofCount 7))] ["id", "id"] cause) ∧
      keysetValues
          (ofKeyset (.ofList [("id", .number (.ofCount 7)), ("day", .array [.string "x"])]))
          ["day", "id"] =
        .ok [.array [.string "x"], .number (.ofCount 7)] := by
  have hmembers : toKeyset "eyJpZCI6NywgImRheSI6WyJ4Il19" =
      .ok [("day", .array [.string "x"]), ("id", .number (.ofCount 7))] := by decide +kernel
  have hkeys : ∀ key, key ∈ ["id", "day"] ↔
      (Json.Members.get? [("day", .array [.string "x"]), ("id", .number (.ofCount 7))] key).isSome =
        true := by
    intro key
    rw [Json.Members.isSome_get?_iff]
    simp [or_comm]
  have hrefused : ¬ ∃ values,
      keysetValues "eyJpZCI6NywgImRheSI6WyJ4Il19" ["id", "id"] = .ok values := by
    rw [(keysetValues_exact.1 _ _ hmembers ["id", "id"]).1]
    simp
  exact ⟨hmembers, (keysetValues_exact.1 _ _ hmembers ["id", "day"]).1.2 ⟨by decide, hkeys⟩,
    (keysetValues_exact.1 _ _ hmembers ["id", "id"]).2.2 hrefused,
    ((keysetValues_exact.2 _ [("day", .array [.string "x"]), ("id", .number (.ofCount 7))]
      (by decide) (.swap _ _ _)).2 (by decide)).2 (by decide)⟩

/-- An array around an array, and so on: as many as are given around the innermost one. -/
def nestedArrays : Nat → Json
  | 0 => .array []
  | n + 1 => .array [nestedArrays n]

/-- Not every object is read back, even in the order in which its columns were bound: one that nests
128 deep is not. -/
theorem not_forall_keysetValues_perm :
    ¬ ∀ bindings permuted : Json.Members, (bindings.map (·.1)).Nodup → permuted.Perm bindings →
      (∀ binding ∈ bindings, binding.2.canonical = binding.2) →
        keysetValues (ofKeyset (.ofList bindings)) (permuted.map (·.1)) =
          .ok (permuted.map (·.2)) := by
  intro h
  have hcanonical : ∀ binding ∈ [("a", nestedArrays 126)], binding.2.canonical = binding.2 :=
    List.forall_mem_singleton.2 (by decide +kernel)
  have hread := h [("a", nestedArrays 126)] [("a", nestedArrays 126)] (by decide) (.refl _)
    hcanonical
  have hnests := (toKeyset_ofKeyset_ofList_iff hcanonical
    (List.forall_mem_singleton.2 (by decide +kernel))).1
      ((keysetValues_perm_iff (by decide) (.refl _) _).1 hread)
  exact absurd hnests (by decide +kernel)

/-- A real number may come back rounded. -/
example : keysetValues (ofKeyset [("a", .number (.real ⟨false, 1027, 4291162072083074⟩))]) ["a"] =
    .ok [.number (.real ⟨false, 1027, 4291162072083075⟩)] := by
  decide +kernel

end Cursor

end RelationPaging
