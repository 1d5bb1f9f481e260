import RelationPaging.Proofs.Base64
import RelationPaging.Proofs.Json.RoundTrip
import RelationPaging.Proofs.Outcome

/-!
# Cursors read back

A cursor gives back the text that was put into it, since base64 does and the encoding of a text in
UTF-8 is valid.  So an offset cursor gives back its position (`toOffset_ofOffset`), and a keyset
cursor made from the values of a row gives back these values in the order of any list of its
columns (`keysetValues_ofKeyset`).
-/

namespace RelationPaging.Cursor

/-! ## The outer form -/

theorem utf8EncodeChar_ofNat {byte : UInt8} (h : byte.toNat < 128) :
    String.utf8EncodeChar (Char.ofNat byte.toNat) = [byte] := by
  have hvalid : byte.toNat.isValidChar := .inl (by omega)
  have hval : (Char.ofNat byte.toNat).val.toNat = byte.toNat := by
    rw [Char.ofNat, dif_pos hvalid]
    rfl
  rw [String.utf8EncodeChar, hval, if_pos (by omega), UInt8.ofNat_toNat]

/-- A text of ASCII characters is encoded byte by byte. -/
theorem toByteArray_ofList_map {bytes : List UInt8} (h : ∀ byte ∈ bytes, byte.toNat < 128) :
    (String.ofList (bytes.map fun byte => Char.ofNat byte.toNat)).toByteArray.data.toList =
      bytes := by
  have hencoded : (bytes.map fun byte => Char.ofNat byte.toNat).flatMap String.utf8EncodeChar =
      bytes := by
    induction bytes with
    | nil => rfl
    | cons byte bytes ih =>
      obtain ⟨hbyte, hbytes⟩ := List.forall_mem_cons.1 h
      rw [List.map_cons, List.flatMap_cons, utf8EncodeChar_ofNat hbyte, ih hbytes]
      rfl
  rw [String.toByteArray_ofList, List.utf8Encode, hencoded]
  simp

/-- A cursor gives back its text. -/
theorem toText_ofText (text : String) : toText (ofText text) = .ok text := by
  have hascii : ∀ byte ∈ Base64.encode text.toByteArray.data.toList, byte.toNat < 128 :=
    Base64.lt_of_mem_encode
  have htext : String.fromUTF8? text.toByteArray = some text := by
    rw [String.fromUTF8?, dif_pos text.isValidUTF8]
    rfl
  rw [toText, ofText, toByteArray_ofList_map hascii, Base64.decode_encode]
  simp only [Array.toArray_toList, htext]

/-! ## Offset cursors -/

/-- An offset cursor gives back its position. -/
theorem toOffset_ofOffset (offset : UInt64) : toOffset (ofOffset offset) = .ok offset := by
  have hposition : (offsetMark.toList.isPrefixOf? (offsetMark ++ Text.showCount offset).toList).bind
      Text.readCount? = some offset := by
    rw [String.toList_append, List.isPrefixOf?_eq_some_iff_append_eq.2 rfl, Option.bind_some,
      Text.readCount?_showCount]
  unfold toOffset ofOffset
  refine Except.bind_eq_ok_iff.2 ⟨_, toText_ofText _, ?_⟩
  rw [hposition]

/-! ## Keyset cursors -/

/-- Distinct columns take the values that they are bound to. -/
theorem takeColumns_eq {f : String → Json} {columns : List String} (hnodup : columns.Nodup)
    {members : Json.Members} (h : ∀ column ∈ columns, members.get? column = some (f column)) :
    takeColumns members columns = .ok (columns.map f) := by
  induction columns generalizing members with
  | nil => rfl
  | cons column columns ih =>
    obtain ⟨hfirst, hrest⟩ := List.nodup_cons.1 hnodup
    obtain ⟨hcolumn, hcolumns⟩ := List.forall_mem_cons.1 h
    have htake : takeColumns (members.erase column) columns = .ok (columns.map f) := by
      refine ih hrest fun other hother => ?_
      have hne : other ≠ column := by
        rintro rfl
        exact hfirst hother
      rw [Json.Members.get?_erase hne, hcolumns other hother]
    rw [takeColumns, hcolumn, htake]
    rfl

/-- A keyset cursor gives back its object, if the values in it are scalars without fraction. -/
theorem toKeyset_ofKeyset {members : Json.Members} (hsorted : members.Sorted)
    (h : ∀ member ∈ members, member.2.isWholeScalar = true) :
    toKeyset (ofKeyset members) = .ok members := by
  refine Except.bind_eq_ok_iff.2 ⟨_, toText_ofText _, ?_⟩
  rw [Json.read?_text_object hsorted h]

/-- A keyset cursor gives back the values of its columns. -/
theorem keysetValues_ofKeyset {f : String → Json} {columns : List String}
    (hnodup : columns.Nodup) (h : ∀ column ∈ columns, (f column).isWholeScalar = true) :
    keysetValues (ofKeyset (.ofList (columns.map fun column => (column, f column)))) columns =
      .ok (columns.map f) := by
  have hscalars : ∀ member ∈ Json.Members.ofList (columns.map fun column => (column, f column)),
      member.2.isWholeScalar = true := by
    intro member hmember
    obtain ⟨column, hcolumn, rfl⟩ := List.mem_map.1 (Json.Members.mem_of_mem_ofList hmember)
    exact h column hcolumn
  have hlength := Json.Members.length_ofList_map f hnodup
  refine Except.bind_eq_ok_iff.2
    ⟨_, toKeyset_ofKeyset (Json.Members.sorted_ofList _) hscalars, ?_⟩
  rw [if_neg (by rw [hlength]; exact fun hne => hne rfl)]
  exact takeColumns_eq hnodup fun column hcolumn =>
    Json.Members.get?_ofList_map f hnodup hcolumn

end RelationPaging.Cursor
