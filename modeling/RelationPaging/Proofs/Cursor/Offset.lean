import RelationPaging.Proofs.Base64.Canonical
import RelationPaging.Proofs.Cursor

/-!
# Which texts are offset cursors

`Holds` says that a text is the base64 form of another one, bit by bit, and `IsOffset` that it is
one of the mark of an offset cursor and of a number behind it.  A text is read as the cursor of a
position if and only if it is one of that position (`offset_read_iff`); each position has several
spellings as a number, but each of these has one cursor.

Offset cursors and keyset cursors do not meet.  The text in a keyset cursor starts with a brace, the
one in an offset cursor with a letter with which no JSON value starts.
-/

namespace RelationPaging.Cursor

/-! ## The outer form -/

/-- A cursor is the base64 form of a text in UTF-8. -/
def Holds (cursor text : String) : Prop :=
  Base64.IsEncoding text.toByteArray.data.toList cursor.toList

/-- A text is held by one cursor, the one that is written. -/
theorem holds_iff {cursor text : String} : Holds cursor text ↔ cursor = ofText text := by
  have hencoding : Holds (ofText text) text := by
    rw [Holds, ofText, String.toList_ofList]
    exact Base64.isEncoding_encode _
  constructor
  · intro h
    exact String.toList_inj.1 (h.unique hencoding)
  · rintro rfl
    exact hencoding

theorem toByteArray_of_fromUTF8? {bytes : ByteArray} {text : String}
    (h : String.fromUTF8? bytes = some text) : text.toByteArray = bytes := by
  unfold String.fromUTF8? at h
  split at h
  · cases h
    rfl
  · cases h

/-- A cursor is read as a text if it is the one that is written for it. -/
theorem toText_eq_ok_iff {cursor text : String} :
    toText cursor = .ok text ↔ cursor = ofText text := by
  constructor
  · intro h
    unfold toText at h
    split at h
    · cases h
    · next bytes hdecode =>
      split at h
      · next text' htext =>
        cases h
        have hbytes : text.toByteArray.data.toList = bytes := by
          rw [toByteArray_of_fromUTF8? htext]
        have hcursor := Base64.decode_eq_ok_iff.1 hdecode
        rw [← hbytes, ← toByteArray_ofList_map Base64.lt_of_mem_encode] at hcursor
        exact String.toByteArray_inj.1 (ByteArray.ext (Array.toList_inj.1 hcursor))
      · cases h
  · rintro rfl
    exact toText_ofText text

/-! ## Offset cursors -/

/-- A text is a cursor of a position: the base64 form of the mark, at most one plus sign, and digits
that have the position as their value. -/
def IsOffset (cursor : String) (position : Nat) : Prop :=
  ∃ sign digits, (sign = [] ∨ sign = ['+']) ∧ digits ≠ [] ∧ (∀ c ∈ digits, c.isDigit = true) ∧
    Nat.ofDigitChars 10 digits 0 = position ∧
    Holds cursor ("arrayconnection:" ++ String.ofList (sign ++ digits))

/-- What stands behind the mark is read as a count. -/
theorem toOffset_ofText_eq_ok_iff {text : String} {position : UInt64} :
    toOffset (ofText text) = .ok position ↔
      ∃ rest, text = offsetMark ++ String.ofList rest ∧ Text.readCount? rest = some position := by
  have hposition : toOffset (ofText text) = .ok position ↔
      (offsetMark.toList.isPrefixOf? text.toList).bind Text.readCount? = some position := by
    rw [toOffset, Except.bind_eq_ok_iff]
    constructor
    · rintro ⟨_, htext, h⟩
      rw [toText_ofText] at htext
      cases htext
      split at h
      · next hread =>
        cases h
        exact hread
      · cases h
    · intro h
      exact ⟨text, toText_ofText text, by rw [h]⟩
  have hmark : ∀ rest, offsetMark.toList ++ rest = text.toList ↔
      text = offsetMark ++ String.ofList rest := by
    intro rest
    rw [← String.toList_inj, String.toList_append, String.toList_ofList, eq_comm]
  simp only [hposition, Option.bind_eq_some_iff, List.isPrefixOf?_eq_some_iff_append_eq, hmark]

/-- The cursors that are read as a position are its cursors. -/
theorem toOffset_eq_ok_iff {cursor : String} {position : UInt64} :
    toOffset cursor = .ok position ↔ IsOffset cursor position.toNat := by
  constructor
  · intro h
    obtain ⟨text, htext, -⟩ := Except.bind_eq_ok_iff.1 h
    obtain rfl := toText_eq_ok_iff.1 htext
    obtain ⟨rest, rfl, hrest⟩ := toOffset_ofText_eq_ok_iff.1 h
    obtain ⟨sign, digits, hsign, hne, hdigits, hvalue, rfl⟩ := Text.readCount?_eq_some_iff.1 hrest
    exact ⟨sign, digits, hsign, hne, hdigits, hvalue, holds_iff.2 rfl⟩
  · rintro ⟨sign, digits, hsign, hne, hdigits, hvalue, hholds⟩
    rw [holds_iff.1 hholds]
    refine toOffset_ofText_eq_ok_iff.2 ⟨sign ++ digits, rfl, ?_⟩
    exact Text.readCount?_eq_some_iff.2 ⟨sign, digits, hsign, hne, hdigits, hvalue, rfl⟩

/-! ## Offset cursors and keyset cursors -/

/-- An object starts with a brace. -/
theorem exists_text_object (values : Json.Members) :
    ∃ rest, (Json.object values).text.toList = '\x7b' :: rest := by
  rw [Json.text, String.toList_ofList]
  cases values with
  | nil => exact ⟨_, rfl⟩
  | cons member values => exact ⟨_, rfl⟩

/-- A keyset cursor is no offset cursor. -/
theorem exists_toOffset_ofKeyset (values : Json.Members) :
    ∃ cause, toOffset (ofKeyset values) = .error cause := by
  cases h : toOffset (ofKeyset values) with
  | error cause => exact ⟨cause, rfl⟩
  | ok position =>
    obtain ⟨rest, htext, -⟩ := toOffset_ofText_eq_ok_iff.1 h
    obtain ⟨rest', hbrace⟩ := exists_text_object values
    rw [htext, String.toList_append] at hbrace
    cases hbrace

/-- No JSON value starts with the mark of an offset cursor. -/
theorem read?_offsetMark (rest : String) : Json.read? (offsetMark ++ rest) = none := by
  obtain ⟨cs, hchars⟩ : ∃ cs, (offsetMark ++ rest).toList = 'a' :: cs :=
    ⟨"rrayconnection:".toList ++ rest.toList, by rw [String.toList_append]; rfl⟩
  have hnumber : Json.readNumber? ('a' :: cs) = none := by
    simp [Json.readNumber?, Json.spanDigits, Json.isWholePart]
  have hvalue : ∀ fuel depth, Json.readValue? (fuel + 1) depth ('a' :: cs) = none := by
    intro fuel depth
    simp [Json.readValue?, Json.skipSpace, Json.isSpace, hnumber]
  rw [Json.read?, Json.readDocument?, hchars, hvalue]
  rfl

/-- An offset cursor is no keyset cursor. -/
theorem toKeyset_ofOffset (position : UInt64) : toKeyset (ofOffset position) = .error .notJson := by
  rw [toKeyset, ofOffset, toText_ofText]
  have hread := read?_offsetMark (Text.showCount position)
  simp only [hread, bind, Except.bind]

/-- **Offset cursors are read exactly.**  A text is read as a position if and only if it is a cursor
of this position, and is refused if it is a cursor of no position of 64 bits.  So the cursor that is
written for a position is read as it, and no cursor of one kind is read as one of the other. -/
theorem offset_read_iff :
    (∀ cursor (position : UInt64),
      toOffset cursor = .ok position ↔ IsOffset cursor position.toNat) ∧
    (∀ cursor, (∃ cause, toOffset cursor = .error cause) ↔
      ∀ position < 2 ^ 64, ¬ IsOffset cursor position) ∧
    (∀ position, toOffset (ofOffset position) = .ok position) ∧
    (∀ values, ∃ cause, toOffset (ofKeyset values) = .error cause) ∧
    (∀ position, ∃ cause, toKeyset (ofOffset position) = .error cause) := by
  refine ⟨fun _ _ => toOffset_eq_ok_iff, fun cursor => ?_, toOffset_ofOffset,
    exists_toOffset_ofKeyset, fun position => ⟨_, toKeyset_ofOffset position⟩⟩
  constructor
  · rintro ⟨cause, hcause⟩ position hposition hoffset
    have hread : toOffset cursor = .ok (UInt64.ofNat position) := by
      rw [toOffset_eq_ok_iff, UInt64.toNat_ofNat_of_lt' hposition]
      exact hoffset
    rw [hcause] at hread
    cases hread
  · intro hnone
    cases h : toOffset cursor with
    | error cause => exact ⟨cause, rfl⟩
    | ok position => exact absurd (toOffset_eq_ok_iff.1 h) (hnone _ position.toNat_lt)

end RelationPaging.Cursor
