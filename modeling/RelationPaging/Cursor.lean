import RelationPaging.Base64
import RelationPaging.Json.Reader
import RelationPaging.Json.Writer

/-!
# Page cursors

A cursor is an opaque text that a client hands back to continue from a row.  It is the base64
form of a text in UTF-8, of which there are two kinds.

* A *keyset cursor* holds a JSON object that binds each column of a sort key to the value it
  has in the row.
* An *offset cursor* holds the words `arrayconnection:` and the position of the row, counted
  from zero.

`keysetValues` reads a keyset cursor against a sort key: the object has to bind exactly the
columns of the key, and the values come back in the order of the key.
-/

namespace RelationPaging

/-- Why a cursor was refused. -/
inductive CursorError where
  | notBase64 (cursor : String) (cause : Base64.DecodeError)
  | notUtf8 (cursor : String)
  | notJson
  | notObject (found : Json)
  | keyCount (keys columns : Nat)
  | missingColumn (column : String)
  | notScalar (value : Json)
  | notOffset (decoded : String)
  deriving DecidableEq, Repr

/-- The wording of a refusal.  The details of a syntax error are not passed on. -/
def CursorError.message : CursorError → String
  | notBase64 cursor cause => "\x60" ++ cursor ++ "\x60 is not base64: " ++ cause.message
  | notUtf8 cursor => "\x60" ++ cursor ++ "\x60 is not UTF-8"
  | notJson => "<json syntax>"
  | notObject found => "expected an object, found " ++ found.text
  | keyCount keys columns =>
    "cursor has " ++ toString keys ++ " keys but the sort key has " ++ toString columns
      ++ " columns"
  | missingColumn column => "cursor does not contain sort key \x60" ++ column ++ "\x60"
  | notScalar value => "cursor value " ++ value.text ++ " is not a scalar"
  | notOffset decoded => "\x60" ++ decoded ++ "\x60 is not an offset cursor"

namespace Cursor

/-! ## The outer form -/

/-- The cursor that holds a text. -/
def ofText (text : String) : String :=
  String.ofList ((Base64.encode text.toByteArray.data.toList).map fun byte => Char.ofNat byte.toNat)

/-- The text that a cursor holds. -/
def toText (cursor : String) : Except CursorError String :=
  match Base64.decode cursor.toByteArray.data.toList with
  | .error cause => .error (.notBase64 cursor cause)
  | .ok bytes =>
    match String.fromUTF8? ⟨bytes.toArray⟩ with
    | some text => .ok text
    | none => .error (.notUtf8 cursor)

/-! ## Keyset cursors -/

/-- The cursor of a row whose sort key columns have the given values. -/
def ofKeyset (values : Json.Members) : String :=
  ofText (Json.object values).text

/-- The values, by column, that a keyset cursor holds. -/
def toKeyset (cursor : String) : Except CursorError Json.Members := do
  let text ← toText cursor
  match Json.read? text with
  | none => .error .notJson
  | some (.object values) => .ok values
  | some other => .error (.notObject other)

/-- The values of the given columns, in the order of the columns.  Each column takes its value
out of the object, so a column that is listed twice finds none the second time. -/
def takeColumns (values : Json.Members) : List String → Except CursorError (List Json)
  | [] => .ok []
  | column :: columns =>
    match values.get? column with
    | none => .error (.missingColumn column)
    | some value => (takeColumns (values.erase column) columns).map (value :: ·)

/-- The values that a keyset cursor holds for the columns of a sort key, in their order. -/
def keysetValues (cursor : String) (columns : List String) : Except CursorError (List Json) := do
  let values ← toKeyset cursor
  if values.length ≠ columns.length then .error (.keyCount values.length columns.length)
  else takeColumns values columns

/-! ## Offset cursors -/

/-- The words in front of the position in an offset cursor. -/
def offsetMark : String := "arrayconnection:"

/-- The cursor of the row at a position. -/
def ofOffset (offset : UInt64) : String :=
  ofText (offsetMark ++ Text.showCount offset)

/-- The position that an offset cursor points at. -/
def toOffset (cursor : String) : Except CursorError UInt64 := do
  let text ← toText cursor
  match (offsetMark.toList.isPrefixOf? text.toList).bind Text.readCount? with
  | some offset => .ok offset
  | none => .error (.notOffset text)

end Cursor

end RelationPaging
