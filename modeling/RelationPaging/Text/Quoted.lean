import RelationPaging.Text.Graphic

/-!
# Quoted text in messages

A text inside a message stands between double quotes.  The quote, the backslash, the tabulator,
the line ends and NUL are written with a backslash; every other character that is not graphic
is written as `\u` and its code point in braces, in lower-case hexadecimal without padding; all
else stands for itself, the apostrophe included.
-/

namespace RelationPaging.Text

/-- The quoted form of one character. -/
def quotedChar (c : Char) : List Char :=
  match c with
  | '\x00' => ['\\', '0']
  | '\t' => ['\\', 't']
  | '\r' => ['\\', 'r']
  | '\n' => ['\\', 'n']
  | '"' => ['\\', '"']
  | '\\' => ['\\', '\\']
  | c =>
    if isGraphic c then [c]
    else ['\\', 'u', '\x7b'] ++ Nat.toDigits 16 c.toNat ++ ['\x7d']

/-- The quoted form of a text. -/
def quoted (s : String) : String :=
  String.ofList (['"'] ++ s.toList.flatMap quotedChar ++ ['"'])

end RelationPaging.Text
