import RelationPaging.Json

/-!
# Compact JSON text

Values are written without any space, the members of an object in the order in which they are
held.  In a string the quote and the backslash are escaped, the control characters below U+0020
are escaped by a letter where JSON has one and by four hexadecimal digits elsewhere, and every
other character stands for itself.
-/

namespace RelationPaging.Json

/-- The lower-case hexadecimal digits of a number below `256`, two of them. -/
def twoHexDigits (n : Nat) : List Char :=
  [Nat.digitChar (n / 16), Nat.digitChar (n % 16)]

/-- The form of a character inside a string. -/
def escaped (c : Char) : List Char :=
  match c with
  | '"' => ['\\', '"']
  | '\\' => ['\\', '\\']
  | '\x08' => ['\\', 'b']
  | '\x0c' => ['\\', 'f']
  | '\n' => ['\\', 'n']
  | '\r' => ['\\', 'r']
  | '\t' => ['\\', 't']
  | c => if c.toNat < 0x20 then ['\\', 'u', '0', '0'] ++ twoHexDigits c.toNat else [c]

/-- A string between quotes. -/
def stringChars (s : String) : List Char :=
  '"' :: s.toList.flatMap escaped ++ ['"']

mutual

/-- The characters of a value. -/
def chars : Json → List Char
  | null => ['n', 'u', 'l', 'l']
  | bool true => ['t', 'r', 'u', 'e']
  | bool false => ['f', 'a', 'l', 's', 'e']
  | number n => n.chars
  | string s => stringChars s
  | array [] => ['[', ']']
  | array (item :: items) => '[' :: item.chars ++ itemChars items
  | object [] => ['\x7b', '\x7d']
  | object ((key, value) :: members) =>
    '\x7b' :: stringChars key ++ ':' :: value.chars ++ memberChars members
termination_by structural value => value

/-- The items after the first one, and the end of the array. -/
def itemChars : List Json → List Char
  | [] => [']']
  | item :: items => ',' :: item.chars ++ itemChars items
termination_by structural items => items

/-- The members after the first one, and the end of the object. -/
def memberChars : Members → List Char
  | [] => ['\x7d']
  | (key, value) :: members =>
    ',' :: stringChars key ++ ':' :: value.chars ++ memberChars members
termination_by structural members => members

end

/-- The compact text of a value. -/
def text (j : Json) : String :=
  String.ofList j.chars

end RelationPaging.Json
