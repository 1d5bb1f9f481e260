import RelationPaging.Json
import RelationPaging.Binary64.Scaling

/-!
# Reading JSON text

A strict reader of RFC 8259.  White space is the space, the tabulator, the line feed and the
carriage return and nothing else; control characters may not stand in strings as they are; an
escaped surrogate must be one half of a pair; a number too large for the format *binary64* is
refused; and nothing but white space may follow the value.  Arrays and objects may nest up to
a limit, `nestingLimit` unless another one is given.

A number that is no integer of 64 bits is computed in the arithmetic of *binary64* from the
digits that fit a 64-bit word (`Binary64.Finite.ofWord?`).

The reader works on lists of characters and hands back what it has not consumed.  Its fuel is
the length of the text: every call consumes at least one character before the next one of the
same kind, so the fuel never runs out before the text does.
-/

namespace RelationPaging.Json

/-- How deep arrays and objects may nest, the outermost one counted. -/
def nestingLimit : Nat := 127

/-- White space between the parts of a JSON text. -/
def isSpace (c : Char) : Bool :=
  c == ' ' || c == '\t' || c == '\n' || c == '\r'

/-- The text without the white space at its start. -/
def skipSpace (cs : List Char) : List Char :=
  cs.dropWhile isSpace

/-! ## Strings -/

/-- The value of a hexadecimal digit in either letter case. -/
def hexDigit? (c : Char) : Option Nat :=
  if '0' ≤ c ∧ c ≤ '9' then some (c.toNat - 48)
  else if 'a' ≤ c ∧ c ≤ 'f' then some (c.toNat - 87)
  else if 'A' ≤ c ∧ c ≤ 'F' then some (c.toNat - 55)
  else none

/-- The value of four hexadecimal digits. -/
def fourHexDigits? (a b c d : Char) : Option Nat := do
  let a ← hexDigit? a
  let b ← hexDigit? b
  let c ← hexDigit? c
  let d ← hexDigit? d
  return ((a * 16 + b) * 16 + c) * 16 + d

/-- The character of an escape by one letter. -/
def letterEscape? : Char → Option Char
  | '"' => some '"'
  | '\\' => some '\\'
  | '/' => some '/'
  | 'b' => some '\x08'
  | 'f' => some '\x0c'
  | 'n' => some '\n'
  | 'r' => some '\r'
  | 't' => some '\t'
  | _ => none

/-- The character that a pair of surrogates stands for. -/
def surrogatePair? (high low : Nat) : Option Char :=
  if 0xD800 ≤ high ∧ high < 0xDC00 ∧ 0xDC00 ≤ low ∧ low < 0xE000 then
    some (Char.ofNat (0x10000 + (high - 0xD800) * 0x400 + (low - 0xDC00)))
  else none

/-- A code unit that is a character of its own: none of the surrogates. -/
def loneUnit? (unit : Nat) : Option Char :=
  if 0xD800 ≤ unit ∧ unit < 0xE000 then none else some (Char.ofNat unit)

/-- Reads the rest of a string after its opening quote: the characters it denotes, and what
follows the closing quote. -/
def readString? : List Char → Option (List Char × List Char)
  | [] => none
  | '"' :: rest => some ([], rest)
  | '\\' :: 'u' :: a :: b :: c :: d :: rest =>
    match fourHexDigits? a b c d with
    | none => none
    | some unit =>
      match loneUnit? unit with
      | some char => (readString? rest).map fun (chars, rest) => (char :: chars, rest)
      | none =>
        match rest with
        | '\\' :: 'u' :: e :: f :: g :: h :: rest =>
          match (fourHexDigits? e f g h).bind (surrogatePair? unit) with
          | none => none
          | some char => (readString? rest).map fun (chars, rest) => (char :: chars, rest)
        | _ => none
  | '\\' :: letter :: rest =>
    match letterEscape? letter with
    | none => none
    | some char => (readString? rest).map fun (chars, rest) => (char :: chars, rest)
  | char :: rest =>
    if char.toNat < 0x20 ∨ char = '\\' then none
    else (readString? rest).map fun (chars, rest) => (char :: chars, rest)

/-! ## Numbers -/

/-- Splits off the digits at the start of a text. -/
def spanDigits (cs : List Char) : List Char × List Char :=
  (cs.takeWhile Char.isDigit, cs.dropWhile Char.isDigit)

/-- Reads a fraction, if there is one: the digits after the point. -/
def readFraction? : List Char → Option (Option (List Char) × List Char)
  | '.' :: cs =>
    match spanDigits cs with
    | ([], _) => none
    | (digits, rest) => some (some digits, rest)
  | cs => some (none, cs)

/-- Reads the sign and the digits of an exponent. -/
def readSignedDigits? (cs : List Char) : Option (Int × List Char) :=
  let (negative, cs) := Binary64.takeSign cs
  match spanDigits cs with
  | ([], _) => none
  | (digits, rest) =>
    let n := Text.decimalValue digits
    some (if negative then -(n : Int) else n, rest)

/-- Reads an exponent, if there is one. -/
def readExponent? : List Char → Option (Option Int × List Char)
  | [] => some (none, [])
  | c :: cs =>
    if c = 'e' ∨ c = 'E' then
      (readSignedDigits? cs).map fun (exponent, rest) => (some exponent, rest)
    else some (none, c :: cs)

/-- Appends digits to a word as long as it stays below `2 ^ 64`: the word, and the digits that
are left. -/
def fillWord (word : Nat) : List Char → Nat × List Char
  | [] => (word, [])
  | digit :: digits =>
    let longer := 10 * word + (digit.toNat - 48)
    if longer < UInt64.size then fillWord longer digits else (word, digit :: digits)

/-- The number of the format *binary64* for digits before and after the point and an exponent,
unless it is too large.  Digits before the point that do not fit the word count by their number;
the ones after the point that do not fit are left out. -/
def real? (negative : Bool) (whole places : List Char) (exponent : Int) : Option Number :=
  let (word, uncounted) := fillWord 0 whole
  let (word, omitted) := fillWord word places
  let counted := places.length - omitted.length
  (Binary64.Finite.ofWord? negative word (exponent + uncounted.length - counted)).map .real

/-- The number that an integer denotes.  Minus zero is a real number, as is an integer that
fits no word. -/
def integer? (negative : Bool) (digits : List Char) : Option Number :=
  let magnitude := Text.decimalValue digits
  if negative && magnitude = 0 then real? negative digits [] 0
  else
    match Number.ofInt? (if negative then -(magnitude : Int) else magnitude) with
    | some n => some n
    | none => real? negative digits [] 0

/-- Whether digits may stand in front of the point: at least one, and no zero before others. -/
def isWholePart : List Char → Bool
  | [] => false
  | ['0'] => true
  | first :: _ => first != '0'

/-- Reads a number. -/
def readNumber? (cs : List Char) : Option (Number × List Char) :=
  let (negative, cs) :=
    match cs with
    | '-' :: cs => (true, cs)
    | cs => (false, cs)
  let (whole, cs) := spanDigits cs
  if isWholePart whole then
    match readFraction? cs with
    | none => none
    | some (fraction, cs) =>
      match readExponent? cs with
      | none => none
      | some (exponent, rest) =>
        let read :=
          match fraction, exponent with
          | none, none => integer? negative whole
          | fraction, exponent => real? negative whole (fraction.getD []) (exponent.getD 0)
        read.map fun n => (n, rest)
  else none

/-! ## Values -/

mutual

/-- Reads a value.  `depth` is how many more arrays and objects may nest. -/
def readValue? (fuel depth : Nat) (cs : List Char) : Option (Json × List Char) :=
  match fuel with
  | 0 => none
  | fuel + 1 =>
    match skipSpace cs with
    | 'n' :: 'u' :: 'l' :: 'l' :: rest => some (null, rest)
    | 't' :: 'r' :: 'u' :: 'e' :: rest => some (bool true, rest)
    | 'f' :: 'a' :: 'l' :: 's' :: 'e' :: rest => some (bool false, rest)
    | '"' :: rest =>
      (readString? rest).map fun (chars, rest) => (string (String.ofList chars), rest)
    | '[' :: rest =>
      match depth with
      | 0 => none
      | depth + 1 =>
        match skipSpace rest with
        | ']' :: rest => some (array [], rest)
        | rest => (readItems? fuel depth rest).map fun (items, rest) => (array items, rest)
    | '\x7b' :: rest =>
      match depth with
      | 0 => none
      | depth + 1 =>
        match skipSpace rest with
        | '\x7d' :: rest => some (object [], rest)
        | rest =>
          (readMembers? fuel depth rest).map fun (members, rest) => (object members, rest)
    | cs => (readNumber? cs).map fun (n, rest) => (number n, rest)
termination_by structural fuel

/-- Reads one or more items and the end of the array. -/
def readItems? (fuel depth : Nat) (cs : List Char) : Option (List Json × List Char) :=
  match fuel with
  | 0 => none
  | fuel + 1 =>
    match readValue? fuel depth cs with
    | none => none
    | some (item, rest) =>
      match skipSpace rest with
      | ',' :: rest =>
        (readItems? fuel depth rest).map fun (items, rest) => (item :: items, rest)
      | ']' :: rest => some ([item], rest)
      | _ => none
termination_by structural fuel

/-- Reads one or more members and the end of the object. -/
def readMembers? (fuel depth : Nat) (cs : List Char) : Option (Members × List Char) :=
  match fuel with
  | 0 => none
  | fuel + 1 =>
    match skipSpace cs with
    | '"' :: rest =>
      match readString? rest with
      | none => none
      | some (key, rest) =>
        match skipSpace rest with
        | ':' :: rest =>
          match readValue? fuel depth rest with
          | none => none
          | some (value, rest) =>
            let member := (String.ofList key, value)
            match skipSpace rest with
            | ',' :: rest =>
              (readMembers? fuel depth rest).map fun (members, rest) =>
                (member :: members, rest)
            | '\x7d' :: rest => some ([member], rest)
            | _ => none
        | _ => none
    | _ => none
termination_by structural fuel

end

/-- Reads a whole text as it stands: repeated keys are kept, in the order of the text. -/
def readDocument? (text : String) (limit : Nat) : Option Json :=
  let cs := text.toList
  match readValue? (2 * cs.length + 2) limit cs with
  | some (value, rest) => if (skipSpace rest).isEmpty then some value else none
  | none => none

/-- Reads a whole text into canonical form. -/
def read? (text : String) : Option Json :=
  (readDocument? text nestingLimit).map canonical

end RelationPaging.Json
