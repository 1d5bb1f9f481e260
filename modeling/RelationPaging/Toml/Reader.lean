import RelationPaging.Json.Reader
import RelationPaging.Text.Decimal
import RelationPaging.Toml

/-!
# Reading TOML

A document is a list of lines, each of which is blank, makes an entry, or names a table; any of
them may end in a comment.  Keys are bare or quoted, and dotted.  Texts are basic or literal,
on one line or on several.  Between the parts of an inline table, the key, the equals sign and
the value of an entry among them, lines may end and comments may stand, and a comma may follow
the last entry; an entry on a line of its own has all of its parts there.  A byte order mark at
the start is passed over.

Control characters apart from the tabulator are refused in texts and comments, and a carriage
return counts only in front of a line feed.  Whatever is no part of this language is refused,
and with it all of TOML for which there is no value.

Functions with a parameter `fuel` use up at least one character for each unit of it, so the
length of the text suffices.
-/

namespace RelationPaging.Toml

/-! ## Blanks, comments and line ends -/

/-- A blank inside a line. -/
def isBlankChar (c : Char) : Bool :=
  c == ' ' || c == '\t'

/-- The text without the blanks at its start. -/
def skipBlanks (cs : List Char) : List Char :=
  cs.dropWhile isBlankChar

/-- A character that may stand in texts and comments. -/
def isPlain (c : Char) : Bool :=
  c == '\t' || (0x20 ≤ c.toNat && c.toNat != 0x7F)

/-- The text without the comment at its start, if there is one. -/
def skipComment : List Char → List Char
  | '#' :: cs => cs.dropWhile isPlain
  | cs => cs

/-- The text after a line end, if it starts with one. -/
def takeNewline? : List Char → Option (List Char)
  | '\n' :: cs => some cs
  | '\r' :: '\n' :: cs => some cs
  | _ => none

/-- The text after what may follow an entry: blanks, a comment, and the end of the line. -/
def endLine? (cs : List Char) : Option (List Char) :=
  match skipComment (skipBlanks cs) with
  | [] => some []
  | cs => takeNewline? cs

/-- The text without blanks, comments and line ends at its start. -/
def skipLines (fuel : Nat) (cs : List Char) : List Char :=
  match fuel with
  | 0 => cs
  | fuel + 1 =>
    let cs := skipComment (skipBlanks cs)
    match takeNewline? cs with
    | some rest => skipLines fuel rest
    | none => cs

/-- The text without all that may separate the parts of an array or an inline table. -/
def skipGap (cs : List Char) : List Char :=
  skipLines cs.length cs

/-- The text without blanks and line ends at its start. -/
def skipBlankLines (fuel : Nat) (cs : List Char) : List Char :=
  match fuel with
  | 0 => skipBlanks cs
  | fuel + 1 =>
    match takeNewline? (skipBlanks cs) with
    | some rest => skipBlankLines fuel rest
    | none => skipBlanks cs

/-! ## Texts -/

/-- The value of a list of hexadecimal digits, which are those of JSON. -/
def hexValue? (digits : List Char) : Option Nat :=
  digits.foldlM (fun value c => (Json.hexDigit? c).map (16 * value + ·)) 0

/-- Reads a code point in a given number of hexadecimal digits.  Surrogates and numbers beyond
the last code point are no characters. -/
def readCodePoint? (count : Nat) (cs : List Char) : Option (Char × List Char) :=
  if cs.length < count then none
  else
    (hexValue? (cs.take count)).bind fun n =>
      if n.isValidChar then some (Char.ofNat n, cs.drop count) else none

/-- Reads an escape after its backslash. -/
def readEscape? : List Char → Option (Char × List Char)
  | 'b' :: cs => some ('\x08', cs)
  | 't' :: cs => some ('\t', cs)
  | 'n' :: cs => some ('\n', cs)
  | 'f' :: cs => some ('\x0c', cs)
  | 'r' :: cs => some ('\r', cs)
  | 'e' :: cs => some ('\x1b', cs)
  | '"' :: cs => some ('"', cs)
  | '\\' :: cs => some ('\\', cs)
  | 'x' :: cs => readCodePoint? 2 cs
  | 'u' :: cs => readCodePoint? 4 cs
  | 'U' :: cs => readCodePoint? 8 cs
  | _ => none

/-- The text read so far with a character in front. -/
def consText (c : Char) : Option (List Char × List Char) → Option (List Char × List Char)
  | some (text, rest) => some (c :: text, rest)
  | none => none

/-- Reads a basic text on one line, after its opening quote. -/
def readBasic? (fuel : Nat) (cs : List Char) : Option (List Char × List Char) :=
  match fuel with
  | 0 => none
  | fuel + 1 =>
    match cs with
    | '"' :: rest => some ([], rest)
    | '\\' :: rest =>
      match readEscape? rest with
      | some (c, rest) => consText c (readBasic? fuel rest)
      | none => none
    | c :: rest => if isPlain c then consText c (readBasic? fuel rest) else none
    | [] => none

/-- Reads a literal text on one line, after its opening quote. -/
def readLiteral? (cs : List Char) : Option (List Char × List Char) :=
  let text := cs.takeWhile fun c => isPlain c && c != '\''
  match cs.drop text.length with
  | '\'' :: rest => some (text, rest)
  | _ => none

/-- The text after a backslash at the end of a line and all blanks and line ends that follow. -/
def joinLines? (cs : List Char) : Option (List Char) :=
  (takeNewline? (skipBlanks cs)).map fun rest => skipBlankLines rest.length rest

/-- Reads the rest of a text on several lines that ends in three of the given quotes.  Up to two
more of them in front of the end belong to the text.  Only in a basic text does a backslash
begin an escape. -/
def readMultiLine? (quote : Char) (basic : Bool) (fuel : Nat) (cs : List Char) :
    Option (List Char × List Char) :=
  match fuel with
  | 0 => none
  | fuel + 1 =>
    let quotes := (cs.take 5).takeWhile (· == quote)
    if 3 ≤ quotes.length then some (quotes.drop 3, cs.drop quotes.length)
    else
      match takeNewline? cs with
      | some rest => consText '\n' (readMultiLine? quote basic fuel rest)
      | none =>
        match cs with
        | [] => none
        | c :: rest =>
          if basic && c == '\\' then
            match joinLines? rest with
            | some rest => readMultiLine? quote basic fuel rest
            | none =>
              match readEscape? rest with
              | some (c, rest) => consText c (readMultiLine? quote basic fuel rest)
              | none => none
          else if isPlain c then consText c (readMultiLine? quote basic fuel rest)
          else none

/-- The text without a line end at its start. -/
def skipNewline (cs : List Char) : List Char :=
  (takeNewline? cs).getD cs

/-- Reads a text of any kind. -/
def readText? : List Char → Option (List Char × List Char)
  | '"' :: '"' :: '"' :: cs => readMultiLine? '"' true (cs.length + 1) (skipNewline cs)
  | '\'' :: '\'' :: '\'' :: cs => readMultiLine? '\'' false (cs.length + 1) (skipNewline cs)
  | '"' :: cs => readBasic? (cs.length + 1) cs
  | '\'' :: cs => readLiteral? cs
  | _ => none

/-! ## Keys -/

/-- A character of a bare key. -/
def isBareKeyChar (c : Char) : Bool :=
  c.isAlphanum || c == '_' || c == '-'

/-- Reads one key: a text on one line, or a bare key. -/
def readKey? : List Char → Option (String × List Char)
  | '"' :: cs => (readBasic? (cs.length + 1) cs).map fun (key, rest) => (String.ofList key, rest)
  | '\'' :: cs => (readLiteral? cs).map fun (key, rest) => (String.ofList key, rest)
  | cs =>
    match cs.takeWhile isBareKeyChar with
    | [] => none
    | key => some (String.ofList key, cs.drop key.length)

/-- Reads keys with dots between them, blanks allowed around each. -/
def readPath? (fuel : Nat) (cs : List Char) : Option (Path × List Char) :=
  match fuel with
  | 0 => none
  | fuel + 1 =>
    match readKey? (skipBlanks cs) with
    | none => none
    | some (key, rest) =>
      match skipBlanks rest with
      | '.' :: rest =>
        (readPath? fuel rest).map fun (path, rest) =>
          ({ path with parents := key :: path.parents }, rest)
      | rest => some (⟨[], key⟩, rest)

/-- Reads a path and the equals sign after it.  What may stand on either side of the sign is
passed over by `skip`. -/
def readAssignment? (skip : List Char → List Char) (cs : List Char) :
    Option (Path × List Char) :=
  match readPath? (cs.length + 1) cs with
  | some (path, rest) =>
    match skip rest with
    | '=' :: rest => some (path, skip rest)
    | _ => none
  | none => none

/-! ## Values -/

mutual

/-- Reads a value. -/
def readValue? (fuel : Nat) (cs : List Char) : Option (Value × List Char) :=
  match fuel with
  | 0 => none
  | fuel + 1 =>
    match cs with
    | '[' :: rest =>
      match skipGap rest with
      | ']' :: rest => some (.emptyArray, rest)
      | _ => none
    | '\x7b' :: rest =>
      (readInline? fuel [] (skipGap rest)).map fun (entries, rest) =>
        (.table .inlined entries, rest)
    | cs => (readText? cs).map fun (text, rest) => (.text (String.ofList text), rest)
termination_by structural fuel

/-- Reads the rest of an inline table, to which `entries` have been read. -/
def readInline? (fuel : Nat) (entries : Entries) (cs : List Char) :
    Option (Entries × List Char) :=
  match fuel with
  | 0 => none
  | fuel + 1 =>
    match cs with
    | '\x7d' :: rest => some (entries, rest)
    | cs =>
      match readAssignment? skipGap cs with
      | none => none
      | some (path, rest) =>
        match readValue? fuel rest with
        | none => none
        | some (value, rest) =>
          match entries.assign? path.last value path.parents with
          | none => none
          | some entries =>
            match skipGap rest with
            | ',' :: rest => readInline? fuel entries (skipGap rest)
            | '\x7d' :: rest => some (entries, rest)
            | _ => none
termination_by structural fuel

end

/-! ## Documents -/

/-- Reads a header after its opening bracket. -/
def readHeader? (cs : List Char) : Option (Path × List Char) :=
  match readPath? (cs.length + 1) cs with
  | some (path, ']' :: rest) => some (path, rest)
  | _ => none

/-- Reads the lines of a document into `entries`, where `header` names the current table. -/
def readLines? (fuel : Nat) (entries : Entries) (header : Option Path) (cs : List Char) :
    Option Entries :=
  match fuel with
  | 0 => none
  | fuel + 1 =>
    match skipGap cs with
    | [] => some entries
    | '[' :: rest =>
      match readHeader? rest with
      | none => none
      | some (path, rest) =>
        match entries.openTable? path, endLine? rest with
        | some entries, some rest => readLines? fuel entries (some path) rest
        | _, _ => none
    | cs =>
      match readAssignment? skipBlanks cs with
      | none => none
      | some (path, rest) =>
        match readValue? (rest.length + 1) rest with
        | none => none
        | some (value, rest) =>
          match entries.assignIn? header path value, endLine? rest with
          | some entries, some rest => readLines? fuel entries header rest
          | _, _ => none

/-- Reads a document. -/
def read? (text : String) : Option Entries :=
  let cs :=
    match text.toList with
    | '\uFEFF' :: cs => cs
    | cs => cs
  readLines? (cs.length + 1) [] none cs

end RelationPaging.Toml
