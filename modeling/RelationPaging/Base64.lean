/-!
# Base64

The standard alphabet with padding.  Encoding maps every three bytes to a *quad* of four
symbols; a rest of one or two bytes gives two or three symbols and is padded to a quad.
Decoding is strict: padding has to be there, it stands only at the end, and the bits that the
last symbol leaves over have to be zero, so that a byte sequence has one encoding.

A text that is not an encoding is refused for one reason, the first found in this order: a
stray last byte after full quads that is no symbol; the bytes of all quads but the last, from
left to right; the bytes of the last quad, from left to right; its number of symbols; its
padding; its left-over bits.
-/

namespace RelationPaging.Base64

/-- Why a byte sequence is no encoding.  Offsets count bytes. -/
inductive DecodeError where
  | invalidSymbol (byte : UInt8) (offset : Nat)
  | invalidLength (length : Nat)
  | invalidLastSymbol (byte : UInt8) (offset : Nat)
  | invalidPadding
  deriving DecidableEq, Repr

/-- The wording of a reason. -/
def DecodeError.message : DecodeError → String
  | invalidSymbol byte offset =>
    "Invalid symbol " ++ toString byte.toNat ++ ", offset " ++ toString offset ++ "."
  | invalidLength length => "Invalid input length: " ++ toString length
  | invalidLastSymbol byte offset =>
    "Invalid last symbol " ++ toString byte.toNat ++ ", offset " ++ toString offset ++ "."
  | invalidPadding => "Invalid padding"

/-! ## Symbols -/

/-- The byte that pads the last quad, an equals sign. -/
def pad : UInt8 := 61

/-- The symbol of a value below 64: the upper-case letters, the lower-case letters, the digits,
the plus sign and the slash. -/
def symbol (value : Nat) : UInt8 :=
  if value < 26 then UInt8.ofNat (65 + value)
  else if value < 52 then UInt8.ofNat (71 + value)
  else if value < 62 then UInt8.ofNat (value - 4)
  else if value = 62 then 43
  else 47

/-- The value of a symbol; bytes outside the alphabet have none. -/
def value? (byte : UInt8) : Option Nat :=
  let n := byte.toNat
  if 65 ≤ n ∧ n ≤ 90 then some (n - 65)
  else if 97 ≤ n ∧ n ≤ 122 then some (n - 71)
  else if 48 ≤ n ∧ n ≤ 57 then some (n + 4)
  else if n = 43 then some 62
  else if n = 47 then some 63
  else none

theorem value?_symbol : ∀ value < 64, value? (symbol value) = some value := by decide

theorem value?_pad : value? pad = none := by decide

/-! ## Encoding -/

/-- The encoding of a byte sequence. -/
def encode : List UInt8 → List UInt8
  | [] => []
  | [a] =>
    let n := a.toNat
    [symbol (n / 4), symbol (n % 4 * 16), pad, pad]
  | [a, b] =>
    let n := a.toNat * 256 + b.toNat
    [symbol (n / 1024), symbol (n / 16 % 64), symbol (n % 16 * 4), pad]
  | a :: b :: c :: rest =>
    let n := (a.toNat * 256 + b.toNat) * 256 + c.toNat
    symbol (n / 262144) :: symbol (n / 4096 % 64) :: symbol (n / 64 % 64) :: symbol (n % 64) ::
      encode rest

/-! ## Decoding -/

/-- The three bytes that four values carry. -/
def fullQuad (a b c d : Nat) : List UInt8 :=
  let n := ((a * 64 + b) * 64 + c) * 64 + d
  [UInt8.ofNat (n / 65536), UInt8.ofNat (n / 256), UInt8.ofNat n]

/-- The value of a byte that has to be a symbol. -/
def expectSymbol (offset : Nat) (byte : UInt8) : Except DecodeError Nat :=
  match value? byte with
  | some value => .ok value
  | none => .error (.invalidSymbol byte offset)

/-- The symbols of the last quad with their values, and the number of padding bytes. -/
structure Tail where
  symbols : List (UInt8 × Nat)
  padding : Nat

/-- Reads the last quad from index `index` on, where `start` is the offset of the quad and
`firstPad` the offset of the first padding byte before that index. -/
def readTail (start index : Nat) (firstPad : Option Nat) : List UInt8 → Except DecodeError Tail
  | [] => .ok ⟨[], 0⟩
  | byte :: rest =>
    if byte = pad then
      if index < 2 then .error (.invalidSymbol byte (start + index))
      else do
        let tail ← readTail start (index + 1) (some (firstPad.getD (start + index))) rest
        return { tail with padding := tail.padding + 1 }
    else
      match firstPad with
      | some offset => .error (.invalidSymbol pad offset)
      | none => do
        let value ← expectSymbol (start + index) byte
        let tail ← readTail start (index + 1) none rest
        return { tail with symbols := (byte, value) :: tail.symbols }

/-- The bytes that the last quad carries. -/
def tailBytes (start : Nat) (tail : Tail) : Except DecodeError (List UInt8) :=
  match tail.symbols with
  | [] => if tail.padding = 0 then .ok [] else .error (.invalidLength start)
  | [_] => .error (.invalidLength (start + 1))
  | symbols =>
    if (symbols.length + tail.padding) % 4 ≠ 0 then .error .invalidPadding
    else
      match symbols with
      | [(_, a), (last, b)] =>
        if b % 16 ≠ 0 then .error (.invalidLastSymbol last (start + 1))
        else .ok [UInt8.ofNat (a * 4 + b / 16)]
      | [(_, a), (_, b), (last, c)] =>
        if c % 4 ≠ 0 then .error (.invalidLastSymbol last (start + 2))
        else
          let n := (a * 64 + b) * 16 + c / 4
          .ok [UInt8.ofNat (n / 256), UInt8.ofNat n]
      | [(_, a), (_, b), (_, c), (_, d)] => .ok (fullQuad a b c d)
      | _ => .error .invalidPadding

/-- Decodes from offset `start` on: quads as long as more bytes follow, then the last quad. -/
def decodeFrom (start : Nat) : List UInt8 → Except DecodeError (List UInt8)
  | a :: b :: c :: d :: e :: rest => do
    let a ← expectSymbol start a
    let b ← expectSymbol (start + 1) b
    let c ← expectSymbol (start + 2) c
    let d ← expectSymbol (start + 3) d
    let bytes ← decodeFrom (start + 4) (e :: rest)
    return fullQuad a b c d ++ bytes
  | last => do
    let tail ← readTail start 0 none last
    tailBytes start tail

/-- Whether the last byte stands alone after full quads and is neither a symbol nor padding. -/
def strayLast? (bytes : List UInt8) : Option UInt8 :=
  if bytes.length % 4 = 1 then
    bytes.getLast?.filter fun byte => byte != pad && (value? byte).isNone
  else none

/-- Decodes a byte sequence. -/
def decode (bytes : List UInt8) : Except DecodeError (List UInt8) :=
  match strayLast? bytes with
  | some byte => .error (.invalidSymbol byte (bytes.length - 1))
  | none => decodeFrom 0 bytes

end RelationPaging.Base64
