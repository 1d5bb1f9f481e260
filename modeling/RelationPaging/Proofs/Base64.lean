import RelationPaging.Base64
import Mathlib.Data.List.Basic

/-!
# Base64 read back

Decoding an encoding gives back the bytes (`decode_encode`).  Reading follows the encoding quad by
quad: a full quad is decoded by itself whatever follows it, and what is left over at the end is a
last quad with one, two or no padding bytes.  Encodings are ASCII, so that an encoding as a text
has the encoding itself as its bytes.
-/

namespace RelationPaging.Base64

/-! ## Symbols -/

theorem symbol_ne_pad {value : Nat} (h : value < 64) : symbol value ≠ pad := by
  intro heq
  have hvalue := value?_symbol value h
  rw [heq, value?_pad] at hvalue
  cases hvalue

theorem expectSymbol_symbol (offset : Nat) {value : Nat} (h : value < 64) :
    expectSymbol offset (symbol value) = .ok value := by
  rw [expectSymbol, value?_symbol value h]

/-! ## The last quad -/

theorem readTail_symbol (start index : Nat) {value : Nat} (h : value < 64) {rest : List UInt8}
    {tail : Tail} (htail : readTail start (index + 1) none rest = .ok tail) :
    readTail start index none (symbol value :: rest) =
      .ok ⟨(symbol value, value) :: tail.symbols, tail.padding⟩ := by
  rw [readTail, if_neg (symbol_ne_pad h), expectSymbol_symbol _ h, htail]
  rfl

/-- Four bytes or fewer are a last quad. -/
theorem decodeFrom_tail (start : Nat) {last : List UInt8} {tail : Tail}
    (hlength : last.length ≤ 4) (h : readTail start 0 none last = .ok tail) :
    decodeFrom start last = tailBytes start tail := by
  rw [decodeFrom, h]
  · rfl
  · rintro a b c d e rest rfl
    simp only [List.length_cons] at hlength
    omega

theorem ofNat_eq {n : Nat} {byte : UInt8} (h : n % 256 = byte.toNat) : UInt8.ofNat n = byte := by
  apply UInt8.toNat_inj.1
  rw [UInt8.toNat_ofNat', h]

theorem decodeFrom_one (start : Nat) {a b : Nat} (ha : a < 64) (hb : b < 64) (hzero : b % 16 = 0) :
    decodeFrom start [symbol a, symbol b, pad, pad] = .ok [UInt8.ofNat (a * 4 + b / 16)] := by
  have hpads : readTail start 2 none [pad, pad] = .ok ⟨[], 2⟩ := rfl
  have htail := readTail_symbol start 0 ha (readTail_symbol start 1 hb hpads)
  rw [decodeFrom_tail start (by simp) htail]
  simp [tailBytes, hzero]

theorem decodeFrom_two (start : Nat) {a b c : Nat} (ha : a < 64) (hb : b < 64) (hc : c < 64)
    (hzero : c % 4 = 0) :
    decodeFrom start [symbol a, symbol b, symbol c, pad] =
      .ok [UInt8.ofNat (((a * 64 + b) * 16 + c / 4) / 256),
        UInt8.ofNat ((a * 64 + b) * 16 + c / 4)] := by
  have hpads : readTail start 3 none [pad] = .ok ⟨[], 1⟩ := rfl
  have htail := readTail_symbol start 0 ha (readTail_symbol start 1 hb
    (readTail_symbol start 2 hc hpads))
  rw [decodeFrom_tail start (by simp) htail]
  simp [tailBytes, hzero]

/-- A full quad is decoded by itself, whatever follows. -/
theorem decodeFrom_three (start : Nat) {a b c d : Nat} (ha : a < 64) (hb : b < 64) (hc : c < 64)
    (hd : d < 64) {rest bytes : List UInt8} (hrest : decodeFrom (start + 4) rest = .ok bytes) :
    decodeFrom start (symbol a :: symbol b :: symbol c :: symbol d :: rest) =
      .ok (fullQuad a b c d ++ bytes) := by
  cases rest with
  | nil =>
    cases hrest
    have htail := readTail_symbol start 0 ha (readTail_symbol start 1 hb
      (readTail_symbol start 2 hc (readTail_symbol start 3 hd
        (show readTail start 4 none [] = .ok ⟨[], 0⟩ from rfl))))
    rw [decodeFrom_tail start (by simp) htail]
    simp [tailBytes]
  | cons e rest =>
    rw [decodeFrom, expectSymbol_symbol _ ha, expectSymbol_symbol _ hb, expectSymbol_symbol _ hc,
      expectSymbol_symbol _ hd, hrest]
    rfl

/-- Decoding follows the encoding from any offset on. -/
theorem decodeFrom_encode (start : Nat) (bytes : List UInt8) :
    decodeFrom start (encode bytes) = .ok bytes := by
  fun_induction encode bytes generalizing start with
  | case1 => rfl
  | case2 a n =>
    have ha := a.toNat_lt
    have hbyte : UInt8.ofNat (n / 4 * 4 + n % 4 * 16 / 16) = a := ofNat_eq (by omega)
    rw [decodeFrom_one start (by omega) (by omega) (by omega), hbyte]
  | case3 a b n =>
    have ha := a.toNat_lt
    have hb := b.toNat_lt
    have hn : (n / 1024 * 64 + n / 16 % 64) * 16 + n % 16 * 4 / 4 = n := by omega
    have hfirst : UInt8.ofNat (n / 256) = a := ofNat_eq (by omega)
    have hsecond : UInt8.ofNat n = b := ofNat_eq (by omega)
    rw [decodeFrom_two start (by omega) (by omega) (by omega) (by omega), hn, hfirst, hsecond]
  | case4 a b c rest n ih =>
    have ha := a.toNat_lt
    have hb := b.toNat_lt
    have hc := c.toNat_lt
    have hn : ((n / 262144 * 64 + n / 4096 % 64) * 64 + n / 64 % 64) * 64 + n % 64 = n := by omega
    have hfirst : UInt8.ofNat (n / 65536) = a := ofNat_eq (by omega)
    have hsecond : UInt8.ofNat (n / 256) = b := ofNat_eq (by omega)
    have hthird : UInt8.ofNat n = c := ofNat_eq (by omega)
    have hquad : fullQuad (n / 262144) (n / 4096 % 64) (n / 64 % 64) (n % 64) = [a, b, c] := by
      simp only [fullQuad, hn, hfirst, hsecond, hthird]
    rw [decodeFrom_three start (by omega) (by omega) (by omega) (by omega) (ih (start + 4)), hquad]
    rfl

theorem length_encode_mod (bytes : List UInt8) : (encode bytes).length % 4 = 0 := by
  fun_induction encode bytes with
  | case1 => rfl
  | case2 a n => simp
  | case3 a b n => simp
  | case4 a b c rest n ih =>
    simp only [List.length_cons]
    omega

/-- Decoding gives back what was encoded. -/
theorem decode_encode (bytes : List UInt8) : decode (encode bytes) = .ok bytes := by
  have hstray : strayLast? (encode bytes) = none := by
    unfold strayLast?
    rw [if_neg (by rw [length_encode_mod]; decide)]
  rw [decode, hstray]
  exact decodeFrom_encode 0 bytes

/-! ## Encodings are ASCII -/

theorem symbol_lt (value : Nat) : (symbol value).toNat < 128 := by
  have hsmall : ∀ value < 62, (symbol value).toNat < 128 := by decide
  by_cases h : value < 62
  · exact hsmall value h
  · unfold symbol
    rw [if_neg (by omega), if_neg (by omega), if_neg h]
    split <;> decide

theorem lt_of_mem_encode {bytes : List UInt8} : ∀ byte ∈ encode bytes, byte.toNat < 128 := by
  have hpad : pad.toNat < 128 := by decide
  fun_induction encode bytes with
  | case1 => simp
  | case2 a n => simp [symbol_lt, hpad]
  | case3 a b n => simp [symbol_lt, hpad]
  | case4 a b c rest n ih =>
    simp only [List.forall_mem_cons]
    exact ⟨symbol_lt _, symbol_lt _, symbol_lt _, symbol_lt _, ih⟩

end RelationPaging.Base64
