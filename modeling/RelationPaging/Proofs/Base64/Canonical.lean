import RelationPaging.Proofs.Base64
import RelationPaging.Proofs.Outcome
import Mathlib.Algebra.Group.Nat.Defs

/-!
# Base64 has one encoding

`IsEncoding` says what the base64 form of some bytes is without computing it: the bits of the bytes,
filled up with fewer than six zeros, are the six-bit groups of the symbols, and equals signs fill
the symbols up to quads.  What `encode` writes is such a form (`isEncoding_encode`), and there is
only one (`IsEncoding.unique`).

Decoding accepts nothing else (`decode_eq_ok_iff`): whatever is decoded is the encoding of the
bytes that come out, quad by quad, so padding that is missing or misplaced and bits that are left
over are refused.
-/

namespace RelationPaging.Base64

/-! ## Bits -/

/-- The lowest bits of a number, the most significant one first. -/
def bits : Nat → Nat → List Bool
  | 0, _ => []
  | width + 1, n => bits width (n / 2) ++ [decide (n % 2 = 1)]

@[simp] theorem length_bits (width n : Nat) : (bits width n).length = width := by
  induction width generalizing n with
  | zero => rfl
  | succ width ih => rw [bits, List.length_append, ih, List.length_singleton]

/-- The part of a number above its lowest bits does not count. -/
theorem bits_mod (width n : Nat) : bits width (n % 2 ^ width) = bits width n := by
  induction width generalizing n with
  | zero => rfl
  | succ width ih =>
    have hhalf : n % 2 ^ (width + 1) / 2 = n / 2 % 2 ^ width := by
      rw [Nat.pow_succ', Nat.mod_mul_right_div_self]
    have hlast : n % 2 ^ (width + 1) % 2 = n % 2 := by
      rw [Nat.pow_succ', Nat.mod_mul_right_mod]
    rw [bits, hhalf, hlast, ih, bits]

/-- The bits of a number are those of its upper part and those of its lower part. -/
theorem bits_add (high low n : Nat) :
    bits (high + low) n = bits high (n / 2 ^ low) ++ bits low (n % 2 ^ low) := by
  rw [bits_mod]
  induction low generalizing n with
  | zero => simp [bits]
  | succ low ih =>
    have hhalf : n / 2 / 2 ^ low = n / 2 ^ (low + 1) := by
      rw [Nat.div_div_eq_div_mul, ← Nat.pow_succ']
    rw [← Nat.add_assoc, bits, ih, hhalf, bits, List.append_assoc]

/-- A number is determined by its bits. -/
theorem bits_inj {width m n : Nat} (hm : m < 2 ^ width) (hn : n < 2 ^ width)
    (h : bits width m = bits width n) : m = n := by
  induction width generalizing m n with
  | zero => omega
  | succ width ih =>
    rw [bits, bits] at h
    obtain ⟨hhalf, hlast⟩ := List.append_inj' h rfl
    rw [Nat.pow_succ] at hm hn
    have hhalves : m / 2 = n / 2 := ih (by omega) (by omega) hhalf
    have hlasts : m % 2 = 1 ↔ n % 2 = 1 := by simpa using hlast
    omega

/-- Groups of six bits are determined by the bits of all of them. -/
theorem flatMap_bits_inj {xs ys : List Nat} (hxs : ∀ x ∈ xs, x < 64) (hys : ∀ y ∈ ys, y < 64)
    (h : xs.flatMap (bits 6) = ys.flatMap (bits 6)) : xs = ys := by
  have hlength : xs.length = ys.length := by
    have hbits := congrArg List.length h
    simp only [List.length_flatMap, length_bits, List.map_const', List.sum_replicate_nat] at hbits
    omega
  induction xs generalizing ys with
  | nil => exact (List.eq_nil_of_length_eq_zero hlength.symm).symm
  | cons x xs ih =>
    cases ys with
    | nil => cases hlength
    | cons y ys =>
      obtain ⟨hx, hxs⟩ := List.forall_mem_cons.1 hxs
      obtain ⟨hy, hys⟩ := List.forall_mem_cons.1 hys
      obtain ⟨hfirst, hrest⟩ := List.append_inj h (by simp)
      rw [bits_inj hx hy hfirst, ih hxs hys hrest (Nat.succ.inj hlength)]

/-! ## What an encoding is -/

/-- The symbols, in the order of their values. -/
def alphabet : List Char :=
  "ABCDEFGHIJKLMNOPQRSTUVWXYZabcdefghijklmnopqrstuvwxyz0123456789+/".toList

/-- A text is the encoding of some bytes: the bits of the bytes and fewer than six zeros are the
bits of its symbols, and it is filled up with equals signs to a multiple of four. -/
structure IsEncoding (bytes : List UInt8) (code : List Char) : Prop where
  exists_values : ∃ (values : List Nat) (zeros padding : Nat),
    (∀ value ∈ values, value < 64) ∧ zeros < 6 ∧ padding < 4 ∧
      values.flatMap (bits 6) =
        bytes.flatMap (fun byte => bits 8 byte.toNat) ++ List.replicate zeros false ∧
      code = values.map (alphabet.getD · '=') ++ List.replicate padding '='
  quads : code.length % 4 = 0

/-- Bytes have one encoding. -/
theorem IsEncoding.unique {bytes : List UInt8} {code code' : List Char}
    (h : IsEncoding bytes code) (h' : IsEncoding bytes code') : code = code' := by
  obtain ⟨⟨values, zeros, padding, hvalues, hzeros, hpadding, hbits, rfl⟩, hquads⟩ := h
  obtain ⟨⟨values', zeros', padding', hvalues', hzeros', hpadding', hbits', rfl⟩, hquads'⟩ := h'
  have hlength := congrArg List.length hbits
  have hlength' := congrArg List.length hbits'
  simp only [List.length_append, List.length_flatMap, length_bits, List.map_const',
    List.sum_replicate_nat, List.length_replicate, List.length_map] at *
  obtain rfl : zeros = zeros' := by omega
  obtain rfl : values = values' := flatMap_bits_inj hvalues hvalues' (hbits.trans hbits'.symm)
  obtain rfl : padding = padding' := by omega
  rfl

/-! ## What is written is an encoding -/

theorem char_symbol : ∀ value < 64, Char.ofNat (symbol value).toNat = alphabet.getD value '=' := by
  decide

theorem char_pad : Char.ofNat pad.toNat = '=' := by decide

/-- The bits of one byte are those of two symbols, less four zeros. -/
theorem bits_one (n : Nat) :
    bits 6 (n / 4) ++ bits 6 (n % 4 * 16) = bits 8 n ++ List.replicate 4 false := by
  have hupper : n * 16 / 2 ^ 6 = n / 4 := by omega
  have hlower : n * 16 % 2 ^ 6 = n % 4 * 16 := by omega
  have hbyte : n * 16 / 2 ^ 4 = n := by omega
  have hzeros : n * 16 % 2 ^ 4 = 0 := by omega
  calc bits 6 (n / 4) ++ bits 6 (n % 4 * 16)
      = bits (6 + 6) (n * 16) := by rw [bits_add, hupper, hlower]
    _ = bits (8 + 4) (n * 16) := rfl
    _ = bits 8 n ++ bits 4 0 := by rw [bits_add, hbyte, hzeros]
    _ = bits 8 n ++ List.replicate 4 false := rfl

/-- The bits of two bytes are those of three symbols, less two zeros. -/
theorem bits_two (n : Nat) :
    bits 6 (n / 1024) ++ bits 6 (n / 16 % 64) ++ bits 6 (n % 16 * 4) =
      bits 8 (n / 256) ++ bits 8 (n % 256) ++ List.replicate 2 false := by
  have hupper : n * 4 / 2 ^ 6 / 2 ^ 6 = n / 1024 := by omega
  have hmiddle : n * 4 / 2 ^ 6 % 2 ^ 6 = n / 16 % 64 := by omega
  have hlower : n * 4 % 2 ^ 6 = n % 16 * 4 := by omega
  have hbyte : n * 4 / 2 ^ 2 = n := by omega
  have hzeros : n * 4 % 2 ^ 2 = 0 := by omega
  have hpow : 2 ^ 8 = 256 := rfl
  calc bits 6 (n / 1024) ++ bits 6 (n / 16 % 64) ++ bits 6 (n % 16 * 4)
      = bits (6 + 6 + 6) (n * 4) := by rw [bits_add, bits_add, hupper, hmiddle, hlower]
    _ = bits (8 + 8 + 2) (n * 4) := rfl
    _ = bits 8 (n / 256) ++ bits 8 (n % 256) ++ bits 2 0 := by
        rw [bits_add, hbyte, hzeros, bits_add, hpow]
    _ = bits 8 (n / 256) ++ bits 8 (n % 256) ++ List.replicate 2 false := rfl

/-- The bits of three bytes are those of four symbols. -/
theorem bits_three (n : Nat) :
    bits 6 (n / 262144) ++ bits 6 (n / 4096 % 64) ++ bits 6 (n / 64 % 64) ++ bits 6 (n % 64) =
      bits 8 (n / 65536) ++ bits 8 (n / 256 % 256) ++ bits 8 (n % 256) := by
  have hupper : n / 2 ^ 6 / 2 ^ 6 / 2 ^ 6 = n / 262144 := by omega
  have hmiddle : n / 2 ^ 6 / 2 ^ 6 % 2 ^ 6 = n / 4096 % 64 := by omega
  have hlower : n / 2 ^ 6 % 2 ^ 6 = n / 64 % 64 := by omega
  have hfirst : n / 2 ^ 8 / 2 ^ 8 = n / 65536 := by omega
  have hsecond : n / 2 ^ 8 % 2 ^ 8 = n / 256 % 256 := by omega
  have hlast : n % 2 ^ 6 = n % 64 := rfl
  have hlast' : n % 2 ^ 8 = n % 256 := rfl
  calc bits 6 (n / 262144) ++ bits 6 (n / 4096 % 64) ++ bits 6 (n / 64 % 64) ++ bits 6 (n % 64)
      = bits (6 + 6 + 6 + 6) n := by
        rw [bits_add, bits_add, bits_add, hupper, hmiddle, hlower, hlast]
    _ = bits (8 + 8 + 8) n := rfl
    _ = bits 8 (n / 65536) ++ bits 8 (n / 256 % 256) ++ bits 8 (n % 256) := by
        rw [bits_add, bits_add, hfirst, hsecond, hlast']

/-- The encoding that is computed is one. -/
theorem isEncoding_encode (bytes : List UInt8) :
    IsEncoding bytes ((encode bytes).map fun byte => Char.ofNat byte.toNat) := by
  fun_induction encode bytes with
  | case1 => exact ⟨⟨[], 0, 0, by simp⟩, rfl⟩
  | case2 a n =>
    have ha := a.toNat_lt
    have hvalues : n / 4 < 64 ∧ n % 4 * 16 < 64 := by omega
    refine ⟨⟨[n / 4, n % 4 * 16], 4, 2, by simpa using hvalues, by decide, by decide, ?_, ?_⟩,
      by simp⟩
    · simpa using bits_one n
    · simp [char_symbol _ hvalues.1, char_symbol _ hvalues.2, char_pad]
  | case3 a b n =>
    have ha := a.toNat_lt
    have hb := b.toNat_lt
    have hvalues : n / 1024 < 64 ∧ n / 16 % 64 < 64 ∧ n % 16 * 4 < 64 := by omega
    have hbytes : n / 256 = a.toNat ∧ n % 256 = b.toNat := by omega
    refine ⟨⟨[n / 1024, n / 16 % 64, n % 16 * 4], 2, 1, by simpa using hvalues, by decide,
      by decide, ?_, ?_⟩, by simp⟩
    · have hbits := bits_two n
      rw [hbytes.1, hbytes.2] at hbits
      simpa using hbits
    · simp [char_symbol _ hvalues.1, char_symbol _ hvalues.2.1, char_symbol _ hvalues.2.2, char_pad]
  | case4 a b c rest n ih =>
    have ha := a.toNat_lt
    have hb := b.toNat_lt
    have hc := c.toNat_lt
    have hvalues : n / 262144 < 64 ∧ n / 4096 % 64 < 64 ∧ n / 64 % 64 < 64 ∧ n % 64 < 64 := by omega
    have hbytes : n / 65536 = a.toNat ∧ n / 256 % 256 = b.toNat ∧ n % 256 = c.toNat := by omega
    obtain ⟨⟨values, zeros, padding, hrest, hzeros, hpadding, hbits, hcode⟩, hquads⟩ := ih
    refine ⟨⟨[n / 262144, n / 4096 % 64, n / 64 % 64, n % 64] ++ values, zeros, padding, ?_, hzeros,
      hpadding, ?_, ?_⟩, ?_⟩
    · exact List.forall_mem_append.2 ⟨by simpa using hvalues, hrest⟩
    · have hgroup := bits_three n
      rw [hbytes.1, hbytes.2.1, hbytes.2.2] at hgroup
      rw [List.flatMap_append, hbits]
      simpa [← List.append_assoc] using hgroup
    · simp [hcode, char_symbol _ hvalues.1, char_symbol _ hvalues.2.1, char_symbol _ hvalues.2.2.1,
        char_symbol _ hvalues.2.2.2]
    · simp only [List.map_cons, List.length_cons]
      omega

/-! ## Nothing else is decoded -/

theorem symbol_of_value? {byte : UInt8} {value : Nat} (h : value? byte = some value) :
    value < 64 ∧ byte = symbol value := by
  have hall : ∀ n < 256, ∀ value ∈ value? (UInt8.ofNat n),
      value < 64 ∧ UInt8.ofNat n = symbol value := by decide +kernel
  have hbyte := hall byte.toNat byte.toNat_lt value
  rw [UInt8.ofNat_toNat] at hbyte
  exact hbyte h

theorem symbol_of_expectSymbol {offset value : Nat} {byte : UInt8}
    (h : expectSymbol offset byte = .ok value) : value < 64 ∧ byte = symbol value := by
  unfold expectSymbol at h
  split at h
  · next hvalue =>
    cases h
    exact symbol_of_value? hvalue
  · cases h

/-- The bytes of a last quad that was read. -/
def Tail.bytes (tail : Tail) : List UInt8 :=
  tail.symbols.map (·.1) ++ List.replicate tail.padding pad

/-- Every symbol of a last quad comes with its value. -/
def Tail.IsSound (tail : Tail) : Prop :=
  ∀ entry ∈ tail.symbols, entry.2 < 64 ∧ entry.1 = symbol entry.2

/-- Behind padding there is only padding. -/
theorem bytes_of_readTail_padding {start index offset : Nat} {last : List UInt8} {tail : Tail}
    (h : readTail start index (some offset) last = .ok tail) :
    tail.symbols = [] ∧ last = tail.bytes := by
  induction last generalizing index offset tail with
  | nil =>
    cases h
    exact ⟨rfl, rfl⟩
  | cons byte rest ih =>
    rw [readTail] at h
    split at h
    · next hpad =>
      split at h
      · cases h
      · obtain ⟨inner, hinner, h⟩ := Except.bind_eq_ok_iff.1 h
        cases h
        obtain ⟨hsymbols, hrest⟩ := ih hinner
        refine ⟨hsymbols, ?_⟩
        rw [hpad, hrest, Tail.bytes, Tail.bytes, hsymbols]
        rfl
    · cases h

/-- A last quad is read as it stands: symbols, then padding. -/
theorem bytes_of_readTail {start index : Nat} {last : List UInt8} {tail : Tail}
    (h : readTail start index none last = .ok tail) : tail.IsSound ∧ last = tail.bytes := by
  induction last generalizing index tail with
  | nil =>
    cases h
    exact ⟨by simp [Tail.IsSound], rfl⟩
  | cons byte rest ih =>
    rw [readTail] at h
    split at h
    · next hpad =>
      split at h
      · cases h
      · obtain ⟨inner, hinner, h⟩ := Except.bind_eq_ok_iff.1 h
        cases h
        obtain ⟨hsymbols, hrest⟩ := bytes_of_readTail_padding hinner
        refine ⟨by simp [Tail.IsSound, hsymbols], ?_⟩
        rw [hpad, hrest, Tail.bytes, Tail.bytes, hsymbols]
        rfl
    · obtain ⟨value, hvalue, h⟩ := Except.bind_eq_ok_iff.1 h
      obtain ⟨inner, hinner, h⟩ := Except.bind_eq_ok_iff.1 h
      cases h
      obtain ⟨hsound, hrest⟩ := ih hinner
      refine ⟨List.forall_mem_cons.2 ⟨symbol_of_expectSymbol hvalue, hsound⟩, ?_⟩
      rw [hrest]
      rfl

theorem encode_one {a b : Nat} (ha : a < 64) (hb : b < 64) (hzero : b % 16 = 0) :
    encode [UInt8.ofNat (a * 4 + b / 16)] = [symbol a, symbol b, pad, pad] := by
  have hbyte : (UInt8.ofNat (a * 4 + b / 16)).toNat = a * 4 + b / 16 := by
    rw [UInt8.toNat_ofNat']
    omega
  have hfirst : (a * 4 + b / 16) / 4 = a := by omega
  have hlast : (a * 4 + b / 16) % 4 * 16 = b := by omega
  simp only [encode, hbyte, hfirst, hlast]

theorem encode_two {a b c : Nat} (ha : a < 64) (hb : b < 64) (hc : c < 64) (hzero : c % 4 = 0) :
    encode [UInt8.ofNat (((a * 64 + b) * 16 + c / 4) / 256),
      UInt8.ofNat ((a * 64 + b) * 16 + c / 4)] = [symbol a, symbol b, symbol c, pad] := by
  have hbytes : (UInt8.ofNat (((a * 64 + b) * 16 + c / 4) / 256)).toNat * 256 +
      (UInt8.ofNat ((a * 64 + b) * 16 + c / 4)).toNat = (a * 64 + b) * 16 + c / 4 := by
    rw [UInt8.toNat_ofNat', UInt8.toNat_ofNat']
    omega
  have hfirst : ((a * 64 + b) * 16 + c / 4) / 1024 = a := by omega
  have hsecond : ((a * 64 + b) * 16 + c / 4) / 16 % 64 = b := by omega
  have hlast : ((a * 64 + b) * 16 + c / 4) % 16 * 4 = c := by omega
  simp only [encode, hbytes, hfirst, hsecond, hlast]

/-- Three bytes that come out of a full quad are encoded as this quad. -/
theorem encode_fullQuad {a b c d : Nat} (ha : a < 64) (hb : b < 64) (hc : c < 64) (hd : d < 64)
    (rest : List UInt8) :
    encode (fullQuad a b c d ++ rest) =
      symbol a :: symbol b :: symbol c :: symbol d :: encode rest := by
  have hn : ((a * 64 + b) * 64 + c) * 64 + d < 16777216 := by omega
  have hbytes : ((UInt8.ofNat ((((a * 64 + b) * 64 + c) * 64 + d) / 65536)).toNat * 256 +
      (UInt8.ofNat ((((a * 64 + b) * 64 + c) * 64 + d) / 256)).toNat) * 256 +
        (UInt8.ofNat (((a * 64 + b) * 64 + c) * 64 + d)).toNat =
      ((a * 64 + b) * 64 + c) * 64 + d := by
    rw [UInt8.toNat_ofNat', UInt8.toNat_ofNat', UInt8.toNat_ofNat']
    omega
  have hfirst : (((a * 64 + b) * 64 + c) * 64 + d) / 262144 = a := by omega
  have hsecond : (((a * 64 + b) * 64 + c) * 64 + d) / 4096 % 64 = b := by omega
  have hthird : (((a * 64 + b) * 64 + c) * 64 + d) / 64 % 64 = c := by omega
  have hlast : (((a * 64 + b) * 64 + c) * 64 + d) % 64 = d := by omega
  simp only [fullQuad, List.cons_append, List.nil_append, encode, hbytes, hfirst, hsecond, hthird,
    hlast]

/-- What a last quad is decoded to has this quad as its encoding. -/
theorem bytes_of_tailBytes {start : Nat} {tail : Tail} {bytes : List UInt8} (hsound : tail.IsSound)
    (hlength : tail.bytes.length ≤ 4) (h : tailBytes start tail = .ok bytes) :
    tail.bytes = encode bytes := by
  obtain ⟨symbols, padding⟩ := tail
  simp only [Tail.bytes, List.length_append, List.length_map, List.length_replicate] at hlength ⊢
  match symbols, hsound with
  | [], _ =>
    simp only [tailBytes] at h
    split at h
    · next hpadding =>
      cases h
      rw [hpadding]
      rfl
    · cases h
  | [_], _ => cases h
  | [(x, a), (y, b)], hsound =>
    simp only [Tail.IsSound, List.forall_mem_cons] at hsound
    obtain ⟨⟨ha, rfl⟩, ⟨hb, rfl⟩, -⟩ := hsound
    simp only [tailBytes, List.length_cons, List.length_nil] at h hlength
    split at h
    · cases h
    · split at h
      · cases h
      · next hquad hzero =>
        cases h
        obtain rfl : padding = 2 := by omega
        exact (encode_one ha hb (by omega)).symm
  | [(x, a), (y, b), (z, c)], hsound =>
    simp only [Tail.IsSound, List.forall_mem_cons] at hsound
    obtain ⟨⟨ha, rfl⟩, ⟨hb, rfl⟩, ⟨hc, rfl⟩, -⟩ := hsound
    simp only [tailBytes, List.length_cons, List.length_nil] at h hlength
    split at h
    · cases h
    · split at h
      · cases h
      · next hquad hzero =>
        cases h
        obtain rfl : padding = 1 := by omega
        exact (encode_two ha hb hc (by omega)).symm
  | [(w, a), (x, b), (y, c), (z, d)], hsound =>
    simp only [Tail.IsSound, List.forall_mem_cons] at hsound
    obtain ⟨⟨ha, rfl⟩, ⟨hb, rfl⟩, ⟨hc, rfl⟩, ⟨hd, rfl⟩, -⟩ := hsound
    simp only [tailBytes, List.length_cons, List.length_nil] at h hlength
    split at h
    · cases h
    · cases h
      obtain rfl : padding = 0 := by omega
      have hquad := encode_fullQuad ha hb hc hd []
      rw [List.append_nil] at hquad
      exact hquad.symm
  | _ :: _ :: _ :: _ :: _ :: _, _ =>
    simp only [List.length_cons] at hlength
    omega

/-- Whatever is decoded, quad by quad, is the encoding of the bytes that come out. -/
theorem eq_encode_of_decodeFrom {start : Nat} {code bytes : List UInt8}
    (h : decodeFrom start code = .ok bytes) : code = encode bytes := by
  fun_induction decodeFrom start code generalizing bytes with
  | case1 start a b c d e rest ih =>
    obtain ⟨va, hva, h⟩ := Except.bind_eq_ok_iff.1 h
    obtain ⟨vb, hvb, h⟩ := Except.bind_eq_ok_iff.1 h
    obtain ⟨vc, hvc, h⟩ := Except.bind_eq_ok_iff.1 h
    obtain ⟨vd, hvd, h⟩ := Except.bind_eq_ok_iff.1 h
    obtain ⟨more, hmore, h⟩ := Except.bind_eq_ok_iff.1 h
    cases h
    obtain ⟨ha, rfl⟩ := symbol_of_expectSymbol hva
    obtain ⟨hb, rfl⟩ := symbol_of_expectSymbol hvb
    obtain ⟨hc, rfl⟩ := symbol_of_expectSymbol hvc
    obtain ⟨hd, rfl⟩ := symbol_of_expectSymbol hvd
    rw [encode_fullQuad ha hb hc hd, ih hmore]
  | case2 start last hshort =>
    obtain ⟨tail, htail, hbytes⟩ := Except.bind_eq_ok_iff.1 h
    have hlength : last.length ≤ 4 := by
      by_contra hlong
      match last with
      | [] | [_] | [_, _] | [_, _, _] | [_, _, _, _] => simp at hlong
      | a :: b :: c :: d :: e :: rest => exact hshort a b c d e rest rfl
    obtain ⟨hsound, hlast⟩ := bytes_of_readTail htail
    rw [hlast] at hlength ⊢
    exact bytes_of_tailBytes hsound hlength hbytes

/-- **Decoding accepts the encoding of each byte sequence and nothing else.** -/
theorem decode_eq_ok_iff {code bytes : List UInt8} :
    decode code = .ok bytes ↔ code = encode bytes := by
  constructor
  · intro h
    unfold decode at h
    split at h
    · cases h
    · exact eq_encode_of_decodeFrom h
  · rintro rfl
    exact decode_encode bytes

end RelationPaging.Base64
