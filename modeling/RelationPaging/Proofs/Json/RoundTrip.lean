import RelationPaging.Json.Reader
import RelationPaging.Json.Writer
import RelationPaging.Proofs.Json.Members
import RelationPaging.Proofs.Text.Decimal
import Mathlib.Data.List.TakeWhile

/-!
# JSON text read back

What is written is read back: a value without real numbers that nests as deep as the reader allows
is what the reader finds in its compact text, whatever follows it (`readValue?_chars`).  Real
numbers are left out, since reading them rounds.

The statements about strings and numbers are of the same form, with a continuation that does not
go on with a number.  The fuel of the reader is measured by the length of the text: each call
takes one unit, and a value, an item or a member takes at least one character.
-/

namespace RelationPaging.Json

/-! ## Strings -/

theorem fourHexDigits?_control : ∀ n < 0x20,
    fourHexDigits? '0' '0' (Nat.digitChar (n / 16)) (Nat.digitChar (n % 16)) = some n := by
  decide

/-- A character that is not escaped stands for itself. -/
theorem readString?_cons {c : Char} (hquote : c ≠ '"') (hbackslash : c ≠ '\\')
    (hcontrol : 0x20 ≤ c.toNat) (cs : List Char) :
    readString? (c :: cs) = (readString? cs).map fun (chars, rest) => (c :: chars, rest) := by
  have hplain : ¬ (c.toNat < 0x20 ∨ c = '\\') := by
    rintro (hlt | heq)
    · omega
    · exact hbackslash heq
  rw [readString?]
  · rw [if_neg hplain]
  · exact hquote
  · rintro a b d e rest rfl
    exact absurd rfl hbackslash
  · rintro letter rest rfl
    exact absurd rfl hbackslash

/-- Inside a string, the form of a character is read as the character. -/
theorem readString?_escaped (c : Char) (cs : List Char) :
    readString? (escaped c ++ cs) =
      (readString? cs).map fun (chars, rest) => (c :: chars, rest) := by
  unfold escaped
  split
  · rfl
  · rfl
  · rfl
  · rfl
  · rfl
  · rfl
  · rfl
  · next hquote hbackslash _ _ _ _ _ =>
    by_cases hcontrol : c.toNat < 0x20
    · have hunit := fourHexDigits?_control c.toNat hcontrol
      have hlone : loneUnit? c.toNat = some c := by
        rw [loneUnit?, if_neg (by omega), Char.ofNat_toNat]
      rw [if_pos hcontrol]
      simp only [twoHexDigits, List.cons_append, List.nil_append, readString?, hunit, hlone]
    · rw [if_neg hcontrol]
      exact readString?_cons hquote hbackslash (by omega) cs

theorem readString?_stringChars (cs rest : List Char) :
    readString? (cs.flatMap escaped ++ '"' :: rest) = some (cs, rest) := by
  induction cs with
  | nil => rfl
  | cons c cs ih => rw [List.flatMap_cons, List.append_assoc, readString?_escaped, ih]; rfl

/-! ## Numbers -/

/-- A text that does not go on with a number. -/
def EndsNumber (rest : List Char) : Prop :=
  ∀ c ∈ rest.head?, c.isDigit = false ∧ c ≠ '.' ∧ c ≠ 'e' ∧ c ≠ 'E'

theorem spanDigits_append {digits rest : List Char} (hdigits : ∀ c ∈ digits, c.isDigit = true)
    (hrest : EndsNumber rest) : spanDigits (digits ++ rest) = (digits, rest) := by
  have hfirst : rest.takeWhile Char.isDigit = [] ∧ rest.dropWhile Char.isDigit = rest := by
    cases rest with
    | nil => exact ⟨rfl, rfl⟩
    | cons c rest =>
      obtain ⟨hc, -⟩ := hrest c rfl
      simp [hc]
  rw [spanDigits, List.takeWhile_append_of_pos hdigits, List.dropWhile_append_of_pos hdigits,
    hfirst.1, hfirst.2, List.append_nil]

theorem readFraction?_of_endsNumber {rest : List Char} (h : EndsNumber rest) :
    readFraction? rest = some (none, rest) := by
  unfold readFraction?
  split
  · next cs => exact absurd rfl (h '.' rfl).2.1
  · rfl

theorem readExponent?_of_endsNumber {rest : List Char} (h : EndsNumber rest) :
    readExponent? rest = some (none, rest) := by
  cases rest with
  | nil => rfl
  | cons c rest =>
    obtain ⟨-, -, hlower, hupper⟩ := h c rfl
    rw [readExponent?, if_neg (by simp [hlower, hupper])]

theorem isWholePart_toDigits (n : Nat) : isWholePart (Nat.toDigits 10 n) = true := by
  by_cases h : n = 0
  · subst h
    rfl
  · obtain ⟨first, rest, heq, -⟩ := Text.exists_toDigits_eq_cons n
    have hfirst := Text.head?_toDigits_ne_zero h
    rw [heq] at hfirst ⊢
    unfold isWholePart
    split
    · next hnil => cases hnil
    · rfl
    · next heq =>
      cases heq
      simpa using hfirst

/-- The digits of a natural number, behind a sign or not, are read as an integer. -/
theorem readNumber?_toDigits {n : Nat} {rest : List Char} (hrest : EndsNumber rest) :
    readNumber? (Nat.toDigits 10 n ++ rest) = (integer? false (Nat.toDigits 10 n)).map (·, rest) ∧
      readNumber? ('-' :: Nat.toDigits 10 n ++ rest) =
        (integer? true (Nat.toDigits 10 n)).map (·, rest) := by
  have hspan := spanDigits_append (Text.isDigit_toDigits n) hrest
  have hfraction := readFraction?_of_endsNumber hrest
  have hexponent := readExponent?_of_endsNumber hrest
  have hwhole := isWholePart_toDigits n
  constructor
  · obtain ⟨first, digits, hdigits, hdigit⟩ := Text.exists_toDigits_eq_cons n
    have hfirst : first ≠ '-' := by
      rintro rfl
      cases hdigit
    rw [hdigits] at hspan hwhole ⊢
    rw [List.cons_append] at hspan ⊢
    unfold readNumber?
    split
    next heq =>
      split at heq
      · next heq' => exact absurd (List.cons.inj heq').1 hfirst
      · cases heq
        simp [hspan, hwhole, hfraction, hexponent]
  · simp [readNumber?, hspan, hwhole, hfraction, hexponent]

theorem integer?_toDigits (word : Word) :
    integer? (decide (word.value < 0)) (Nat.toDigits 10 word.value.natAbs) =
      some (.whole word) := by
  obtain ⟨value, least, most⟩ := word
  have hvalue : (if decide (value < 0) = true then -(value.natAbs : Int) else value.natAbs) =
      value := by
    by_cases h : value < 0
    · rw [if_pos (decide_eq_true h)]
      omega
    · rw [if_neg (by simpa using h)]
      omega
  have hzero : (decide (value < 0) && decide (value.natAbs = 0)) = false := by
    rw [Bool.and_eq_false_iff, decide_eq_false_iff_not, decide_eq_false_iff_not]
    omega
  simp only [integer?, Text.decimalValue_toDigits, hzero, hvalue, Number.ofInt?]
  rw [dif_pos ⟨least, most⟩]
  rfl

/-- An integer is read as it is written. -/
theorem readNumber?_chars (word : Word) {rest : List Char} (hrest : EndsNumber rest) :
    readNumber? ((Number.whole word).chars ++ rest) = some (.whole word, rest) := by
  have hdigits := readNumber?_toDigits (n := word.value.natAbs) hrest
  have hinteger := integer?_toDigits word
  by_cases hnegative : word.value < 0
  · have habs : (-word.value).toNat = word.value.natAbs := by omega
    rw [decide_eq_true hnegative] at hinteger
    simp only [Number.chars, if_pos hnegative, habs, hdigits.2, hinteger, Option.map_some]
  · have habs : word.value.toNat = word.value.natAbs := by omega
    rw [decide_eq_false hnegative] at hinteger
    simp only [Number.chars, if_neg hnegative, habs, hdigits.1, hinteger, Option.map_some]

/-! ## Values -/

mutual

/-- How deep arrays and objects nest in a value, the outermost one counted. -/
def nesting : Json → Nat
  | null => 0
  | bool _ => 0
  | number _ => 0
  | string _ => 0
  | array items => nestingItems items + 1
  | object members => nestingMembers members + 1
termination_by structural value => value

/-- How deep the items of an array nest. -/
def nestingItems : List Json → Nat
  | [] => 0
  | item :: items => max item.nesting (nestingItems items)
termination_by structural items => items

/-- How deep the members of an object nest. -/
def nestingMembers : Members → Nat
  | [] => 0
  | (_, value) :: members => max value.nesting (nestingMembers members)
termination_by structural members => members

end

mutual

/-- Whether all numbers in a value are integers. -/
def isWhole : Json → Bool
  | null => true
  | bool _ => true
  | number (.whole _) => true
  | number (.real _) => false
  | string _ => true
  | array items => isWholeItems items
  | object members => isWholeMembers members
termination_by structural value => value

/-- Whether all numbers in the items of an array are integers. -/
def isWholeItems : List Json → Bool
  | [] => true
  | item :: items => item.isWhole && isWholeItems items
termination_by structural items => items

/-- Whether all numbers in the members of an object are integers. -/
def isWholeMembers : Members → Bool
  | [] => true
  | (_, value) :: members => value.isWhole && isWholeMembers members
termination_by structural members => members

end

/-- A character with which a value starts: neither white space nor the end of something else. -/
def IsStart (c : Char) : Prop :=
  isSpace c = false ∧ c ≠ ']' ∧ c ≠ '\x7d'

theorem exists_chars_whole (word : Word) :
    ∃ c cs, (Number.whole word).chars = c :: cs ∧ (c = '-' ∨ c.isDigit = true) := by
  simp only [Number.chars]
  split
  · exact ⟨_, _, rfl, .inl rfl⟩
  · obtain ⟨c, cs, heq, hdigit⟩ := Text.exists_toDigits_eq_cons word.value.toNat
    exact ⟨c, cs, heq, .inr hdigit⟩

/-- A number starts with no character of another kind. -/
theorem ne_of_starts_number {c : Char} (hc : c = '-' ∨ c.isDigit = true) {d : Char}
    (hminus : d ≠ '-') (hdigit : d.isDigit = false) : c ≠ d := by
  rintro rfl
  rcases hc with rfl | hc
  · exact hminus rfl
  · rw [hdigit] at hc
    cases hc

theorem exists_chars_eq_cons (value : Json) (h : value.isWhole = true) :
    ∃ c cs, value.chars = c :: cs ∧ IsStart c := by
  cases value with
  | null => exact ⟨_, _, rfl, by decide, by decide, by decide⟩
  | bool b => cases b <;> exact ⟨_, _, rfl, by decide, by decide, by decide⟩
  | number n =>
    cases n with
    | real x => cases h
    | whole word =>
      obtain ⟨c, cs, hchars, hc⟩ := exists_chars_whole word
      refine ⟨c, cs, hchars, ?_, ?_, ?_⟩
      · simp [isSpace, ne_of_starts_number hc]
      · exact ne_of_starts_number hc (by decide) (by decide)
      · exact ne_of_starts_number hc (by decide) (by decide)
  | string s => exact ⟨_, _, rfl, by decide, by decide, by decide⟩
  | array items =>
    have hstart : IsStart '[' := ⟨by decide, by decide, by decide⟩
    cases items with
    | nil => exact ⟨'[', _, rfl, hstart⟩
    | cons item items => exact ⟨'[', _, rfl, hstart⟩
  | object members =>
    have hstart : IsStart '\x7b' := ⟨by decide, by decide, by decide⟩
    cases members with
    | nil => exact ⟨'\x7b', _, rfl, hstart⟩
    | cons member members => exact ⟨'\x7b', _, rfl, hstart⟩

theorem skipSpace_cons {c : Char} (h : isSpace c = false) (cs : List Char) :
    skipSpace (c :: cs) = c :: cs := by
  rw [skipSpace, List.dropWhile_cons, h]
  rfl

/-! ## Steps of the reader -/

theorem readValue?_string (fuel depth : Nat) (cs : List Char) :
    readValue? (fuel + 1) depth ('"' :: cs) =
      (readString? cs).map fun (chars, rest) => (string (String.ofList chars), rest) := by
  simp [readValue?, skipSpace, isSpace]

theorem readValue?_array (fuel depth : Nat) {c : Char} (hc : IsStart c) (cs : List Char) :
    readValue? (fuel + 1) (depth + 1) ('[' :: c :: cs) =
      (readItems? fuel depth (c :: cs)).map fun (items, rest) => (array items, rest) := by
  obtain ⟨hspace, hclose, -⟩ := hc
  rw [readValue?, skipSpace_cons (by decide)]
  simp [skipSpace_cons hspace, hclose]

theorem readValue?_object (fuel depth : Nat) (cs : List Char) :
    readValue? (fuel + 1) (depth + 1) ('\x7b' :: '"' :: cs) =
      (readMembers? fuel depth ('"' :: cs)).map fun (members, rest) => (object members, rest) := by
  simp [readValue?, skipSpace, isSpace]

theorem readValue?_number (fuel depth : Nat) {c : Char} {cs : List Char}
    (hc : c = '-' ∨ c.isDigit = true) :
    readValue? (fuel + 1) depth (c :: cs) =
      (readNumber? (c :: cs)).map fun (n, rest) => (number n, rest) := by
  have hspace : isSpace c = false := by
    simp [isSpace, ne_of_starts_number hc]
  rw [readValue?, skipSpace_cons hspace]
  -- every other kind of value starts with a character of its own
  split
  all_goals first
    | rfl
    | next heq =>
      exact absurd (List.cons.inj heq).1 (ne_of_starts_number hc (by decide) (by decide))

theorem readItems?_last {fuel depth : Nat} {cs rest : List Char} {item : Json}
    (h : readValue? fuel depth cs = some (item, ']' :: rest)) :
    readItems? (fuel + 1) depth cs = some ([item], rest) := by
  rw [readItems?, h]
  simp [skipSpace_cons (show isSpace ']' = false by decide)]

theorem readItems?_cons {fuel depth : Nat} {cs cs' rest : List Char} {item : Json}
    {items : List Json} (h : readValue? fuel depth cs = some (item, ',' :: cs'))
    (hitems : readItems? fuel depth cs' = some (items, rest)) :
    readItems? (fuel + 1) depth cs = some (item :: items, rest) := by
  rw [readItems?, h]
  simp [skipSpace_cons (show isSpace ',' = false by decide), hitems]

theorem stringChars_append (s : String) (cs : List Char) :
    stringChars s ++ cs = '"' :: (s.toList.flatMap escaped ++ '"' :: cs) := by
  simp [stringChars]

theorem readMembers?_last {fuel depth : Nat} {key : String} {cs rest : List Char} {value : Json}
    (h : readValue? fuel depth cs = some (value, '\x7d' :: rest)) :
    readMembers? (fuel + 1) depth (stringChars key ++ ':' :: cs) = some ([(key, value)], rest) := by
  have hkey := readString?_stringChars key.toList (':' :: cs)
  rw [readMembers?, stringChars_append, skipSpace_cons (by decide)]
  simp [hkey, skipSpace_cons (show isSpace ':' = false by decide), h,
    skipSpace_cons (show isSpace '\x7d' = false by decide)]

theorem readMembers?_cons {fuel depth : Nat} {key : String} {cs cs' rest : List Char}
    {value : Json} {members : Members} (h : readValue? fuel depth cs = some (value, ',' :: cs'))
    (hmembers : readMembers? fuel depth cs' = some (members, rest)) :
    readMembers? (fuel + 1) depth (stringChars key ++ ':' :: cs) =
      some ((key, value) :: members, rest) := by
  have hkey := readString?_stringChars key.toList (':' :: cs)
  rw [readMembers?, stringChars_append, skipSpace_cons (by decide)]
  simp [hkey, skipSpace_cons (show isSpace ':' = false by decide), h,
    skipSpace_cons (show isSpace ',' = false by decide), hmembers]

theorem endsNumber_cons {c : Char} (hdigit : c.isDigit = false) (hne : c ≠ '.' ∧ c ≠ 'e' ∧ c ≠ 'E')
    (rest : List Char) : EndsNumber (c :: rest) := by
  rintro d ⟨⟩
  exact ⟨hdigit, hne⟩

/-! ## Reading what was written -/

mutual

/-- A value without real numbers is read back, if it nests as deep as is allowed. -/
theorem readValue?_chars : ∀ (value : Json) {fuel depth : Nat} {rest : List Char},
    value.isWhole = true → value.nesting ≤ depth → 2 * value.chars.length ≤ fuel →
      EndsNumber rest → readValue? (fuel + 1) depth (value.chars ++ rest) = some (value, rest)
  | null, _, _, _, _, _, _, _ => by simp [chars, readValue?, skipSpace, isSpace]
  | bool true, _, _, _, _, _, _, _ => by simp [chars, readValue?, skipSpace, isSpace]
  | bool false, _, _, _, _, _, _, _ => by simp [chars, readValue?, skipSpace, isSpace]
  | number (.real _), _, _, _, hwhole, _, _, _ => by cases hwhole
  | number (.whole word), _, _, _, _, _, _, hrest => by
    obtain ⟨c, cs, hchars, hc⟩ := exists_chars_whole word
    have hread := readNumber?_chars word hrest
    rw [chars]
    rw [hchars, List.cons_append] at hread ⊢
    rw [readValue?_number _ _ hc, hread]
    rfl
  | string s, _, _, _, _, _, _, _ => by
    rw [chars, stringChars_append, readValue?_string, readString?_stringChars, Option.map_some]
    simp only [String.ofList_toList]
  | array [], _, _, _, _, hdepth, _, _ => by
    obtain ⟨less, rfl⟩ := Nat.exists_eq_add_of_le' (Nat.le_of_add_left_le hdepth)
    simp [chars, readValue?, skipSpace, isSpace]
  | array (item :: items), fuel, _, rest, hwhole, hdepth, hfuel, _ => by
    obtain ⟨less, rfl⟩ := Nat.exists_eq_add_of_le' (Nat.le_of_add_left_le hdepth)
    have hitem : item.isWhole = true := (Bool.and_eq_true_iff.1 hwhole).1
    obtain ⟨c, cs, hchars, hstart⟩ := exists_chars_eq_cons item hitem
    have hread : readItems? fuel less (item.chars ++ itemChars items ++ rest) =
        some (item :: items, rest) := by
      rw [chars, List.cons_append, List.length_cons] at hfuel
      exact readItems?_chars (item :: items) hwhole (Nat.le_of_succ_le_succ hdepth) rfl (by omega)
    rw [chars]
    simp only [hchars, List.cons_append] at hread ⊢
    rw [readValue?_array _ _ hstart, hread]
    rfl
  | object [], _, _, _, _, hdepth, _, _ => by
    obtain ⟨less, rfl⟩ := Nat.exists_eq_add_of_le' (Nat.le_of_add_left_le hdepth)
    simp [chars, readValue?, skipSpace, isSpace]
  | object ((key, value) :: members), fuel, _, rest, hwhole, hdepth, hfuel, _ => by
    obtain ⟨less, rfl⟩ := Nat.exists_eq_add_of_le' (Nat.le_of_add_left_le hdepth)
    have hread : readMembers? fuel less
        (stringChars key ++ ':' :: value.chars ++ memberChars members ++ rest) =
          some ((key, value) :: members, rest) := by
      simp only [chars, List.cons_append, List.length_cons] at hfuel
      exact readMembers?_chars ((key, value) :: members) hwhole (Nat.le_of_succ_le_succ hdepth) rfl
        (by omega)
    simp only [List.append_assoc, List.cons_append, stringChars_append] at hread
    simp only [chars, List.append_assoc, List.cons_append, stringChars_append]
    rw [readValue?_object, hread]
    rfl
termination_by structural value => value

/-- The items of an array are read back, from the first one on. -/
theorem readItems?_chars : ∀ (items : List Json) {fuel depth : Nat} {cs rest : List Char},
    isWholeItems items = true → nestingItems items ≤ depth → itemChars items = ',' :: cs →
      2 * cs.length ≤ fuel → readItems? fuel depth (cs ++ rest) = some (items, rest)
  | [], _, _, _, _, _, _, hchars, _ => by cases hchars
  | [item], fuel, depth, cs, rest, hwhole, hdepth, hchars, hfuel => by
    obtain ⟨hitem, -⟩ := Bool.and_eq_true_iff.1 hwhole
    obtain rfl : item.chars ++ [']'] = cs := (List.cons.inj hchars).2
    rw [nestingItems] at hdepth
    rw [List.length_append, List.length_singleton] at hfuel
    obtain ⟨less, rfl⟩ : ∃ less, fuel = less + 2 := ⟨fuel - 2, by omega⟩
    rw [List.append_assoc]
    have hends : EndsNumber (']' :: rest) := endsNumber_cons (by decide) (by decide) rest
    exact readItems?_last (readValue?_chars item hitem (by omega) (by omega) hends)
  | item :: next :: items, fuel, depth, cs, rest, hwhole, hdepth, hchars, hfuel => by
    obtain ⟨hitem, hitems⟩ := Bool.and_eq_true_iff.1 hwhole
    obtain rfl : item.chars ++ ',' :: (next.chars ++ itemChars items) = cs :=
      (List.cons.inj hchars).2
    rw [nestingItems] at hdepth
    rw [List.length_append, List.length_cons] at hfuel
    obtain ⟨less, rfl⟩ : ∃ less, fuel = less + 2 := ⟨fuel - 2, by omega⟩
    have hread : readItems? (less + 1) depth (next.chars ++ itemChars items ++ rest) =
        some (next :: items, rest) :=
      readItems?_chars (next :: items) hitems (by omega) rfl (by omega)
    rw [List.append_assoc]
    have hends : EndsNumber (',' :: (next.chars ++ itemChars items ++ rest)) :=
      endsNumber_cons (by decide) (by decide) _
    exact readItems?_cons (readValue?_chars item hitem (by omega) (by omega) hends) hread
termination_by structural items => items

/-- The members of an object are read back, from the first one on. -/
theorem readMembers?_chars : ∀ (members : Members) {fuel depth : Nat} {cs rest : List Char},
    isWholeMembers members = true → nestingMembers members ≤ depth →
      memberChars members = ',' :: cs → 2 * cs.length ≤ fuel →
      readMembers? fuel depth (cs ++ rest) = some (members, rest)
  | [], _, _, _, _, _, _, hchars, _ => by cases hchars
  | [(key, value)], fuel, depth, cs, rest, hwhole, hdepth, hchars, hfuel => by
    obtain ⟨hvalue, -⟩ := Bool.and_eq_true_iff.1 hwhole
    obtain rfl : stringChars key ++ ':' :: value.chars ++ ['\x7d'] = cs :=
      (List.cons.inj hchars).2
    rw [nestingMembers] at hdepth
    simp only [List.length_append, List.length_cons, List.length_nil] at hfuel
    obtain ⟨less, rfl⟩ : ∃ less, fuel = less + 2 := ⟨fuel - 2, by omega⟩
    simp only [List.append_assoc, List.cons_append]
    have hends : EndsNumber ('\x7d' :: rest) := endsNumber_cons (by decide) (by decide) rest
    exact readMembers?_last (readValue?_chars value hvalue (by omega) (by omega) hends)
  | (key, value) :: next :: members, fuel, depth, cs, rest, hwhole, hdepth, hchars, hfuel => by
    obtain ⟨hvalue, hmembers⟩ := Bool.and_eq_true_iff.1 hwhole
    obtain ⟨more, hmore⟩ : ∃ more, memberChars (next :: members) = ',' :: more := ⟨_, rfl⟩
    obtain rfl : stringChars key ++ ':' :: value.chars ++ ',' :: more = cs := by
      rw [memberChars, hmore] at hchars
      exact (List.cons.inj hchars).2
    rw [nestingMembers] at hdepth
    simp only [List.length_append, List.length_cons] at hfuel
    obtain ⟨less, rfl⟩ : ∃ less, fuel = less + 2 := ⟨fuel - 2, by omega⟩
    have hread : readMembers? (less + 1) depth (more ++ rest) = some (next :: members, rest) :=
      readMembers?_chars (next :: members) hmembers (by omega) hmore (by omega)
    simp only [List.append_assoc, List.cons_append]
    have hends : EndsNumber (',' :: (more ++ rest)) := endsNumber_cons (by decide) (by decide) _
    exact readMembers?_cons (readValue?_chars value hvalue (by omega) (by omega) hends) hread
termination_by structural members => members

end

/-- The compact text of a value without real numbers is a document that holds it. -/
theorem readDocument?_text {value : Json} {limit : Nat} (hwhole : value.isWhole = true)
    (hdepth : value.nesting ≤ limit) : readDocument? value.text limit = some value := by
  have hends : EndsNumber [] := by
    rintro c ⟨⟩
  have hread : readValue? (2 * value.chars.length + 2) limit value.chars = some (value, []) := by
    have hvalue := readValue?_chars value hwhole hdepth
      (show 2 * value.chars.length ≤ 2 * value.chars.length + 1 by omega) hends
    rwa [List.append_nil] at hvalue
  simp only [readDocument?, text, String.toList_ofList, hread]
  rfl

/-! ## Objects of scalars -/

/-- Whether a value is a scalar without a fraction. -/
def isWholeScalar : Json → Bool
  | null => true
  | bool _ => true
  | number (.whole _) => true
  | number (.real _) => false
  | string _ => true
  | array _ => false
  | object _ => false

theorem isWholeScalar_facts {value : Json} (h : value.isWholeScalar = true) :
    value.isWhole = true ∧ value.nesting = 0 ∧ value.canonical = value := by
  match value with
  | null => exact ⟨rfl, rfl, rfl⟩
  | bool _ => exact ⟨rfl, rfl, rfl⟩
  | number (.whole _) => exact ⟨rfl, rfl, rfl⟩
  | string _ => exact ⟨rfl, rfl, rfl⟩

theorem members_of_scalars {members : Members}
    (h : ∀ member ∈ members, member.2.isWholeScalar = true) :
    isWholeMembers members = true ∧ nestingMembers members = 0 ∧
      canonicalMembers members = members := by
  induction members with
  | nil => exact ⟨rfl, rfl, rfl⟩
  | cons first rest ih =>
    obtain ⟨key, value⟩ := first
    obtain ⟨hfirst, hrest⟩ := List.forall_mem_cons.1 h
    obtain ⟨hwhole, hnesting, hcanonical⟩ := isWholeScalar_facts hfirst
    obtain ⟨hwholes, hnestings, hcanonicals⟩ := ih hrest
    refine ⟨?_, ?_, ?_⟩
    · rw [isWholeMembers, hwhole, hwholes]
      rfl
    · rw [nestingMembers, hnesting, hnestings]
      rfl
    · rw [canonicalMembers, hcanonical, hcanonicals]

/-- An object of scalars in canonical order is read back from its compact text. -/
theorem read?_text_object {members : Members} (hsorted : members.Sorted)
    (h : ∀ member ∈ members, member.2.isWholeScalar = true) :
    read? (object members).text = some (object members) := by
  obtain ⟨hwhole, hnesting, hcanonical⟩ := members_of_scalars h
  have hdepth : (object members).nesting ≤ nestingLimit := by
    rw [nesting, hnesting]
    decide
  have hdocument := readDocument?_text (show (object members).isWhole = true from hwhole) hdepth
  rw [read?, hdocument, Option.map_some, canonical, hcanonical, hsorted.ofList_eq]

end RelationPaging.Json
