import RelationPaging.Json.Writer
import RelationPaging.Toml.Reader

/-!
# Settings written and read back

A document that makes one setting is a bare key, an equals sign, and a basic text between quotes.
`Toml.assignment` writes it for any text at all, and `Toml.read?_assignment` says that the reader
finds the key and the text in it and nothing else.

Inside the quotes, characters are escaped as they are in a JSON string.  The one difference is the
delete character, which may stand for itself in JSON and may not in TOML.
-/

namespace RelationPaging.Toml

/-! ## Writing -/

/-- The form of a character inside a basic text. -/
def escaped (c : Char) : List Char :=
  if c = '\x7f' then ['\\', 'u', '0', '0', '7', 'f'] else Json.escaped c

/-- A basic text between quotes. -/
def basicText (s : String) : List Char :=
  '"' :: s.toList.flatMap escaped ++ ['"']

/-- The document that makes one setting. -/
def assignment (key s : String) : String :=
  String.ofList (key.toList ++ ' ' :: '=' :: ' ' :: basicText s)

/-- A key that may stand without quotes. -/
structure IsBareKey (key : String) : Prop where
  nonempty : key.toList ≠ []
  bare : ∀ c ∈ key.toList, isBareKeyChar c = true

/-! ## Reading a basic text back -/

theorem readEscape?_codePoint {a b c d : Char} {n : Nat} (hvalue : hexValue? [a, b, c, d] = some n)
    (hvalid : n.isValidChar) (rest : List Char) :
    readEscape? ('u' :: a :: b :: c :: d :: rest) = some (Char.ofNat n, rest) := by
  rw [readEscape?, readCodePoint?, if_neg (by simp)]
  simp [hvalue, hvalid]

theorem hexValue?_control : ∀ n < 0x20,
    hexValue? ('0' :: '0' :: Json.twoHexDigits n) = some n := by
  decide

/-- A character is written as it is, or as a backslash and what is read as an escape for it. -/
theorem escaped_cases (c : Char) :
    (escaped c = [c] ∧ c ≠ '"' ∧ c ≠ '\\' ∧ isPlain c = true) ∨
      ∃ form, escaped c = '\\' :: form ∧
        ∀ rest, readEscape? (form ++ rest) = some (c, rest) := by
  unfold escaped
  split
  · next hdelete =>
    rw [hdelete]
    exact .inr ⟨_, rfl, readEscape?_codePoint (by decide) (by decide)⟩
  · next hdelete =>
    unfold Json.escaped
    split
    · exact .inr ⟨_, rfl, fun _ => rfl⟩
    · exact .inr ⟨_, rfl, fun _ => rfl⟩
    · exact .inr ⟨_, rfl, fun _ => rfl⟩
    · exact .inr ⟨_, rfl, fun _ => rfl⟩
    · exact .inr ⟨_, rfl, fun _ => rfl⟩
    · exact .inr ⟨_, rfl, fun _ => rfl⟩
    · exact .inr ⟨_, rfl, fun _ => rfl⟩
    · next hquote hbackslash _ _ _ _ _ =>
      by_cases hcontrol : c.toNat < 0x20
      · refine .inr ⟨_, if_pos hcontrol, fun rest => ?_⟩
        have hescape := readEscape?_codePoint (hexValue?_control c.toNat hcontrol)
          (.inl (by omega)) rest
        rwa [Char.ofNat_toNat] at hescape
      · have hne : c.toNat ≠ 0x7f := fun h => hdelete (Char.toNat_inj.1 h)
        have hplain : isPlain c = true := by
          simp only [isPlain, Bool.or_eq_true, Bool.and_eq_true, decide_eq_true_eq, bne_iff_ne]
          exact .inr ⟨by omega, hne⟩
        exact .inl ⟨if_neg hcontrol, hquote, hbackslash, hplain⟩

/-- Inside a basic text, the form of a character is read as the character. -/
theorem readBasic?_escaped (fuel : Nat) (c : Char) (cs : List Char) :
    readBasic? (fuel + 1) (escaped c ++ cs) = consText c (readBasic? fuel cs) := by
  rcases escaped_cases c with ⟨heq, hquote, hbackslash, hplain⟩ | ⟨form, heq, hread⟩
  · rw [heq, List.singleton_append, readBasic?]
    · rw [if_pos hplain]
    · exact hquote
    · exact hbackslash
  · rw [heq, List.cons_append]
    simp only [readBasic?, hread]

theorem readBasic?_flatMap_escaped {cs : List Char} {fuel : Nat} (hfuel : cs.length < fuel)
    (rest : List Char) :
    readBasic? fuel (cs.flatMap escaped ++ '"' :: rest) = some (cs, rest) := by
  induction cs generalizing fuel with
  | nil =>
    obtain ⟨fuel, rfl⟩ := Nat.exists_eq_add_of_lt hfuel
    rfl
  | cons c cs ih =>
    obtain ⟨fuel, rfl⟩ : ∃ less, fuel = less + 1 := ⟨fuel - 1, by omega⟩
    rw [List.length_cons] at hfuel
    rw [List.flatMap_cons, List.append_assoc, readBasic?_escaped, ih (by omega)]
    rfl

/-- No form of a character starts with a quote. -/
theorem exists_escaped_eq (c : Char) : ∃ d ds, escaped c = d :: ds ∧ d ≠ '"' := by
  rcases escaped_cases c with ⟨heq, hquote, -, -⟩ | ⟨form, heq, -⟩
  · exact ⟨c, [], heq, hquote⟩
  · exact ⟨'\\', form, heq, by decide⟩

theorem length_le_length_flatMap_escaped (cs : List Char) :
    cs.length ≤ (cs.flatMap escaped).length := by
  induction cs with
  | nil => exact Nat.le_refl _
  | cons c cs ih =>
    obtain ⟨d, ds, heq, -⟩ := exists_escaped_eq c
    rw [List.flatMap_cons, List.length_append, heq, List.length_cons, List.length_cons]
    omega

/-- A quote that does not open a text on several lines opens one on a single line. -/
theorem readText?_quote {cs : List Char} (h : ∀ rest, cs ≠ '"' :: '"' :: rest) :
    readText? ('"' :: cs) = readBasic? (cs.length + 1) cs := by
  rw [readText?]
  exact h

theorem readText?_basicText (s : String) : readText? (basicText s) = some (s.toList, []) := by
  have hsingle : ∀ rest, s.toList.flatMap escaped ++ ['"'] ≠ '"' :: '"' :: rest := by
    intro rest heq
    cases hs : s.toList with
    | nil =>
      rw [hs] at heq
      cases heq
    | cons c cs =>
      obtain ⟨d, ds, hform, hd⟩ := exists_escaped_eq c
      rw [hs, List.flatMap_cons, hform] at heq
      exact hd (List.cons.inj heq).1
  have hfuel : s.toList.length < (s.toList.flatMap escaped ++ ['"']).length + 1 := by
    have hlength := length_le_length_flatMap_escaped s.toList
    rw [List.length_append]
    omega
  rw [basicText, List.cons_append, readText?_quote hsingle]
  exact readBasic?_flatMap_escaped hfuel []

/-! ## Reading the setting back -/

section

variable {c : Char} {cs : List Char}

theorem skipBlanks_cons (h : isBlankChar c = false) : skipBlanks (c :: cs) = c :: cs :=
  List.dropWhile_cons_of_neg (by rw [h]; exact Bool.false_ne_true)

/-- A bare key starts with a character of its own. -/
theorem ne_of_isBareKeyChar (h : isBareKeyChar c = true) {d : Char}
    (hd : isBareKeyChar d = false) : c ≠ d := by
  rintro rfl
  rw [h] at hd
  cases hd

theorem isBlankChar_of_isBareKeyChar (h : isBareKeyChar c = true) : isBlankChar c = false := by
  have hspace : c ≠ ' ' := ne_of_isBareKeyChar h (by decide)
  have htab : c ≠ '\t' := ne_of_isBareKeyChar h (by decide)
  simp [isBlankChar, hspace, htab]

/-- Nothing is passed over in front of a bare key. -/
theorem skipGap_of_isBareKeyChar (h : isBareKeyChar c = true) : skipGap (c :: cs) = c :: cs := by
  have hcomment : skipComment (c :: cs) = c :: cs := by
    rw [skipComment]
    exact fun _ heq => ne_of_isBareKeyChar h (by decide) (List.cons.inj heq).1
  have hnewline : takeNewline? (c :: cs) = none := by
    rw [takeNewline?]
    · exact fun _ heq => ne_of_isBareKeyChar h (by decide) (List.cons.inj heq).1
    · exact fun _ heq => ne_of_isBareKeyChar h (by decide) (List.cons.inj heq).1
  rw [skipGap, List.length_cons, skipLines, skipBlanks_cons (isBlankChar_of_isBareKeyChar h)]
  simp only [hcomment, hnewline]

end

variable {key : String}

/-- A bare key has a first character, and all of its characters may stand without quotes. -/
theorem IsBareKey.exists_toList_eq (hkey : IsBareKey key) :
    ∃ c cs, key.toList = c :: cs ∧ isBareKeyChar c = true := by
  obtain ⟨c, cs, hchars⟩ := List.exists_cons_of_ne_nil hkey.nonempty
  exact ⟨c, cs, hchars, hkey.bare c (hchars ▸ List.mem_cons_self)⟩

theorem readKey?_bare (hkey : IsBareKey key) (rest : List Char) :
    readKey? (key.toList ++ ' ' :: rest) = some (key, ' ' :: rest) := by
  have htake : (key.toList ++ ' ' :: rest).takeWhile isBareKeyChar = key.toList := by
    rw [List.takeWhile_append_of_pos hkey.bare, List.takeWhile_cons_of_neg (by decide),
      List.append_nil]
  have hdrop : (key.toList ++ ' ' :: rest).drop key.toList.length = ' ' :: rest :=
    List.drop_left
  obtain ⟨c, cs, hchars, hfirst⟩ := hkey.exists_toList_eq
  rw [hchars] at htake hdrop ⊢
  rw [List.cons_append, readKey?]
  · rw [← List.cons_append, htake]
    show some (String.ofList (c :: cs), _) = _
    rw [hdrop, ← hchars, String.ofList_toList]
  · exact fun _ heq => ne_of_isBareKeyChar hfirst (by decide) (List.cons.inj heq).1
  · exact fun _ heq => ne_of_isBareKeyChar hfirst (by decide) (List.cons.inj heq).1

theorem skipBlanks_bare (hkey : IsBareKey key) (rest : List Char) :
    skipBlanks (key.toList ++ rest) = key.toList ++ rest := by
  obtain ⟨c, cs, hchars, hfirst⟩ := hkey.exists_toList_eq
  rw [hchars, List.cons_append, skipBlanks_cons (isBlankChar_of_isBareKeyChar hfirst)]

theorem readPath?_bare (hkey : IsBareKey key) (fuel : Nat) (rest : List Char) :
    readPath? (fuel + 1) (key.toList ++ ' ' :: '=' :: rest) = some (⟨[], key⟩, '=' :: rest) := by
  rw [readPath?, skipBlanks_bare hkey, readKey?_bare hkey]
  rfl

theorem readAssignment?_bare (hkey : IsBareKey key) (s : String) :
    readAssignment? skipBlanks (key.toList ++ ' ' :: '=' :: ' ' :: basicText s) =
      some (⟨[], key⟩, basicText s) := by
  rw [readAssignment?, readPath?_bare hkey]
  rfl

theorem readValue?_basicText (fuel : Nat) (s : String) :
    readValue? (fuel + 1) (basicText s) = some (.text s, []) := by
  have htext := readText?_basicText s
  rw [basicText, List.cons_append] at htext ⊢
  rw [readValue?]
  · simp only [htext, Option.map_some, String.ofList_toList]
  · rintro _ ⟨⟩
  · rintro _ ⟨⟩

theorem readLines?_assignment (hkey : IsBareKey key) (fuel : Nat) (s : String) :
    readLines? (fuel + 2) [] none (key.toList ++ ' ' :: '=' :: ' ' :: basicText s) =
      some [(key, .text s)] := by
  have hassignment := readAssignment?_bare hkey s
  obtain ⟨c, cs, hchars, hfirst⟩ := hkey.exists_toList_eq
  rw [hchars, List.cons_append] at hassignment ⊢
  have hheader : c ≠ '[' := ne_of_isBareKeyChar hfirst (by decide)
  rw [readLines?, skipGap_of_isBareKeyChar hfirst]
  split
  · next hnil => cases hnil
  · next heq => exact absurd (List.cons.inj heq).1 hheader
  · simp only [hassignment, readValue?_basicText]
    rfl

/-- **A setting is read back.**  Whatever the text is, the document that makes it a setting holds
this setting and no other. -/
theorem read?_assignment (hkey : IsBareKey key) (s : String) :
    read? (assignment key s) = some [(key, .text s)] := by
  obtain ⟨c, cs, hchars, hfirst⟩ := hkey.exists_toList_eq
  have hmark : c ≠ '\uFEFF' := ne_of_isBareKeyChar hfirst (by decide)
  have hdocument : (assignment key s).toList =
      key.toList ++ ' ' :: '=' :: ' ' :: basicText s :=
    String.toList_ofList
  have hread : read? (assignment key s) = readLines? ((assignment key s).toList.length + 1) [] none
      (assignment key s).toList := by
    unfold read?
    split
    · next heq =>
      rw [hdocument, hchars] at heq
      exact absurd (List.cons.inj heq).1 hmark
    · rfl
  obtain ⟨fuel, hfuel⟩ : ∃ fuel, (assignment key s).toList.length + 1 = fuel + 2 := by
    rw [hdocument, hchars]
    exact ⟨_, rfl⟩
  rw [hread, hfuel, hdocument, readLines?_assignment hkey]

end RelationPaging.Toml
