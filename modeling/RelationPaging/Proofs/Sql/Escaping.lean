import RelationPaging.Proofs.Sql.Token

/-!
# Reading text with escapes

MySQL reads texts in single and in double quotes as other databases do, but it also takes a
backslash in them for the start of an escape: the backslash and the character after it stand for one
character, so that an escaped quote does not end the text.  Before `%` and `_` the backslash stays.
Names in backticks have no escapes.

`Escaping.tokens?` reads SQL text that way.  It agrees with `tokens?` as long as no backslash stands
in a text.  A text literal, which doubles quotes and nothing else, is read as the text exactly if
each backslash in the text is one that stays (`scan_inside_inert`, `head?_ne_of_not_isInert`).
-/

namespace RelationPaging.Sql

/-! ## Texts that have no escapes -/

/-- A text in which each backslash stands directly before `%` or `_`. -/
def IsInert (s : List Char) : Prop :=
  ∀ before after, s = before ++ '\\' :: after → after.head? = some '%' ∨ after.head? = some '_'

theorem isInert_nil : IsInert [] := by
  intro before after h
  simp at h

theorem isInert_cons_iff {c : Char} {s : List Char} :
    IsInert (c :: s) ↔ (c = '\\' → s.head? = some '%' ∨ s.head? = some '_') ∧ IsInert s := by
  constructor
  · intro h
    refine ⟨fun hc => h [] s (by rw [hc]; rfl), fun before after hs => ?_⟩
    exact h (c :: before) after (by rw [hs]; rfl)
  · rintro ⟨hfirst, hs⟩ before after heq
    cases before with
    | nil =>
      obtain ⟨rfl, rfl⟩ := List.cons.inj heq
      exact hfirst rfl
    | cons b before => exact hs before after (List.cons.inj heq).2

theorem isInert_cons_of_ne {c : Char} (hc : c ≠ '\\') {s : List Char} :
    IsInert (c :: s) ↔ IsInert s := by
  rw [isInert_cons_iff]
  exact ⟨fun h => h.2, fun h => ⟨fun heq => absurd heq hc, h⟩⟩

/-! ## Escapes -/

/-- Whether a backslash inside of a quote starts an escape. -/
def Quote.escapes : Quote → Bool
  | single => true
  | double => true
  | back => false

/-- What a backslash stands for together with the character after it. -/
def unescaped (c : Char) : List Char :=
  match c with
  | '0' => ['\x00']
  | 'b' => ['\x08']
  | 'n' => ['\n']
  | 'r' => ['\r']
  | 't' => ['\t']
  | 'Z' => ['\x1a']
  | '%' => ['\\', '%']
  | '_' => ['\\', '_']
  | c => [c]

/-- The escape that a character starts: the quote around it and what was read inside. -/
def Mode.escape? : Mode → Char → Option (Quote × List Char)
  | inside quote read, c => if quote.escapes && c = '\\' then some (quote, read) else none
  | _, _ => none

namespace Escaping

/-- Where the reader stands: where it would stand without escapes, or behind a backslash inside of
quotes. -/
inductive Mode where
  | plain (mode : Sql.Mode)
  | escape (quote : Quote) (read : List Char)
  deriving DecidableEq, Repr

namespace Mode

/-- One character further: the mode that follows and the tokens that are finished. -/
def next : Mode → Char → Mode × List Token
  | plain mode, c =>
    match mode.escape? c with
    | some (quote, read) => (escape quote read, [])
    | none => (plain (mode.next c).1, (mode.next c).2)
  | escape quote read, c => (plain (.inside quote (read ++ unescaped c)), [])

/-- The token that the end of the text finishes. -/
def atEnd : Mode → Option (List Token)
  | plain mode => mode.atEnd
  | escape _ _ => none

end Mode

/-- Reads a text from a given mode: the mode at the end and the tokens finished on the way. -/
def scan : Mode → List Char → Mode × List Token
  | mode, [] => (mode, [])
  | mode, c :: cs =>
    ((scan (mode.next c).1 cs).1, (mode.next c).2 ++ (scan (mode.next c).1 cs).2)

/-- The tokens of a text that is read from a given mode, unless it ends inside of quotes. -/
def tokensFrom? (mode : Mode) (cs : List Char) : Option (List Token) :=
  (scan mode cs).1.atEnd.map ((scan mode cs).2 ++ ·)

/-- The tokens of a text, unless it ends inside of quotes. -/
def tokens? (cs : List Char) : Option (List Token) :=
  tokensFrom? (.plain .between) cs

/-! ## Reading in parts -/

theorem scan_append (mode : Mode) (xs ys : List Char) :
    scan mode (xs ++ ys) =
      ((scan (scan mode xs).1 ys).1, (scan mode xs).2 ++ (scan (scan mode xs).1 ys).2) := by
  induction xs generalizing mode with
  | nil => rfl
  | cons x xs ih =>
    rw [List.cons_append, scan, ih]
    simp only [scan, List.append_assoc]

theorem tokensFrom?_cons (mode : Mode) (c : Char) (cs : List Char) :
    tokensFrom? mode (c :: cs) =
      (tokensFrom? (mode.next c).1 cs).map ((mode.next c).2 ++ ·) := by
  simp only [tokensFrom?, scan, Option.map_map]
  congr 1
  funext ts
  exact List.append_assoc ..

theorem tokensFrom?_append {mode mode' : Mode} {xs : List Char} {ts : List Token}
    (h : scan mode xs = (mode', ts)) (ys : List Char) :
    tokensFrom? mode (xs ++ ys) = (tokensFrom? mode' ys).map (ts ++ ·) := by
  simp only [tokensFrom?, scan_append, h, Option.map_map]
  congr 1
  funext us
  exact List.append_assoc ts _ us

/-- Where no escape starts, the reader does what it does without escapes. -/
theorem next_plain {mode : Sql.Mode} {c : Char} (h : mode.escape? c = none) :
    (Mode.plain mode).next c = (.plain (mode.next c).1, (mode.next c).2) := by
  rw [Mode.next, h]

theorem escape?_of_ne {c : Char} (h : c ≠ '\\') (mode : Sql.Mode) : mode.escape? c = none := by
  cases mode <;> simp [Sql.Mode.escape?, h]

/-- Without a backslash, escapes make no difference. -/
theorem scan_plain {mode : Sql.Mode} {cs : List Char} (h : '\\' ∉ cs) :
    scan (.plain mode) cs = (.plain (Sql.scan mode cs).1, (Sql.scan mode cs).2) := by
  induction cs generalizing mode with
  | nil => rfl
  | cons c cs ih =>
    obtain ⟨hc, hcs⟩ := List.ne_and_not_mem_of_not_mem_cons h
    rw [scan, next_plain (escape?_of_ne (Ne.symm hc) mode), ih hcs]
    rfl

/-! ## Texts that are read as they are -/

/-- A text with its quotes doubled. -/
def doubled (quote : Quote) (s : List Char) : List Char :=
  s.flatMap fun c => if c = quote.char then [quote.char, quote.char] else [c]

theorem doubled_cons (quote : Quote) (c : Char) (s : List Char) :
    doubled quote (c :: s) = doubled quote [c] ++ doubled quote s := by
  simp [doubled]

/-- A character that starts no escape is read as it is. -/
theorem scan_inside_one {quote : Quote} {read : List Char} {c : Char}
    (h : (Sql.Mode.inside quote read).escape? c = none) :
    scan (.plain (.inside quote read)) (doubled quote [c]) =
      (.plain (.inside quote (read ++ [c])), []) := by
  by_cases hc : c = quote.char
  · subst hc
    have hbehind : (Sql.Mode.behind quote read).escape? quote.char = none := rfl
    simp [doubled, scan, next_plain h, next_plain hbehind, Sql.Mode.next]
  · simp [doubled, hc, scan, next_plain h, Sql.Mode.next]

/-- In backticks there are no escapes. -/
theorem scan_inside_back (read content : List Char) :
    scan (.plain (.inside .back read)) (doubled .back content) =
      (.plain (.inside .back (read ++ content)), []) := by
  induction content generalizing read with
  | nil => simp [doubled, scan]
  | cons c content ih =>
    have hplain : (Sql.Mode.inside .back read).escape? c = none := rfl
    have hone : scan _ _ = _ := scan_inside_one hplain
    rw [doubled_cons, scan_append, hone, ih]
    simp

/-- Before `%` and `_` a backslash stays. -/
theorem scan_inside_kept (read : List Char) {c : Char} (h : c = '%' ∨ c = '_') :
    scan (.plain (.inside .single read)) (doubled .single ['\\', c]) =
      (.plain (.inside .single (read ++ ['\\', c])), []) := by
  rcases h with rfl | rfl <;> rfl

/-- A text without escapes is read as it is. -/
theorem scan_inside_inert (read : List Char) {content : List Char} (h : IsInert content) :
    scan (.plain (.inside .single read)) (doubled .single content) =
      (.plain (.inside .single (read ++ content)), []) := by
  induction hlength : content.length using Nat.strongRecOn generalizing read content with
  | ind length ih =>
    cases content with
    | nil => simp [doubled, scan]
    | cons c content =>
      rw [List.length_cons] at hlength
      obtain ⟨hfirst, hrest⟩ := isInert_cons_iff.1 h
      by_cases hc : c = '\\'
      · subst hc
        -- the backslash and the character behind it are read together
        obtain ⟨d, rest, rfl, hd⟩ : ∃ d rest, content = d :: rest ∧ (d = '%' ∨ d = '_') := by
          cases content with
          | nil => simp at hfirst
          | cons d rest => exact ⟨d, rest, rfl, by simpa using hfirst⟩
        rw [List.length_cons] at hlength
        have hinert : IsInert rest := (isInert_cons_iff.1 hrest).2
        have hsplit : doubled .single ('\\' :: d :: rest) =
            doubled .single ['\\', d] ++ doubled .single rest := by
          rw [doubled_cons, doubled_cons .single d rest, doubled_cons .single '\\' [d],
            List.append_assoc]
        rw [hsplit, scan_append, scan_inside_kept read hd, ih rest.length (by omega) _ hinert rfl]
        simp
      · have hone : scan _ _ = _ := scan_inside_one (escape?_of_ne hc (.inside .single read))
        rw [doubled_cons, scan_append, hone, ih content.length (by omega) _ hrest rfl]
        simp

/-! ## Texts that are read otherwise -/

/-- The modes in which a quoted part was begun and is not finished. -/
def Mode.Reads (quote : Quote) (read : List Char) (mode : Mode) : Prop :=
  mode = plain (.inside quote read) ∨ mode = plain (.behind quote read) ∨ mode = escape quote read

/-- One character further, a quoted part is finished or has more content. -/
theorem Mode.Reads.next {quote : Quote} {read : List Char} {mode : Mode}
    (h : mode.Reads quote read) (c : Char) :
    (∃ more, (mode.next c).2 = .quoted quote read :: more) ∨
      (mode.next c).2 = [] ∧ ∃ content, (mode.next c).1.Reads quote (read ++ content) := by
  rcases h with rfl | rfl | rfl
  · refine .inr ?_
    cases hescape : (Sql.Mode.inside quote read).escape? c with
    | some found =>
      obtain rfl : (quote, read) = found := by
        simp only [Sql.Mode.escape?] at hescape
        split at hescape
        · exact Option.some.inj hescape
        · cases hescape
      rw [Mode.next, hescape]
      exact ⟨rfl, [], .inr (.inr (by rw [List.append_nil]))⟩
    | none =>
      rw [next_plain hescape]
      by_cases hc : c = quote.char
      · rw [Sql.Mode.next, if_pos hc]
        exact ⟨rfl, [], .inr (.inl (by rw [List.append_nil]))⟩
      · rw [Sql.Mode.next, if_neg hc]
        exact ⟨rfl, [c], .inl rfl⟩
  · rw [next_plain (show (Sql.Mode.behind quote read).escape? c = none from rfl), Sql.Mode.next]
    by_cases hc : c = quote.char
    · rw [if_pos hc]
      exact .inr ⟨rfl, [c], .inl rfl⟩
    · rw [if_neg hc]
      exact .inl ⟨_, rfl⟩
  · exact .inr ⟨rfl, unescaped c, .inl rfl⟩

/-- What was read inside of quotes is the start of the text that is finished next. -/
theorem Mode.Reads.exists_quoted {quote : Quote} {read cs : List Char} {mode : Mode}
    {ts : List Token} (hmode : mode.Reads quote read) (h : tokensFrom? mode cs = some ts) :
    ∃ content more, ts = .quoted quote (read ++ content) :: more := by
  induction cs generalizing read mode ts with
  | nil =>
    rcases hmode with rfl | rfl | rfl
    · cases h
    · cases h
      exact ⟨[], [], by rw [List.append_nil]; rfl⟩
    · cases h
  | cons c cs ih =>
    rw [tokensFrom?_cons] at h
    obtain ⟨us, hus, rfl⟩ := Option.map_eq_some_iff.1 h
    rcases hmode.next c with ⟨more, hmore⟩ | ⟨hnone, content, hreads⟩
    · rw [hmore]
      exact ⟨[], more ++ us, by rw [List.append_nil]; rfl⟩
    · obtain ⟨content', more, rfl⟩ := ih hreads hus
      rw [hnone]
      exact ⟨content ++ content', more, by rw [← List.append_assoc]; rfl⟩

/-- A backslash and another character than `%` and `_` stand for one character, which is a backslash
only if the character is one. -/
theorem exists_unescaped_eq {c : Char} (h : ¬ (c = '%' ∨ c = '_')) :
    ∃ d, unescaped c = [d] ∧ (d = '\\' → c = '\\') := by
  unfold unescaped
  split
  all_goals first
    | exact absurd (.inl rfl) h
    | exact absurd (.inr rfl) h
    | exact ⟨_, rfl, by decide⟩
    | exact ⟨_, rfl, id⟩

/-- What was read inside of quotes does not become another text. -/
theorem Mode.Reads.head?_ne {quote : Quote} {read content other cs : List Char} {mode : Mode}
    {ts : List Token} (hmode : mode.Reads quote (read ++ content))
    (h : tokensFrom? mode cs = some ts) (hne : ¬ content <+: other) :
    ts.head? ≠ some (.quoted quote (read ++ other)) := by
  obtain ⟨more, us, rfl⟩ := hmode.exists_quoted h
  intro heq
  have hcontent : read ++ content ++ more = read ++ other := by
    simpa using heq
  rw [List.append_assoc, List.append_cancel_left_eq] at hcontent
  exact hne ⟨more, hcontent⟩

theorem replicate_append_cons {α : Type} (n : Nat) (a : α) (xs : List α) :
    List.replicate n a ++ a :: xs = a :: (List.replicate n a ++ xs) := by
  induction n with
  | zero => rfl
  | succ n ih => rw [List.replicate_succ, List.cons_append, ih, List.cons_append]

/-- A quote that is not doubled ends a text. -/
theorem head?_of_closing {read tail : List Char} (htail : tail.head? ≠ some '\'') {ts : List Token}
    (h : tokensFrom? (.plain (.inside .single read)) ('\'' :: tail) = some ts) :
    ts.head? = some (.quoted .single read) := by
  have hclosing : (Mode.plain (.inside .single read)).next '\'' =
      (.plain (.behind .single read), []) := rfl
  rw [tokensFrom?_cons, hclosing] at h
  obtain ⟨us, hus, rfl⟩ := Option.map_eq_some_iff.1 h
  cases tail with
  | nil =>
    cases hus
    rfl
  | cons c tail =>
    have hc : c ≠ Quote.single.char := fun heq => htail (by rw [heq]; rfl)
    have hnext : (Mode.plain (.behind .single read)).next c =
        (.plain (Sql.Mode.start c).1, .quoted .single read :: (Sql.Mode.start c).2) := by
      rw [next_plain rfl, Sql.Mode.next, if_neg hc]
    rw [tokensFrom?_cons, hnext] at hus
    obtain ⟨vs, -, rfl⟩ := Option.map_eq_some_iff.1 hus
    rfl

/-- A character that is no backslash is read as it is. -/
theorem tokensFrom?_doubled_cons {c : Char} (hc : c ≠ '\\') (read content tail : List Char) :
    tokensFrom? (.plain (.inside .single read)) (doubled .single (c :: content) ++ tail) =
      tokensFrom? (.plain (.inside .single (read ++ [c]))) (doubled .single content ++ tail) := by
  have hone : scan _ _ = _ := scan_inside_one (escape?_of_ne hc (.inside .single read))
  rw [doubled_cons, List.append_assoc, tokensFrom?_append hone]
  simp only [List.nil_append, Option.map_id_fun', id_eq]

/-- A backslash is read together with the character behind it. -/
theorem tokensFrom?_backslash (read : List Char) (c : Char) (cs : List Char) :
    tokensFrom? (.plain (.inside .single read)) ('\\' :: c :: cs) =
      tokensFrom? (.plain (.inside .single (read ++ unescaped c))) cs := by
  have hstart : (Mode.plain (.inside .single read)).next '\\' = (.escape .single read, []) := rfl
  rw [tokensFrom?_cons, hstart, tokensFrom?_cons, Mode.next]
  simp only [List.nil_append, Option.map_id_fun', id_eq]

/-- The backslash that is the last character of a text escapes the quote behind the text. -/
theorem tokensFrom?_doubled_backslash (read tail : List Char) :
    tokensFrom? (.plain (.inside .single read)) (doubled .single ['\\'] ++ '\'' :: tail) =
      tokensFrom? (.plain (.inside .single (read ++ ['\'']))) tail :=
  tokensFrom?_backslash read '\'' tail

/-- A backslash inside of a text is read together with the character behind it.  If that is a quote,
then the second quote that doubles it is left. -/
theorem exists_tokensFrom?_doubled (read : List Char) (c : Char) (content tail : List Char) :
    ∃ rest, tokensFrom? (.plain (.inside .single read))
        (doubled .single ('\\' :: c :: content) ++ tail) =
          tokensFrom? (.plain (.inside .single (read ++ unescaped c))) rest ∧
      (c ≠ '\'' → rest = doubled .single content ++ tail) := by
  have hbackslash : doubled .single ['\\'] = ['\\'] := rfl
  rw [doubled_cons .single '\\', hbackslash, doubled_cons]
  by_cases hc : c = '\''
  · subst hc
    exact ⟨'\'' :: (doubled .single content ++ tail), tokensFrom?_backslash read '\'' _,
      fun hne => absurd rfl hne⟩
  · have hsingle : doubled .single [c] = [c] := by
      simp [doubled, Quote.char, hc]
    rw [hsingle]
    exact ⟨doubled .single content ++ tail, tokensFrom?_backslash read c _, fun _ => rfl⟩

/-- Where two backslashes are expected, a backslash and another character stand for something
else. -/
theorem not_isPrefix_unescaped {c : Char} (hc : c ≠ '\\') (n : Nat) (rest : List Char) :
    ¬ unescaped c <+: '\\' :: (List.replicate n '\\' ++ '\\' :: rest) := by
  by_cases hkept : c = '%' ∨ c = '_'
  · have hunescaped : unescaped c = ['\\', c] := by rcases hkept with rfl | rfl <;> rfl
    rw [hunescaped, replicate_append_cons]
    simp [hc]
  · obtain ⟨d, hunescaped, hd⟩ := exists_unescaped_eq hkept
    have hne : d ≠ '\\' := fun heq => hc (hd heq)
    rw [hunescaped]
    simp [hne]

/-- Backslashes that are missing stay missing: as soon as more are expected than what is left of a
text begins with, it is read otherwise.  Each pair of backslashes is read as one, so that still more
are missing behind it. -/
theorem head?_ne_of_missing {content tail : List Char} (htail : tail.head? ≠ some '\'') {n : Nat}
    {read : List Char} {ts : List Token}
    (hts : tokensFrom? (.plain (.inside .single read)) (doubled .single content ++ '\'' :: tail) =
      some ts) :
    ts.head? ≠ some (.quoted .single (read ++ '\\' :: (List.replicate n '\\' ++ content))) := by
  induction hlength : content.length using Nat.strongRecOn generalizing content read n with
  | ind length ih =>
    cases content with
    | nil =>
      rw [head?_of_closing htail hts]
      simp
    | cons c content =>
      by_cases hc : c = '\\'
      · subst hc
        cases content with
        | nil =>
          rw [tokensFrom?_doubled_backslash] at hts
          exact Mode.Reads.head?_ne (.inl rfl) hts (by simp)
        | cons d content =>
          obtain ⟨rest, hread, hrest⟩ := exists_tokensFrom?_doubled read d content ('\'' :: tail)
          rw [hread] at hts
          by_cases hd : d = '\\'
          · subst hd
            have hshorter : content.length < length := by
              simp only [List.length_cons] at hlength
              omega
            rw [hrest (by decide)] at hts
            have hne : ts.head? ≠ some (.quoted .single (read ++ ['\\'] ++
                '\\' :: (List.replicate (n + 1) '\\' ++ content))) :=
              ih content.length hshorter hts rfl
            rw [replicate_append_cons, replicate_append_cons]
            simpa [List.replicate_succ] using hne
          · exact Mode.Reads.head?_ne (.inl rfl) hts (not_isPrefix_unescaped hd n _)
      · rw [tokensFrom?_doubled_cons hc] at hts
        exact Mode.Reads.head?_ne (.inl rfl) hts (by simp [hc])

/-- **A text that has escapes is read otherwise.**  Up to the first escape it is read as it is.  The
escape stands for one character; only if that is a backslash, it is the right one, and then one
backslash is missing behind it. -/
theorem head?_ne_of_not_isInert {content tail : List Char} (htail : tail.head? ≠ some '\'')
    (h : ¬ IsInert content) {read : List Char} {ts : List Token}
    (hts : tokensFrom? (.plain (.inside .single read)) (doubled .single content ++ '\'' :: tail) =
      some ts) :
    ts.head? ≠ some (.quoted .single (read ++ content)) := by
  induction hlength : content.length using Nat.strongRecOn generalizing content read with
  | ind length ih =>
    cases content with
    | nil => exact absurd isInert_nil h
    | cons c content =>
      rw [List.length_cons] at hlength
      by_cases hc : c = '\\'
      · subst hc
        cases content with
        | nil =>
          rw [tokensFrom?_doubled_backslash] at hts
          exact Mode.Reads.head?_ne (.inl rfl) hts (by simp)
        | cons d content =>
          obtain ⟨rest, hread, hrest⟩ := exists_tokensFrom?_doubled read d content ('\'' :: tail)
          rw [hread] at hts
          by_cases hkept : d = '%' ∨ d = '_'
          · have hunescaped : unescaped d = ['\\', d] := by rcases hkept with rfl | rfl <;> rfl
            have hd : d ≠ '\\' ∧ d ≠ '\'' := by rcases hkept with rfl | rfl <;> decide
            have hinert : ¬ IsInert content := by
              intro hinert
              refine h (isInert_cons_iff.2 ⟨fun _ => ?_, (isInert_cons_of_ne hd.1).2 hinert⟩)
              simpa using hkept
            have hshorter : content.length < length := by
              rw [List.length_cons] at hlength
              omega
            rw [hrest hd.2, hunescaped] at hts
            have hne : ts.head? ≠ _ := ih content.length hshorter hinert hts rfl
            simpa using hne
          · by_cases hd : d = '\\'
            · subst hd
              rw [hrest (by decide)] at hts
              have hne : ts.head? ≠ _ := head?_ne_of_missing (n := 0) htail hts
              simpa [unescaped] using hne
            · obtain ⟨e, hunescaped, he⟩ := exists_unescaped_eq hkept
              have hne : e ≠ '\\' := fun heq => hd (he heq)
              rw [hunescaped] at hts
              exact Mode.Reads.head?_ne (.inl rfl) hts (by simp [hne])
      · have hinert : ¬ IsInert content := fun hinert => h ((isInert_cons_of_ne hc).2 hinert)
        rw [tokensFrom?_doubled_cons hc] at hts
        have hne : ts.head? ≠ _ := ih content.length (by omega) hinert hts rfl
        simpa using hne

end Escaping

end RelationPaging.Sql
