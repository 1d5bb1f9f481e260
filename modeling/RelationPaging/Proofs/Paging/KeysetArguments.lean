import RelationPaging.Proofs.Cursor.Columns
import RelationPaging.Proofs.Paging.Argument
import RelationPaging.Proofs.Paging.Interpreters
import RelationPaging.Proofs.Sql.Generated

/-!
# Which arguments page by keyset

The interpreter of keyset paging, argument by argument: which arguments it accepts, and the decision
it makes on them (`Dialect.interpretKeyset_decides`).  `first` and `last` are the same up to names,
so that the window is described once, at an end of the page (`keysetWindow_some_eq_ok_iff`), and the
theorem says it for both ends.

The columns of a cursor are the declared ones, in any order; the columns of the decision are the
cased ones, in the order of the key.
-/

namespace RelationPaging

/-! ## Keys in cursors -/

/-- A cursor of an object that has exactly the given columns as its keys and binds them to the given
scalars. -/
def Cursor.HoldsKey (cursor : String) (columns : List String) (scalars : List Scalar) : Prop :=
  ∃ members, HoldsObject cursor members ∧ members.BindsExactly columns (scalars.map Scalar.json)

theorem Cursor.HoldsKey.length_eq {cursor : String} {columns : List String}
    {scalars : List Scalar} (h : HoldsKey cursor columns scalars) :
    columns.length = scalars.length := by
  obtain ⟨members, -, hbinds⟩ := h
  have hlength := congrArg List.length hbinds.values
  simpa using hlength

namespace Arguments

variable {arguments : Arguments}

instance (name : String) : Decidable (arguments.IsAbsent name) :=
  inferInstanceAs (Decidable (arguments.get? name = none ∨ arguments.get? name = some .null))

/-- An argument that says where a page starts: at the first row, if it is absent, or behind the key
of a cursor. -/
inductive Starts (arguments : Arguments) (name : String) (columns : List String) :
    Option (List Scalar) → Prop
  | first (h : arguments.IsAbsent name) : Starts arguments name columns none
  | behind {cursor : String} {scalars : List Scalar} (hcursor : arguments.HoldsText name cursor)
    (hkey : Cursor.HoldsKey cursor columns scalars) : Starts arguments name columns (some scalars)

/-! ## Ends of the page -/

/-- Without counts there is no end at which a page is cut. -/
theorem pageEnd_eq_none_iff :
    arguments.pageEnd = .ok none ↔ arguments.IsAbsent "first" ∧ arguments.IsAbsent "last" := by
  simp only [pageEnd, Except.bind_eq_ok_iff, ← count_eq_none_iff]
  constructor
  · rintro ⟨first, hfirst, last, hlast, h⟩
    cases first with
    | some n => cases last <;> cases h
    | none =>
      cases last with
      | some n => cases h
      | none => exact ⟨hfirst, hlast⟩
  · rintro ⟨hfirst, hlast⟩
    exact ⟨none, hfirst, none, hlast, rfl⟩

/-- A page is cut at the end that is counted from, if the other one is not. -/
theorem pageEnd_eq_some_iff {pageEnd : PageEnd} :
    arguments.pageEnd = .ok (some pageEnd) ↔
      arguments.HoldsCount pageEnd.countName pageEnd.rows ∧
        arguments.IsAbsent (if pageEnd.backward then "first" else "last") := by
  simp only [Arguments.pageEnd, Except.bind_eq_ok_iff, ← count_eq_none_iff, ← count_eq_some_iff]
  constructor
  · rintro ⟨first, hfirst, last, hlast, h⟩
    cases first with
    | some n =>
      cases last with
      | some m => cases h
      | none =>
        cases h
        exact ⟨hfirst, hlast⟩
    | none =>
      cases last with
      | none => cases h
      | some n =>
        cases h
        exact ⟨hlast, hfirst⟩
  · obtain ⟨n, backward⟩ := pageEnd
    rintro ⟨hcount, hother⟩
    cases backward with
    | false => exact ⟨some n, hcount, none, hother, rfl⟩
    | true => exact ⟨none, hother, some n, hcount, rfl⟩

/-- A count at either end is the one of the page. -/
theorem eq_rows_of_holdsCount {pageEnd : PageEnd} {n : UInt64}
    (h : arguments.HoldsCount "first" n ∨ arguments.HoldsCount "last" n)
    (hend : arguments.pageEnd = .ok (some pageEnd)) : n = pageEnd.rows := by
  obtain ⟨hcount, hother⟩ := pageEnd_eq_some_iff.1 hend
  obtain ⟨rows, backward⟩ := pageEnd
  cases backward with
  | false =>
    rcases h with hfirst | hlast
    · exact hfirst.unique hcount
    · exact absurd hother hlast.not_isAbsent
  | true =>
    rcases h with hfirst | hlast
    · exact absurd hother hfirst.not_isAbsent
    · exact hlast.unique hcount

/-- A cursor is looked at if the one that goes with the other end is absent. -/
theorem startCursor_eq_ok_iff {pageEnd : PageEnd} {start : Option String} :
    arguments.startCursor pageEnd = .ok start ↔
      arguments.IsAbsent pageEnd.refusedName ∧
        arguments.cursor pageEnd.cursorName = .ok start := by
  simp only [startCursor, Except.bind_eq_ok_iff, ← cursor_eq_none_iff]
  constructor
  · rintro ⟨refused, hrefused, h⟩
    cases refused with
    | some cursor => cases h
    | none => exact ⟨hrefused, h⟩
  · rintro ⟨hrefused, h⟩
    exact ⟨none, hrefused, h⟩

end Arguments

/-! ## The window -/

namespace Spelling

variable {s : Spelling} {target : PagingTarget} {key : SortKey}

/-- The condition behind a key, which is compared with the columns in the casing of the dialect. -/
def conditionBehind (s : Spelling) (aliasName : String) (key : SortKey)
    (direction : SortDirection) (scalars : List Scalar) : String :=
  (Condition.after s.comparesRows (key.columns.map s.casing.apply) scalars
    direction.isDescending).render (s.column aliasName)

/-- There is a condition behind a cursor if it holds the key. -/
theorem behindCursor_eq_ok_iff_holdsKey {aliasName cursor text : String}
    {direction : SortDirection} :
    s.behindCursor aliasName key direction cursor = .ok text ↔
      ∃ scalars, Cursor.HoldsKey cursor key.columns scalars ∧
        text = s.conditionBehind aliasName key direction scalars := by
  simp only [behindCursor_eq_ok_iff, Cursor.keysetValues_eq_ok_iff, Scalar.mapM_ofJson_eq_ok_iff]
  constructor
  · rintro ⟨_, scalars, ⟨members, hmembers, hbinds⟩, rfl, rfl⟩
    exact ⟨scalars, ⟨members, hmembers, hbinds⟩, rfl⟩
  · rintro ⟨scalars, ⟨members, hmembers, hbinds⟩, rfl⟩
    exact ⟨_, scalars, ⟨members, hmembers, hbinds⟩, rfl, rfl⟩

/-- A window at an end of the page has one row more than counted, and starts where the cursor of
this end says, if the one of the other end is absent. -/
theorem keysetWindow_some_eq_ok_iff {pageEnd : PageEnd} {limit : PageLimit}
    {condition : Option String} :
    s.keysetWindow target key (some pageEnd) = .ok (limit, condition) ↔
      target.arguments.IsAbsent pageEnd.refusedName ∧ limit = .rows (oneMore pageEnd.rows) ∧
        ∃ start, target.arguments.Starts pageEnd.cursorName key.columns start ∧
          condition = start.map (s.conditionBehind target.aliasName key
            (key.directionFor (some pageEnd))) := by
  constructor
  · intro h
    obtain ⟨start, hstart, hrest⟩ := Except.bind_eq_ok_iff.1 h
    rw [Except.mapError_eq_ok_iff] at hstart
    obtain ⟨hrefused, hcursor⟩ := Arguments.startCursor_eq_ok_iff.1 hstart
    cases start with
    | none =>
      cases hrest
      exact ⟨hrefused, rfl, none, .first (Arguments.cursor_eq_none_iff.1 hcursor), rfl⟩
    | some cursor =>
      obtain ⟨text, htext, hlimit, rfl⟩ := (keysetWindow_eq_ok_iff hstart).1 h
      obtain ⟨scalars, hscalars, rfl⟩ := behindCursor_eq_ok_iff_holdsKey.1 htext
      exact ⟨hrefused, hlimit, some scalars,
        .behind (Arguments.cursor_eq_some_iff.1 hcursor) hscalars, rfl⟩
  · rintro ⟨hrefused, rfl, start, hstart, rfl⟩
    cases hstart with
    | first habsent =>
      have hcursor := Arguments.startCursor_eq_ok_iff.2
        ⟨hrefused, Arguments.cursor_eq_none_iff.2 habsent⟩
      refine Except.bind_eq_ok_iff.2 ⟨none, Except.mapError_eq_ok_iff.2 hcursor, rfl⟩
    | @behind cursor scalars hcursor hkey =>
      have hstart := Arguments.startCursor_eq_ok_iff.2
        ⟨hrefused, Arguments.cursor_eq_some_iff.2 hcursor⟩
      refine (keysetWindow_eq_ok_iff hstart).2 ⟨_, ?_, rfl, rfl⟩
      exact behindCursor_eq_ok_iff_holdsKey.2 ⟨scalars, hkey, rfl⟩

/-! ## The decision -/

/-- Arguments name a window without counts, or by a count at one end and a start at this end. -/
theorem exists_keysetWindow_iff :
    (∃ pageEnd, target.arguments.pageEnd = .ok pageEnd ∧
      ∃ window, s.keysetWindow target key pageEnd = .ok window) ↔
      (target.arguments.IsAbsent "first" ∧ target.arguments.IsAbsent "last") ∨
        ∃ pageEnd : PageEnd, target.arguments.HoldsCount pageEnd.countName pageEnd.rows ∧
          target.arguments.IsAbsent (if pageEnd.backward then "first" else "last") ∧
          target.arguments.IsAbsent pageEnd.refusedName ∧
          ∃ start, target.arguments.Starts pageEnd.cursorName key.columns start := by
  constructor
  · rintro ⟨pageEnd, hend, ⟨limit, condition⟩, hwindow⟩
    cases pageEnd with
    | none => exact .inl (Arguments.pageEnd_eq_none_iff.1 hend)
    | some pageEnd =>
      obtain ⟨hcount, hother⟩ := Arguments.pageEnd_eq_some_iff.1 hend
      obtain ⟨hrefused, -, start, hstart, -⟩ := keysetWindow_some_eq_ok_iff.1 hwindow
      exact .inr ⟨pageEnd, hcount, hother, hrefused, start, hstart⟩
  · rintro (habsent | ⟨pageEnd, hcount, hother, hrefused, start, hstart⟩)
    · exact ⟨none, Arguments.pageEnd_eq_none_iff.2 habsent, _, rfl⟩
    · exact ⟨some pageEnd, Arguments.pageEnd_eq_some_iff.2 ⟨hcount, hother⟩, (_, _),
        keysetWindow_some_eq_ok_iff.2 ⟨hrefused, rfl, start, hstart, rfl⟩⟩

/-- The arguments that are accepted, with the two ends of the page side by side. -/
theorem exists_keysetPaging_iff (hkey : target.sortKey = some key) :
    (∃ paging, s.keysetPaging target = .ok paging) ↔
      key.columns ≠ [] ∧
        (target.arguments.IsAbsent "first" ∨ ∃ n, target.arguments.HoldsCount "first" n) ∧
        (target.arguments.IsAbsent "last" ∨ ∃ n, target.arguments.HoldsCount "last" n) ∧
        (target.arguments.IsAbsent "first" ∨ target.arguments.IsAbsent "last") ∧
        (¬ target.arguments.IsAbsent "first" → target.arguments.IsAbsent "before" ∧
          ∃ start, target.arguments.Starts "after" key.columns start) ∧
        (¬ target.arguments.IsAbsent "last" → target.arguments.IsAbsent "after" ∧
          ∃ start, target.arguments.Starts "before" key.columns start) := by
  have hpaging : (∃ paging, s.keysetPaging target = .ok paging) ↔
      key.columns ≠ [] ∧ ∃ pageEnd, target.arguments.pageEnd = .ok pageEnd ∧
        ∃ window, s.keysetWindow target key pageEnd = .ok window := by
    simp only [keysetPaging_eq_ok_iff, hkey, Option.some.injEq]
    constructor
    · rintro ⟨paging, _, pageEnd, rfl, hne, hend, hwindow, -⟩
      exact ⟨hne, pageEnd, hend, _, hwindow⟩
    · rintro ⟨hne, pageEnd, hend, ⟨limit, condition⟩, hwindow⟩
      exact ⟨⟨limit, _, condition⟩, key, pageEnd, rfl, hne, hend, hwindow, rfl⟩
  rw [hpaging, exists_keysetWindow_iff]
  refine and_congr_right fun _ => ⟨?_, ?_⟩
  · rintro (⟨hfirst, hlast⟩ | ⟨⟨n, backward⟩, hcount, hother, hrefused, hstart⟩)
    · exact ⟨.inl hfirst, .inl hlast, .inl hfirst, absurd hfirst, absurd hlast⟩
    · cases backward with
      | false =>
        exact ⟨.inr ⟨n, hcount⟩, .inl hother, .inr hother, fun _ => ⟨hrefused, hstart⟩,
          absurd hother⟩
      | true =>
        exact ⟨.inl hother, .inr ⟨n, hcount⟩, .inl hother, absurd hother,
          fun _ => ⟨hrefused, hstart⟩⟩
  · rintro ⟨hfirst | ⟨n, hfirst⟩, hlast | ⟨m, hlast⟩, hone, hafter, hbefore⟩
    · exact .inl ⟨hfirst, hlast⟩
    · exact .inr ⟨⟨m, true⟩, hlast, hfirst, hbefore hlast.not_isAbsent⟩
    · exact .inr ⟨⟨n, false⟩, hfirst, hlast, hafter hfirst.not_isAbsent⟩
    · rcases hone with h | h
      · exact absurd h hfirst.not_isAbsent
      · exact absurd h hlast.not_isAbsent

/-- The condition of a window at an end of the page: there is one if the cursor of this end is
given, and it compares the key with what this cursor holds. -/
theorem condition_of_keysetWindow {pageEnd : PageEnd} {limit : PageLimit}
    {condition : Option String} (hne : key.columns ≠ [])
    (h : s.keysetWindow target key (some pageEnd) = .ok (limit, condition)) :
    (condition.isSome = true ↔ ¬ target.arguments.IsAbsent pageEnd.cursorName) ∧
      ∀ text ∈ condition, ∃ cursor scalars comparison,
        target.arguments.HoldsText pageEnd.cursorName cursor ∧
        Cursor.HoldsKey cursor key.columns scalars ∧
        Sql.IsKeyComparison
          (if (key.directionFor (some pageEnd)).isDescending then .less else .greater)
          (key.columns.map s.casing.apply) scalars s.comparesRows comparison ∧
        text = comparison.render (s.column target.aliasName) := by
  obtain ⟨-, -, start, hstart, rfl⟩ := keysetWindow_some_eq_ok_iff.1 h
  cases hstart with
  | first habsent =>
    refine ⟨?_, fun text htext => ?_⟩
    · simpa using habsent
    · cases htext
  | @behind cursor scalars hcursor hkey =>
    refine ⟨?_, fun text htext => ?_⟩
    · simpa using hcursor.not_isAbsent
    · cases htext
      have hlength : (key.columns.map s.casing.apply).length = scalars.length := by
        rw [List.length_map, hkey.length_eq]
      have hcolumns : key.columns.map s.casing.apply ≠ [] := by simpa using hne
      exact ⟨cursor, scalars, _, hcursor, hkey,
        Sql.isKeyComparison_after _ _ hlength hcolumns, rfl⟩

end Spelling

/-- **The arguments of keyset paging and what they decide.**  They are accepted if and only if the
key has columns, `first` and `last` are absent or counts but not both given, and, where one of them
is given, the cursor of the other one is absent and its own is absent or holds exactly the columns
of the key, each once and with a scalar.  Without a count all rows are taken, otherwise one more
than counted, up to the largest number of 64 bits.  The order lists the cased columns of the key in
the declared direction, which `last` reverses.  There is a condition exactly if a count and its
cursor are given; it compares the columns with the values of the cursor, both in the order of the
key, by `<` if the order is descending and by `>` otherwise. -/
theorem Dialect.interpretKeyset_decides (name : DialectName) (casing : Casing)
    {target : PagingTarget} {key : SortKey} (hkey : target.sortKey = some key) :
    ((∃ paging, (standard name casing).interpretKeyset target = .ok paging) ↔
      key.columns ≠ [] ∧
        (target.arguments.IsAbsent "first" ∨ ∃ n, target.arguments.HoldsCount "first" n) ∧
        (target.arguments.IsAbsent "last" ∨ ∃ n, target.arguments.HoldsCount "last" n) ∧
        (target.arguments.IsAbsent "first" ∨ target.arguments.IsAbsent "last") ∧
        (¬ target.arguments.IsAbsent "first" → target.arguments.IsAbsent "before" ∧
          ∃ start, target.arguments.Starts "after" key.columns start) ∧
        (¬ target.arguments.IsAbsent "last" → target.arguments.IsAbsent "after" ∧
          ∃ start, target.arguments.Starts "before" key.columns start)) ∧
    ∀ paging, (standard name casing).interpretKeyset target = .ok paging →
      (target.arguments.IsAbsent "first" → target.arguments.IsAbsent "last" →
        paging.limit = .all) ∧
      (∀ n, target.arguments.HoldsCount "first" n ∨ target.arguments.HoldsCount "last" n →
        ∃ count, paging.limit = .rows count ∧ count.toNat = min (n.toNat + 1) (2 ^ 64 - 1)) ∧
      ∃ direction,
        direction = (if target.arguments.IsAbsent "last" then key.direction
          else key.direction.reverse) ∧
        paging.order = ⟨target.aliasName,
          key.columns.map fun column => (casing.apply column, direction)⟩ ∧
        (paging.condition.isSome = true ↔
          (¬ target.arguments.IsAbsent "first" ∧ ¬ target.arguments.IsAbsent "after") ∨
            (¬ target.arguments.IsAbsent "last" ∧ ¬ target.arguments.IsAbsent "before")) ∧
        ∀ text ∈ paging.condition, ∃ cursor scalars comparison,
          target.arguments.HoldsText
            (if target.arguments.IsAbsent "last" then "after" else "before") cursor ∧
          Cursor.HoldsKey cursor key.columns scalars ∧
          Sql.IsKeyComparison (if direction.isDescending then .less else .greater)
            (key.columns.map casing.apply) scalars name.comparesRows comparison ∧
          text = comparison.render ((standard name casing).column target.aliasName) := by
  refine ⟨Spelling.exists_keysetPaging_iff hkey, ?_⟩
  intro paging hpaging
  obtain ⟨key', pageEnd, hkey', hne, hend, hwindow, horder⟩ :=
    Spelling.keysetPaging_eq_ok_iff.1 hpaging
  rw [hkey] at hkey'
  cases hkey'
  cases pageEnd with
  | none =>
    obtain ⟨hfirst, hlast⟩ := Arguments.pageEnd_eq_none_iff.1 hend
    obtain ⟨hlimit, hcondition⟩ := Prod.mk.inj (Except.ok.inj hwindow)
    refine ⟨fun _ _ => hlimit.symm, ?_, key.direction, (if_pos hlast).symm, ?_, ?_, ?_⟩
    · rintro n (hcount | hcount)
      · exact absurd hfirst hcount.not_isAbsent
      · exact absurd hlast hcount.not_isAbsent
    · rw [horder, spellingOf_casing]
      rfl
    · simp [← hcondition, hfirst, hlast]
    · rw [← hcondition]
      rintro text ⟨⟩
  | some pageEnd =>
    obtain ⟨hcount, hother⟩ := Arguments.pageEnd_eq_some_iff.1 hend
    obtain ⟨-, hlimit, -⟩ := Spelling.keysetWindow_some_eq_ok_iff.1 hwindow
    obtain ⟨hsome, hcondition⟩ := Spelling.condition_of_keysetWindow hne hwindow
    have hrows : (spellingOf name casing).comparesRows = name.comparesRows := by
      cases name <;> rfl
    have hcounted : ∀ n, target.arguments.HoldsCount "first" n ∨
        target.arguments.HoldsCount "last" n →
          ∃ count, paging.limit = .rows count ∧ count.toNat = min (n.toNat + 1) (2 ^ 64 - 1) := by
      intro n hn
      rw [Arguments.eq_rows_of_holdsCount hn hend]
      exact ⟨oneMore pageEnd.rows, hlimit, toNat_oneMore pageEnd.rows⟩
    rw [spellingOf_casing] at hcondition horder
    rw [hrows] at hcondition
    obtain ⟨n, backward⟩ := pageEnd
    cases backward with
    | false =>
      have hfirst : target.arguments.HoldsCount "first" n := hcount
      have hlast : target.arguments.IsAbsent "last" := hother
      refine ⟨fun h => absurd h hfirst.not_isAbsent, hcounted, key.direction,
        (if_pos hlast).symm, horder, ?_, ?_⟩
      · simpa [hfirst.not_isAbsent, hlast, PageEnd.cursorName] using hsome
      · rw [if_pos hlast]
        exact hcondition
    | true =>
      have hfirst : target.arguments.IsAbsent "first" := hother
      have hlast : target.arguments.HoldsCount "last" n := hcount
      refine ⟨fun _ h => absurd h hlast.not_isAbsent, hcounted, key.direction.reverse,
        (if_neg hlast.not_isAbsent).symm, horder, ?_, ?_⟩
      · simpa [hfirst, hlast.not_isAbsent, PageEnd.cursorName] using hsome
      · rw [if_neg hlast.not_isAbsent]
        exact hcondition

/-- The last two rows in front of a cursor whose object has its keys in another order than the sort
key: the rows are read backwards, by cased columns. -/
theorem Dialect.interpretKeyset_decides_backward :
    ∃ paging, (standard .db2 .upper).interpretKeyset
        { aliasName := "u"
          arguments := [("before", .string (Cursor.ofKeyset
            [("id", .number (.ofCount 7)), ("name", .string "o'x")])),
            ("last", .number (.ofCount 2))]
          sortKey := some ⟨.ascending, ["name", "id"]⟩ } = .ok paging ∧
      (∃ count, paging.limit = .rows count ∧ count.toNat = 3) ∧
      paging.order = ⟨"u", [("NAME", .descending), ("ID", .descending)]⟩ ∧
      paging.condition.isSome = true := by
  have hobject : Cursor.HoldsObject
      (Cursor.ofKeyset [("id", .number (.ofCount 7)), ("name", .string "o'x")])
      [("id", .number (.ofCount 7)), ("name", .string "o'x")] := by
    refine Cursor.toKeyset_eq_ok_iff.1 (Cursor.toKeyset_ofKeyset ?_ (by decide))
    exact List.pairwise_pair.2 (by decide)
  have hkey : Cursor.HoldsKey
      (Cursor.ofKeyset [("id", .number (.ofCount 7)), ("name", .string "o'x")]) ["name", "id"]
      [.text "o'x", .number (.ofCount 7)] := by
    refine ⟨_, hobject, by decide, fun key => ?_, rfl⟩
    simp [Json.Members.isSome_get?_iff, or_comm]
  have hlast : IsCount 2 (.number (.ofCount 2)) :=
    Json.Number.count?_eq_some_iff.1 (Json.Number.count?_ofCount 2)
  obtain ⟨hiff, hdecides⟩ := @interpretKeyset_decides .db2 .upper
    { aliasName := "u"
      arguments := [("before", .string (Cursor.ofKeyset
        [("id", .number (.ofCount 7)), ("name", .string "o'x")])), ("last", .number (.ofCount 2))]
      sortKey := some ⟨.ascending, ["name", "id"]⟩ } _ rfl
  obtain ⟨paging, hpaging⟩ := hiff.2 ⟨by decide, .inl (.inl rfl), .inr ⟨2, _, rfl, hlast⟩,
    .inl (.inl rfl), absurd (.inl rfl), fun _ => ⟨.inl rfl, _, .behind rfl hkey⟩⟩
  obtain ⟨-, hlimit, direction, rfl, horder, hcondition, -⟩ := hdecides paging hpaging
  exact ⟨paging, hpaging, hlimit 2 (.inr ⟨_, rfl, hlast⟩), horder,
    hcondition.2 (.inr ⟨by decide, by decide⟩)⟩

end RelationPaging
