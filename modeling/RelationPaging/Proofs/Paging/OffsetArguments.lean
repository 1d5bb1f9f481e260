import RelationPaging.Dialect.Standard
import RelationPaging.Proofs.Cursor.Offset
import RelationPaging.Proofs.Paging.Argument
import RelationPaging.Proofs.Paging.Interpreters

/-!
# Which arguments page by offset

The interpreter of offset paging, argument by argument: which arguments it accepts, and the decision
it makes on them (`offsetPaging_decides`).  Whether `after` is looked at hangs on `first`: without a
count there is no page to cut, and then a cursor may be anything.  The two additions of one stop at
the largest number of 64 bits, which is said in natural numbers, where nothing wraps.
-/

namespace RelationPaging

namespace PagingTarget

variable {target : PagingTarget}

/-! ## The start and the window -/

/-- A page starts at the first row, or one row behind the position of a cursor. -/
theorem offsetStart_eq_ok_iff {offset : UInt64} :
    target.offsetStart = .ok offset ↔
      (target.arguments.IsAbsent "after" ∧ offset = 0) ∨
        ∃ cursor position, target.arguments.HoldsText "after" cursor ∧
          Cursor.IsOffset cursor position.toNat ∧ offset = oneMore position := by
  simp only [offsetStart, Except.bind_eq_ok_iff, Except.mapError_eq_ok_iff]
  constructor
  · rintro ⟨start, hstart, h⟩
    cases start with
    | none =>
      cases h
      exact .inl ⟨Arguments.cursor_eq_none_iff.1 hstart, rfl⟩
    | some cursor =>
      obtain ⟨position, hposition, h⟩ := Except.bind_eq_ok_iff.1 h
      rw [Except.mapError_eq_ok_iff] at hposition
      cases h
      exact .inr ⟨cursor, position, Arguments.cursor_eq_some_iff.1 hstart,
        Cursor.toOffset_eq_ok_iff.1 hposition, rfl⟩
  · rintro (⟨habsent, rfl⟩ | ⟨cursor, position, hcursor, hposition, rfl⟩)
    · exact ⟨none, Arguments.cursor_eq_none_iff.2 habsent, rfl⟩
    · refine ⟨some cursor, Arguments.cursor_eq_some_iff.2 hcursor, ?_⟩
      refine Except.bind_eq_ok_iff.2 ⟨position, ?_, rfl⟩
      exact Except.mapError_eq_ok_iff.2 (Cursor.toOffset_eq_ok_iff.2 hposition)

/-- Without a count all rows are taken from the first one on, and a cursor is not looked at. -/
theorem offsetWindow_eq_ok_iff {limit : PageLimit} {offset : UInt64} :
    target.offsetWindow = .ok (limit, offset) ↔
      (target.arguments.IsAbsent "first" ∧ limit = .all ∧ offset = 0) ∨
        ∃ rows, target.arguments.HoldsCount "first" rows ∧ target.offsetStart = .ok offset ∧
          limit = target.offsetLimit rows := by
  simp only [offsetWindow, Except.bind_eq_ok_iff, Except.mapError_eq_ok_iff]
  constructor
  · rintro ⟨count, hcount, h⟩
    cases count with
    | none =>
      cases h
      exact .inl ⟨Arguments.count_eq_none_iff.1 hcount, rfl, rfl⟩
    | some rows =>
      obtain ⟨start, hstart, h⟩ := Except.bind_eq_ok_iff.1 h
      cases h
      exact .inr ⟨rows, Arguments.count_eq_some_iff.1 hcount, hstart, rfl⟩
  · rintro (⟨habsent, rfl, rfl⟩ | ⟨rows, hrows, hstart, rfl⟩)
    · exact ⟨none, Arguments.count_eq_none_iff.2 habsent, rfl⟩
    · exact ⟨some rows, Arguments.count_eq_some_iff.2 hrows,
        Except.bind_eq_ok_iff.2 ⟨offset, hstart, rfl⟩⟩

/-- There is a window if `first` is absent or counts rows, and if where it does `after` is absent or
a cursor of a position. -/
theorem exists_offsetWindow_iff :
    (∃ window, target.offsetWindow = .ok window) ↔
      (target.arguments.IsAbsent "first" ∨ ∃ rows, target.arguments.HoldsCount "first" rows) ∧
        (¬ target.arguments.IsAbsent "first" →
          target.arguments.IsAbsent "after" ∨
            ∃ cursor, ∃ position : UInt64, target.arguments.HoldsText "after" cursor ∧
              Cursor.IsOffset cursor position.toNat) := by
  constructor
  · rintro ⟨⟨limit, offset⟩, hwindow⟩
    rcases offsetWindow_eq_ok_iff.1 hwindow with ⟨habsent, -⟩ | ⟨rows, hrows, hstart, -⟩
    · exact ⟨.inl habsent, fun hgiven => absurd habsent hgiven⟩
    · refine ⟨.inr ⟨rows, hrows⟩, fun _ => ?_⟩
      rcases offsetStart_eq_ok_iff.1 hstart with ⟨hafter, -⟩ | ⟨cursor, position, hcursor, h, -⟩
      · exact .inl hafter
      · exact .inr ⟨cursor, position, hcursor, h⟩
  · rintro ⟨habsent | ⟨rows, hrows⟩, hafter⟩
    · exact ⟨(.all, 0), offsetWindow_eq_ok_iff.2 (.inl ⟨habsent, rfl, rfl⟩)⟩
    · have hstart : ∃ offset, target.offsetStart = .ok offset := by
        rcases hafter hrows.not_isAbsent with hnone | ⟨cursor, position, hcursor, hposition⟩
        · exact ⟨0, offsetStart_eq_ok_iff.2 (.inl ⟨hnone, rfl⟩)⟩
        · exact ⟨oneMore position,
            offsetStart_eq_ok_iff.2 (.inr ⟨cursor, position, hcursor, hposition, rfl⟩)⟩
      obtain ⟨offset, hoffset⟩ := hstart
      exact ⟨(target.offsetLimit rows, offset),
        offsetWindow_eq_ok_iff.2 (.inr ⟨rows, hrows, hoffset, rfl⟩)⟩

/-- The limit is the count, and one more if the page tells whether a further one follows. -/
theorem exists_offsetLimit_eq (target : PagingTarget) (rows : UInt64) :
    ∃ count, target.offsetLimit rows = .rows count ∧
      count.toNat = min (rows.toNat + if target.hasPageInfo then 1 else 0) (UInt64.size - 1) := by
  refine ⟨_, rfl, ?_⟩
  have hrows : rows.toNat < UInt64.size := rows.toNat_lt_size
  cases target.hasPageInfo with
  | false =>
    show rows.toNat = min (rows.toNat + 0) (UInt64.size - 1)
    omega
  | true => exact toNat_oneMore rows

end PagingTarget

/-! ## The decision -/

namespace Spelling

/-- The interpreter accepts the arguments that do not count from the end and name a window. -/
theorem exists_offsetPaging_iff {s : Spelling} {target : PagingTarget} {order : OrderBy}
    (horder : target.orderBy = some order) :
    (∃ paging, s.offsetPaging target = .ok paging) ↔
      target.arguments.IsAbsent "last" ∧ ∃ window, target.offsetWindow = .ok window := by
  simp only [offsetPaging_eq_ok_iff, Arguments.count_eq_none_iff]
  constructor
  · rintro ⟨paging, _, -, hlast, hwindow, -⟩
    exact ⟨hlast, _, hwindow⟩
  · rintro ⟨hlast, ⟨limit, offset⟩, hwindow⟩
    exact ⟨⟨limit, offset, _⟩, order, horder, hlast, hwindow, rfl⟩

/-- **The arguments of offset paging and what they decide.**  They are accepted if and only if
`last` is absent, `first` is absent or a count, and, where it is a count, `after` is absent or a
cursor of a position.  Without a count all rows are taken; otherwise as many as counted, and one
more with page information, from the first row or from the row behind the position on, where both
sums stop at the largest number of 64 bits.  The order is the declared one, its columns cased. -/
theorem offsetPaging_decides (s : Spelling) {target : PagingTarget} {order : OrderBy}
    (horder : target.orderBy = some order) :
    ((∃ paging, s.offsetPaging target = .ok paging) ↔
      target.arguments.IsAbsent "last" ∧
        (target.arguments.IsAbsent "first" ∨
          ∃ rows, target.arguments.HoldsCount "first" rows) ∧
        (¬ target.arguments.IsAbsent "first" →
          target.arguments.IsAbsent "after" ∨
            ∃ cursor, ∃ position : UInt64, target.arguments.HoldsText "after" cursor ∧
              Cursor.IsOffset cursor position.toNat)) ∧
    ∀ paging, s.offsetPaging target = .ok paging →
      (target.arguments.IsAbsent "first" → paging.limit = .all ∧ paging.offset = 0) ∧
      (∀ rows, target.arguments.HoldsCount "first" rows →
        (∃ count, paging.limit = .rows count ∧
          count.toNat = min (rows.toNat + if target.hasPageInfo then 1 else 0) (2 ^ 64 - 1)) ∧
        (target.arguments.IsAbsent "after" → paging.offset = 0) ∧
        ∀ cursor, ∀ position : UInt64, target.arguments.HoldsText "after" cursor →
          Cursor.IsOffset cursor position.toNat →
            paging.offset.toNat = min (position.toNat + 1) (2 ^ 64 - 1)) ∧
      paging.order = ⟨target.aliasName,
        order.columns.map fun column => (s.casing.apply column.1, column.2)⟩ := by
  constructor
  · rw [exists_offsetPaging_iff horder, PagingTarget.exists_offsetWindow_iff]
  rintro ⟨limit, offset, pageOrder⟩ hpaging
  obtain ⟨order', horder', -, hwindow, hpage⟩ := offsetPaging_eq_ok_iff.1 hpaging
  rw [horder] at horder'
  cases horder'
  refine ⟨fun habsent => ?_, fun rows hrows => ?_, hpage⟩
  · rw [PagingTarget.offsetWindow_eq_ok_iff.2 (.inl ⟨habsent, rfl, rfl⟩)] at hwindow
    cases hwindow
    exact ⟨rfl, rfl⟩
  · rcases PagingTarget.offsetWindow_eq_ok_iff.1 hwindow with
      ⟨habsent, -⟩ | ⟨rows', hrows', hstart, hlimit⟩
    · exact absurd habsent hrows.not_isAbsent
    cases hrows'.unique hrows
    refine ⟨?_, fun habsent => ?_, fun cursor position hcursor hposition => ?_⟩
    · rw [hlimit]
      exact target.exists_offsetLimit_eq rows
    · rw [PagingTarget.offsetStart_eq_ok_iff.2 (.inl ⟨habsent, rfl⟩)] at hstart
      cases hstart
      rfl
    · rw [PagingTarget.offsetStart_eq_ok_iff.2
        (.inr ⟨cursor, position, hcursor, hposition, rfl⟩)] at hstart
      cases hstart
      exact toNat_oneMore position

/-- At the largest numbers both sums stop: as many rows as can be counted, behind the last position,
with the count written as a text with a blank and a plus sign. -/
theorem offsetPaging_decides_largest :
    ∃ paging, (Dialect.standard .postgresql .upper).offsetPaging
        { aliasName := "t"
          arguments := [("after", .string (Cursor.ofOffset 18446744073709551615)),
            ("first", .string " +18446744073709551615")]
          orderBy := some ⟨[("createdAt", .descending)]⟩
          hasPageInfo := true } = .ok paging ∧
      (∃ count, paging.limit = .rows count ∧ count.toNat = 18446744073709551615) ∧
      paging.offset.toNat = 18446744073709551615 ∧
      paging.order = ⟨"t", [("CREATEDAT", .descending)]⟩ := by
  have hcount : IsCount 18446744073709551615 (.string " +18446744073709551615") :=
    Text.readCount?_trim_eq_some_iff.1 (by decide)
  have hposition := Cursor.toOffset_eq_ok_iff.1 (Cursor.toOffset_ofOffset 18446744073709551615)
  obtain ⟨hiff, hdecides⟩ := @offsetPaging_decides (Dialect.standard .postgresql .upper).toSpelling
    ⟨"t", [("after", .string (Cursor.ofOffset 18446744073709551615)),
      ("first", .string " +18446744073709551615")], none, some ⟨[("createdAt", .descending)]⟩, true⟩
    _ rfl
  obtain ⟨paging, hpaging⟩ :=
    hiff.2 ⟨.inl rfl, .inr ⟨_, _, rfl, hcount⟩, fun _ => .inr ⟨_, _, rfl, hposition⟩⟩
  obtain ⟨-, hgiven, horder⟩ := hdecides paging hpaging
  obtain ⟨hlimit, -, hoffset⟩ := hgiven _ ⟨_, rfl, hcount⟩
  exact ⟨paging, hpaging, hlimit, hoffset _ _ rfl hposition, horder⟩

end Spelling

end RelationPaging
