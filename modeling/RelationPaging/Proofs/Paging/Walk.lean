import RelationPaging.Paging.Keyset
import RelationPaging.Proofs.Cursor

/-!
# Walks through pages

A client that wants all rows asks for a page, takes the cursor of a row of it, asks for the page
behind that cursor, and so on until it sees that no page follows.  A walk records what was fetched
on the way; the pages are the first rows of it, up to the number that the client counts on.

Nothing here depends on how a page is cut.  `exists_walk` reduces the completeness of a walk to one
step: what is fetched in front of some remaining rows starts with the page, and the cursor that the
client goes on with stands in front of the rows behind the page.
-/

namespace RelationPaging

/-! ## Asking for a page -/

/-- Arguments that ask for a page at one end and behind a cursor, if there is one. -/
structure Arguments.Asks (arguments : Arguments) (pageEnd : PageEnd) (start : Option String) :
    Prop where
  count : arguments.count pageEnd.countName = .ok (some pageEnd.rows)
  otherCount : arguments.count (PageEnd.countName ⟨pageEnd.rows, !pageEnd.backward⟩) = .ok none
  cursor : arguments.cursor pageEnd.cursorName = .ok start
  refused : arguments.cursor pageEnd.refusedName = .ok none

/-- The arguments that ask for a page and hold nothing else. -/
def PageEnd.arguments (pageEnd : PageEnd) (start : Option String) : Arguments :=
  .ofList ((pageEnd.countName, .number (.ofCount pageEnd.rows)) ::
    (start.map fun cursor => (pageEnd.cursorName, .string cursor)).toList)

namespace Arguments

variable {arguments : Arguments} {name : String}

theorem given?_eq {value : Json} (h : arguments.get? name = some value) (hnull : value ≠ .null) :
    arguments.given? name = some value := by
  rw [given?, h, Option.filter_some, if_pos (by simpa using hnull)]

theorem count_eq {n : UInt64} (h : arguments.get? name = some (.number (.ofCount n))) :
    arguments.count name = .ok (some n) := by
  have hcount : countOf? (.number (.ofCount n)) = some n := Json.Number.count?_ofCount n
  rw [count, given?_eq h (by rintro ⟨⟩)]
  simp only [hcount]

theorem count_eq_none (h : arguments.get? name = none) : arguments.count name = .ok none := by
  rw [count, given?, h]
  rfl

theorem cursor_eq {text : String} (h : arguments.get? name = some (.string text)) :
    arguments.cursor name = .ok (some text) := by
  rw [cursor, given?_eq h (by rintro ⟨⟩)]

theorem cursor_eq_none (h : arguments.get? name = none) : arguments.cursor name = .ok none := by
  rw [cursor, given?, h]
  rfl

end Arguments

theorem PageEnd.get?_arguments (pageEnd : PageEnd) (start : Option String) (name : String) :
    (pageEnd.arguments start).get? name =
      if name = pageEnd.cursorName ∧ start.isSome then start.map .string
      else if name = pageEnd.countName then some (.number (.ofCount pageEnd.rows)) else none := by
  cases start with
  | none => simp [arguments, Json.Members.ofList, Json.Members.get?_insert]
  | some cursor => simp [arguments, Json.Members.ofList, Json.Members.get?_insert]

theorem PageEnd.asks_arguments (pageEnd : PageEnd) (start : Option String) :
    (pageEnd.arguments start).Asks pageEnd start := by
  have hget := pageEnd.get?_arguments start
  obtain ⟨n, backward⟩ := pageEnd
  refine ⟨Arguments.count_eq ?_, Arguments.count_eq_none ?_, ?_, Arguments.cursor_eq_none ?_⟩
  · rw [hget]
    cases backward <;> simp [countName, cursorName]
  · rw [hget]
    cases backward <;> simp [countName, cursorName]
  · cases start with
    | none =>
      refine Arguments.cursor_eq_none ?_
      rw [hget]
      cases backward <;> simp [countName, cursorName]
    | some cursor =>
      refine Arguments.cursor_eq ?_
      rw [hget]
      simp
  · rw [hget]
    cases backward <;> simp [countName, cursorName, refusedName]

namespace Arguments.Asks

variable {arguments : Arguments} {n : UInt64} {backward : Bool} {start : Option String}

theorem pageEnd_eq (h : arguments.Asks ⟨n, backward⟩ start) :
    arguments.pageEnd = .ok (some ⟨n, backward⟩) := by
  cases backward
  · obtain ⟨hfirst, hlast, -, -⟩ := h
    refine Except.bind_eq_ok_iff.2 ⟨_, hfirst, Except.bind_eq_ok_iff.2 ⟨_, hlast, rfl⟩⟩
  · obtain ⟨hlast, hfirst, -, -⟩ := h
    refine Except.bind_eq_ok_iff.2 ⟨_, hfirst, Except.bind_eq_ok_iff.2 ⟨_, hlast, rfl⟩⟩

theorem startCursor_eq (h : arguments.Asks ⟨n, backward⟩ start) :
    arguments.startCursor ⟨n, backward⟩ = .ok start :=
  Except.bind_eq_ok_iff.2 ⟨none, h.refused, h.cursor⟩

end Arguments.Asks

/-! ## Cutting pages -/

/-- The rows that a limit lets through. -/
def PageLimit.take {ρ : Type} (rows : List ρ) : PageLimit → List ρ
  | .all => rows
  | .rows count => rows.take count.toNat

/-- One row more than a page has. -/
theorem toNat_oneMore_of_lt {n : UInt64} (h : n.toNat < UInt64.size - 1) :
    (oneMore n).toNat = n.toNat + 1 := by
  rw [toNat_oneMore]
  omega

/-! ## Walks -/

section

variable {ρ : Type} {fetch : Option String → Except PlanError (List ρ)} {cursor : ρ → String}
  {next : List ρ → Option ρ}

/-- What is fetched on a walk that starts behind a cursor or at the end of the rows.  After each
page the walk goes on behind the cursor of the row that the client picks from what it fetched, and
it ends when the client picks none. -/
inductive Walk (fetch : Option String → Except PlanError (List ρ)) (cursor : ρ → String)
    (next : List ρ → Option ρ) : Option String → List (List ρ) → Prop
  | last {start : Option String} {fetched : List ρ} (hfetch : fetch start = .ok fetched)
      (hnext : next fetched = none) : Walk fetch cursor next start [fetched]
  | step {start : Option String} {fetched : List ρ} {row : ρ} {more : List (List ρ)}
      (hfetch : fetch start = .ok fetched) (hnext : next fetched = some row)
      (hmore : Walk fetch cursor next (some (cursor row)) more) :
      Walk fetch cursor next start (fetched :: more)

/-- There is at most one walk from a start. -/
theorem Walk.unique {start : Option String} {xs ys : List (List ρ)}
    (hxs : Walk fetch cursor next start xs) (hys : Walk fetch cursor next start ys) : xs = ys := by
  induction hxs generalizing ys with
  | last hfetch hnext =>
    cases hys with
    | last hfetch' hnext' =>
      cases hfetch.symm.trans hfetch'
      rfl
    | step hfetch' hnext' hmore' =>
      cases hfetch.symm.trans hfetch'
      cases hnext.symm.trans hnext'
  | step hfetch hnext hmore ih =>
    cases hys with
    | last hfetch' hnext' =>
      cases hfetch.symm.trans hfetch'
      cases hnext.symm.trans hnext'
    | step hfetch' hnext' hmore' =>
      cases hfetch.symm.trans hfetch'
      cases hnext.symm.trans hnext'
      rw [ih hmore']

/-- The pages of a walk: the first rows of what was fetched, up to the size of a page. -/
def pages (size : Nat) (fetches : List (List ρ)) : List (List ρ) :=
  fetches.map (·.take size)

/-- What a fetch at a start has to do with the rows that are left there: it starts with the page,
`Shows` relates it to the rows behind the page, the client ends the walk only when no row is left
behind the page, and otherwise there was a row, and the cursor that the client goes on with stands
in front of the rows behind the page. -/
structure FetchStep (fetch : Option String → Except PlanError (List ρ)) (cursor : ρ → String)
    (next : List ρ → Option ρ) (size : Nat) (StandsBefore : Option String → List ρ → Prop)
    (Shows : List ρ → List ρ → Prop) (start : Option String) (rest fetched : List ρ) : Prop where
  fetch_eq : fetch start = .ok fetched
  take_eq : fetched.take size = rest.take size
  shows_drop : Shows fetched (rest.drop size)
  drop_eq_nil : next fetched = none → rest.drop size = []
  goesOn : ∀ row, next fetched = some row →
    rest ≠ [] ∧ StandsBefore (some (cursor row)) (rest.drop size)

/-- **A walk visits all rows that are left.**  If at every start something is fetched that has to do
with the rows left there as it should, then there is a walk from each start, and its pages together
are the rows left.  What holds of a fetch and the rows behind its page then holds of each fetch of
the walk and the pages after it. -/
theorem exists_walk {size : Nat} (hsize : 0 < size) {StandsBefore : Option String → List ρ → Prop}
    {Shows : List ρ → List ρ → Prop}
    (h : ∀ start rest, StandsBefore start rest →
      ∃ fetched, FetchStep fetch cursor next size StandsBefore Shows start rest fetched)
    {start : Option String} {rest : List ρ} (hstart : StandsBefore start rest) :
    ∃ fetches, Walk fetch cursor next start fetches ∧ (pages size fetches).flatten = rest ∧
      ∀ before fetched after, fetches = before ++ fetched :: after →
        Shows fetched (pages size after).flatten := by
  induction hlength : rest.length using Nat.strongRecOn generalizing start rest with
  | ind length ih =>
    obtain ⟨fetched, hfetch, hpage, hshows, hlast, hgoes⟩ := h start rest hstart
    cases hnext : next fetched with
    | none =>
      refine ⟨[fetched], .last hfetch hnext, ?_, ?_⟩
      · have hall := List.take_append_drop size rest
        rw [hlast hnext, List.append_nil] at hall
        simp [pages, hpage, hall]
      · intro before other after hsplit
        rw [hlast hnext] at hshows
        obtain ⟨rfl, rfl, rfl⟩ : before = [] ∧ other = fetched ∧ after = [] := by
          cases before with
          | nil => simpa [eq_comm] using hsplit
          | cons first before => simp at hsplit
        exact hshows
    | some row =>
      obtain ⟨hne, hbehind⟩ := hgoes row hnext
      have hshorter : (rest.drop size).length < length := by
        have hpos := List.length_pos_of_ne_nil hne
        rw [List.length_drop]
        omega
      obtain ⟨more, hmore, hflatten, hshown⟩ := ih _ hshorter hbehind rfl
      refine ⟨fetched :: more, .step hfetch hnext hmore, ?_, ?_⟩
      · have hpages : pages size (fetched :: more) = fetched.take size :: pages size more := rfl
        rw [hpages, List.flatten_cons, hflatten, hpage, List.take_append_drop]
      · intro before other after hsplit
        cases before with
        | nil =>
          obtain ⟨rfl, rfl⟩ := List.cons.inj hsplit
          rwa [hflatten]
        | cons first before => exact hshown before other after (List.cons.inj hsplit).2

end

end RelationPaging
