import RelationPaging.Proofs.Paging.Walk
import RelationPaging.Proofs.Sql.CursorCondition

/-!
# Tables that are paged by keyset

A table as far as paging by keyset goes: a list of rows, which give each column an integer or a
text, and a linear order on the values of each column.  `Table.select` is what a database answers to
a page: it keeps the rows of which the condition is true, sorts them by the columns of the order,
and takes as many as the limit lets through.

If no two rows are equal in the columns of the order, there is only one sorted list of the rows, and
the rows strictly behind one of them are those that follow it there (`filter_eq_of_pairwise_lt`).
-/

namespace RelationPaging

/-! ## Sorting -/

section

variable {ρ : Type} {cmp : ρ → ρ → Ordering} [Std.TransCmp cmp]

/-- Rows that differ are sorted strictly. -/
theorem pairwise_lt_mergeSort {rows : List ρ} (h : rows.Pairwise fun a b => cmp a b ≠ .eq) :
    (rows.mergeSort fun a b => (cmp a b).isLE).Pairwise fun a b => cmp a b = .lt := by
  have hsorted : (rows.mergeSort fun a b => (cmp a b).isLE).Pairwise
      fun a b => (cmp a b).isLE = true := by
    refine List.pairwise_mergeSort (fun a b c => Std.TransCmp.isLE_trans) (fun a b => ?_) rows
    have hswap : cmp b a = (cmp a b).swap := Std.OrientedCmp.eq_swap
    rw [hswap]
    cases cmp a b <;> rfl
  have hsymm : ∀ {a b : ρ}, cmp a b ≠ .eq → cmp b a ≠ .eq := by
    intro a b hne heq
    have hswap : cmp a b = (cmp b a).swap := Std.OrientedCmp.eq_swap
    rw [heq] at hswap
    exact hne hswap
  have hdistinct : (rows.mergeSort fun a b => (cmp a b).isLE).Pairwise fun a b => cmp a b ≠ .eq :=
    ((List.mergeSort_perm rows _).pairwise_iff hsymm).2 h
  refine (hsorted.and hdistinct).imp ?_
  rintro a b ⟨hle, hne⟩
  cases hcmp : cmp a b with
  | lt => rfl
  | eq => exact absurd hcmp hne
  | gt =>
    rw [hcmp] at hle
    cases hle

/-- There is only one strictly sorted list of given rows. -/
theorem eq_of_perm_of_pairwise_lt {xs ys : List ρ} (h : xs.Perm ys)
    (hxs : xs.Pairwise fun a b => cmp a b = .lt) (hys : ys.Pairwise fun a b => cmp a b = .lt) :
    xs = ys := by
  refine h.eq_of_pairwise (fun a b _ _ hab hba => ?_) hxs hys
  rw [Std.OrientedCmp.gt_of_lt hba] at hab
  cases hab

/-- Rows are ordered by what is read off them. -/
theorem transCmp_on {V : Type} (compare : V → V → Ordering) [Std.TransCmp compare] (f : ρ → V) :
    Std.TransCmp fun a b => compare (f a) (f b) where
  eq_swap := Std.OrientedCmp.eq_swap
  isLE_trans := Std.TransCmp.isLE_trans

/-- It does not matter whether rows are picked before they are sorted or afterwards. -/
theorem mergeSort_filter {rows : List ρ} (h : rows.Pairwise fun a b => cmp a b ≠ .eq)
    (p : ρ → Bool) :
    (rows.filter p).mergeSort (fun a b => (cmp a b).isLE) =
      (rows.mergeSort fun a b => (cmp a b).isLE).filter p := by
  refine eq_of_perm_of_pairwise_lt ?_ (pairwise_lt_mergeSort (h.filter p))
    ((pairwise_lt_mergeSort h).filter p)
  exact (List.mergeSort_perm _ _).trans ((List.mergeSort_perm rows _).filter p).symm

/-- The rows strictly behind a row follow it in a strictly sorted list. -/
theorem filter_eq_of_pairwise_lt {before rest : List ρ} {row : ρ}
    (h : (before ++ row :: rest).Pairwise fun a b => cmp a b = .lt) :
    (before ++ row :: rest).filter (fun a => cmp row a = .lt) = rest := by
  obtain ⟨-, hrest, hbefore⟩ := List.pairwise_append.1 h
  have hnone : before.filter (fun a => cmp row a = .lt) = [] := by
    rw [List.filter_eq_nil_iff]
    intro a ha hlt
    have hgt := Std.OrientedCmp.gt_of_lt (hbefore a ha row List.mem_cons_self)
    rw [of_decide_eq_true hlt] at hgt
    cases hgt
  have hall : rest.filter (fun a => cmp row a = .lt) = rest := by
    rw [List.filter_eq_self]
    exact fun a ha => decide_eq_true ((List.pairwise_cons.1 hrest).1 a ha)
  have hself : cmp row row = .eq := Std.ReflCmp.compare_self
  rw [List.filter_append, hnone, List.nil_append, List.filter_cons_of_neg (by simp [hself]), hall]

end

/-! ## Values of key columns -/

/-- A value of a key column: an integer of 64 bits, or a text. -/
inductive KeyValue where
  | integer (word : Json.Word)
  | text (value : String)
  deriving DecidableEq, Repr

namespace KeyValue

/-- The value in a cursor. -/
def json : KeyValue → Json
  | integer word => .number (.whole word)
  | text value => .string value

/-- The value in a condition. -/
def scalar : KeyValue → Scalar
  | integer word => .number (.whole word)
  | text value => .text value

theorem isWholeScalar_json (value : KeyValue) : value.json.isWholeScalar = true := by
  cases value <;> rfl

theorem ofJson_json (value : KeyValue) : Scalar.ofJson value.json = .ok value.scalar := by
  cases value <;> rfl

/-- The integer that decimal digits denote, with a minus sign in front of them if it is negative. -/
def integerOf? (cs : List Char) : Option Int :=
  if cs.head? = some '-' then (Text.readNatural? cs.tail).map fun n => -Int.ofNat n
  else (Text.readNatural? cs).map Int.ofNat

/-- The value that a constant stands for, if it is an integer of 64 bits or a text. -/
def ofConstant? : Sql.Constant → Option KeyValue
  | .text value => some (text value)
  | .number number => do
    let n ← integerOf? number.toList
    if hleast : -0x8000000000000000 ≤ n then
      if hmost : n < 0x10000000000000000 then return integer ⟨n, hleast, hmost⟩
      else none
    else none
  | _ => none

theorem integerOf?_chars (word : Json.Word) :
    integerOf? (Json.Number.whole word).chars = some word.value := by
  by_cases hnegative : word.value < 0
  · simp only [Json.Number.chars, if_pos hnegative, integerOf?, List.head?_cons, if_true,
      List.tail_cons, Text.readNatural?_toDigits, Option.map_some, Option.some.injEq,
      Int.ofNat_eq_natCast]
    omega
  · obtain ⟨first, rest, hdigits, hdigit⟩ := Text.exists_toDigits_eq_cons word.value.toNat
    have hfirst : (Nat.toDigits 10 word.value.toNat).head? ≠ some '-' := by
      rw [hdigits]
      rintro ⟨⟩
      cases hdigit
    simp only [Json.Number.chars, if_neg hnegative, integerOf?, if_neg hfirst,
      Text.readNatural?_toDigits, Option.map_some, Option.some.injEq,
      Int.ofNat_eq_natCast]
    omega

/-- The literal of a value stands for the value. -/
theorem exists_constant (value : KeyValue) :
    ∃ constant, value.scalar.constant = some constant ∧ ofConstant? constant = some value := by
  cases value with
  | integer word =>
    have hread : integerOf? (Json.Number.whole word).text.toList = some word.value := by
      rw [Json.Number.text, String.toList_ofList, integerOf?_chars]
    refine ⟨.number (Json.Number.whole word).text, rfl, ?_⟩
    simp only [ofConstant?, hread, Option.bind_eq_bind, Option.bind_some]
    rw [dif_pos word.least, dif_pos word.most]
    rfl
  | text value => exact ⟨.text value, rfl, rfl⟩

end KeyValue

/-- A linear order on values. -/
structure Collation where
  compare : KeyValue → KeyValue → Ordering
  transCmp : Std.TransCmp compare
  lawfulEqCmp : Std.LawfulEqCmp compare

attribute [instance] Collation.transCmp Collation.lawfulEqCmp

/-- Where a value stands in the order that puts integers before texts. -/
def KeyValue.rank : KeyValue → Int × String
  | .integer word => (word.value, "")
  | .text value => (0x10000000000000000, value)

theorem KeyValue.rank_injective {a b : KeyValue} (h : a.rank = b.rank) : a = b := by
  match a, b with
  | .integer ⟨m, _, hm⟩, .integer ⟨n, _, hn⟩ =>
    cases h
    rfl
  | .integer ⟨m, _, hm⟩, .text t =>
    have hvalue : m = 0x10000000000000000 := congrArg Prod.fst h
    omega
  | .text s, .integer ⟨n, _, hn⟩ =>
    have hvalue : 0x10000000000000000 = n := congrArg Prod.fst h
    omega
  | .text s, .text t =>
    cases h
    rfl

/-- Integers by their size, before texts by their code points. -/
def Collation.standard : Collation where
  compare a b := compareLex (compareOn Prod.fst) (compareOn Prod.snd) a.rank b.rank
  transCmp := transCmp_on (compareLex (compareOn Prod.fst) (compareOn Prod.snd)) KeyValue.rank
  lawfulEqCmp := {
    compare_self := by
      intro a
      simp [compareLex, compareOn]
    eq_of_compare := by
      intro a b h
      obtain ⟨hfirst, hsecond⟩ := Ordering.then_eq_eq.1 h
      refine KeyValue.rank_injective (Prod.ext ?_ ?_)
      · exact Std.LawfulEqOrd.eq_of_compare hfirst
      · exact Std.LawfulEqOrd.eq_of_compare hsecond }

/-! ## Tables -/

/-- A table with rows of which each has a value in each column, and an order on the values of each
column. -/
structure Table (ρ : Type) where
  rows : List ρ
  value : ρ → String → KeyValue
  collation : String → Collation

namespace Table

variable {ρ : Type} (table : Table ρ)

/-- How two rows are ordered by one column. -/
def columnOrdering (column : String × SortDirection) (a b : ρ) : Ordering :=
  match column.2 with
  | .ascending =>
    (table.collation column.1).compare (table.value a column.1) (table.value b column.1)
  | .descending =>
    (table.collation column.1).compare (table.value b column.1) (table.value a column.1)

/-- How two rows are ordered by columns: by the first one in which they differ. -/
def ordering (columns : List (String × SortDirection)) (a b : ρ) : Ordering :=
  lexicographic (columns.map fun column => table.columnOrdering column a b)

/-- What a condition sees of a row of the table under an alias. -/
def view (aliasName : String) (row : ρ) : Sql.RowView KeyValue where
  value reference :=
    if reference.aliasName = aliasName then some (table.value row reference.column) else none
  denote _ constant := (KeyValue.ofConstant? constant).getD (.text "")
  compare reference := (table.collation reference.column).compare

/-- Whether a condition, if there is one, is true of a row. -/
def satisfies (aliasName : String) (condition : Option String) (row : ρ) : Bool :=
  condition.all fun text => (table.view aliasName row).truth? text = some .yes

/-- How two rows are ordered by an order on columns of the table under an alias.  Columns of other
tables order nothing. -/
def pageOrdering (aliasName : String) (order : PageOrder) (a b : ρ) : Ordering :=
  if order.table = aliasName then table.ordering order.columns a b else .eq

/-- The rows that a page takes from the table under an alias. -/
def select (aliasName : String) (paging : KeysetPaging) : List ρ :=
  paging.limit.take ((table.rows.filter (table.satisfies aliasName paging.condition)).mergeSort
    fun a b => (table.pageOrdering aliasName paging.order a b).isLE)

variable {table}

instance transCmp_columnOrdering (column : String × SortDirection) :
    Std.TransCmp (table.columnOrdering column) := by
  obtain ⟨column, direction⟩ := column
  have hascending : Std.TransCmp (table.columnOrdering (column, .ascending)) :=
    transCmp_on (table.collation column).compare (table.value · column)
  have hdescending : Std.TransCmp fun a b => table.columnOrdering (column, .ascending) b a :=
    Std.TransCmp.opposite
  cases direction with
  | ascending => exact hascending
  | descending => exact hdescending

instance transCmp_ordering (columns : List (String × SortDirection)) :
    Std.TransCmp (table.ordering columns) := by
  induction columns with
  | nil =>
    exact { eq_swap := rfl, isLE_trans := fun _ _ => rfl }
  | cons column columns ih =>
    exact inferInstanceAs
      (Std.TransCmp (compareLex (table.columnOrdering column) (table.ordering columns)))

/-- Rows that are not ordered agree in the columns. -/
theorem value_eq_of_ordering {columns : List (String × SortDirection)} {a b : ρ}
    (h : table.ordering columns a b = .eq) :
    ∀ column ∈ columns, table.value a column.1 = table.value b column.1 := by
  induction columns with
  | nil => simp
  | cons column columns ih =>
    have hthen : (table.columnOrdering column a b).then (table.ordering columns a b) = .eq := h
    obtain ⟨hfirst, hrest⟩ := Ordering.then_eq_eq.1 hthen
    refine List.forall_mem_cons.2 ⟨?_, ih hrest⟩
    obtain ⟨column, direction⟩ := column
    have hlawful := (table.collation column).lawfulEqCmp
    cases direction with
    | ascending => exact hlawful.eq_of_compare hfirst
    | descending => exact (hlawful.eq_of_compare hfirst).symm

/-- To reverse all directions is to reverse the order. -/
theorem ordering_reverse (columns : List String) (direction : SortDirection) (a b : ρ) :
    table.ordering (columns.map (·, direction.reverse)) a b =
      table.ordering (columns.map (·, direction)) b a := by
  rw [ordering, ordering, List.map_map, List.map_map]
  cases direction <;> rfl

end Table

end RelationPaging
