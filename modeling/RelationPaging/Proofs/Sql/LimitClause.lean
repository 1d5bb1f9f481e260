import RelationPaging.Proofs.Sql.Generated
import RelationPaging.Proofs.Text.Decimal

/-!
# The clause that cuts a page, read back

A reader's view of the clause that cuts a page: how many rows are taken, and how many are skipped if
the clause says so.  Two grammars are read.  PostgreSQL and MySQL have `LIMIT` with a count, and
behind it an `OFFSET` or nothing; all rows are `ALL` in the one and the largest count in the other.
DB2 has `OFFSET … ROWS` and `FETCH FIRST … ROWS ONLY`, in this order and each of them or neither.

What is written is read back (`readLimitClause?_limitClause`), so the text of a clause determines
the limit and the offset.  Only for MySQL are the largest count and all rows one and the same.
-/

namespace RelationPaging.Sql

/-! ## Reading -/

/-- A clause that cuts a page, as it is read. -/
structure Cut where
  limit : PageLimit
  offset : Option UInt64
  deriving DecidableEq, Repr

/-- A keyword. -/
def keyword (word : String) : Token :=
  .word word.toList

/-- The numeral of a count. -/
def numeral (n : UInt64) : Token :=
  .word (Text.showCount n).toList

/-- The count of a numeral. -/
def rowCount? : Token → Option UInt64
  | .word chars => Text.readCount? chars
  | .quoted _ _ => none
  | .symbol _ => none

/-- The number of rows behind `LIMIT`. -/
def limitOf? : DialectName → Token → Option PageLimit
  | .mysql, token =>
    (rowCount? token).map fun n => if n = 18446744073709551615 then .all else .rows n
  | .postgresql, token | .db2, token =>
    if token = keyword "ALL" then some .all else (rowCount? token).map .rows

/-- The offset at the end of a clause with `LIMIT`, if there is one. -/
def trailingOffset? : List Token → Option (Option UInt64)
  | [] => some none
  | [offset, rows] => if offset = keyword "OFFSET" then (rowCount? rows).map some else none
  | _ => none

/-- Reads a clause with `LIMIT`. -/
def limitCut? (name : DialectName) : List Token → Option Cut
  | limit :: rows :: rest =>
    if limit = keyword "LIMIT" then do
      let limit ← limitOf? name rows
      let offset ← trailingOffset? rest
      return ⟨limit, offset⟩
    else none
  | _ => none

/-- The offset at the start of a clause of DB2, if there is one, and what follows it. -/
def leadingOffset? : List Token → Option (Option UInt64 × List Token)
  | offset :: rows :: unit :: rest =>
    if offset = keyword "OFFSET" then
      if unit = keyword "ROWS" then (rowCount? rows).map fun n => (some n, rest) else none
    else some (none, offset :: rows :: unit :: rest)
  | tokens => some (none, tokens)

/-- The limit at the end of a clause of DB2; without one all rows are fetched. -/
def fetch? : List Token → Option PageLimit
  | [] => some .all
  | [fetch, first, rows, unit, only] =>
    if [fetch, first, unit, only] = ["FETCH", "FIRST", "ROWS", "ONLY"].map keyword then
      (rowCount? rows).map .rows
    else none
  | _ => none

/-- Reads the tokens of a clause that cuts a page. -/
def cut? : DialectName → List Token → Option Cut
  | .db2, tokens => do
    let (offset, rest) ← leadingOffset? tokens
    let limit ← fetch? rest
    return ⟨limit, offset⟩
  | .postgresql, tokens => limitCut? .postgresql tokens
  | .mysql, tokens => limitCut? .mysql tokens

/-- Reads a clause that cuts a page. -/
def readLimitClause? (name : DialectName) (text : String) : Option Cut :=
  (tokens? text.toList).bind (cut? name)

/-! ## Numerals -/

/-- A word stands alone. -/
theorem scan_word {read cs : List Char} (h : ∀ c ∈ cs, isWordChar c = true) :
    scan (.word read) cs = (.word (read ++ cs), []) := by
  induction cs generalizing read with
  | nil => rw [List.append_nil]; rfl
  | cons c cs ih =>
    obtain ⟨hc, hcs⟩ := List.forall_mem_cons.1 h
    rw [scan, Mode.next, if_pos hc, ih hcs, List.append_assoc]
    rfl

/-- Digits are one word. -/
theorem tokens?_digits {digits : List Char} (h : IsDigits digits) :
    tokens? digits = some [.word digits] := by
  have hword : ∀ c ∈ digits, isWordChar c = true := by
    intro c hc
    simp [isWordChar, Char.isAlphanum, h.isDigit c hc]
  obtain ⟨first, rest, rfl⟩ := List.exists_cons_of_ne_nil h.ne_nil
  have hnumber := h.isNumberChar first List.mem_cons_self
  have hstart : (Mode.between).next first = (.word [first], []) := by
    rw [Mode.next, Mode.start, isWhiteSpace_of_isNumberChar hnumber,
      ofChar?_of_isNumberChar hnumber, hword first List.mem_cons_self]
    rfl
  rw [tokens?, scan, hstart, scan_word (List.forall_mem_cons.1 hword).2]
  rfl

theorem tokens?_showCount (n : UInt64) :
    tokens? (Text.showCount n).toList = some [numeral n] := by
  rw [numeral, Text.toList_showCount]
  exact tokens?_digits (isDigits_toDigits _)

@[simp] theorem rowCount?_numeral (n : UInt64) : rowCount? (numeral n) = some n :=
  Text.readCount?_showCount n

/-- A numeral is no keyword. -/
theorem numeral_ne_keyword (n : UInt64) {word : String}
    (h : word.toList.head?.any Char.isDigit = false) : numeral n ≠ keyword word := by
  intro heq
  rw [numeral, keyword, Token.word.injEq, Text.toList_showCount] at heq
  obtain ⟨first, rest, hdigits, hfirst⟩ := Text.exists_toDigits_eq_cons n.toNat
  rw [← heq, hdigits, List.head?_cons, Option.any_some, hfirst] at h
  cases h

/-! ## Clauses with `LIMIT` -/

/-- The tokens of a clause with `LIMIT`, behind which one token stands for the rows. -/
def limitTokens (rows : Token) : Option UInt64 → List Token
  | some n => [keyword "LIMIT", rows, keyword "OFFSET", numeral n]
  | none => [keyword "LIMIT", rows]

/-- What stands behind `LIMIT`, if one token stands for all rows. -/
def rowsToken (unbounded : Token) : PageLimit → Token
  | .all => unbounded
  | .rows n => numeral n

theorem tokens?_limitClauseWith {unbounded : String} {token : Token}
    (hunbounded : tokens? unbounded.toList = some [token]) (limit : PageLimit)
    (offset : Option UInt64) :
    tokens? (limitClauseWith unbounded limit offset).toList =
      some (limitTokens (rowsToken token limit) offset) := by
  have hlimit : scan .between "LIMIT ".toList = (.between, [keyword "LIMIT"]) := by decide
  have hoffset : scan .between " OFFSET ".toList = (.between, [keyword "OFFSET"]) := by decide
  unfold limitClauseWith
  extract_lets rows
  have hrows : tokens? rows.toList = some [rowsToken token limit] := by
    cases limit with
    | all => exact hunbounded
    | rows n => exact tokens?_showCount n
  cases offset with
  | none =>
    rw [String.toList_append, tokens?_append_of_between hlimit, hrows]
    rfl
  | some n =>
    have hbehind := tokens?_seam (by decide) hoffset hrows (tokens?_showCount n)
    simp only [String.toList_append, List.append_assoc] at hbehind ⊢
    rw [tokens?_append_of_between hlimit, hbehind]
    rfl

/-- A clause with `LIMIT` is read by what stands behind the keyword. -/
theorem limitCut?_limitTokens {name : DialectName} {rows : Token} {limit : PageLimit}
    (h : limitOf? name rows = some limit) (offset : Option UInt64) :
    limitCut? name (limitTokens rows offset) = some ⟨limit, offset⟩ := by
  cases offset <;> simp [limitTokens, limitCut?, trailingOffset?, h]

/-! ## Clauses of DB2 -/

/-- The tokens of the part that skips rows. -/
def skipTokens : Option UInt64 → List Token
  | some n => [keyword "OFFSET", numeral n, keyword "ROWS"]
  | none => []

/-- The tokens of the part that fetches rows. -/
def fetchTokens : PageLimit → List Token
  | .rows n => [keyword "FETCH", keyword "FIRST", numeral n, keyword "ROWS", keyword "ONLY"]
  | .all => []

theorem tokens?_skip (n : UInt64) :
    tokens? ("OFFSET " ++ Text.showCount n ++ " ROWS").toList = some (skipTokens (some n)) := by
  have hopening : scan .between "OFFSET ".toList = (.between, [keyword "OFFSET"]) := by decide
  have hblank : scan .between " ".toList = (.between, []) := by decide
  have hrows : tokens? "ROWS".toList = some [keyword "ROWS"] := by decide
  have hbehind := tokens?_seam (by decide) hblank (tokens?_showCount n) hrows
  have hclosing : " ROWS" = " " ++ "ROWS" := by decide
  simp only [hclosing, String.toList_append, List.append_assoc] at hbehind ⊢
  rw [tokens?_append_of_between hopening, hbehind]
  rfl

theorem tokens?_fetch (n : UInt64) :
    tokens? ("FETCH FIRST " ++ Text.showCount n ++ " ROWS ONLY").toList =
      some (fetchTokens (.rows n)) := by
  have hopening : scan .between "FETCH FIRST ".toList =
      (.between, [keyword "FETCH", keyword "FIRST"]) := by decide
  have hblank : scan .between " ".toList = (.between, []) := by decide
  have hrows : tokens? "ROWS ONLY".toList = some [keyword "ROWS", keyword "ONLY"] := by decide
  have hbehind := tokens?_seam (by decide) hblank (tokens?_showCount n) hrows
  have hclosing : " ROWS ONLY" = " " ++ "ROWS ONLY" := by decide
  simp only [hclosing, String.toList_append, List.append_assoc] at hbehind ⊢
  rw [tokens?_append_of_between hopening, hbehind]
  rfl

theorem tokens?_db2LimitClause (limit : PageLimit) (offset : Option UInt64) :
    tokens? (Dialect.db2LimitClause limit offset).toList =
      some (skipTokens offset ++ fetchTokens limit) := by
  have hblank : scan .between " ".toList = (.between, []) := by decide
  cases offset with
  | none =>
    cases limit with
    | all => decide
    | rows n => exact tokens?_fetch n
  | some m =>
    cases limit with
    | all => exact tokens?_skip m
    | rows n =>
      have hboth := tokens?_seam (by decide) hblank (tokens?_skip m) (tokens?_fetch n)
      rw [← String.toList_append, ← String.toList_append, List.append_nil] at hboth
      exact hboth

theorem leadingOffset?_append (limit : PageLimit) (offset : Option UInt64) :
    leadingOffset? (skipTokens offset ++ fetchTokens limit) = some (offset, fetchTokens limit) := by
  cases offset with
  | some m => simp [skipTokens, leadingOffset?]
  | none => cases limit <;> simp [skipTokens, fetchTokens, leadingOffset?, keyword]

theorem fetch?_fetchTokens (limit : PageLimit) : fetch? (fetchTokens limit) = some limit := by
  cases limit <;> simp [fetchTokens, fetch?]

/-! ## All dialects -/

/-- The tokens of the clause that cuts a page. -/
def cutTokens : DialectName → PageLimit → Option UInt64 → List Token
  | .postgresql, limit, offset => limitTokens (rowsToken (keyword "ALL") limit) offset
  | .mysql, limit, offset => limitTokens (rowsToken (numeral 18446744073709551615) limit) offset
  | .db2, limit, offset => skipTokens offset ++ fetchTokens limit

variable {name : DialectName} {casing : Casing}

theorem tokens?_limitClause (limit : PageLimit) (offset : Option UInt64) :
    tokens? ((Dialect.spellingOf name casing).limitClause limit offset).toList =
      some (cutTokens name limit offset) := by
  cases name with
  | postgresql => exact tokens?_limitClauseWith (by decide) limit offset
  | mysql => exact tokens?_limitClauseWith (tokens?_showCount 18446744073709551615) limit offset
  | db2 => exact tokens?_db2LimitClause limit offset

/-- A clause without text says nothing. -/
theorem cutTokens_eq_nil {limit : PageLimit} {offset : Option UInt64}
    (h : ((Dialect.spellingOf name casing).limitClause limit offset).isEmpty = true) :
    cutTokens name limit offset = [] := by
  have htokens := @tokens?_limitClause name casing limit offset
  rw [String.isEmpty_iff.1 h] at htokens
  exact (Option.some.inj htokens).symm

/-- A clause with an offset is not empty. -/
theorem cutTokens_ne_nil (limit : PageLimit) (n : UInt64) :
    cutTokens name limit (some n) ≠ [] := by
  cases name <;> simp [cutTokens, limitTokens, skipTokens]

/-- A limit as its dialect understands it: for MySQL the largest count is all rows. -/
def understood (name : DialectName) (limit : PageLimit) : PageLimit :=
  if name = .mysql ∧ limit = .rows 18446744073709551615 then .all else limit

theorem cut?_cutTokens (limit : PageLimit) (offset : Option UInt64) :
    cut? name (cutTokens name limit offset) = some ⟨understood name limit, offset⟩ := by
  cases name with
  | postgresql =>
    refine limitCut?_limitTokens ?_ offset
    cases limit with
    | all => rfl
    | rows n =>
      have hne : numeral n ≠ keyword "ALL" := numeral_ne_keyword n (by decide)
      simp [limitOf?, rowsToken, hne, understood]
  | mysql =>
    refine limitCut?_limitTokens ?_ offset
    cases limit <;> simp [limitOf?, rowsToken, understood]
  | db2 =>
    simp [cut?, cutTokens, leadingOffset?_append, fetch?_fetchTokens, understood]

/-- The clause that cuts a page is read back. -/
theorem readLimitClause?_eq (limit : PageLimit) (offset : Option UInt64) :
    readLimitClause? name ((Dialect.spellingOf name casing).limitClause limit offset) =
      some ⟨understood name limit, offset⟩ := by
  rw [readLimitClause?, tokens?_limitClause, Option.bind_some, cut?_cutTokens]

/-- Limits are understood alike if they are the same or both mean all rows. -/
theorem understood_eq_iff {limit limit' : PageLimit} :
    understood name limit = understood name limit' ↔
      limit = limit' ∨ name = .mysql ∧ limit ∈ [.all, .rows 18446744073709551615] ∧
        limit' ∈ [.all, .rows 18446744073709551615] := by
  by_cases hname : name = .mysql
  · by_cases h : limit = .rows 18446744073709551615
    · by_cases h' : limit' = .rows 18446744073709551615
      · simp [h, h']
      · simp [understood, hname, h, h', eq_comm]
    · by_cases h' : limit' = .rows 18446744073709551615
      · simp [understood, hname, h, h']
      · have hall : limit = .all → limit' = .all → limit = limit' := by
          rintro rfl rfl
          rfl
        simpa [understood, hname, h, h'] using hall
  · simp [understood, hname]

theorem limitClause_largest (offset : Option UInt64) :
    (Dialect.spellingOf .mysql casing).limitClause (.rows 18446744073709551615) offset =
      (Dialect.spellingOf .mysql casing).limitClause .all offset := by
  have hcount : Text.showCount 18446744073709551615 = Dialect.mysqlUnbounded := by decide
  have hclause : ∀ limit, (Dialect.spellingOf .mysql casing).limitClause limit offset =
      limitClauseWith Dialect.mysqlUnbounded limit offset := fun _ => rfl
  rw [hclause, hclause]
  simp only [limitClauseWith, hcount]

/-- MySQL writes limits that it understands alike in the same way. -/
theorem limitClause_eq_all {limit : PageLimit} (h : limit ∈ [.all, .rows 18446744073709551615])
    (offset : Option UInt64) :
    (Dialect.spellingOf .mysql casing).limitClause limit offset =
      (Dialect.spellingOf .mysql casing).limitClause .all offset := by
  rcases List.mem_pair.1 h with rfl | rfl
  · rfl
  · exact limitClause_largest offset

/-- **The clause that cuts a page determines the page.**  Read by the grammar of its dialect, it
gives back the limit and the offset, the offset if and only if there is one, where MySQL takes the
largest count for all rows.  So two clauses are the same text if and only if they have the same
offset and the same limit, or limits that both mean all rows to MySQL. -/
theorem readLimitClause?_limitClause (name : DialectName) (casing : Casing) :
    (∀ limit offset,
      readLimitClause? name ((Dialect.spellingOf name casing).limitClause limit offset) =
        some ⟨if name = .mysql ∧ limit = .rows 18446744073709551615 then .all else limit,
          offset⟩) ∧
    ∀ limit limit' offset offset',
      (Dialect.spellingOf name casing).limitClause limit offset =
          (Dialect.spellingOf name casing).limitClause limit' offset' ↔
        offset = offset' ∧
          (limit = limit' ∨ name = .mysql ∧ limit ∈ [.all, .rows 18446744073709551615] ∧
            limit' ∈ [.all, .rows 18446744073709551615]) := by
  refine ⟨readLimitClause?_eq, fun limit limit' offset offset' => ⟨fun h => ?_, ?_⟩⟩
  · have hread := @readLimitClause?_eq name casing limit offset
    rw [h, readLimitClause?_eq, Option.some.injEq, Cut.mk.injEq] at hread
    exact ⟨hread.2.symm, understood_eq_iff.1 hread.1.symm⟩
  · rintro ⟨rfl, rfl | ⟨rfl, hlimit, hlimit'⟩⟩
    · rfl
    · rw [limitClause_eq_all hlimit, limitClause_eq_all hlimit']

example : readLimitClause? .db2 "OFFSET 20 ROWS FETCH FIRST 11 ROWS ONLY" =
    some ⟨.rows 11, some 20⟩ := by decide

end RelationPaging.Sql
