/-!
# TOML tables

The part of TOML that settings by name are written in: texts, empty arrays, and tables.  No
setting takes a number, a truth value, a date or a filled array, so documents that hold one are
not represented.

A table remembers how it came about, because that decides whether it may still grow.  A table
that was named by a header, or is only on the way to one, may get subtables from further
headers; one that is only on the way may later be named itself, once; a table that arose from
a dotted key may be extended by dotted keys; and an inline table is complete.
-/

namespace RelationPaging.Toml

/-- How a table came about. -/
inductive Origin where
  /-- It lies on the way to a table that a header names. -/
  | passing
  /-- A header names it. -/
  | header
  /-- It lies on the way of a dotted key. -/
  | dotted
  /-- It is written between braces. -/
  | inlined
  deriving DecidableEq, Repr

/-- A value. -/
inductive Value where
  | text (value : String)
  | emptyArray
  | table (origin : Origin) (entries : List (String × Value))
  deriving Repr

/-- The entries of a table, in the order in which they were made. -/
abbrev Entries := List (String × Value)

/-- A path of keys, the last one apart. -/
structure Path where
  parents : List String
  last : String
  deriving DecidableEq, Repr

namespace Entries

/-- The entries with the value of a key replaced. -/
def replace (entries : Entries) (key : String) (value : Value) : Entries :=
  entries.map fun entry => if entry.1 = key then (key, value) else entry

/-- Makes an entry under a key that is still free. -/
def add? (entries : Entries) (key : String) (value : Value) : Option Entries :=
  if (entries.lookup key).isSome then none else some (entries ++ [(key, value)])

/-- Makes an entry under a dotted key.  The tables on the way are made, or extended if they
arose from dotted keys. -/
def assign? (entries : Entries) (last : String) (value : Value) : List String → Option Entries
  | [] => entries.add? last value
  | key :: keys =>
    match entries.lookup key with
    | none => do
      let inner ← assign? [] last value keys
      return entries ++ [(key, .table .dotted inner)]
    | some (.table .dotted inner) => do
      let inner ← assign? inner last value keys
      return entries.replace key (.table .dotted inner)
    | some _ => none

/-- Goes down to a table by the keys of a header, changes it, and puts it back.  Tables on the
way are made as far as they are missing; inline tables are closed. -/
def within? (entries : Entries) (change : Entries → Option Entries) :
    List String → Option Entries
  | [] => change entries
  | key :: keys =>
    match entries.lookup key with
    | none => do
      let inner ← within? [] change keys
      return entries ++ [(key, .table .passing inner)]
    | some (.table .inlined _) => none
    | some (.table origin inner) => do
      let inner ← within? inner change keys
      return entries.replace key (.table origin inner)
    | some _ => none

/-- Opens the table that a header names.  It has to be new, or to lie on the way to another
table so far. -/
def openTable? (entries : Entries) (path : Path) : Option Entries :=
  entries.within? (fun parent =>
    match parent.lookup path.last with
    | none => some (parent ++ [(path.last, .table .header [])])
    | some (.table .passing inner) =>
      some (parent.replace path.last (.table .header inner))
    | some _ => none) path.parents

/-- Makes an entry in the table that the last header named. -/
def assignIn? (entries : Entries) (header : Option Path) (path : Path) (value : Value) :
    Option Entries :=
  let keys :=
    match header with
    | some header => header.parents ++ [header.last]
    | none => []
  entries.within? (fun table => assign? table path.last value path.parents) keys

end Entries

end RelationPaging.Toml
