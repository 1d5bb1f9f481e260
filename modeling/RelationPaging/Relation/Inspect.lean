import RelationPaging.Relation
import RelationPaging.Json.Writer
import RelationPaging.Text.Quoted

/-!
# Relations on one line

A one-line rendering of a relation for logs.  Records are written with their fields in order,
texts are quoted, optional parts are marked as `Some(...)` or `None`, and a callback shows only
whether it is there.
-/

namespace RelationPaging.Inspect

/-- Renderings between two brackets, separated by commas. -/
def listing (opening closing : String) (parts : List String) : String :=
  opening ++ String.intercalate ", " parts ++ closing

/-- A list of renderings in square brackets. -/
def list (parts : List String) : String :=
  listing "[" "]" parts

/-- A record: its name and its fields in order. -/
def record (name : String) (fields : List (String × String)) : String :=
  name ++ listing " \x7b " " \x7d" (fields.map fun (field, value) => field ++ ": " ++ value)

/-- An optional part. -/
def optional {α : Type} (render : α → String) : Option α → String
  | some value => "Some(" ++ render value ++ ")"
  | none => "None"

/-- Whether something is there. -/
def flag (b : Bool) : String :=
  if b then "true" else "false"

mutual

/-- A JSON value, with the name of its kind in front. -/
def json : Json → String
  | .null => "Null"
  | .bool b => "Bool(" ++ flag b ++ ")"
  | .number n => "Number(" ++ n.text ++ ")"
  | .string s => "String(" ++ Text.quoted s ++ ")"
  | .array items => "Array " ++ listing "[" "]" (jsonItems items)
  | .object members => "Object " ++ listing "\x7b" "\x7d" (jsonMembers members)
termination_by structural value => value

/-- The renderings of the items of an array. -/
def jsonItems : List Json → List String
  | [] => []
  | item :: items => json item :: jsonItems items
termination_by structural items => items

/-- The renderings of the members of an object. -/
def jsonMembers : Json.Members → List String
  | [] => []
  | (key, value) :: members => (Text.quoted key ++ ": " ++ json value) :: jsonMembers members
termination_by structural members => members

end

/-- Arguments in braces. -/
def arguments (members : Arguments) : String :=
  listing "\x7b" "\x7d" (jsonMembers members)

/-- A sort direction. -/
def direction : SortDirection → String
  | .ascending => "Asc"
  | .descending => "Desc"

/-- A sort key. -/
def sortKey (key : SortKey) : String :=
  record "SortKey" [("order", direction key.direction), ("key", list (key.columns.map Text.quoted))]

/-- An order. -/
def orderBy (order : OrderBy) : String :=
  record "OrderBy"
    [("columns", list (order.columns.map fun (column, d) =>
      "(" ++ Text.quoted column ++ ", " ++ direction d ++ ")"))]

/-- A batch key. -/
def batchKey (key : BatchKey) : String :=
  record "SqlBatch" [("this_key", Text.quoted key.child), ("parent_key", Text.quoted key.parent)]

/-- A junction. -/
def junction (j : Junction) : String :=
  record "JunctionNode"
    [("alias", Text.quoted j.aliasName), ("sql_table", Text.quoted j.table),
     ("sql_batch", optional batchKey j.batchKey), ("sql_joins", flag j.joins.isSome),
     ("where_fn", flag j.filter.isSome), ("sort_key", optional sortKey j.sortKey),
     ("order_by", optional orderBy j.orderBy)]

/-- A relation. -/
def relation (r : Relation) : String :=
  record "RelationNode"
    [("name", Text.quoted r.table), ("alias", Text.quoted r.aliasName),
     ("args", arguments r.arguments), ("sort_key", optional sortKey r.sortKey),
     ("order_by", optional orderBy r.orderBy), ("paginate", flag r.hasPageInfo),
     ("where_fn", flag r.filter.isSome), ("sql_join", flag r.join.isSome),
     ("sql_batch", optional batchKey r.batchKey), ("junction", optional junction r.junction)]

end RelationPaging.Inspect
