import RelationPaging.Dialect.Standard
import RelationPaging.Json.Reader
import RelationPaging.Planner
import RelationPaging.Toml.Reader

/-!
# Configuration of the planner

A configuration names a dialect, may override its casing, and says what happens to relations
without a declaration.  Each of the three settings may be left out.  Settings are read from
TOML, usually from a file, and from JSON; unknown settings are refused, and a setting may be
made only once.

Names are read as they are spelled here, with respect to letter case.
-/

namespace RelationPaging

/-- The settings of a planner. -/
structure Config where
  dialect : DialectName := .postgresql
  casing : Option Casing := none
  policy : MissingPolicy := .error
  deriving DecidableEq, Repr

namespace Config

/-! ## Use -/

/-- The casing that is used: the one that was set, else that of the dialect. -/
def effectiveCasing (config : Config) : Casing :=
  config.casing.getD config.dialect.defaultCasing

/-- The dialect that is configured. -/
def build (config : Config) : Dialect :=
  .standard config.dialect config.effectiveCasing

/-- The planner that is configured. -/
def planner (config : Config) : Planner :=
  ⟨config.build, config.policy⟩

/-! ## Names -/

/-- The names of dialects. -/
def dialectNames : List (String × DialectName) :=
  [("postgresql", .postgresql), ("postgres", .postgresql), ("pg", .postgresql),
   ("mysql", .mysql), ("db2", .db2)]

/-- The names of casings. -/
def casingNames : List (String × Casing) :=
  [("identity", .identity), ("upper", .upper), ("lower", .lower)]

/-- The names of sort directions. -/
def directionNames : List (String × SortDirection) :=
  [("ASC", .ascending), ("DESC", .descending)]

/-- The names of policies. -/
def policyNames : List (String × MissingPolicy) :=
  [("error", .error), ("skip", .skip)]

/-- The name of a policy. -/
def policyName : MissingPolicy → String
  | .error => "error"
  | .skip => "skip"

/-- The name that a TOML value stands for: a text, or a table whose only key is the name and
binds nothing. -/
def tomlName? : Toml.Value → Option String
  | .text name => some name
  | .table _ [(name, .emptyArray)] => some name
  | .table _ [(name, .table _ [])] => some name
  | _ => none

/-- The name that a JSON value stands for: a string, or an object whose only key is the name
and binds nothing. -/
def jsonName? : Json → Option String
  | .string name => some name
  | .object [(name, .null)] => some name
  | _ => none

/-! ## Settings -/

/-- The keys of the settings, in order. -/
def settingKeys : List String :=
  ["dialect", "casing", "missing_pagination"]

/-- What a name stands for in a list of names. -/
def named? {α : Type} (names : List (String × α)) (name : String) : Option α :=
  names.lookup name

/-- The settings under known keys, given the name or the lack of one under each key that is
there.  Only a casing may be there and lack a name. -/
def ofNames? (settings : List (String × Option String)) : Option Config := do
  guard (settings.all (settingKeys.contains ·.1))
  guard (settings.map (·.1)).Nodup
  let dialect ←
    match settings.lookup "dialect" with
    | none => some .postgresql
    | some name => name.bind (named? dialectNames)
  let casing ←
    match settings.lookup "casing" with
    | none => some none
    | some none => some none
    | some (some name) => (named? casingNames name).map some
  let policy ←
    match settings.lookup "missing_pagination" with
    | none => some .error
    | some name => name.bind (named? policyNames)
  return { dialect, casing, policy }

/-- The configuration in a TOML document. -/
def ofToml? (text : String) : Option Config := do
  let entries ← Toml.read? text
  let names ← entries.mapM fun (key, value) => (tomlName? value).map fun name => (key, some name)
  ofNames? names

/-- The name, or the lack of one, that a JSON value stands for as a setting. -/
def jsonSetting? : Json → Option (Option String)
  | .null => some none
  | value => (jsonName? value).map some

/-- The configuration in a JSON value: an object with the settings by key, or an array with the
first of them in order. -/
def ofJson? : Json → Option Config
  | .object members => do
    let names ← members.mapM fun (key, value) =>
      (jsonSetting? value).map fun name => (key, name)
    ofNames? names
  | .array items => do
    guard (items.length ≤ settingKeys.length)
    let names ← items.mapM jsonSetting?
    ofNames? (settingKeys.zip names)
  | _ => none

/-! ## Files -/

/-- What is found at a path. -/
inductive FileState where
  | missing
  | directory
  | content (bytes : ByteArray)

/-- Why a configuration could not be loaded. -/
inductive LoadError where
  | notFound (path : String)
  | unreadable (path : String)
  | unparsable (path : String)
  deriving DecidableEq, Repr

/-- The path of the configuration when none is given. -/
def defaultPath : String := "relpage.config.toml"

/-- The wording of the refusal of a path at which there is no file. -/
def notFoundMessage (path : String) : String :=
  "config not found: " ++ path

/-- Reads a configuration from a text. -/
def ofText (path text : String) : Except LoadError Config :=
  match ofToml? text with
  | some config => .ok config
  | none => .error (.unparsable path)

/-- Loads a configuration from what is found at a path.  The content has to be UTF-8. -/
def load (path : String) : FileState → Except LoadError Config
  | .missing => .error (.notFound path)
  | .directory => .error (.unreadable path)
  | .content bytes =>
    match String.fromUTF8? bytes with
    | some text => ofText path text
    | none => .error (.unreadable path)

end Config

end RelationPaging
