import RuleQuery.Settings.Basic
import RuleQuery.Text.Search
import RuleQuery.Toml.Reader

/-!
Where settings come from, later sources over earlier ones: built-in values, the files for all
deployments, for the environment and for the service, the environment variables that start with
`QUERY_`, and the port variable of the service.
-/
namespace RuleQuery.Settings

abbrev Texts := List (String × String)

def lookup? (texts : Texts) (name : String) : Option String :=
  (texts.find? fun entry => entry.1 == name).map (·.2)

def addFile? (files : Texts) (tree : Setting) (name : String) : Option Setting :=
  match lookup? files (name ++ ".toml") with
  | none => some tree
  | some text => (Toml.ofText? text).map tree.addSource

def variableStart : String := "query_"

/-- Two underscores in a variable's name divide levels. -/
def levels : List Char → List Char
  | '_' :: '_' :: rest => '.' :: levels rest
  | c :: rest => c :: levels rest
  | [] => []

/-- The key that a variable sets, in lower case. -/
def variableKey? (name : String) : Option String :=
  let lowered := Text.lower name
  if Text.startsWith lowered variableStart then
    some (String.ofList (levels (lowered.toList.drop variableStart.length)))
  else none

/-- The value of a variable: a truth value, an integer of 64 bits, a float, or else a text. -/
def variableValue (text : String) : Setting :=
  if Text.lower text == "true" then .bool true
  else if Text.lower text == "false" then .bool false
  else
    let inRange (i : Int) : Bool := -0x8000000000000000 ≤ i && i < 0x8000000000000000
    match (Text.integer? text).filter inRange with
    | some i => .integer i
    | none => (Binary64.ofText? text).elim (.text text) .float

def ofVariables (vars : Texts) : Setting :=
  .table (vars.filterMap fun (name, text) =>
    (variableKey? name).map fun key => (key, variableValue text))

def portVariable (service : String) : String :=
  String.ofList ((Text.upper service).toList.map fun c => if c = '-' then '_' else c) ++ "_PORT"

/-- The port of a service by its own variable, if that holds one. -/
def servicePort? (vars : Texts) (service : String) : Option Nat :=
  ((lookup? vars (portVariable service)).bind Text.natural?).filter fun n => n < UInt16.size

def tree? (files vars : Texts) (service : String) : Option Setting := do
  let environment := (lookup? vars "QUERY_ENV").getD "development"
  let initial : Setting :=
    .table [("service_name", .text service), ("environment", .text environment)]
  let tree ← ["default", environment, service].foldlM (addFile? files) initial
  return tree.addSource (ofVariables vars)

def load? (files vars : Texts) (service : String) : Option Settings := do
  let settings ← ofTree? (← tree? files vars service)
  match servicePort? vars service with
  | some port => return { settings with server := { settings.server with port := port } }
  | none => return settings

end RuleQuery.Settings
