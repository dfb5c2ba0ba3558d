import RuleQuery.Settings.Tree

/-!
How the tables of a TOML document are put together. A table may be opened once; the tables on the
way to it come into being by themselves and may be opened later, and tables that dotted keys make
are closed to everything but further dotted keys. No key is set twice.
-/
namespace RuleQuery.Toml

inductive Origin where
  | passed
  | opened
  | dotted
deriving DecidableEq

inductive Node where
  | value (setting : Setting)
  | table (origin : Origin) (entries : List (String × Node))
  /-- Tables in a list, the last one first; only that one can be added to. -/
  | tables (last : List (String × Node)) (earlier : List (List (String × Node)))

namespace Node

abbrev Entries := List (String × Node)

def find? (entries : Entries) (key : String) : Option Node :=
  (entries.find? fun entry => entry.1 == key).map (·.2)

def put (key : String) (node : Node) : Entries → Entries
  | [] => [(key, node)]
  | (k, n) :: rest => if k = key then (k, node) :: rest else (k, n) :: put key node rest

def descend? (change : Entries → Option Entries) : List String → Entries → Option Entries
  | [], entries => change entries
  | key :: path, entries =>
    match find? entries key with
    | none => (descend? change path []).map fun inner => put key (table .passed inner) entries
    | some (table origin inner) =>
      (descend? change path inner).map fun inner => put key (table origin inner) entries
    | some (tables last earlier) =>
      (descend? change path last).map fun last => put key (tables last earlier) entries
    | some (value _) => none

def openTable? (key : String) (entries : Entries) : Option Entries :=
  match find? entries key with
  | none => some (put key (table .opened []) entries)
  | some (table .passed inner) => some (put key (table .opened inner) entries)
  | some _ => none

def addTable? (key : String) (entries : Entries) : Option Entries :=
  match find? entries key with
  | none => some (put key (tables [] []) entries)
  | some (tables last earlier) => some (put key (tables [] (last :: earlier)) entries)
  | some _ => none

def setKey? (setting : Setting) : List String → Entries → Option Entries
  | [], _ => none
  | [key], entries =>
    match find? entries key with
    | none => some (put key (value setting) entries)
    | some _ => none
  | key :: path, entries =>
    match find? entries key with
    | none => (setKey? setting path []).map fun inner => put key (table .dotted inner) entries
    | some (table .dotted inner) =>
      (setKey? setting path inner).map fun inner => put key (table .dotted inner) entries
    | some _ => none

mutual

def toSetting : Node → Setting
  | value setting => setting
  | table _ entries => .table (entriesToSettings entries)
  | tables last earlier =>
    .list (tablesToSettings earlier ++ [.table (entriesToSettings last)])

def entriesToSettings : List (String × Node) → List (String × Setting)
  | [] => []
  | (key, node) :: rest => (key, toSetting node) :: entriesToSettings rest

def tablesToSettings : List (List (String × Node)) → List Setting
  | [] => []
  | entries :: rest => tablesToSettings rest ++ [.table (entriesToSettings entries)]

end

end Node

end RuleQuery.Toml
