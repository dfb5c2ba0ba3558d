import RuleQuery.Binary64.Notation
import RuleQuery.Binary64.Numeral
import RuleQuery.Text.Casing

/-!
Trees of settings. Sources of settings are laid over each other: tables are merged entry by entry,
anything else is replaced. A value is read leniently: truth values, numbers and texts stand in for
each other where that makes sense.
-/
namespace RuleQuery

inductive Setting where
  | bool (value : Bool)
  | integer (value : Int)
  | float (value : Binary64)
  | text (value : String)
  | list (items : List Setting)
  | table (entries : List (String × Setting))

namespace Setting

def empty : Setting := table []

def entries : Setting → List (String × Setting)
  | table entries => entries
  | _ => []

def get? (s : Setting) (key : String) : Option Setting :=
  (s.entries.find? fun entry => entry.1 == key).map (·.2)

def put (key : String) (value : Setting) : List (String × Setting) → List (String × Setting)
  | [] => [(key, value)]
  | (k, v) :: rest => if k = key then (k, value) :: rest else (k, v) :: put key value rest

mutual

/-- One setting over another, if there is one. An empty table over a value leaves it alone. -/
def overlay (below : Option Setting) : Setting → Setting
  | table [] => below.getD empty
  | table (entry :: rest) => table (overlayEntries (below.elim [] entries) (entry :: rest))
  | value => value

def overlayEntries (below : List (String × Setting)) :
    List (String × Setting) → List (String × Setting)
  | [] => below
  | (key, value) :: rest =>
    overlayEntries (put key (overlay ((table below).get? key) value) below) rest

end

def atPath (value : Setting) : List String → Setting
  | [] => value
  | key :: rest => table [(key, atPath value rest)]

def isNameChar (c : Char) : Bool := c.isAlphanum || c == '_' || c == '-'

/-- The path that a key spells with points; a key that is no path stands for itself. -/
def path (key : String) : List String :=
  let parts := key.splitOn "."
  if parts.all fun part => !part.isEmpty && part.toList.all isNameChar then parts else [key]

def addSource (tree source : Setting) : Setting :=
  source.entries.foldl (fun tree (key, value) => overlay (some tree) (value.atPath (path key))) tree

def isYes (word : String) : Bool := ["true", "on", "yes"].contains word

def isNo (word : String) : Bool := ["false", "off", "no"].contains word

def toNat? : Setting → Option Nat
  | bool b => some (if b then 1 else 0)
  | integer i => if 0 ≤ i then some i.toNat else none
  | float x =>
    if x.isNaN || x.negative then some 0
    else if x.isFinite then some (min x.toNatHalfUp (UInt64.size - 1))
    else some (UInt64.size - 1)
  | text s =>
    if isYes (Text.lower s) then some 1
    else if isNo (Text.lower s) then some 0
    else (Text.natural? s).filter fun n => n < UInt64.size
  | list _ | table _ => none

def toPort? (s : Setting) : Option Nat := s.toNat?.filter fun n => n < UInt16.size

def toBool? : Setting → Option Bool
  | bool b => some b
  | integer i => some (i != 0)
  | float x => some (!x.isZero)
  | text s =>
    if Text.lower s == "1" || isYes (Text.lower s) then some true
    else if Text.lower s == "0" || isNo (Text.lower s) then some false
    else none
  | list _ | table _ => none

def toText? : Setting → Option String
  | bool b => some (if b then "true" else "false")
  | integer i => some (toString i)
  | float x => some x.toText
  | text s => some s
  | list _ | table _ => none

end Setting

end RuleQuery
