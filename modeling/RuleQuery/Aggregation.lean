import RuleQuery.Text.Blank
import RuleQuery.Text.Casing

namespace RuleQuery

inductive AggregateFunction where
  | min
  | max
  | count
deriving DecidableEq

namespace AggregateFunction

def name : AggregateFunction → String
  | min => "Min"
  | max => "Max"
  | count => "Count"

def requiresProperty : AggregateFunction → Bool
  | min | max => true
  | count => false

def all : List AggregateFunction := [min, max, count]

def ofName? (s : String) : Option AggregateFunction :=
  all.find? fun f => Text.sameIgnoringCase s f.name

def ofIndex? (i : Int) : Option AggregateFunction :=
  match i with
  | 0 => some min
  | 1 => some max
  | 2 => some count
  | _ => none

end AggregateFunction

structure Aggregation where
  function : AggregateFunction
  propertyName : Option String

def Aggregation.property? (aggregation : Aggregation) : Option String :=
  (aggregation.propertyName.map Text.trim).filter fun name => !name.isEmpty

end RuleQuery
