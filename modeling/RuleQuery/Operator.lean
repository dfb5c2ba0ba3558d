import RuleQuery.Text.Blank
import RuleQuery.Text.Casing

namespace RuleQuery

inductive Operator where
  | equal
  | notEqual
  | greaterThan
  | greaterThanOrEqual
  | lessThan
  | lessThanOrEqual
  | isIn
  | notIn
  | contains
  | notContains
  | startsWith
  | endsWith
  | null
  | notNull
  | empty
  | notEmpty
  | nullOrEmpty
  | notNullOrEmpty
  | mustContainIfCountIsGreater
  | containIfCountIsGreater
  | containIfCountIsLess
  | implies
  | dynamicEqual
  | dynamicEmpty
  | dynamicNotEmpty
  | dynamicNullOrEmpty
  | dynamicNotNullOrEmpty
deriving DecidableEq

namespace Operator

def name : Operator → String
  | equal => "equal"
  | notEqual => "notequal"
  | greaterThan => "greaterthan"
  | greaterThanOrEqual => "greaterthanorequal"
  | lessThan => "lessthan"
  | lessThanOrEqual => "lessthanorequal"
  | isIn => "in"
  | notIn => "notin"
  | contains => "contains"
  | notContains => "notcontains"
  | startsWith => "startswith"
  | endsWith => "endswith"
  | null => "null"
  | notNull => "notnull"
  | empty => "empty"
  | notEmpty => "notempty"
  | nullOrEmpty => "nullorempty"
  | notNullOrEmpty => "notnullorempty"
  | mustContainIfCountIsGreater => "mustcontainifcountisgreater"
  | containIfCountIsGreater => "containifcountisgreater"
  | containIfCountIsLess => "containifcountisless"
  | implies => "if"
  | dynamicEqual => "dynamicequal"
  | dynamicEmpty => "dynamicempty"
  | dynamicNotEmpty => "dynamicnotempty"
  | dynamicNullOrEmpty => "dynamicnullorempty"
  | dynamicNotNullOrEmpty => "dynamicnotnullorempty"

def all : List Operator :=
  [equal, notEqual, greaterThan, greaterThanOrEqual, lessThan, lessThanOrEqual, isIn, notIn,
    contains, notContains, startsWith, endsWith, null, notNull, empty, notEmpty, nullOrEmpty,
    notNullOrEmpty, mustContainIfCountIsGreater, containIfCountIsGreater, containIfCountIsLess,
    implies, dynamicEqual, dynamicEmpty, dynamicNotEmpty, dynamicNullOrEmpty,
    dynamicNotNullOrEmpty]

def ofName? (s : String) : Option Operator :=
  let lowered := Text.lowerAscii (Text.trim s)
  all.find? fun op => op.name == lowered

/-- Operators that compare by order; on texts they compare decimal numbers. -/
def isOrdered : Operator → Bool
  | greaterThan | greaterThanOrEqual | lessThan | lessThanOrEqual => true
  | _ => false

def isDynamic : Operator → Bool
  | dynamicEqual | dynamicEmpty | dynamicNotEmpty | dynamicNullOrEmpty
  | dynamicNotNullOrEmpty => true
  | _ => false

def accepts (op : Operator) (outcome : Ordering) : Bool :=
  match op with
  | greaterThan => outcome == .gt
  | greaterThanOrEqual => outcome != .lt
  | lessThan => outcome == .lt
  | lessThanOrEqual => outcome != .gt
  | _ => false

end Operator

inductive LogicalOperator where
  | and
  | or
deriving DecidableEq

namespace LogicalOperator

def name : LogicalOperator → String
  | and => "AND"
  | or => "OR"

def ofName? (s : String) : Option LogicalOperator :=
  if Text.sameIgnoringCase (Text.trim s) "and" then some and
  else if Text.sameIgnoringCase (Text.trim s) "or" then some or
  else none

def unknownMessage (s : String) : String := "未知的逻辑操作符: " ++ s

end LogicalOperator

end RuleQuery
