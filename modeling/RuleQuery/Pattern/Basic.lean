import RuleQuery.Pattern.CharSet

/-!
Patterns: regular expressions without look-around and without references to earlier groups.
Alternatives are ordered, and repetition prefers more rounds or fewer, so that a pattern finds
one definite match at each place.
-/
namespace RuleQuery

inductive Place where
  | textStart
  | textEnd
  | lineStart (crlf : Bool)
  | lineEnd (crlf : Bool)
  | boundary (word : CharSet)
  | inside (word : CharSet)
  | wordStart (word : CharSet)
  | wordEnd (word : CharSet)
  | halfStart (word : CharSet)
  | halfEnd (word : CharSet)

def Place.holds (place : Place) (before after : Option Char) : Bool :=
  let isIn (word : CharSet) (c : Option Char) : Bool := c.any word.contains
  match place with
  | textStart => before.isNone
  | textEnd => after.isNone
  | lineStart false => before.isNone || before == some '\n'
  | lineStart true =>
    before.isNone || before == some '\n' || (before == some '\r' && after != some '\n')
  | lineEnd false => after.isNone || after == some '\n'
  | lineEnd true =>
    after.isNone || after == some '\r' || (after == some '\n' && before != some '\r')
  | boundary word => isIn word before != isIn word after
  | inside word => isIn word before == isIn word after
  | wordStart word => !isIn word before && isIn word after
  | wordEnd word => isIn word before && !isIn word after
  | halfStart word => !isIn word before
  | halfEnd word => !isIn word after

/-- A pattern. A repetition without upper bound has no `most`. -/
inductive Pattern where
  | empty
  | char (set : CharSet)
  | place (condition : Place)
  | group (body : Pattern)
  | sequence (parts : List Pattern)
  | choice (alternatives : List Pattern)
  | repetition (body : Pattern) (least : Nat) (most : Option Nat) (greedy : Bool)

namespace Pattern

mutual

def consumes : Pattern → Bool
  | empty => false
  | char _ => true
  | place _ => false
  | group body => body.consumes
  | sequence parts => someConsumes parts
  | choice alternatives => allConsume alternatives
  | repetition body least _ _ => least != 0 && body.consumes

def someConsumes : List Pattern → Bool
  | [] => false
  | p :: rest => p.consumes || someConsumes rest

def allConsume : List Pattern → Bool
  | [] => true
  | p :: rest => p.consumes && allConsume rest

end

mutual

def isBlank : Pattern → Bool
  | empty | place _ => true
  | char _ => false
  | group body => body.isBlank
  | sequence parts => allBlank parts
  | choice alternatives => allBlank alternatives
  | repetition body _ most _ => most == some 0 || body.isBlank

def allBlank : List Pattern → Bool
  | [] => true
  | p :: rest => p.isBlank && allBlank rest

end

def inSequence (parts : List Pattern) : Pattern :=
  let parts := parts.flatMap fun
    | empty => []
    | sequence inner => inner
    | p => [p]
  match parts with
  | [] => empty
  | [p] => p
  | _ => sequence parts

def charSet? : Pattern → Option CharSet
  | char set => some set
  | _ => none

def oneOf (alternatives : List Pattern) : Pattern :=
  let alternatives := alternatives.flatMap fun
    | choice inner => inner
    | p => [p]
  match alternatives with
  | [p] => p
  | _ =>
    match alternatives.mapM charSet? with
    | some sets => char (CharSet.unions sets)
    | none => choice alternatives

/-- A pattern a number of times in a row. One that matches only the empty text is not tried twice,
since it would match there again. -/
def repeated (body : Pattern) (least : Nat) (most : Option Nat) (greedy : Bool) : Pattern :=
  let (least, most) := if body.isBlank then (min least 1, some (min (most.getD 1) 1))
    else (least, most)
  if most = some 0 then empty
  else if least = 1 ∧ most = some 1 then body
  else repetition body least most greedy

end Pattern

end RuleQuery
