import RuleQuery.Pattern.Basic
import RuleQuery.Pattern.Bytes

/-!
Sizes of patterns. A pattern stands for two automata over the bytes of a text: one runs forward and
keeps the places of groups, the other runs backward. The size of an automaton is the memory that
its states take, and a pattern is refused when one of them outgrows the limit.
-/
namespace RuleQuery

/-- What a state takes, what each of its continuations adds, and what each of its transitions on a
byte adds. -/
def stateSize : Nat := 32

def branchSize : Nat := 4

def transitionSize : Nat := 8

def CharSet.size (forward : Bool) (set : CharSet) : Nat :=
  match set.single? with
  | some c => stateSize * c.utf8Size
  | none =>
    let ranges := set.toList
    if ranges = [] then stateSize
    else if ranges.all fun (_, last) => last < 0x80 then
      2 * stateSize + transitionSize * ranges.length
    else
      let sequences := set.utf8
      if forward then
        let nodes := (endSets 4 [sequences]).eraseDups
        nodes.foldl (fun size node => size + stateSize + transitionSize * (byHead node).length)
          stateSize
      else
        2 * stateSize + branchSize * sequences.length + stateSize * startSteps [] sequences

namespace Pattern

def literal? : Pattern → Option (List Char)
  | char set => set.single?.map ([·])
  | sequence parts =>
    parts.mapM fun
      | char set => set.single?
      | _ => none
  | _ => none

def treeSize : (depth : Nat) → List (List UInt8) → Nat
  | 0, _ => 0
  | depth + 1, words =>
    match byHead words with
    | [] => 0
    | heads =>
      let ended := if words.contains [] then branchSize else 0
      let transitions := if heads.length < 2 then 0 else transitionSize * heads.length
      heads.foldl (fun size (_, rest) => size + treeSize depth rest)
        (2 * stateSize + branchSize + ended + transitions)

def wordsSize (forward : Bool) (words : List (List Char)) : Nat :=
  let bytes := words.map fun word => (String.ofList word).toUTF8.toList
  let bytes := if forward then bytes else bytes.map List.reverse
  let longest := bytes.foldl (fun n word => max n word.length) 0
  stateSize + treeSize longest bytes

mutual

def size (forward : Bool) : Pattern → Nat
  | empty => stateSize
  | char set => set.size forward
  | place _ => stateSize
  | group body => body.size forward + if forward then 2 * stateSize else 0
  | sequence parts => totalSize forward parts
  | choice alternatives =>
    match alternatives.mapM literal? with
    | some words => wordsSize forward words
    | none => 2 * stateSize + branchSize * alternatives.length + totalSize forward alternatives
  | repetition body least most _ =>
    let one := body.size forward
    let branch := stateSize + 2 * branchSize
    match most with
    | none =>
      if least = 0 then if body.consumes then branch + one else 2 * branch + stateSize + one
      else least * one + branch
    | some most =>
      if least = most then least * one
      else
        (if least = 0 then if most = 1 then 0 else stateSize else least * one) + stateSize +
          (most - least) * (one + branch)

def totalSize (forward : Bool) : List Pattern → Nat
  | [] => 0
  | p :: rest => p.size forward + totalSize forward rest

end

def sizeLimit : Nat := 10 * 1024 * 1024

/-- What an automaton takes beside its pattern: a search from any place, the end of the match and,
forward, the places of the match. -/
def frameSize (forward : Bool) : Nat := if forward then 208 else 144

def fitsLimit (p : Pattern) : Bool :=
  [true, false].all fun forward => p.size forward + frameSize forward ≤ sizeLimit

end Pattern

end RuleQuery
