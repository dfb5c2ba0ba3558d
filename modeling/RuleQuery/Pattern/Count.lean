import RuleQuery.Pattern.Program
import Std.Data.HashSet.Basic

/-!
Counting matches. At each place the program runs with its threads in order of preference, all one
character at a time; a thread that accepts ends those behind it, and the last acceptance decides
how long the match is. Matches are counted from left to right without overlap; an empty match does
not count where the match before it ended.
-/
namespace RuleQuery

namespace Code

/-- Threads that wait for a character or accept, in order of preference. `seen` holds the positions
that were entered already. -/
structure Threads where
  seen : Std.HashSet Nat
  waiting : Array Nat

/-- Enters positions between two characters, the first one first; every position is entered once,
so fuel of twice the number of steps and the length of `pending` is enough. -/
def enter (code : Code) (before after : Option Char) :
    (fuel : Nat) → (pending : List Nat) → Threads → Threads
  | 0, _, threads => threads
  | _, [], threads => threads
  | fuel + 1, position :: pending, ⟨seen, waiting⟩ =>
    let (known, seen) := seen.containsThenInsert position
    if known then enter code before after fuel pending ⟨seen, waiting⟩
    else
      match code.steps[position]? with
      | some (.branch first second) =>
        enter code before after fuel (first :: second :: pending) ⟨seen, waiting⟩
      | some (.require condition next) =>
        let pending := if condition.holds before after then next :: pending else pending
        enter code before after fuel pending ⟨seen, waiting⟩
      | some _ => enter code before after fuel pending ⟨seen, waiting.push position⟩
      | none => enter code before after fuel pending ⟨seen, waiting⟩

def threadsAt (code : Code) (before after : Option Char) (positions : List Nat) : List Nat :=
  let fuel := 2 * code.steps.size + positions.length + 1
  (enter code before after fuel positions ⟨∅, #[]⟩).waiting.toList

/-- Where the threads go on after a character, up to the first that accepts, and whether one
does. The positions found so far stand in `onward`. -/
def advance (code : Code) (c : Option Char) (onward : Array Nat) : List Nat → List Nat × Bool
  | [] => (onward.toList, false)
  | position :: rest =>
    match code.steps[position]? with
    | some .accept => (onward.toList, true)
    | some (.consume set next) =>
      advance code c (if c.any set.contains then onward.push next else onward) rest
    | _ => advance code c onward rest

def run (code : Code) (threads : List Nat) (length : Nat) (best : Option Nat) :
    List Char → Option Nat
  | [] => if (advance code none #[] threads).2 then some length else best
  | c :: rest =>
    let (positions, accepted) := advance code (some c) #[] threads
    let best := if accepted then some length else best
    match positions with
    | [] => best
    | _ => run code (threadsAt code (some c) rest.head? positions) (length + 1) best rest

/-- The length of the match at the front of `rest`, where `before` is the character in front. -/
def matchLength? (code : Code) (before : Option Char) (rest : List Char) : Option Nat :=
  run code (threadsAt code before rest.head? [code.entry]) 0 none rest

/-- Counts matches. `skip` characters belong to the match counted last; `blocked` tells that it
ended here. -/
def countFrom (code : Code) (before : Option Char) (skip : Nat) (blocked : Bool) :
    List Char → Nat
  | [] =>
    match code.matchLength? before [] with
    | some _ => if blocked then 0 else 1
    | none => 0
  | c :: rest =>
    match skip with
    | skip + 1 => countFrom code (some c) skip (skip == 0) rest
    | 0 =>
      match code.matchLength? before (c :: rest) with
      | none => countFrom code (some c) 0 false rest
      | some 0 => (if blocked then 0 else 1) + countFrom code (some c) 0 false rest
      | some (n + 1) => 1 + countFrom code (some c) n (n == 0) rest

end Code

def Pattern.count (p : Pattern) (text : String) : Nat :=
  p.compile.countFrom none 0 false text.toList

end RuleQuery
