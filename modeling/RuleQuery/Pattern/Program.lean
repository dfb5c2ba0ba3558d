import RuleQuery.Pattern.Basic

/-!
Programs of patterns. A program is an array of steps that refer to one another by position; a
branch prefers its first continuation. Patterns are compiled back to front, each in front of the
position where matching goes on.
-/
namespace RuleQuery

inductive Step where
  | consume (set : CharSet) (next : Nat)
  | require (condition : Place) (next : Nat)
  | branch (first second : Nat)
  | accept

structure Code where
  steps : Array Step
  entry : Nat

namespace Code

def push : Code → Step → Code
  | ⟨steps, _⟩, step =>
    let entry := steps.size
    ⟨steps.push step, entry⟩

def branchStep (greedy : Bool) (enter skip : Nat) : Step :=
  if greedy then .branch enter skip else .branch skip enter

def loop (greedy : Bool) (body : Code → Code) : Code → Code
  | ⟨steps, skip⟩ =>
    let back := steps.size
    match body ⟨steps.push .accept, back⟩ with
    | ⟨steps, entry⟩ => ⟨steps.set! back (branchStep greedy entry skip), entry⟩

def copies (body : Code → Code) : Nat → Code → Code
  | 0, code => code
  | n + 1, code => copies body n (body code)

def optionals (greedy : Bool) (body : Code → Code) (exit : Nat) : Nat → Code → Code
  | 0, code => code
  | n + 1, code =>
    let inner := body code
    optionals greedy body exit n (inner.push (branchStep greedy inner.entry exit))

/-- Compiles a repetition. An unbounded one that may match nothing enters its loop through a branch
of its own, so that the empty round comes last in preference. -/
def repeated (least : Nat) (most : Option Nat) (greedy consumes : Bool) (body : Code → Code)
    (code : Code) : Code :=
  match most with
  | some most => copies body least (optionals greedy body code.entry (most - least) code)
  | none =>
    if least = 0 then
      let back := code.steps.size
      let inner := loop greedy body code
      if consumes then ⟨inner.steps, back⟩
      else inner.push (branchStep greedy inner.entry code.entry)
    else copies body (least - 1) (loop greedy body code)

end Code

namespace Pattern

mutual

def compileOnto : Pattern → Code → Code
  | empty, code => code
  | char set, code => code.push (.consume set code.entry)
  | place condition, code => code.push (.require condition code.entry)
  | group body, code => body.compileOnto code
  | sequence parts, ⟨steps, next⟩ => compileParts parts next steps
  | choice alternatives, ⟨steps, exit⟩ => compileChoice alternatives exit steps
  | repetition body least most greedy, code =>
    Code.repeated least most greedy body.consumes body.compileOnto code

def compileParts : List Pattern → (next : Nat) → Array Step → Code
  | [], next, steps => ⟨steps, next⟩
  | p :: rest, next, steps => p.compileOnto (compileParts rest next steps)

def compileChoice : List Pattern → (exit : Nat) → Array Step → Code
  | [], exit, steps => ⟨steps, exit⟩
  | [p], exit, steps => p.compileOnto ⟨steps, exit⟩
  | p :: rest, exit, steps =>
    match compileChoice rest exit steps with
    | ⟨steps, others⟩ =>
      match p.compileOnto ⟨steps, exit⟩ with
      | ⟨steps, this⟩ => Code.push ⟨steps, this⟩ (.branch this others)

end

def compile (p : Pattern) : Code := p.compileOnto ⟨#[.accept], 0⟩

end Pattern

end RuleQuery
