import RuleQuery.Pattern.Property
import RuleQuery.Text.Blank

namespace RuleQuery.Pattern

structure Flags where
  fold : Bool
  multiline : Bool
  dotAll : Bool
  swapGreed : Bool
  crlf : Bool
  verbose : Bool
  unicode : Bool

namespace Flags

def initial : Flags := ⟨false, false, false, false, false, false, true⟩

def set? (flags : Flags) (letter : Char) (on : Bool) : Option Flags :=
  match letter with
  | 'i' => some { flags with fold := on }
  | 'm' => some { flags with multiline := on }
  | 's' => some { flags with dotAll := on }
  | 'U' => some { flags with swapGreed := on }
  | 'R' => some { flags with crlf := on }
  | 'x' => some { flags with verbose := on }
  | 'u' => some { flags with unicode := on }
  | _ => none

/-- Splits off characters as long as they are accepted. With `blanks`, white space and comments
between them are left out, and so are those in front of the rest. -/
def spanFrom (blanks inComment : Bool) (accepts : Char → Bool) :
    List Char → List Char × List Char
  | [] => ([], [])
  | c :: rest =>
    if inComment then spanFrom blanks (c != '\n') accepts rest
    else if blanks && Text.isBlank c then spanFrom blanks false accepts rest
    else if blanks && c == '#' then spanFrom blanks true accepts rest
    else if accepts c then
      let (kept, rest) := spanFrom blanks false accepts rest
      (c :: kept, rest)
    else ([], c :: rest)

def span (flags : Flags) (accepts : Char → Bool) (cs : List Char) : List Char × List Char :=
  spanFrom flags.verbose false accepts cs

def skip (flags : Flags) (cs : List Char) : List Char := (flags.span (fun _ => false) cs).2

/-- The character that decides whether a hyphen before it joins a range. In verbose patterns it
stands behind blanks, or behind blanks and the sign that starts a comment. -/
def peek? (flags : Flags) (cs : List Char) : Option Char :=
  if flags.verbose then
    let behind := match Text.trimStart cs with
      | '#' :: rest => Text.trimStart rest
      | rest => rest
    behind.head?.or cs.head?
  else cs.head?

/-- A set or all characters outside it. Without the Unicode flag these would be bytes beyond
ASCII. -/
def negate? (flags : Flags) (negated : Bool) (set : CharSet) : Option CharSet :=
  if negated then
    if flags.unicode then some set.complement else none
  else some set

def foldSet (flags : Flags) (set : CharSet) : CharSet :=
  if !flags.fold then set
  else if flags.unicode then set.folded
  else .union set (.intersection .ascii set.folded)

def digitSet (flags : Flags) : CharSet := if flags.unicode then .digit else .asciiDigit

def spaceSet (flags : Flags) : CharSet := if flags.unicode then .blank else .asciiSpace

def wordSet (flags : Flags) : CharSet := if flags.unicode then .word else .asciiWord

end Flags

end RuleQuery.Pattern
