import RuleQuery.Pattern.CharSet

namespace RuleQuery.CharSet

def ascii : CharSet := range 0 0x7f

def asciiDigit : CharSet := range 0x30 0x39

def asciiAlpha : CharSet := ofRanges [(0x41, 0x5a), (0x61, 0x7a)]

def asciiWord : CharSet := unions [asciiAlpha, asciiDigit, single '_']

def asciiSpace : CharSet := ofRanges [(9, 13), (0x20, 0x20)]

def asciiHexDigit : CharSet := ofRanges [(0x30, 0x39), (0x41, 0x46), (0x61, 0x66)]

def asciiClass? (name : String) : Option CharSet :=
  match name with
  | "alnum" => some (union asciiAlpha asciiDigit)
  | "alpha" => some asciiAlpha
  | "ascii" => some ascii
  | "blank" => some (ofRanges [(9, 9), (0x20, 0x20)])
  | "cntrl" => some (ofRanges [(0, 0x1f), (0x7f, 0x7f)])
  | "digit" => some asciiDigit
  | "graph" => some (range 0x21 0x7e)
  | "lower" => some (range 0x61 0x7a)
  | "print" => some (range 0x20 0x7e)
  | "punct" => some (ofRanges [(0x21, 0x2f), (0x3a, 0x40), (0x5b, 0x60), (0x7b, 0x7e)])
  | "space" => some asciiSpace
  | "upper" => some (range 0x41 0x5a)
  | "word" => some asciiWord
  | "xdigit" => some asciiHexDigit
  | _ => none

end RuleQuery.CharSet
