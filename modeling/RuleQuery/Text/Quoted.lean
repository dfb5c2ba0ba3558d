import RuleQuery.Text.Category
import RuleQuery.Text.PropertyTables

namespace RuleQuery.Text

def extenderTable : Ranges := otherGraphemeExtendRanges.toArray

def hiddenCategories : List String :=
  ["Cc", "Cf", "Cs", "Co", "Cn", "Zl", "Zp", "Zs", "Mn", "Me"]

def isShown (c : Char) : Bool :=
  c == ' ' || !(hiddenCategories.contains (category c) || extenderTable.contains c)

def quoteChar (c : Char) : String :=
  match c with
  | '\x00' => "\\0"
  | '\t' => "\\t"
  | '\r' => "\\r"
  | '\n' => "\\n"
  | '\\' => "\\\\"
  | '"' => "\\\""
  | c =>
    if isShown c then c.toString
    else "\\u\x7b" ++ String.ofList (Nat.toDigits 16 c.toNat) ++ "\x7d"

def quote (s : String) : String := "\"" ++ String.join (s.toList.map quoteChar) ++ "\""

end RuleQuery.Text
