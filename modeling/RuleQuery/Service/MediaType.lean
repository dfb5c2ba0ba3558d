namespace RuleQuery.MediaType

def isTokenChar (c : Char) : Bool := c.isAlphanum || "!#$%&'*+-.^_`|~".toList.contains c

def isQuotedChar (c : Char) : Bool := 32 ≤ c.toNat && c.toNat < 127

def spanToken (cs : List Char) : List Char × List Char := cs.span isTokenChar

/-- Whether the text is well formed after the value of a parameter in quotes: blanks to the end or
to the next parameter, which is then checked. -/
def afterQuoted (next : List Char → Bool) (cs : List Char) : Bool :=
  match cs.dropWhile fun c => c == ' ' with
  | [] => true
  | ';' :: rest => next rest
  | _ => false

/-- Whether the text behind a semicolon is a list of parameters. Each step spends fuel; the length
of the text is enough. -/
def areParameters (fuel : Nat) (cs : List Char) : Bool :=
  match fuel, cs.dropWhile fun c => c == ' ' with
  | _, [] => true
  | 0, _ => false
  | fuel + 1, cs =>
    match spanToken cs with
    | ([], _) => false
    | (_, '=' :: '"' :: c :: rest) =>
      match rest.span fun c => isQuotedChar c && c != '"' with
      | (_, '"' :: rest) => isQuotedChar c && afterQuoted (areParameters fuel) rest
      | _ => false
    | (_, '=' :: rest) =>
      match spanToken rest with
      | (_, []) => true
      | (_ :: _, ';' :: rest) => areParameters fuel rest
      | _ => false
    | _ => false

/-- The last plus that does not come first divides a subtype from its suffix. -/
def splitSuffix (subtype : List Char) : List Char × List Char :=
  let suffix := (subtype.drop 1).reverse.takeWhile fun c => c != '+'
  if suffix.length < (subtype.drop 1).length then
    (subtype.take (subtype.length - suffix.length - 1), suffix.reverse)
  else (subtype, [])

def isJson (text : String) : Bool :=
  match spanToken text.toList with
  | (type, '/' :: rest) =>
    let (subtype, rest) := spanToken rest
    let wellFormed :=
      match rest with
      | [] => true
      | ';' :: rest => areParameters rest.length rest
      | _ => false
    let (base, suffix) := splitSuffix (subtype.map Char.toLower)
    wellFormed && type.map Char.toLower == "application".toList &&
      (base == "json".toList || suffix == "json".toList)
  | _ => false

end RuleQuery.MediaType
