import RuleQuery.Pattern.Ascii
import RuleQuery.Text.Age
import RuleQuery.Text.Category
import RuleQuery.Text.PropertyTables
import RuleQuery.Text.Script
import RuleQuery.Text.Search
import RuleQuery.Text.Segmentation

namespace RuleQuery.CharSet

def ofCategories (codes : List String) : CharSet :=
  ofRanges (Text.runRanges codes.contains Text.categoryRuns.toList)

def category (letters : String) : CharSet :=
  ofRanges (Text.runRanges (fun code => Text.startsWith code letters) Text.categoryRuns.toList)

def alphabetic : CharSet := ⟨Text.alphabeticRanges⟩

def lowercase : CharSet := ⟨Text.lowercaseRanges⟩

def uppercase : CharSet := ⟨Text.uppercaseRanges⟩

def numeric : CharSet := category "N"

def digit : CharSet := ofCategories ["Nd"]

def blank : CharSet :=
  ofRanges [(9, 13), (0x20, 0x20), (0x85, 0x85), (0xa0, 0xa0), (0x1680, 0x1680), (0x2000, 0x200a),
    (0x2028, 0x2029), (0x202f, 0x202f), (0x205f, 0x205f), (0x3000, 0x3000)]

def joinControl : CharSet := range 0x200c 0x200d

def word : CharSet :=
  unions [alphabetic, ofCategories ["Mn", "Mc", "Me", "Nd", "Pc"], joinControl]

def categoryNames : List (String × String) :=
  [("other", "C"), ("control", "Cc"), ("cntrl", "Cc"), ("format", "Cf"), ("unassigned", "Cn"),
    ("privateuse", "Co"), ("letter", "L"), ("lowercaseletter", "Ll"), ("modifierletter", "Lm"),
    ("otherletter", "Lo"), ("titlecaseletter", "Lt"), ("uppercaseletter", "Lu"), ("mark", "M"),
    ("combiningmark", "M"), ("spacingmark", "Mc"), ("enclosingmark", "Me"),
    ("nonspacingmark", "Mn"), ("number", "N"), ("decimalnumber", "Nd"), ("digit", "Nd"),
    ("letternumber", "Nl"), ("othernumber", "No"), ("punctuation", "P"), ("punct", "P"),
    ("connectorpunctuation", "Pc"), ("dashpunctuation", "Pd"), ("closepunctuation", "Pe"),
    ("finalpunctuation", "Pf"), ("initialpunctuation", "Pi"), ("otherpunctuation", "Po"),
    ("openpunctuation", "Ps"), ("symbol", "S"), ("currencysymbol", "Sc"),
    ("modifiersymbol", "Sk"), ("mathsymbol", "Sm"), ("othersymbol", "So"), ("separator", "Z"),
    ("lineseparator", "Zl"), ("paragraphseparator", "Zp"), ("spaceseparator", "Zs"),
    ("c", "C"), ("cc", "Cc"), ("cf", "Cf"), ("cn", "Cn"), ("co", "Co"), ("l", "L"), ("ll", "Ll"),
    ("lm", "Lm"), ("lo", "Lo"), ("lt", "Lt"), ("lu", "Lu"), ("m", "M"), ("mc", "Mc"),
    ("me", "Me"), ("mn", "Mn"), ("n", "N"), ("nd", "Nd"), ("nl", "Nl"), ("no", "No"), ("p", "P"),
    ("pc", "Pc"), ("pd", "Pd"), ("pe", "Pe"), ("pf", "Pf"), ("pi", "Pi"), ("po", "Po"),
    ("ps", "Ps"), ("s", "S"), ("sc", "Sc"), ("sk", "Sk"), ("sm", "Sm"), ("so", "So"), ("z", "Z"),
    ("zl", "Zl"), ("zp", "Zp"), ("zs", "Zs")]

/-- A name without case, blanks, hyphens, underscores, other characters than those of ASCII and a
leading `is`. The one name that such a start belongs to keeps it. -/
def looseName (name : String) : String :=
  let loose (cs : List Char) : List Char :=
    (cs.filter fun c => c.toNat < 0x80 && !" _-".toList.contains c).map Char.toLower
  match name.toList with
  | a :: b :: rest =>
    if a.toLower = 'i' ∧ b.toLower = 's' then
      match loose rest with
      | ['c'] => "isc"
      | cs => String.ofList cs
    else String.ofList (loose (a :: b :: rest))
  | cs => String.ofList (loose cs)

def categoryNamed? (name : String) : Option CharSet :=
  match name with
  | "any" => some all
  | "ascii" => some ascii
  | "assigned" => some (ofCategories ["Cn"]).complement
  | "lc" | "casedletter" => some (ofCategories ["Lu", "Ll", "Lt"])
  | _ => (categoryNames.find? fun entry => entry.1 == name).map fun entry => category entry.2

def scriptCode? (name : String) : Option String :=
  match name with
  | "qaai" => some "Zinh"
  | "qaac" => some "Copt"
  | _ =>
    (Text.scriptNames.find? fun (code, long) =>
      looseName code == name || looseName long == name).map (·.1)

def script (code : String) : CharSet :=
  ofRanges (Text.runRanges (· == code) Text.scriptRuns.toList)

/-- Characters that are used with a script. -/
def scriptUse (code : String) : CharSet :=
  let extended := ofRanges (Text.scriptExtensions.map (·.1))
  let used := Text.scriptExtensions.filter fun entry => entry.2.contains code
  union (difference (script code) extended) (ofRanges (used.map (·.1)))

def age? (name : String) : Option CharSet :=
  let named (age : String) : Bool :=
    let number := age.toList.drop 1
    number == name.toList || 'v' :: number.filter (· != '.') == name.toList
  let (earlier, rest) := Text.ages.span fun age => !named age
  match rest with
  | age :: _ => some (ofRanges (Text.runRanges (age :: earlier).contains Text.ageRuns.toList))
  | [] => none

def mapped (runs : Array Text.CaseRun) (others : List Nat) : CharSet :=
  union (ofRanges (runs.toList.flatMap fun run => (runPairs run).map fun (n, _) => (n, n)))
    (ofRanges (others.map fun n => (n, n)))

def lowered : CharSet := mapped Text.lowerRuns [0x130]

def uppered : CharSet := mapped Text.upperRuns (Text.upperExpansions.toList.map (·.1))

def titled : CharSet :=
  difference (union uppered (ofRanges [(0x1c4, 0x1c4), (0x1c7, 0x1c7), (0x1ca, 0x1ca),
      (0x1f1, 0x1f1)]))
    (ofRanges [(0x1c5, 0x1c5), (0x1c8, 0x1c8), (0x1cb, 0x1cb), (0x1f2, 0x1f2), (0x10d0, 0x10fa),
      (0x10fd, 0x10ff), (0x1f88, 0x1f8f), (0x1f98, 0x1f9f), (0x1fa8, 0x1faf), (0x1fbc, 0x1fbc),
      (0x1fcc, 0x1fcc), (0x1ffc, 0x1ffc)])

def casefolded : CharSet :=
  difference (union lowered (ofRanges [(0xb5, 0xb5), (0xdf, 0xdf), (0x149, 0x149), (0x17f, 0x17f),
      (0x345, 0x345), (0x3c2, 0x3c2), (0x3d0, 0x3d1), (0x3d5, 0x3d6), (0x3f0, 0x3f1),
      (0x3f5, 0x3f5), (0x587, 0x587), (0x13f8, 0x13fd), (0x1c80, 0x1c88), (0x1e9a, 0x1e9b),
      (0x1f80, 0x1f87), (0x1f90, 0x1f97), (0x1fa0, 0x1fa7), (0x1fb2, 0x1fb4), (0x1fb7, 0x1fb7),
      (0x1fc2, 0x1fc4), (0x1fc7, 0x1fc7), (0x1ff2, 0x1ff4), (0x1ff7, 0x1ff7), (0xab70, 0xabbf),
      (0xfb00, 0xfb06), (0xfb13, 0xfb17)]))
    (range 0x13a0 0x13f5)

def otherIdContinue : CharSet :=
  ofRanges [(0xb7, 0xb7), (0x387, 0x387), (0x1369, 0x1371), (0x19da, 0x19da), (0x200c, 0x200d),
    (0x30fb, 0x30fb), (0xff65, 0xff65)]

def otherIdStart : CharSet :=
  ofRanges [(0x1885, 0x1886), (0x2118, 0x2118), (0x212e, 0x212e), (0x309b, 0x309c)]

def idStart : CharSet :=
  difference (unions [category "L", ofCategories ["Nl"], otherIdStart]) (range 0x2e2f 0x2e2f)

def idContinue : CharSet :=
  unions [idStart, ofCategories ["Mn", "Mc", "Nd", "Pc"], otherIdContinue]

def unstableContinue : CharSet :=
  ofRanges [(0x37a, 0x37a), (0x309b, 0x309c), (0xfc5e, 0xfc63), (0xfdfa, 0xfdfb), (0xfe70, 0xfe70),
    (0xfe72, 0xfe72), (0xfe74, 0xfe74), (0xfe76, 0xfe76), (0xfe78, 0xfe78), (0xfe7a, 0xfe7a),
    (0xfe7c, 0xfe7c), (0xfe7e, 0xfe7e)]

def unstableStart : CharSet :=
  union unstableContinue (ofRanges [(0xe33, 0xe33), (0xeb3, 0xeb3), (0xff9e, 0xff9f)])

def otherDefaultIgnorable : CharSet :=
  ofRanges [(0x34f, 0x34f), (0x115f, 0x1160), (0x17b4, 0x17b5), (0x2065, 0x2065), (0x3164, 0x3164),
    (0xffa0, 0xffa0), (0xfff0, 0xfff8), (0xe0000, 0xe0000), (0xe0002, 0xe001f),
    (0xe0080, 0xe00ff), (0xe01f0, 0xe0fff)]

def defaultIgnorable : CharSet :=
  ofRanges [(0xad, 0xad), (0x34f, 0x34f), (0x61c, 0x61c), (0x115f, 0x1160), (0x17b4, 0x17b5),
    (0x180b, 0x180f), (0x200b, 0x200f), (0x202a, 0x202e), (0x2060, 0x206f), (0x3164, 0x3164),
    (0xfe00, 0xfe0f), (0xfeff, 0xfeff), (0xffa0, 0xffa0), (0xfff0, 0xfff8), (0x1bca0, 0x1bca3),
    (0x1d173, 0x1d17a), (0xe0000, 0xe0fff)]

def graphemeExtend : CharSet :=
  union (ofCategories ["Mn", "Me"]) (ofRanges Text.otherGraphemeExtendRanges)

def graphemeBase : CharSet :=
  (union (ofCategories ["Cc", "Cf", "Cs", "Co", "Cn", "Zl", "Zp"]) graphemeExtend).complement

def noncharacter : CharSet :=
  ofRanges ((0xfdd0, 0xfdef) ::
    (List.range 17).map fun plane => (0x10000 * plane + 0xfffe, 0x10000 * plane + 0xffff))

def logicalOrderException : CharSet :=
  ofRanges [(0xe40, 0xe44), (0xec0, 0xec4), (0x19b5, 0x19b7), (0x19ba, 0x19ba), (0xaab5, 0xaab6),
    (0xaab9, 0xaab9), (0xaabb, 0xaabc)]

def emojiComponent : CharSet :=
  ofRanges [(0x23, 0x23), (0x2a, 0x2a), (0x30, 0x39), (0x200d, 0x200d), (0x20e3, 0x20e3),
    (0xfe0f, 0xfe0f), (0x1f1e6, 0x1f1ff), (0x1f3fb, 0x1f3ff), (0x1f9b0, 0x1f9b3),
    (0xe0020, 0xe007f)]

def hyphen : CharSet :=
  ofRanges [(0x2d, 0x2d), (0xad, 0xad), (0x58a, 0x58a), (0x1806, 0x1806), (0x2010, 0x2011),
    (0x2e17, 0x2e17), (0x30fb, 0x30fb), (0xfe63, 0xfe63), (0xff0d, 0xff0d), (0xff65, 0xff65)]

def idCompatMathStart : CharSet :=
  ofRanges [(0x2202, 0x2202), (0x2207, 0x2207), (0x221e, 0x221e), (0x1d6c1, 0x1d6c1),
    (0x1d6db, 0x1d6db), (0x1d6fb, 0x1d6fb), (0x1d715, 0x1d715), (0x1d735, 0x1d735),
    (0x1d74f, 0x1d74f), (0x1d76f, 0x1d76f), (0x1d789, 0x1d789), (0x1d7a9, 0x1d7a9),
    (0x1d7c3, 0x1d7c3)]

def modifierCombiningMark : CharSet :=
  ofRanges [(0x654, 0x655), (0x658, 0x658), (0x6dc, 0x6dc), (0x6e3, 0x6e3), (0x6e7, 0x6e8),
    (0x8ca, 0x8cb), (0x8cd, 0x8cf), (0x8d3, 0x8d3), (0x8f3, 0x8f3)]

def propertyNamed? (name : String) : Option CharSet :=
  match name with
  | "asciihexdigit" | "ahex" => some asciiHexDigit
  | "alphabetic" | "alpha" => some alphabetic
  | "bidicontrol" | "bidic" =>
    some (ofRanges [(0x61c, 0x61c), (0x200e, 0x200f), (0x202a, 0x202e), (0x2066, 0x2069)])
  | "caseignorable" | "ci" => some ⟨Text.caseIgnorableRanges⟩
  | "cased" => some ⟨Text.casedRanges⟩
  | "changeswhencasefolded" | "cwcf" => some casefolded
  | "changeswhencasemapped" | "cwcm" => some (unions [lowered, uppered, titled])
  | "changeswhenlowercased" | "cwl" => some lowered
  | "changeswhentitlecased" | "cwt" => some titled
  | "changeswhenuppercased" | "cwu" => some uppered
  | "dash" => some (ofRanges Text.dashRanges)
  | "defaultignorablecodepoint" | "di" => some defaultIgnorable
  | "deprecated" | "dep" => some (ofRanges Text.deprecatedRanges)
  | "diacritic" | "dia" => some (ofRanges Text.diacriticRanges)
  | "emoji" => some (ofRanges Text.emojiRanges)
  | "emojicomponent" | "ecomp" => some emojiComponent
  | "emojimodifier" | "emod" => some (range 0x1f3fb 0x1f3ff)
  | "emojimodifierbase" | "ebase" => some (ofRanges Text.emojiModifierBaseRanges)
  | "emojipresentation" | "epres" => some (ofRanges Text.emojiPresentationRanges)
  | "extendedpictographic" | "extpict" => some (ofRanges Text.extendedPictographicRanges)
  | "extender" | "ext" => some (ofRanges Text.extenderRanges)
  | "graphemebase" | "grbase" => some graphemeBase
  | "graphemeextend" | "grext" => some graphemeExtend
  | "graphemelink" | "grlink" => some (ofRanges Text.graphemeLinkRanges)
  | "hexdigit" | "hex" =>
    some (union asciiHexDigit
      (ofRanges [(0xff10, 0xff19), (0xff21, 0xff26), (0xff41, 0xff46)]))
  | "hyphen" => some hyphen
  | "idcompatmathcontinue" =>
    some (union idCompatMathStart (ofRanges [(0xb2, 0xb3), (0xb9, 0xb9), (0x2070, 0x2070),
      (0x2074, 0x207e), (0x2080, 0x208e)]))
  | "idcompatmathstart" => some idCompatMathStart
  | "idcontinue" | "idc" => some idContinue
  | "idstart" | "ids" => some idStart
  | "ideographic" | "ideo" => some (ofRanges Text.ideographicRanges)
  | "idsbinaryoperator" | "idsb" =>
    some (ofRanges [(0x2ff0, 0x2ff1), (0x2ff4, 0x2ffd), (0x31ef, 0x31ef)])
  | "idstrinaryoperator" | "idst" => some (range 0x2ff2 0x2ff3)
  | "idsunaryoperator" | "idsu" => some (range 0x2ffe 0x2fff)
  | "joincontrol" | "joinc" => some joinControl
  | "logicalorderexception" | "loe" => some logicalOrderException
  | "lowercase" | "lower" => some lowercase
  | "math" => some (union (ofCategories ["Sm"]) (ofRanges Text.otherMathRanges))
  | "modifiercombiningmark" | "mcm" => some modifierCombiningMark
  | "noncharactercodepoint" | "nchar" => some noncharacter
  | "otheralphabetic" | "oalpha" =>
    some (difference alphabetic (union (category "L") (ofCategories ["Nl"])))
  | "otherdefaultignorablecodepoint" | "odi" => some otherDefaultIgnorable
  | "othergraphemeextend" | "ogrext" => some (ofRanges Text.otherGraphemeExtendRanges)
  | "otheridcontinue" | "oidc" => some otherIdContinue
  | "otheridstart" | "oids" => some otherIdStart
  | "otherlowercase" | "olower" => some (difference lowercase (ofCategories ["Ll"]))
  | "othermath" | "omath" => some (ofRanges Text.otherMathRanges)
  | "otheruppercase" | "oupper" => some (difference uppercase (ofCategories ["Lu"]))
  | "patternsyntax" | "patsyn" => some (ofRanges Text.patternSyntaxRanges)
  | "patternwhitespace" | "patws" =>
    some (ofRanges [(9, 13), (0x20, 0x20), (0x85, 0x85), (0x200e, 0x200f), (0x2028, 0x2029)])
  | "prependedconcatenationmark" | "pcm" =>
    some (ofRanges [(0x600, 0x605), (0x6dd, 0x6dd), (0x70f, 0x70f), (0x890, 0x891),
      (0x8e2, 0x8e2), (0x110bd, 0x110bd), (0x110cd, 0x110cd)])
  | "quotationmark" | "qmark" => some (ofRanges Text.quotationMarkRanges)
  | "radical" => some (ofRanges [(0x2e80, 0x2e99), (0x2e9b, 0x2ef3), (0x2f00, 0x2fd5)])
  | "regionalindicator" | "ri" => some (range 0x1f1e6 0x1f1ff)
  | "sentenceterminal" | "sterm" => some (ofRanges Text.sentenceTerminalRanges)
  | "softdotted" | "sd" => some (ofRanges Text.softDottedRanges)
  | "terminalpunctuation" | "term" => some (ofRanges Text.terminalPunctuationRanges)
  | "unifiedideograph" | "uideo" => some (ofRanges Text.unifiedIdeographRanges)
  | "uppercase" | "upper" => some uppercase
  | "variationselector" | "vs" =>
    some (ofRanges [(0x180b, 0x180d), (0x180f, 0x180f), (0xfe00, 0xfe0f), (0xe0100, 0xe01ef)])
  | "whitespace" | "wspace" | "space" => some blank
  | "xidcontinue" | "xidc" => some (difference idContinue unstableContinue)
  | "xidstart" | "xids" => some (difference idStart unstableStart)
  | _ => none

/-- The set with the given name: a property, a general category or a script, in this order. -/
def named? (name : String) : Option CharSet :=
  let name := looseName name
  ((propertyNamed? name).or (categoryNamed? name)).or ((scriptCode? name).map script)

def classNamed? (runs : Array Text.Run) (names : List (String × String)) (name : String) :
    Option CharSet :=
  (names.find? fun entry => entry.1 == name).map fun entry =>
    ofRanges (Text.runRanges (· == entry.2) runs.toList)

def openSyllables : CharSet :=
  ofRanges ((List.range 399).map fun i => (0xac00 + 28 * i, 0xac00 + 28 * i))

def cluster? (name : String) : Option CharSet :=
  match name with
  | "lv" => some openSyllables
  | "lvt" => some (difference (range 0xac00 0xd7a3) openSyllables)
  | _ =>
    classNamed? Text.clusterRuns
      [("control", "CN"), ("cn", "CN"), ("cr", "CR"), ("extend", "EX"), ("ex", "EX"), ("l", "L"),
        ("lf", "LF"), ("prepend", "PP"), ("pp", "PP"), ("regionalindicator", "RI"), ("ri", "RI"),
        ("spacingmark", "SM"), ("sm", "SM"), ("t", "T"), ("v", "V"), ("zwj", "ZWJ")] name

def wordPart? (name : String) : Option CharSet :=
  classNamed? Text.wordRuns
    [("aletter", "LE"), ("le", "LE"), ("cr", "CR"), ("doublequote", "DQ"), ("dq", "DQ"),
      ("extend", "Extend"), ("extendnumlet", "EX"), ("ex", "EX"), ("format", "FO"), ("fo", "FO"),
      ("hebrewletter", "HL"), ("hl", "HL"), ("katakana", "KA"), ("ka", "KA"), ("lf", "LF"),
      ("midletter", "ML"), ("ml", "ML"), ("midnum", "MN"), ("mn", "MN"), ("midnumlet", "MB"),
      ("mb", "MB"), ("newline", "NL"), ("nl", "NL"), ("numeric", "NU"), ("nu", "NU"),
      ("regionalindicator", "RI"), ("ri", "RI"), ("singlequote", "SQ"), ("sq", "SQ"),
      ("wsegspace", "WSegSpace"), ("zwj", "ZWJ")] name

def sentencePart? (name : String) : Option CharSet :=
  classNamed? Text.sentenceRuns
    [("aterm", "AT"), ("at", "AT"), ("close", "CL"), ("cl", "CL"), ("cr", "CR"), ("extend", "EX"),
      ("ex", "EX"), ("format", "FO"), ("fo", "FO"), ("oletter", "LE"), ("le", "LE"), ("lf", "LF"),
      ("lower", "LO"), ("lo", "LO"), ("numeric", "NU"), ("nu", "NU"), ("scontinue", "SC"),
      ("sc", "SC"), ("sep", "SE"), ("se", "SE"), ("sp", "SP"), ("sterm", "ST"), ("st", "ST"),
      ("upper", "UP"), ("up", "UP")] name

def withValue? (property value : String) : Option CharSet :=
  let value := looseName value
  match looseName property with
  | "gc" | "generalcategory" => categoryNamed? value
  | "sc" | "script" => (scriptCode? value).map script
  | "scx" | "scriptextensions" => (scriptCode? value).map scriptUse
  | "age" => age? value
  | "gcb" | "graphemeclusterbreak" => cluster? value
  | "wb" | "wordbreak" => wordPart? value
  | "sb" | "sentencebreak" => sentencePart? value
  | _ => none

end RuleQuery.CharSet
