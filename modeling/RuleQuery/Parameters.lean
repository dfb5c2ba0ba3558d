import RuleQuery.Json.Document
import RuleQuery.Text.Blank

namespace RuleQuery

/-- Values by folded name, each name once. -/
structure Parameters where
  entries : List (String × Json)

namespace Parameters

def foldName (name : String) : String := Text.lower (Text.trim name)

def empty : Parameters := ⟨[]⟩

def insert (params : Parameters) (name : String) (value : Json) : Parameters :=
  ⟨(foldName name, value) :: params.entries.filter fun entry => entry.1 != foldName name⟩

def get? (params : Parameters) (name : String) : Option Json :=
  (params.entries.find? fun entry => entry.1 == foldName name).map (·.2)

def size (params : Parameters) : Nat := params.entries.length

def isEmpty (params : Parameters) : Bool := params.entries.isEmpty

/-- Sets parameters in order; of one parameter the last value counts. -/
def ofList (pairs : List (String × Json)) : Parameters :=
  pairs.foldl (fun params (name, value) => params.insert name value) empty

def ofDocument? : Document → Option Parameters
  | .null => some empty
  | .object members => (Document.membersToJson? members).map ofList
  | _ => none

end Parameters

end RuleQuery
