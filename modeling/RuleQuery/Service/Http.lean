import RuleQuery.Service.Evaluation
import RuleQuery.Service.MediaType
import RuleQuery.User.Writer

namespace RuleQuery.Http

structure Request where
  method : String
  target : String
  contentType : Option String
  body : String

inductive Content where
  | none
  | text (value : String)
  | json (value : Json)

structure Response where
  status : Nat
  content : Content

def withoutHost (target : List Char) : List Char :=
  match target.dropWhile fun c => c.isAlphanum || c == '+' || c == '-' || c == '.' with
  | ':' :: '/' :: '/' :: rest => rest.dropWhile fun c => c != '/' && c != '?' && c != '#'
  | _ => target

/-- The path of a request target, without query and fragment. A target that gives a host and no
path means the root. -/
def path (target : String) : String :=
  match (withoutHost target.toList).takeWhile fun c => c != '?' && c != '#' with
  | [] => "/"
  | cs => String.ofList cs

def maxBodyBytes : Nat := 2 * 1024 * 1024

def bodyDetail : String := "<detail>"

def readBody {α : Type} (read : Document → Option α) (request : Request) :
    Except ServiceError α :=
  let body? :=
    if request.contentType.any MediaType.isJson && request.body.utf8ByteSize ≤ maxBodyBytes then
      (Document.ofText? request.body).bind read
    else .none
  match body? with
  | some value => .ok value
  | .none => .error (.invalidRequest bodyDetail)

def answer {α : Type} (read : Document → Option α) (serve : α → Served (QueryOutput User))
    (request : Request) : StateM ShapeCache Response := do
  match ← (Served.ofExcept (readBody read request) >>= serve).run with
  | .ok output => return ⟨200, .json (output.toJson User.toJson)⟩
  | .error e => return ⟨e.status, .json e.toJson⟩

def respond (limits : Limits) (now : Instant) (request : Request) : StateM ShapeCache Response :=
  match path request.target, request.method with
  | "/health", "GET" => return ⟨200, .text "OK"⟩
  | "/health", "HEAD" => return ⟨200, .none⟩
  | "/rules/evaluate", "POST" =>
    answer (EvaluateRequest.ofDocument? now) (evaluate limits) request
  | "/rules/evaluate-all", "POST" =>
    answer (EvaluateAllRequest.ofDocument? now) (evaluateAll limits) request
  | "/health", _ | "/rules/evaluate", _ | "/rules/evaluate-all", _ => return ⟨405, .none⟩
  | _, _ => return ⟨404, .none⟩

inductive RequestId where
  | given (id : String)
  | generated

/-- An identifier is kept if it consists of visible characters, blanks and tabs. -/
def RequestId.ofHeader (header : Option String) : RequestId :=
  match header with
  | some id =>
    if id.toList.all fun c => c == '\t' || (32 ≤ c.toNat && c.toNat < 127) then given id
    else generated
  | .none => generated

end RuleQuery.Http
