import RuleQuery.Instant.Basic
import RuleQuery.Schema

namespace RuleQuery

structure User where
  id : Int64
  name : String
  email : Option String
  department : String
  salary : Decimal
  age : Option Int32
  /-- A code of digits, often with leading zeros. -/
  employeeCode : String
  bio : String
  isActive : Bool
  managerId : Option Int64
  tags : List String
  createdAt : Instant

namespace User

def new (id : Int64) (name department : String) : User where
  id := id
  name := name
  email := none
  department := department
  salary := .zero
  age := none
  employeeCode := ""
  bio := ""
  isActive := true
  managerId := none
  tags := []
  createdAt := .epoch

/-- Users are one record if all parts agree; salaries agree by value. -/
def same (a b : User) : Bool :=
  a.id == b.id && a.name == b.name && a.email == b.email && a.department == b.department &&
    a.salary.same b.salary && a.age == b.age && a.employeeCode == b.employeeCode &&
    a.bio == b.bio && a.isActive == b.isActive && a.managerId == b.managerId &&
    a.tags == b.tags && a.createdAt == b.createdAt

instance : BEq User := ⟨same⟩

def orNull {α : Type} (make : α → Value) (x : Option α) : Value := x.elim .null make

def schema : Schema User where
  typeId := 0
  typeName := "User"
  fields := [
    ⟨"Id", .required .integer, fun u => .integer u.id⟩,
    ⟨"Name", .required .text, fun u => .text u.name⟩,
    ⟨"Email", .optional .text, fun u => orNull .text u.email⟩,
    ⟨"Department", .required .text, fun u => .text u.department⟩,
    ⟨"Salary", .required .decimal, fun u => .decimal u.salary⟩,
    ⟨"Age", .optional .integer, fun u => orNull (fun age => .integer age.toInt64) u.age⟩,
    ⟨"EmployeeCode", .required .text, fun u => .text u.employeeCode⟩,
    ⟨"Bio", .required .text, fun u => .text u.bio⟩,
    ⟨"IsActive", .required .bool, fun u => .bool u.isActive⟩,
    ⟨"ManagerId", .optional .integer, fun u => orNull .integer u.managerId⟩,
    ⟨"Tags", .required .sequence, fun u => .sequence (u.tags.map .text)⟩,
    ⟨"CreatedAt", .required .timestamp, fun u => .timestamp u.createdAt⟩]

end User

end RuleQuery
