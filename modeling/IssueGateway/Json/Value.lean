import IssueGateway.Assoc
import IssueGateway.Number.Basic

/-!
# JSON values

Objects keep their fields in the order in which the keys first came; a key that comes again replaces
the earlier value in its place. Numbers keep whether they are integers or doubles.
-/

namespace IssueGateway.Json

inductive Value where
  | null
  | bool (b : Bool)
  | num (n : Number)
  | str (s : String)
  | arr (items : List Value)
  | obj (fields : List (String × Value))
  deriving Repr, Inhabited

/-- The fields of an object in order. -/
abbrev Fields := Assoc String Value

namespace Fields

/-- The value of a field; an absent field is `null`. -/
def get (fields : Fields) (key : String) : Value :=
  (Assoc.get? fields key).getD .null

def overlay (fields updates : Fields) : Fields :=
  updates.foldl (fun acc (k, v) => Assoc.set acc k v) fields

end Fields

namespace Value

/-- The field of an object; `null` if it is absent or the value is no object. -/
def field (v : Value) (key : String) : Value :=
  match v with
  | .obj fields => Fields.get fields key
  | _ => .null

/-- Everything counts as present but null, false, zero and the empty text, array and object. -/
def isPresent : Value → Bool
  | .null => false
  | .bool b => b
  | .num n => !n.isZero
  | .str s => !s.isEmpty
  | .arr items => !items.isEmpty
  | .obj fields => !fields.isEmpty

/-- The value, or `fallback` where nothing is present. -/
def orElse (v fallback : Value) : Value :=
  if v.isPresent then v else fallback

def int (n : Int) : Value := .num (.int n)

def float (x : Float) : Value := .num (.float x)

def ofText? : Option String → Value
  | some s => .str s
  | none => .null

def ofFloat? : Option Float → Value
  | some x => .float x
  | none => .null

def ofNumber? : Option Number → Value
  | some n => .num n
  | none => .null

end Value

inductive Kind where
  | null | bool | int | float | str | list | object
  deriving DecidableEq, Repr

def Value.kind : Value → Kind
  | .null => .null
  | .bool _ => .bool
  | .num (.int _) => .int
  | .num (.float _) => .float
  | .str _ => .str
  | .arr _ => .list
  | .obj _ => .object

def Kind.name : Kind → String
  | .null => "NoneType"
  | .bool => "bool"
  | .int => "int"
  | .float => "float"
  | .str => "str"
  | .list => "list"
  | .object => "dict"

end IssueGateway.Json
