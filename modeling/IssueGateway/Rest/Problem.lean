import IssueGateway.Text.Digit

/-!
# Problems of a request

What can be wrong with a part of a request, and where the part stands. A request is refused with all
its problems at once, in the order in which the parts are declared.
-/

namespace IssueGateway.Rest

inductive Fault where
  | missing
  | noInteger
  | unreadableInteger
  | oversizedInteger
  | fractional
  | notFinite
  | noNumber
  | unreadableNumber
  | noText
  | emptyText
  | noDictionary
  | noObject
  | noList
  | emptyList
  | longList (maximum length : Nat)
  | noChoice (choices : List String)
  | notAbove (bound : Int)
  | below (bound : Int)
  | above (bound : Int)
  | malformedJson
  deriving DecidableEq, Repr

/-- A list of choices in words: commas between them and `or` before the last. -/
def alternatives (choices : List String) : String :=
  let shown := choices.map fun c => "'" ++ c ++ "'"
  match shown.reverse with
  | last :: first :: rest =>
    String.intercalate ", " (first :: rest).reverse ++ " or " ++ last
  | _ => String.intercalate "" shown

def shownBound (n : Int) : String :=
  String.ofList (Text.integer n)

def Fault.message : Fault → String
  | .missing => "Field required"
  | .noInteger => "Input should be a valid integer"
  | .unreadableInteger => "Input should be a valid integer, unable to parse string as an integer"
  | .oversizedInteger => "Unable to parse input string as an integer, exceeded maximum size"
  | .fractional => "Input should be a valid integer, got a number with a fractional part"
  | .notFinite => "Input should be a finite number"
  | .noNumber => "Input should be a valid number"
  | .unreadableNumber => "Input should be a valid number, unable to parse string as a number"
  | .noText => "Input should be a valid string"
  | .emptyText => "String should have at least 1 character"
  | .noDictionary => "Input should be a valid dictionary"
  | .noObject => "Input should be a valid dictionary or object to extract fields from"
  | .noList => "Input should be a valid list"
  | .emptyList => "List should have at least 1 item after validation, not 0"
  | .longList maximum length =>
    s!"List should have at most {maximum} items after validation, not {length}"
  | .noChoice choices => "Input should be " ++ alternatives choices
  | .notAbove bound => "Input should be greater than " ++ shownBound bound
  | .below bound => "Input should be greater than or equal to " ++ shownBound bound
  | .above bound => "Input should be less than or equal to " ++ shownBound bound
  | .malformedJson => "JSON decode error"

/-- A fault and where it is, from the outermost part inwards. -/
structure Problem where
  place : List String
  fault : Fault
  deriving DecidableEq, Repr

def Problem.inside (outer : String) (p : Problem) : Problem :=
  { p with place := outer :: p.place }

def problemLine (place : List String) (message : String) : String :=
  String.intercalate " → " place ++ ": " ++ message

def joinProblems (lines : List (List String × String)) : String :=
  String.intercalate "; " (lines.map fun (place, message) => problemLine place message)

def problemText (problems : List Problem) : String :=
  joinProblems (problems.map fun p => (p.place, p.fault.message))

def Validated (α : Type) := Except (List Problem) α

namespace Validated

/-- A value without problems. -/
def ok (a : α) : Validated α := Except.ok a

def refuse (problems : List Problem) : Validated α := Except.error problems

def fault (f : Fault) : Validated α := refuse [⟨[], f⟩]

def map (f : α → β) : Validated α → Validated β
  | .ok a => .ok (f a)
  | .error problems => .error problems

/-- Applies a function to an argument; the problems of both count. -/
def seq (f : Validated (α → β)) (a : Unit → Validated α) : Validated β :=
  match f, a () with
  | .ok f, .ok a => .ok (f a)
  | .ok _, .error problems => .error problems
  | .error problems, .ok _ => .error problems
  | .error first, .error second => .error (first ++ second)

instance : Applicative Validated where
  map := Validated.map
  pure := ok
  seq := seq

def andThen (v : Validated α) (f : α → Validated β) : Validated β :=
  match v with
  | .ok a => f a
  | .error problems => .error problems

def inside (outer : String) : Validated α → Validated α
  | .ok a => .ok a
  | .error problems => .error (problems.map (Problem.inside outer))

def all : List (Validated α) → Validated (List α)
  | [] => pure []
  | v :: rest => List.cons <$> v <*> all rest

end Validated

end IssueGateway.Rest
