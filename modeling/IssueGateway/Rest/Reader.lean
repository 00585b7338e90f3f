import IssueGateway.Json.Value
import IssueGateway.Number.Literal
import IssueGateway.Rest.Problem

/-!
# Readers

How the parts of a request are read. Reading is lenient about numbers: a text that spells one, a
truth value and an integral double are integers, and all of these and any number are doubles. It is
strict about texts. The fields of an object may be named in camel case or with underscores; the
former wins.
-/

namespace IssueGateway.Rest

open Json Text

abbrev Reader (α : Type) := Value → Validated α

/-! ## Integers -/

def maxIntegerLength : Nat := 4300

/-- The integer that a text spells: blanks around it, a sign, ASCII digits, and after a point zeros
only. -/
def spelledInteger? (s : String) : Option Int :=
  let (negative, body) := Number.takeSign (trimBy isNumeralBlank s.toList)
  let whole := body.takeWhile (· != '.')
  let rest := body.dropWhile (· != '.')
  if (rest.drop 1).all (· == '0') then
    ((Number.dropUnderscores whole).bind readNatural?).map fun n =>
      if negative then -(n : Int) else n
  else none

def readIntegerText (s : String) : Validated Int :=
  if maxIntegerLength < s.utf8ByteSize then .fault .oversizedInteger
  else match spelledInteger? s with
    | some n => .ok n
    | none => .fault .unreadableInteger

/-- The doubles that are read as integers lie below this in magnitude. -/
def integralBound : Float := 9223372036854775808.0

def readIntegerDouble (x : Float) : Validated Int :=
  if !x.isFinite then .fault .notFinite
  else match Number.whole? x with
    | none => .fault .fractional
    | some n => if -integralBound ≤ x ∧ x < integralBound then .ok n else .fault .oversizedInteger

def readInteger : Reader Int
  | .num (.int n) => .ok n
  | .num (.float x) => readIntegerDouble x
  | .bool b => .ok (if b then 1 else 0)
  | .str s => readIntegerText s
  | _ => .fault .noInteger

def readAbove (bound : Int) : Reader Int := fun v =>
  (readInteger v).andThen fun n => if bound < n then .ok n else .fault (.notAbove bound)

def readFrom (bound : Int) : Reader Int := fun v =>
  (readInteger v).andThen fun n => if bound ≤ n then .ok n else .fault (.below bound)

def readBetween (low high : Int) : Reader Int := fun v =>
  (readInteger v).andThen fun n =>
    if n < low then .fault (.below low) else if high < n then .fault (.above high) else .ok n

/-! ## Doubles -/

/-- The text without underscores, none of which may stand at an end or beside another. -/
def withoutUnderscores? (cs : List Char) : Option (List Char) :=
  let double := (cs.zip (cs.drop 1)).any fun (a, b) => a == '_' && b == '_'
  if cs.head? = some '_' ∨ cs.getLast? = some '_' ∨ double then none
  else some (cs.filter (· != '_'))

/-- The double that a text spells: first with blanks around it, else with underscores in it. -/
def spelledDouble? (s : String) : Option Float :=
  (Number.readPlainReal? (trimBy isNumeralBlank s.toList)).or
    ((withoutUnderscores? s.toList).bind Number.readPlainReal?)

def readDouble : Reader Float
  | .num n => match n.toFloat with
    | .ok x => .ok x
    | .error _ => .fault .noNumber
  | .bool b => .ok (if b then 1.0 else 0.0)
  | .str s => match spelledDouble? s with
    | some x => .ok x
    | none => .fault .unreadableNumber
  | _ => .fault .noNumber

/-- A percentage; what is no number at all fails the upper bound. -/
def readPercentage : Reader Float := fun v =>
  (readDouble v).andThen fun x =>
    if !(x ≤ 100.0) then .fault (.above 100) else if !(0.0 ≤ x) then .fault (.below 0) else .ok x

/-! ## Texts, lists and objects -/

def readText : Reader String
  | .str s => .ok s
  | _ => .fault .noText

/-- A text that is not empty. -/
def readFilledText : Reader String := fun v =>
  (readText v).andThen fun s => if s.isEmpty then .fault .emptyText else .ok s

def readChoice (all : List α) (name : α → String) : Reader α := fun v =>
  let found := match v with
    | .str s => all.find? fun a => name a == s
    | _ => none
  match found with
  | some a => .ok a
  | none => .fault (.noChoice (all.map name))

def readOptional (read : Reader α) : Reader (Option α)
  | .null => .ok none
  | v => some <$> read v

def readItems (read : Reader α) (start : Nat) (items : List Value) : List (Validated α) :=
  match items with
  | [] => []
  | v :: rest =>
    (read v).inside (String.ofList (natural start)) :: readItems read (start + 1) rest

/-- A list of one to so many items. A list that is too long is not looked into. -/
def readList (maximum : Nat) (read : Reader α) : Reader (List α)
  | .arr items =>
    if maximum < items.length then .fault (.longList maximum items.length)
    else if items.isEmpty then .fault .emptyList
    else Validated.all (readItems read 0 items)
  | _ => .fault .noList

def readTexts : Reader (Assoc String String)
  | .obj fields => Validated.all (fields.map fun (key, v) =>
      ((key, ·) <$> readText v).inside key)
  | _ => .fault .noDictionary

def readObject (read : Fields → Validated α) : Reader α
  | .obj fields => read fields
  | _ => .fault .noObject

def capitalized : List Char → List Char
  | [] => []
  | c :: rest => c.toUpper :: rest

def camelCase (name : String) : String :=
  match name.toList.splitOn '_' with
  | [] => ""
  | first :: rest => String.ofList (first ++ rest.flatMap capitalized)

/-- The field with a name, in camel case if there is one so named, with the name that it has. -/
def findField (fields : Fields) (name : String) : Option (String × Value) :=
  match Assoc.get? fields (camelCase name) with
  | some v => some (camelCase name, v)
  | none => (Assoc.get? fields name).map fun v => (name, v)

def required (fields : Fields) (name : String) (read : Reader α) : Validated α :=
  match findField fields name with
  | some (key, v) => (read v).inside key
  | none => (Validated.fault .missing).inside (camelCase name)

def fieldOr (default : α) (fields : Fields) (name : String) (read : Reader α) : Validated α :=
  match findField fields name with
  | some (key, v) => (read v).inside key
  | none => .ok default

def optional (fields : Fields) (name : String) (read : Reader α) : Validated (Option α) :=
  fieldOr none fields name (readOptional read)

end IssueGateway.Rest
