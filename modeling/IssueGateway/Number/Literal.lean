import IssueGateway.Number.Binary64
import IssueGateway.Text.Blank
import IssueGateway.Text.Digit

/-!
# Reading numbers from text

Settings are numbers typed by people: blanks around them, a sign, digits of any script, single
underscores between digits. Integers are limited to 4300 digits. Reals may also have a point, an
exponent, or be `inf`, `infinity` or `nan` in any case.
-/

namespace IssueGateway.Number

open Text

/-- The most digits an integer may be written with. -/
def maxIntegerDigits : Nat := 4300

/-- Why a text is no integer. -/
inductive IntegerError where
  | malformed
  | tooLong (digits : Nat)
  deriving DecidableEq, Repr

/-- A sign in front, if there is one: whether it is a minus, and the rest. -/
def takeSign : List Char → Bool × List Char
  | '-' :: rest => (true, rest)
  | '+' :: rest => (false, rest)
  | cs => (false, cs)

/-- Drops underscores that stand between two digits; any other underscore is an error. -/
def dropUnderscores : List Char → Option (List Char)
  | [] => some []
  | ['_'] => none
  | [c] => some [c]
  | '_' :: _ => none
  | c :: '_' :: d :: rest =>
    if (asciiDigit? c).isSome && (asciiDigit? d).isSome then
      (c :: ·) <$> dropUnderscores (d :: rest)
    else none
  | c :: rest => (c :: ·) <$> dropUnderscores rest

def readInteger (s : String) : Except IntegerError Int :=
  let (negative, body) := takeSign (trimBy isNumeralBlank (asciiDigits s.toList))
  match dropUnderscores body with
  | none => .error .malformed
  | some digits =>
    match readNatural? digits with
    | none => .error .malformed
    | some n =>
      if maxIntegerDigits < digits.length then .error (.tooLong digits.length)
      else .ok (if negative then -(n : Int) else n)

/-- The exponent of a numeral, after its `e`. -/
def readExponent? (cs : List Char) : Option Int :=
  let (negative, digits) := takeSign cs
  (readNatural? digits).map fun n => if negative then -(n : Int) else n

/-- An unsigned decimal: digits with at most one point, then an exponent. At least one digit. -/
def readDecimal? (negative : Bool) (cs : List Char) : Option Float :=
  let isDigit := fun c => (asciiDigit? c).isSome
  let whole := cs.takeWhile isDigit
  let afterWhole := cs.dropWhile isDigit
  let (fraction, rest) := match afterWhole with
    | '.' :: rest => (rest.takeWhile isDigit, rest.dropWhile isDigit)
    | rest => ([], rest)
  match readNatural? (whole ++ fraction) with
  | none => none
  | some digits =>
    let exponent := match rest with
      | [] => some 0
      | e :: rest => if e = 'e' ∨ e = 'E' then readExponent? rest else none
    exponent.map fun e => ofDecimal negative digits (e - fraction.length)

/-- The real that a text of ASCII characters denotes: a decimal, or a word for a non-finite double,
with a sign or without. -/
def readPlainReal? (cs : List Char) : Option Float :=
  let (negative, body) := takeSign cs
  let word := String.ofList (body.map Char.toLower)
  if word = "inf" ∨ word = "infinity" then some (withSign negative infinityBits)
  else if word = "nan" then some notANumber
  else readDecimal? negative body

def readReal? (s : String) : Option Float :=
  (dropUnderscores (trimBy isNumeralBlank (asciiDigits s.toList))).bind readPlainReal?

end IssueGateway.Number
