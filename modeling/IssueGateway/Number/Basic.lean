import IssueGateway.Number.Literal
import IssueGateway.Number.Shortest

/-!
# Numbers

A number is an integer of any size or a double, and keeps which of the two it is: a sum of integers
is an integer, and a double anywhere makes the sum a double. Comparison between the two is exact. An
integer with more digits than can be read cannot be written either.
-/

namespace IssueGateway

inductive Number where
  | int (n : Int)
  | float (x : Float)
  deriving DecidableEq, Repr

/-- Why a calculation has no double as its result. -/
inductive RangeError where
  /-- The quotient of two integers is past the last finite double. -/
  | quotientTooLarge
  /-- An integer that meets a double is past the last finite one. -/
  | integerTooLarge
  deriving DecidableEq, Repr

namespace Number

instance : OfNat Number n where
  ofNat := .int n

/-- Zero of either kind is the only number that counts as absent. -/
def isZero : Number → Bool
  | .int n => n == 0
  | .float x => x == 0.0

def isNaN : Number → Bool
  | .int _ => false
  | .float x => x.isNaN

/-- The integer that a finite double is compared with after both are multiplied by a power of two:
`finite? x = some b` stands for `b.numerator / b.denominator`. -/
def Binary.numerator (b : Binary) : Int :=
  let magnitude :=
    if 0 ≤ b.exponent then b.significand * Nat.pow 2 b.exponent.toNat else b.significand
  if b.negative then -(magnitude : Int) else magnitude

/-- The denominator that belongs to `Binary.numerator`. -/
def Binary.denominator (b : Binary) : Nat :=
  if 0 ≤ b.exponent then 1 else Nat.pow 2 (-b.exponent).toNat

/-- The least integer that is not below a finite double. -/
def ceiling? (x : Float) : Option Int :=
  (finite? x).map fun b => -(-b.numerator / b.denominator)

/-- Numerical equality; the non-number equals nothing. -/
def equals : Number → Number → Bool
  | .int a, .int b => a == b
  | .float x, .float y => x == y
  | .int n, .float x | .float x, .int n =>
    match finite? x with
    | some b => n * b.denominator == b.numerator
    | none => false

/-- Numerical order; the non-number is in order with nothing. -/
def le : Number → Number → Bool
  | .int a, .int b => a ≤ b
  | .float x, .float y => x ≤ y
  | .int n, .float x =>
    match finite? x with
    | some b => n * b.denominator ≤ b.numerator
    | none => 0 < x
  | .float x, .int n =>
    match finite? x with
    | some b => b.numerator ≤ n * b.denominator
    | none => x < 0

def toFloat : Number → Except RangeError Float
  | .float x => .ok x
  | .int n => match ofInt? n with
    | some x => .ok x
    | none => .error .integerTooLarge

/-- The sum, an integer if both are. -/
def add : Number → Number → Except RangeError Number
  | .int a, .int b => .ok (.int (a + b))
  | a, b => do return .float ((← a.toFloat) + (← b.toFloat))

/-- The sum from left to right, starting at the integer zero. -/
def sum (ns : List Number) : Except RangeError Number :=
  ns.foldlM add 0

def dividedBy (a : Number) (count : Nat) : Except RangeError Float :=
  match a with
  | .int n => match nearest? (n < 0) n.natAbs count with
    | some q => .ok q
    | none => .error .quotientTooLarge
  | .float x => do return x / (← toFloat (.int count))

/-- The quotient of two counts, asked for only where it is finite. -/
def ratio (part whole : Nat) : Float :=
  (nearest? false part whole).getD infinity

def percent (part whole : Nat) : Float :=
  ratio part whole * 100.0

def text : Number → String
  | .int n => String.ofList (Text.integer n)
  | .float x => numeral x

/-- Whether a number can be written: an integer has few enough digits. -/
def isWritable : Number → Bool
  | .int n => (Text.natural n.natAbs).length ≤ maxIntegerDigits
  | .float _ => true

end Number

end IssueGateway
