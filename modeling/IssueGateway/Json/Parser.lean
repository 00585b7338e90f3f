import IssueGateway.Json.Value
import IssueGateway.Number.Literal
import IssueGateway.Text.Encoding

/-!
# Reading JSON

Besides the standard grammar the numbers `NaN`, `Infinity` and `-Infinity` are read. An error tells
the index of the character at which something else was expected; for a string without an end that is
its opening quote, for a bad escape the backslash or, in `\u`, the letter after it. Two escapes for
the halves of a pair are one character, and a half that stands alone stays what it is.
-/

namespace IssueGateway.Json

open Text

/-- Why a text is no JSON. -/
inductive ParseError where
  | unexpected (position : Nat)
  /-- An integer has more digits than integers may have. -/
  | integerTooLong (digits : Nat)
  deriving DecidableEq, Repr

/-- A place in the text: its index and what follows. -/
structure Cursor where
  position : Nat
  rest : List Char
  deriving Repr

namespace Cursor

/-- Past the first `n` characters. -/
def advance (c : Cursor) (n : Nat) : Cursor :=
  ⟨c.position + n, c.rest.drop n⟩

/-- Past spaces, tabs and line ends. -/
def skipBlanks (c : Cursor) : Cursor :=
  c.advance (c.rest.takeWhile fun ch => ch = ' ' ∨ ch = '\t' ∨ ch = '\n' ∨ ch = '\r').length

def fail (c : Cursor) : Except ParseError α :=
  .error (.unexpected c.position)

end Cursor

def hexValue? (c : Char) : Option Nat :=
  if '0' ≤ c ∧ c ≤ '9' then some (c.toNat - 0x30)
  else if 'a' ≤ c ∧ c ≤ 'f' then some (c.toNat - 0x57)
  else if 'A' ≤ c ∧ c ≤ 'F' then some (c.toNat - 0x37)
  else none

/-- The value of four hexadecimal digits. -/
def hexUnit? (a b c d : Char) : Option Nat := do
  return ((((← hexValue? a) * 16 + (← hexValue? b)) * 16 + (← hexValue? c)) * 16 + (← hexValue? d))

def escaped? : Char → Option Char
  | '"' => some '"'
  | '\\' => some '\\'
  | '/' => some '/'
  | 'b' => some '\x08'
  | 'f' => some '\x0c'
  | 'n' => some '\n'
  | 'r' => some '\r'
  | 't' => some '\t'
  | _ => none

/-- Reads a string up to its closing quote, as code points and escaped code units. `start` is the
index of the opening quote and `position` that of the first character given. -/
def readUnits (start : Nat) : List Char → Nat → Except ParseError (List Nat × Cursor)
  | [], _ => .error (.unexpected start)
  | c :: rest, position =>
    if c = '"' then .ok ([], ⟨position + 1, rest⟩)
    else if c.toNat < 0x20 then .error (.unexpected position)
    else if c ≠ '\\' then do
      let (units, after) ← readUnits start rest (position + 1)
      return (c.toNat :: units, after)
    else
      match rest with
      | [] => .error (.unexpected start)
      | 'u' :: h1 :: h2 :: h3 :: h4 :: next :: rest => do
        let some unit := hexUnit? h1 h2 h3 h4 | .error (.unexpected (position + 1))
        let (units, after) ← readUnits start (next :: rest) (position + 6)
        return (unit :: units, after)
      | 'u' :: _ => .error (.unexpected (position + 1))
      | e :: rest => do
        let some char := escaped? e | .error (.unexpected position)
        let (units, after) ← readUnits start rest (position + 2)
        return (char.toNat :: units, after)

def readString (c : Cursor) : Except ParseError (String × Cursor) := do
  let (units, after) ← readUnits c.position (c.rest.drop 1) (c.position + 1)
  return (String.ofList (joinSurrogates units), after)

/-- The sign of a number: whether there is a minus, and the rest. -/
def takeMinus : List Char → Bool × List Char
  | '-' :: rest => (true, rest)
  | cs => (false, cs)

/-- The integer part of a number: nothing stands behind a zero. -/
def takeWhole : List Char → List Char
  | '0' :: _ => ['0']
  | cs => cs.takeWhile Char.isDigit

/-- The fraction of a number: a point and digits, or nothing. -/
def takeFraction : List Char → List Char × List Char
  | '.' :: rest =>
    let digits := rest.takeWhile Char.isDigit
    if digits.isEmpty then ([], '.' :: rest) else (digits, rest.dropWhile Char.isDigit)
  | cs => ([], cs)

/-- The exponent of a number: `e`, a sign and digits, or nothing. -/
def takeExponent (cs : List Char) : Option Int × List Char :=
  match cs with
  | e :: rest =>
    if e = 'e' ∨ e = 'E' then
      let (negative, body) := Number.takeSign rest
      match readNatural? (body.takeWhile Char.isDigit) with
      | some n => (some (if negative then -(n : Int) else n), body.dropWhile Char.isDigit)
      | none => (none, cs)
    else (none, cs)
  | [] => (none, [])

/-- Reads a number: a sign, an integer part, a fraction and an exponent. -/
def readNumber (c : Cursor) : Except ParseError (Value × Cursor) :=
  let (negative, body) := takeMinus c.rest
  let whole := takeWhole body
  match readNatural? whole with
  | none => c.fail
  | some n =>
    let (fraction, afterFraction) := takeFraction (body.drop whole.length)
    let (exponent, after) := takeExponent afterFraction
    let cursor : Cursor := ⟨c.position + (c.rest.length - after.length), after⟩
    if fraction.isEmpty ∧ exponent.isNone then
      if Number.maxIntegerDigits < whole.length then .error (.integerTooLong whole.length)
      else .ok (.int (if negative then -(n : Int) else n), cursor)
    else
      let digits := (readNatural? (whole ++ fraction)).getD 0
      .ok (.float (Number.ofDecimal negative digits (exponent.getD 0 - fraction.length)), cursor)

def words : List (List Char × Value) :=
  [("null".toList, .null), ("true".toList, .bool true), ("false".toList, .bool false),
    ("NaN".toList, .float Number.notANumber), ("Infinity".toList, .float Number.infinity),
    ("-Infinity".toList, .float (-Number.infinity))]

/-- Reads a value that is no array, object or string. -/
def readScalar (c : Cursor) : Except ParseError (Value × Cursor) :=
  match words.find? fun (word, _) => word.isPrefixOf c.rest with
  | some (word, value) => .ok (value, c.advance word.length)
  | none => readNumber c

mutual

/-- Reads the value at the cursor. The first argument bounds the number of steps. -/
def readValue : Nat → Cursor → Except ParseError (Value × Cursor)
  | 0, c => c.fail
  | fuel + 1, c =>
    match c.rest with
    | '"' :: _ => do
      let (s, after) ← readString c
      return (.str s, after)
    | '[' :: _ =>
      let inner := (c.advance 1).skipBlanks
      match inner.rest with
      | ']' :: _ => .ok (.arr [], inner.advance 1)
      | _ => do
        let (items, after) ← readItems fuel inner
        return (.arr items, after)
    | '\x7b' :: _ =>
      let inner := (c.advance 1).skipBlanks
      match inner.rest with
      | '\x7d' :: _ => .ok (.obj [], inner.advance 1)
      | _ => do
        let (fields, after) ← readFields fuel inner []
        return (.obj fields, after)
    | _ => readScalar c

/-- Reads the items of an array from the first or next one to the closing bracket. -/
def readItems : Nat → Cursor → Except ParseError (List Value × Cursor)
  | 0, c => c.fail
  | fuel + 1, c => do
    let (item, after) ← readValue fuel c
    let next := after.skipBlanks
    match next.rest with
    | ']' :: _ => return ([item], next.advance 1)
    | ',' :: _ => do
      let (items, last) ← readItems fuel (next.advance 1).skipBlanks
      return (item :: items, last)
    | _ => next.fail

/-- Reads the fields of an object from the first or next one to the closing brace. -/
def readFields : Nat → Cursor → Fields → Except ParseError (Fields × Cursor)
  | 0, c, _ => c.fail
  | fuel + 1, c, fields =>
    match c.rest with
    | '"' :: _ => do
      let (key, afterKey) ← readString c
      let colon := afterKey.skipBlanks
      match colon.rest with
      | ':' :: _ => do
        let (value, after) ← readValue fuel (colon.advance 1).skipBlanks
        let fields := Assoc.set fields key value
        let next := after.skipBlanks
        match next.rest with
        | '\x7d' :: _ => return (fields, next.advance 1)
        | ',' :: _ => readFields fuel (next.advance 1).skipBlanks fields
        | _ => next.fail
      | _ => colon.fail
    | _ => c.fail

end

/-- The same error with its position counted in code points of the text. -/
def ParseError.inPoints (text : List Char) : ParseError → ParseError
  | .unexpected position => .unexpected (points (text.take position)).length
  | e => e

def parse (text : List Char) : Except ParseError Value :=
  Except.mapError (ParseError.inPoints text) do
    let start := Cursor.skipBlanks ⟨0, text⟩
    let (value, after) ← readValue (2 * text.length + 2) start
    let stop := after.skipBlanks
    if stop.rest.isEmpty then return value else stop.fail

/-- Why bytes are no JSON. -/
inductive DecodeError where
  | encoding
  | text (e : ParseError)
  deriving DecidableEq, Repr

def decode (bytes : List UInt8) : Except DecodeError Value :=
  match decodeJsonBytes bytes with
  | none => .error .encoding
  | some text => match parse text with
    | .ok v => .ok v
    | .error e => .error (.text e)

end IssueGateway.Json
