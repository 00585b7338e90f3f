import IssueGateway.Json.Value
import IssueGateway.Text.Quoted

/-!
# Writing JSON

Values are written without blanks. Strings escape the double quote, the backslash, the control
characters and surrogates that stand alone, and keep all else. Doubles have their shortest numeral,
so that they never read back as integers.
-/

namespace IssueGateway.Json

open Text

def stringChar (c : Char) : List Char :=
  if c = doubleQuote ∨ c = '\\' then ['\\', c]
  else if c.toNat < 0x20 then '\\' :: 'u' :: paddedHex 4 c.toNat
  else [c]

def stringPoint (n : Nat) : List Char :=
  if isSurrogate n then '\\' :: 'u' :: paddedHex 4 n else stringChar (Char.ofNat n)

def stringText (s : String) : String :=
  String.ofList (doubleQuote :: (points s.toList).flatMap stringPoint ++ [doubleQuote])

/-- The numeral of a number; non-finite doubles have words. -/
def numberText : Number → String
  | .int n => String.ofList (integer n)
  | .float x =>
    if x.isFinite then Number.numeral x
    else if x.isNaN then "NaN"
    else if x < 0 then "-Infinity"
    else "Infinity"

mutual

def Value.print : Value → String
  | .null => "null"
  | .bool true => "true"
  | .bool false => "false"
  | .num n => numberText n
  | .str s => stringText s
  | .arr items => "[" ++ String.intercalate "," (printItems items) ++ "]"
  | .obj fields => "\x7b" ++ String.intercalate "," (printFields fields) ++ "\x7d"

def printItems : List Value → List String
  | [] => []
  | v :: rest => v.print :: printItems rest

def printFields : List (String × Value) → List String
  | [] => []
  | (k, v) :: rest => (stringText k ++ ":" ++ v.print) :: printFields rest

end

end IssueGateway.Json
