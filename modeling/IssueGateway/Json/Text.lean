import IssueGateway.Json.Value
import IssueGateway.Text.Quoted

/-!
# Values in messages

The text of a value inside messages and group names. A text stands for itself; everything else is
shown as a literal: `None`, `True`, `1.5`, `['a', 2]`, `{'k': None}` with texts between quotes. A
value has a text unless an integer anywhere in it is too long to be written.
-/

namespace IssueGateway.Json

def commaSeparated (parts : List String) : String :=
  String.intercalate ", " parts

mutual

def Value.literal : Value → String
  | .null => "None"
  | .bool true => "True"
  | .bool false => "False"
  | .num n => n.text
  | .str s => Text.quoted s
  | .arr items => "[" ++ commaSeparated (literals items) ++ "]"
  | .obj fields => "\x7b" ++ commaSeparated (fieldLiterals fields) ++ "\x7d"

def literals : List Value → List String
  | [] => []
  | v :: rest => v.literal :: literals rest

def fieldLiterals : List (String × Value) → List String
  | [] => []
  | (k, v) :: rest => (Text.quoted k ++ ": " ++ v.literal) :: fieldLiterals rest

end

def Value.text : Value → String
  | .str s => s
  | v => v.literal

mutual

def Value.isWritable : Value → Bool
  | .num n => n.isWritable
  | .arr items => areWritable items
  | .obj fields => areFieldsWritable fields
  | _ => true

def areWritable : List Value → Bool
  | [] => true
  | v :: rest => v.isWritable && areWritable rest

def areFieldsWritable : List (String × Value) → Bool
  | [] => true
  | (_, v) :: rest => v.isWritable && areFieldsWritable rest

end

end IssueGateway.Json
