import IssueGateway.Json.Value

/-!
# Redaction

Log events may hold the key of the remote at any depth. Whatever stands under a key of that name is
replaced; all else stays as it is.
-/

namespace IssueGateway.Logging

open Json

def redacted : Value := .str "***"

/-- A character in lower case, as far as ASCII goes: beside the ASCII capitals only the Kelvin sign
has an ASCII letter as its lower case. -/
def foldChar (c : Char) : Char :=
  if c.toNat = 0x212A then 'k' else c.toLower

def isSecretKey (key : String) : Bool :=
  let folded := String.ofList (key.toList.map foldChar)
  folded == "apikey" || folded == "api_key"

mutual

/-- A value without its secrets. -/
def redact : Value → Value
  | .arr items => .arr (redactItems items)
  | .obj fields => .obj (redactFields fields)
  | v => v

/-- Items without their secrets. -/
def redactItems : List Value → List Value
  | [] => []
  | v :: rest => redact v :: redactItems rest

/-- Fields without their secrets. -/
def redactFields : List (String × Value) → List (String × Value)
  | [] => []
  | (key, v) :: rest =>
    (key, if isSecretKey key then redacted else redact v) :: redactFields rest

end

end IssueGateway.Logging
