import IssueGateway.Settings

/-!
# Launching the server

What the server process is started with: the application to serve and where it listens.
-/

namespace IssueGateway

structure Launch where
  host : String := "127.0.0.1"
  port : Int := 8000
  deriving DecidableEq, Repr

namespace Launch

def app : String := "issuescope.api:create_app"

def isFactory : Bool := true

/-- The arguments by name; the server process does not configure logging. -/
def arguments (l : Launch) : Json.Fields :=
  [("app", .str app), ("factory", .bool isFactory), ("host", .str l.host), ("port", .int l.port),
    ("log_config", .null)]

/-- The longest quotation of a port that is no number. -/
def maxQuotation : Nat := 200

def portMessage (raw : String) : Number.IntegerError → String
  | .malformed => "invalid literal for int() with base 10: " ++
      String.ofList ((Text.quoted raw).toList.take maxQuotation)
  | .tooLong digits =>
    s!"Exceeds the limit ({Number.maxIntegerDigits} digits) for integer string conversion: " ++
      s!"value has {digits} digits; use sys.set_int_max_str_digits() to increase the limit"

/-- Reads host and port; the error is its wording. -/
def load (env : Environment) : Except String Launch := do
  let defaults : Launch := {}
  let host := (Assoc.get? env "ISSUESCOPE_HOST").getD defaults.host
  match Assoc.get? env "ISSUESCOPE_PORT" with
  | none => return { defaults with host }
  | some raw => match Number.readInteger raw with
    | .ok port => return ⟨host, port⟩
    | .error e => throw (portMessage raw e)

end Launch

end IssueGateway
