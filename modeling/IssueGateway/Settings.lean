import IssueGateway.Number.Literal
import IssueGateway.Remote.Client
import IssueGateway.Text.Blank
import IssueGateway.Text.Quoted

/-!
# Settings

The connection to the remote is configured by environment variables. Two are required; the numbers
have defaults, which an empty variable keeps.
-/

namespace IssueGateway

open Text

abbrev Environment := Assoc String String

/-- Why an environment does not configure a connection. -/
inductive ConfigError where
  | missing
  | notANumber (key raw : String)
  | notAnInteger (key raw : String)
  deriving DecidableEq, Repr

def ConfigError.message : ConfigError → String
  | .missing =>
    "PLEASANTER_BASE_URL and PLEASANTER_API_KEY environment variables are required"
  | .notANumber key raw => key ++ " must be a number, got " ++ quoted raw
  | .notAnInteger key raw => key ++ " must be an integer, got " ++ quoted raw

structure Settings where
  baseUrl : String
  apiKey : String
  timeout : Number := .float 30.0
  retries : Int := 3
  retryDelay : Number := .float 1.0
  deriving DecidableEq, Repr

namespace Settings

/-- The value of a variable that is set and not empty. -/
def given? (env : Environment) (key : String) : Option String :=
  (Assoc.get? env key).filter fun raw => !raw.isEmpty

def real (env : Environment) (key : String) (default : Number) : Except ConfigError Number :=
  match given? env key with
  | none => .ok default
  | some raw => match Number.readReal? raw with
    | some x => .ok (.float x)
    | none => .error (.notANumber key raw)

def integer (env : Environment) (key : String) (default : Int) : Except ConfigError Int :=
  match given? env key with
  | none => .ok default
  | some raw => match Number.readInteger raw with
    | .ok n => .ok n
    | .error _ => .error (.notAnInteger key raw)

/-- A required text, without the blanks around it; empty if it is not set. -/
def required (env : Environment) (key : String) : String :=
  trimBlanks ((Assoc.get? env key).getD "")

/-- The text without slashes at its end. -/
def dropTrailingSlashes (s : String) : String :=
  String.ofList (s.toList.reverse.dropWhile (· == '/')).reverse

def load (env : Environment) : Except ConfigError Settings := do
  let baseUrl := required env "PLEASANTER_BASE_URL"
  let apiKey := required env "PLEASANTER_API_KEY"
  if baseUrl.isEmpty || apiKey.isEmpty then
    throw .missing
  let timeout ← real env "PLEASANTER_TIMEOUT" (.float 30.0)
  let retries ← integer env "PLEASANTER_RETRIES" 3
  let retryDelay ← real env "PLEASANTER_RETRY_DELAY" (.float 1.0)
  return { baseUrl := dropTrailingSlashes baseUrl, apiKey, timeout, retries, retryDelay }

def client (s : Settings) : Remote.Client :=
  { base := (Address.ofText s.baseUrl).asBase, apiKey := s.apiKey, timeout := s.timeout
    retry := ⟨s.retries, s.retryDelay⟩ }

end Settings

end IssueGateway
