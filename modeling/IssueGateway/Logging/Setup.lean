import IssueGateway.Logging.Level
import IssueGateway.Logging.Redaction
import IssueGateway.Settings

/-!
# Logging

Which loggers log what, and how. Levels and format come from arguments, else from the environment,
else they have defaults. Loggers are named in dotted paths and inherit the level of the nearest
logger above them that has one.
-/

namespace IssueGateway.Logging

open Json

inductive Renderer where
  | json | console
  deriving DecidableEq, Repr

def Renderer.name : Renderer → String
  | .json => "json"
  | .console => "console"

structure SetupError where
  logger : String
  deriving DecidableEq, Repr

def SetupError.message (e : SetupError) : String :=
  "Unable to configure logger '" ++ e.logger ++ "'"

structure Setup where
  root : Level
  loggers : Assoc String Level
  renderer : Renderer
  deriving DecidableEq, Repr

/-- An argument that is not empty, or a variable, or a default. -/
def argumentOr (argument : Option String) (env : Environment) (key default : String) : String :=
  (argument.filter fun s => !s.isEmpty).getD ((Assoc.get? env key).getD default)

/-- The way to write that a format names; `auto` depends on whether a person looks on. -/
def rendererOf (format : String) (terminal : Bool) : Renderer :=
  let format := String.ofList (format.toList.map Char.toLower)
  if format == "json" then .json
  else if format == "auto" then if terminal then .console else .json
  else .console

def levelOf (logger name : String) : Except SetupError Level :=
  match Level.ofName? name with
  | some level => .ok level
  | none => .error ⟨logger⟩

def Setup.make (env : Environment) (level format : Option String) (terminal : Bool) :
    Except SetupError Setup := do
  let renderer := rendererOf (argumentOr format env "ISSUESCOPE_LOG_FORMAT" "console") terminal
  let own ← levelOf "issuescope" (argumentOr level env "ISSUESCOPE_LOG_LEVEL" "INFO")
  let traffic ← levelOf "httpx" (argumentOr none env "ISSUESCOPE_HTTP_LOG_LEVEL" "WARNING")
  return { root := own, renderer
           loggers := [("issuescope", own), ("uvicorn.error", .info),
             ("uvicorn.access", .warning), ("httpx", traffic), ("httpcore", traffic)] }

def leadsTo (ancestor path : List Char) : Bool :=
  ancestor == path || (ancestor ++ ['.']).isPrefixOf path

/-- The level that holds for a logger: of the loggers with a level that lead to it the one with the
longest path decides, or else the root. -/
def Setup.effectiveLevel (s : Setup) (logger : String) : Level :=
  let above := s.loggers.filter fun (name, level) =>
    level != .unset && leadsTo name.toList logger.toList
  (above.foldl (fun best (name, level) =>
    if best.1 ≤ name.length then (name.length, level) else best) (0, s.root)).2

structure Event where
  logger : String
  level : Level
  event : String
  fields : Fields := []
  context : Fields := []
  /-- Whether it comes from another program part, which has no fields. -/
  foreign : Bool := false
  deriving Repr

/-- What is written about an event beside the time: the context, the fields over it and the three
parts that every event has, without secrets. -/
def Event.entry (e : Event) : Fields :=
  let told := Fields.overlay e.context (if e.foreign then [] else e.fields)
  redactFields (Fields.overlay (told.filter fun (key, _) => key != "timestamp")
    [("event", .str e.event), ("level", .str e.level.name), ("logger", .str e.logger)])

def Setup.admits (s : Setup) (e : Event) : Bool :=
  (s.effectiveLevel e.logger).severity ≤ e.level.severity

/-- The entry of an event, if it is written. -/
def Setup.written? (s : Setup) (e : Event) : Option Fields :=
  if s.admits e then some e.entry else none

end IssueGateway.Logging
