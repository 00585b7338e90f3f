/-!
# Log levels

Levels in order of severity. The unset level of a logger stands for that of its parent.
-/

namespace IssueGateway.Logging

/-- How severe an event is, or how severe events must be to be logged. -/
inductive Level where
  | unset | debug | info | warning | error | critical
  deriving DecidableEq, Repr

namespace Level

def severity : Level → Nat
  | .unset => 0
  | .debug => 10
  | .info => 20
  | .warning => 30
  | .error => 40
  | .critical => 50

def name : Level → String
  | .unset => "notset"
  | .debug => "debug"
  | .info => "info"
  | .warning => "warning"
  | .error => "error"
  | .critical => "critical"

/-- The names in capitals; some levels have two. -/
def names : List (String × Level) :=
  [("NOTSET", .unset), ("DEBUG", .debug), ("INFO", .info), ("WARNING", .warning),
    ("WARN", .warning), ("ERROR", .error), ("CRITICAL", .critical), ("FATAL", .critical)]

/-- A character as a capital, as far as ASCII goes: beside the ASCII letters only the dotless i and
the long s have a single ASCII capital. -/
def capital (c : Char) : Char :=
  if c.toNat = 0x131 then 'I' else if c.toNat = 0x17F then 'S' else c.toUpper

def ofName? (s : String) : Option Level :=
  names.lookup (String.ofList (s.toList.map capital))

end Level

end IssueGateway.Logging
