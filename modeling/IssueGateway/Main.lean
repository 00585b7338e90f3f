import IssueGateway.Json.Printer
import IssueGateway.Launch

/-!
# Command line

Prints what the server process is to be started with, as one JSON object.
-/

namespace IssueGateway

def launchVariables : List String :=
  ["ISSUESCOPE_HOST", "ISSUESCOPE_PORT"]

def launchEnvironment : IO Environment :=
  launchVariables.filterMapM fun key => do
    return (← IO.getEnv key).map fun value => (key, value)

end IssueGateway

open IssueGateway in
/-- Prints the launch arguments, or why there are none. -/
def main : IO UInt32 := do
  match Launch.load (← launchEnvironment) with
  | .ok launch =>
    IO.println (Json.Value.obj launch.arguments).print
    return 0
  | .error message =>
    IO.eprintln message
    return 1
