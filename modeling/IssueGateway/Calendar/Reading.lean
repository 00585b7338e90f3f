import IssueGateway.Calendar.Iso
import IssueGateway.Calendar.Slash
import IssueGateway.Json.Value
import IssueGateway.Text.CodePoint

/-!
# Timestamps of the remote

Records carry their times as text, in standard form with any number of fractional digits and a
possible `Z`, or in slash form. What is no timestamp is nothing, never an error.
-/

namespace IssueGateway.Calendar

open Text

/-- Universal time is an offset of zero. -/
def spellOutUtc (cs : List Char) : List Char :=
  cs.flatMap fun c => if c = 'Z' then ['+', '0', '0', ':', '0', '0'] else [c]

/-- Cuts or fills each fraction, a point before digits of any script, to six digits. `missing` is
how many digits are still to come in the fraction being read. -/
def normalizeFractions (missing : Option Nat) : List Char → List Char
  | [] => List.replicate (missing.getD 0) '0'
  | c :: rest =>
    match missing with
    | some n =>
      if isDecimalDigit c then
        if n = 0 then normalizeFractions (some 0) rest
        else c :: normalizeFractions (some (n - 1)) rest
      else
        List.replicate n '0' ++ c :: normalizeFractions (afterChar c rest) rest
    | none => c :: normalizeFractions (afterChar c rest) rest
where
  /-- A fraction starts behind a point that digits follow. -/
  afterChar (c : Char) (rest : List Char) : Option Nat :=
    if c = '.' ∧ (rest.head?.map isDecimalDigit).getD false then some 6 else none

def Timestamp.ofText? (s : String) : Option Timestamp :=
  let text := normalizeFractions none (spellOutUtc (trimBy isBlank s.toList))
  (Timestamp.ofIso? text).or (Timestamp.ofSlash? text)

/-- The timestamp in a value: only a text can be one. Any code point may stand between date and
time, also one that is held as two characters. -/
def Timestamp.ofValue? : Json.Value → Option Timestamp
  | .str s => Timestamp.ofText? (String.ofList (plain s.toList))
  | _ => none

end IssueGateway.Calendar
