import IssueGateway.Address
import IssueGateway.Json.Parser
import IssueGateway.Rest.Problem
import IssueGateway.Rest.Reader

/-!
# Requests

A request as it arrives, and what its path, query, headers and body say.
-/

namespace IssueGateway.Rest

open Json Text

structure Request where
  method : String
  path : String
  query : List (String × String) := []
  headers : List (String × String) := []
  body : List UInt8 := []
  deriving Repr

/-! ## Path and query -/

/-- A name or a value of a query: a plus is a blank, and escapes are replaced. -/
def queryText (cs : List Char) : String :=
  String.ofList (hold (percentDecode (cs.map fun c => if c = '+' then ' ' else c)))

/-- The parameters of a query in order. A part without `=` has an empty value. -/
def queryParameters (query : List Char) : List (String × String) :=
  ((query.splitOn '&').filter fun part => !part.isEmpty).map fun part =>
    (queryText (part.takeWhile (· != '=')), queryText ((part.dropWhile (· != '=')).drop 1))

def splitLocation (s : String) : String × List (String × String) :=
  let address := (Address.ofText "http://localhost").below s
  (address.plainPath, queryParameters (address.query.getD []))

/-! ## Headers -/

/-- The value of a header; the case of its name does not matter. -/
def Request.header? (r : Request) (name : String) : Option String :=
  (r.headers.find? fun (key, _) => key.toLower == name.toLower).map (·.2)

/-! ## Body -/

/-- Whether a content type is JSON: `application/json`, or an application type that ends in `+json`.
Parameters do not matter. -/
def isJsonType (contentType : String) : Bool :=
  let type := (trimBy isBlank (contentType.toList.takeWhile (· != ';'))).map Char.toLower
  match type.splitOn '/' with
  | [main, sub] => String.ofList main == "application" &&
      (String.ofList sub == "json" || "+json".toList.isSuffixOf sub)
  | _ => false

inductive Body where
  | absent
  /-- Something that is not declared to be JSON. -/
  | undeclared
  | json (v : Value)
  deriving Repr

/-- Why a body that should be JSON is none. -/
inductive BodyError where
  | malformed (position : Nat)
  /-- The bytes are no text, or a number is too long to be read. -/
  | unreadable
  deriving DecidableEq, Repr

def Request.readBody (r : Request) : Except BodyError Body :=
  if r.body.isEmpty then .ok .absent
  else if !isJsonType ((r.header? "content-type").getD "") then .ok .undeclared
  else match decode r.body with
    | .ok v => .ok (.json v)
    | .error (.text (.unexpected position)) => .error (.malformed position)
    | .error _ => .error .unreadable

def Body.read (reader : Reader α) : Body → Validated α
  | .absent => (Validated.fault .missing).inside "body"
  | .undeclared => (Validated.fault .noObject).inside "body"
  | .json v => (reader v).inside "body"

end IssueGateway.Rest
