import IssueGateway.Calendar.Window
import IssueGateway.Json.Text
import IssueGateway.Query.Range
import IssueGateway.Text.Blank

/-!
# Failures

What can go wrong in a call, by cause. The wording of every failure and the name under which it is
reported are in one place each. An integer that is too long to be written is a failure of its own,
also where it was to be shown in the wording of another.
-/

namespace IssueGateway

inductive BrokenRule where
  /-- An id is no positive integer. -/
  | id (name : String) (got : Json.Value)
  | offset (got : Json.Value)
  | limit (maximum : Nat) (got : Json.Value)
  | sortOrder (got : Json.Value)
  /-- A name is not among its choices. -/
  | choice (name : String) (choices : List String) (got : Json.Value)
  /-- A progress bound is outside 0 to 100. -/
  | progressBound (got : Query.Bound)
  /-- There are no site ids or too many. -/
  | siteCount (maximum got : Nat)
  | emptySearch
  deriving Repr

inductive RemoteFailure where
  /-- No reply came in time. -/
  | timeout (endpoint : String)
  /-- No reply came for another reason. -/
  | unreachable (endpoint detail : String)
  | refused (status : Nat) (message : Json.Value)
  /-- The reply has an error status and says nothing else but its reason phrase. -/
  | refusedBare (status : Nat) (reason : String)
  /-- The reply is no JSON object. -/
  | noObject (endpoint : String)
  | reported (status : Int) (message : Json.Value)
  deriving Repr

inductive FailureName where
  | service | validation | notFound
  | fetch | transport | remoteApi | rateLimit
  | config
  | type | attribute | value | overflow
  | other (name : String) (named : name ≠ "" := by decide)
  deriving DecidableEq, Repr

inductive Failure where
  | invalid (rule : BrokenRule)
  /-- The site has no such issue. -/
  | notFound (issue site : Int)
  | remote (cause : RemoteFailure)
  | notAnObject (kind : Json.Kind)
  | notAList (kind : Json.Kind)
  | noGroupKey (kind : Json.Kind)
  | incomparable (kind : Json.Kind)
  | range (cause : RangeError)
  | date (cause : Calendar.DateError)
  | nonFinite
  | integerTooLong
  | told (name : FailureName) (message : String) (status : Option Int)
  deriving Repr

def BrokenRule.message : BrokenRule → String
  | .id name got => name ++ " must be a positive integer, got " ++ got.literal
  | .offset got => "offset must be a non-negative integer, got " ++ got.literal
  | .limit maximum got => s!"limit must be between 1 and {maximum}, got " ++ got.literal
  | .sortOrder got => "sort_order must be 'asc' or 'desc', got " ++ got.literal
  | .choice name choices got =>
    name ++ " must be one of " ++ String.intercalate ", " choices ++ "; got " ++ got.literal
  | .progressBound got => "progress rate bounds must be within 0-100, got " ++ got.value.literal
  | .siteCount maximum got => s!"site_ids must contain 1 to {maximum} ids, got {got}"
  | .emptySearch => "search must not be empty"

/-- Whether the value that a broken rule shows can be written. -/
def BrokenRule.isWritable : BrokenRule → Bool
  | .id _ got | .offset got | .limit _ got | .sortOrder got | .choice _ _ got => got.isWritable
  | .progressBound got => got.value.isWritable
  | .siteCount _ _ | .emptySearch => true

/-- `HTTP`, the status and its reason phrase; without a phrase there is no blank behind the
status. -/
def bareStatusMessage (status : Nat) (reason : String) : String :=
  Text.trimBlanks ("HTTP " ++ String.ofList (Text.natural status) ++ " " ++ reason)

def RemoteFailure.message : RemoteFailure → String
  | .timeout endpoint => "timeout calling " ++ endpoint
  | .unreachable endpoint detail => "request to " ++ endpoint ++ " failed: " ++ detail
  | .refused _ message => "Pleasanter API Error: " ++ message.text
  | .refusedBare status reason => bareStatusMessage status reason
  | .noObject endpoint => "unexpected non-JSON response from " ++ endpoint
  | .reported status message =>
    "API Error " ++ String.ofList (Text.integer status) ++ ": " ++ message.text

def RemoteFailure.status? : RemoteFailure → Option Int
  | .refused status _ | .refusedBare status _ => some status
  | .reported status _ => some status
  | .timeout _ | .unreachable _ _ | .noObject _ => none

/-- A remote that has no more capacity answers with this status. -/
def rateLimitStatus : Nat := 429

def RemoteFailure.name : RemoteFailure → FailureName
  | .timeout _ | .unreachable _ _ => .transport
  | .refused status _ | .refusedBare status _ =>
    if status = rateLimitStatus then .rateLimit else .remoteApi
  | .noObject _ | .reported _ _ => .remoteApi

def RangeError.message : RangeError → String
  | .quotientTooLarge => "integer division result too large for a float"
  | .integerTooLarge => "int too large to convert to float"

namespace Failure

/-- The failure of an argument that breaks a rule. -/
def ofRule (rule : BrokenRule) : Failure :=
  if rule.isWritable then .invalid rule else .integerTooLong

def name : Failure → FailureName
  | .invalid _ => .validation
  | .notFound _ _ => .notFound
  | .remote cause => cause.name
  | .notAnObject _ => .attribute
  | .notAList _ | .noGroupKey _ | .incomparable _ => .type
  | .range _ => .overflow
  | .date .beforeCalendar => .overflow
  | .date _ | .nonFinite | .integerTooLong => .value
  | .told name _ _ => name

def message : Failure → String
  | .invalid rule => rule.message
  | .notFound issue site => "issue " ++ String.ofList (Text.integer issue) ++
      " not found in site " ++ String.ofList (Text.integer site)
  | .remote cause => cause.message
  | .notAnObject kind => "'" ++ kind.name ++ "' object has no attribute 'get'"
  | .notAList kind => "'" ++ kind.name ++ "' object is not iterable"
  | .noGroupKey kind => "unhashable type: '" ++ kind.name ++ "'"
  | .incomparable kind =>
    "'<=' not supported between instances of 'int' and '" ++ kind.name ++ "'"
  | .range cause => cause.message
  | .date cause => cause.message
  | .nonFinite => "Out of range float values are not JSON compliant"
  | .integerTooLong =>
    s!"Exceeds the limit ({Number.maxIntegerDigits} digits) for integer string conversion; " ++
      "use sys.set_int_max_str_digits() to increase the limit"
  -- a missing key is shown quoted
  | .told (.other "KeyError" _) text _ => if text.isEmpty then "" else Text.quoted text
  | .told _ text _ => text

def status? : Failure → Option Int
  | .remote cause => cause.status?
  | .told _ _ status => status
  | _ => none

end Failure

namespace FailureName

def text : FailureName → String
  | .service => "ServiceError"
  | .validation => "ValidationError"
  | .notFound => "NotFoundError"
  | .fetch => "FetchError"
  | .transport => "TransportError"
  | .remoteApi => "RemoteApiError"
  | .rateLimit => "RateLimitError"
  | .config => "ConfigError"
  | .type => "TypeError"
  | .attribute => "AttributeError"
  | .value => "ValueError"
  | .overflow => "OverflowError"
  | .other name _ => name

theorem text_ne_empty (name : FailureName) : name.text ≠ "" := by
  cases name with
  | other name named => exact named
  | _ => decide

def known : List FailureName :=
  [.service, .validation, .notFound, .fetch, .transport, .remoteApi, .rateLimit, .config, .type,
    .attribute, .value, .overflow]

/-- The name with a text; what has no name is just an exception. -/
def ofText (s : String) : FailureName :=
  (known.find? fun name => name.text == s).getD
    (if named : s = "" then .other "Exception" else .other s named)

def isFetch : FailureName → Bool
  | .fetch | .transport | .remoteApi | .rateLimit => true
  | _ => false

def hasStatus : FailureName → Bool
  | .remoteApi | .rateLimit => true
  | _ => false

end FailureName

def Failure.isFetch (f : Failure) : Bool :=
  f.name.isFetch

/-- The text of a value, if it can be written. -/
def Json.Value.write (v : Json.Value) : Except Failure String :=
  if v.isWritable then .ok v.text else .error .integerTooLong

end IssueGateway
