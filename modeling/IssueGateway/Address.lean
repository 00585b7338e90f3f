import IssueGateway.Text.Digit
import IssueGateway.Text.Percent

/-!
# Addresses

An address is a scheme, an authority, a path and a query. The remote has a base address; an endpoint
is a path below it. The default port of a scheme is not written.
-/

namespace IssueGateway

open Text

/-- An address; its parts keep their percent escapes. -/
structure Address where
  scheme : List Char := []
  authority : List Char := []
  path : List Char := []
  query : Option (List Char) := none
  deriving DecidableEq, Repr

def isSchemeChar (c : Char) : Bool :=
  c.isAlphanum || c == '+' || c == '-' || c == '.'

def takeScheme (cs : List Char) : List Char × List Char :=
  match cs.takeWhile isSchemeChar, cs.dropWhile isSchemeChar with
  | first :: scheme, ':' :: rest =>
    if first.isAlpha then ((first :: scheme).map Char.toLower, rest) else ([], cs)
  | _, _ => ([], cs)

def defaultPort (scheme : List Char) : Option Nat :=
  [("http", 80), ("https", 443), ("ws", 80), ("wss", 443), ("ftp", 21)].lookup
    (String.ofList scheme)

/-- What stands before the last `@`, with it, and what follows. -/
def splitUser (cs : List Char) : List Char × List Char :=
  let host := (cs.reverse.takeWhile (· != '@')).reverse
  (cs.take (cs.length - host.length), host)

/-- The host and the port of an authority without a user; the host may be in brackets. -/
def splitPort (cs : List Char) : List Char × List Char :=
  let bracketed := if cs.contains ']' then
      cs.take (cs.length - (cs.reverse.takeWhile (· != ']')).length)
    else []
  let rest := cs.drop bracketed.length
  (bracketed ++ rest.takeWhile (· != ':'), (rest.dropWhile (· != ':')).drop 1)

/-- An authority with its host in lower case and without the default port of the scheme. -/
def normalAuthority (scheme cs : List Char) : List Char :=
  let (user, hostAndPort) := splitUser cs
  let (host, port) := splitPort hostAndPort
  let port := match readNatural? port with
    | some n => if some n = defaultPort scheme then [] else ':' :: natural n
    | none => if port.isEmpty then [] else ':' :: port
  user ++ host.map Char.toLower ++ port

/-- Drops the segments `.` and, each with the one before it, `..`. -/
def dropDotSegments (path : List Char) : List Char :=
  let segments := path.splitOn '/'
  let kept := segments.foldl (fun kept segment =>
    if segment = ['.'] then kept
    else if segment = ['.', '.'] then if kept = [] ∨ kept = [[]] then kept else kept.dropLast
    else kept ++ [segment]) []
  if segments.any fun s => s = ['.'] ∨ s = ['.', '.'] then List.intercalate ['/'] kept else path

/-- A character that stands for itself in a query: printable ASCII but the blank, the double quote,
`#`, `<` and `>`. -/
def isQueryChar (c : Char) : Bool :=
  0x20 < c.toNat && c.toNat < 0x7F && [0x22, 0x23, 0x3C, 0x3E].all (c.toNat != ·)

/-- A character that stands for itself in a path: as in a query, but the question mark, the backtick
and the braces. -/
def isPathChar (c : Char) : Bool :=
  isQueryChar c && [0x3F, 0x60, 0x7B, 0x7D].all (c.toNat != ·)

/-- Path and query of what follows an authority; a fragment is dropped. -/
def splitQuery (cs : List Char) : List Char × Option (List Char) :=
  let cs := cs.takeWhile (· != '#')
  match cs.dropWhile (· != '?') with
  | [] => (cs, none)
  | _ :: query => (cs.takeWhile (· != '?'), some query)

def Address.isRooted (a : Address) : Bool :=
  !a.scheme.isEmpty || !a.authority.isEmpty

def Address.make (scheme authority : List Char) (rest : List Char) : Address :=
  let (path, query) := splitQuery rest
  let path := if scheme.isEmpty && authority.isEmpty then path else dropDotSegments path
  { scheme, authority, path := percentEncode isPathChar path
    query := query.map (percentEncode isQueryChar) }

def Address.ofText (s : String) : Address :=
  let (scheme, rest) := takeScheme (plain s.toList)
  match rest with
  | '/' :: '/' :: rest =>
    let isAuthority := fun c => c != '/' && c != '?' && c != '#'
    Address.make scheme (normalAuthority scheme (rest.takeWhile isAuthority))
      (rest.dropWhile isAuthority)
  | rest => Address.make scheme [] rest

/-- Path and query as they are sent: an empty path is the root. -/
def Address.location (a : Address) : List Char :=
  (if a.path.isEmpty then ['/'] else a.path) ++
    match a.query with
    | some query => '?' :: query
    | none => []

def Address.text (a : Address) : String :=
  String.ofList ((if a.scheme.isEmpty then [] else a.scheme ++ [':']) ++
    (if a.isRooted then '/' :: '/' :: a.authority else []) ++ a.path ++
    match a.query with
    | some query => '?' :: query
    | none => [])

/-- The address as a base: what it locates ends in a slash. -/
def Address.asBase (a : Address) : Address :=
  if a.location.getLast? = some '/' then a
  else Address.make a.scheme a.authority (a.location ++ ['/'])

/-- The address of an endpoint below a base; an endpoint with a scheme and an authority of its own
is an address already. -/
def Address.below (base : Address) (endpoint : String) : Address :=
  let own := Address.ofText endpoint
  if !own.scheme.isEmpty && !own.authority.isEmpty then own
  else Address.make base.scheme base.authority
    (base.location ++ own.location.dropWhile (· == '/'))

/-- The path as text, without escapes. -/
def Address.plainPath (a : Address) : String :=
  String.ofList (hold (percentDecode (if a.path.isEmpty then ['/'] else a.path)))

end IssueGateway
