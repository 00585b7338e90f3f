/-!
# Routes

The addresses that are served and the method of each.
-/

namespace IssueGateway.Rest

/-- What is asked for; numbers are still text. -/
inductive Route where
  | health
  | issues (site : String)
  | issue (site issue : String)
  | search
  | multiSite
  | trend
  | summary (site : String)
  deriving DecidableEq, Repr

namespace Route

/-- The only method of a route. -/
def method : Route → String
  | .health | .issues _ | .issue _ _ | .summary _ => "GET"
  | .search | .multiSite | .trend => "POST"

/-- Whether a path ends in a word; one line end may follow. -/
def endsIn (word : String) (segment : List Char) : Bool :=
  segment == word.toList || segment == word.toList ++ ['\n']

def ofSegments? : List (List Char) → Option Route
  | [root, site, last] =>
    if root == "sites".toList && !site.isEmpty && endsIn "issues" last then
      some (.issues (String.ofList site))
    else if root == "analysis".toList && site == "status-summary".toList && !last.isEmpty then
      some (.summary (String.ofList last))
    else none
  | [root, site, middle, last] =>
    if root == "sites".toList && !site.isEmpty && middle == "issues".toList && !last.isEmpty then
      some (.issue (String.ofList site) (String.ofList last))
    else none
  | [root, last] =>
    if root == "search".toList && endsIn "advanced" last then some .search
    else if root == "search".toList && endsIn "multi-site" last then some .multiSite
    else if root == "analysis".toList && endsIn "trend" last then some .trend
    else none
  | _ => none

def ofPath? (path : String) : Option Route :=
  match path.toList.splitOn '/' with
  | [[], word] => if endsIn "health" word then some .health else none
  | [] :: api :: version :: segments =>
    if api == "api".toList && version == "v1".toList then ofSegments? segments else none
  | _ => none

end Route

end IssueGateway.Rest
