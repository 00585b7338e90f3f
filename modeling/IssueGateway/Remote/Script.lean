import IssueGateway.Remote.Call

/-!
# Scripted remotes

A server that answers from lists of replies, one list for each target and one that all other targets
share. A list is used up reply by reply, and its last reply repeats for ever. Where there is no
reply at all the server answers with an empty listing.
-/

namespace IssueGateway.Remote

/-- What a request is about, as scripts name it: the site of a listing, the users, or else the
path. -/
def Request.target (r : Request) : String :=
  let path := r.address.plainPath
  match (path.toList.splitOn '/').reverse with
  | ['g', 'e', 't'] :: site :: ['i', 't', 'e', 'm', 's'] :: ['a', 'p', 'i'] :: _ :: _ =>
    if site.isEmpty then path else String.ofList site
  | ['g', 'e', 't'] :: ['u', 's', 'e', 'r', 's'] :: ['a', 'p', 'i'] :: _ :: _ => "users"
  | _ => path

structure Script where
  targets : Assoc String (List Reply) := []
  /-- The list of the targets without a list of their own. -/
  shared : List Reply := []
  deriving Repr

def emptyListing : String :=
  "\x7b\"StatusCode\":200,\"Response\":\x7b\"Data\":[],\"TotalCount\":0\x7d\x7d"

def upcoming : List Reply → Reply
  | [] => .response { body := emptyListing.toUTF8.toList }
  | reply :: _ => reply

def afterUse : List Reply → List Reply
  | _ :: reply :: rest => reply :: rest
  | replies => replies

def Script.server : Server Script := fun script request =>
  match Assoc.get? script.targets request.target with
  | some replies =>
    (upcoming replies,
      { script with targets := Assoc.set script.targets request.target (afterUse replies) })
  | none => (upcoming script.shared, { script with shared := afterUse script.shared })

/-- Requests in order of their targets; those of one target stay in order of time. -/
def requestsByTarget (requests : List Request) : List Request :=
  requests.mergeSort fun a b => decide (a.target ≤ b.target)

end IssueGateway.Remote
