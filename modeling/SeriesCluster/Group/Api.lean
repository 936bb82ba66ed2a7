import SeriesCluster.Group.Member
import SeriesCluster.Http.Message
import SeriesCluster.Http.Query

namespace SeriesCluster

inductive Endpoint
  | ping
  | status
  | data
  | execute
  | join
  | remove
  deriving DecidableEq, Repr

namespace Endpoint

def ofPath? : String → Option Endpoint
  | "/ping" => some ping
  | "/status" => some status
  | "/data" => some data
  | "/execute" => some execute
  | "/join" => some join
  | "/remove" => some remove
  | _ => none

def isQuestion : Endpoint → Bool
  | ping | status | data => true
  | execute | join | remove => false

def admits (e : Endpoint) (method : String) : Bool :=
  if e.isQuestion then method == "GET" || method == "HEAD" else method == "POST"

end Endpoint

namespace Error

def httpStatus : Error → Nat
  | notLeader (some _) => 307
  | notLeader none | notOpen | closing => 503
  | nodeNotFound | databaseNotFound _ | policyNotFound _ => 404
  | cannotRemoveLeader | nodeExists | policyConflict _ | refused _ => 400
  | _ => 500

def toResponse (e : Error) (path : String) : HttpResponse :=
  let r := HttpResponse.failed e.httpStatus e.message
  match e with
  | notLeader (some leader) => { r with location := some ("http://" ++ leader ++ path) }
  | _ => r

end Error

namespace Member

/-- The topology, after it has gone past the index that the query names. A topology that does not
get there in time is answered all the same. -/
def respondData (m : Member) (r : HttpRequest) : HttpResponse :=
  match Http.readNumber "index" r.query with
  | .error _ => { status := 400 }
  | .ok none => .ok m.topology
  | .ok (some index) =>
    if m.isPast index then .ok m.topology
    else
      match m.awaited? index with
      | some (.error e) => e.toResponse "/data"
      | _ => .ok m.topology

def respondWith {α β : Type} [Json.Codec α] [Json.Codec β] (m : Member) (r : HttpRequest)
    (f : α → Action β) : HttpResponse × Member :=
  match r.readBody α with
  | .error response => (response, m)
  | .ok a =>
    match m.run (f a) with
    | (.ok b, m) => (.ok b, m)
    | (.error e, m) => (e.toResponse r.path, m)

def respond (m : Member) (r : HttpRequest) : HttpResponse × Member :=
  match Endpoint.ofPath? r.path with
  | none => ({ status := 404 }, m)
  | some e =>
    if !e.admits r.method then ({ status := 405 }, m)
    else
      let (response, m) : HttpResponse × Member :=
        match e with
        | .ping =>
          ({ status := 200, body := some (.object [("leader", .text m.leaderHttp)]) }, m)
        | .status => (.ok m.status, m)
        | .data => (m.respondData r, m)
        | .execute => m.respondWith r fun c => return (⟨← execute c⟩ : ExecuteResponse)
        | .join => m.respondWith r join
        | .remove => m.respondWith r fun (q : RemoveRequest) => remove q.host
      if r.method == "HEAD" then ({ response with body := none }, m) else (response, m)

end Member

end SeriesCluster
