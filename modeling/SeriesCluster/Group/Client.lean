import SeriesCluster.Error
import SeriesCluster.Group.Message
import SeriesCluster.Http.Message
import SeriesCluster.Topology.Command

namespace SeriesCluster

open Json

abbrev HttpTransport (m : Type → Type) := String → HttpRequest → m (Except Error HttpResponse)

structure Client where
  peers : List String
  deriving DecidableEq, Repr

namespace Client

def ofPeers (peers : List String) : Except Error Client :=
  if peers.isEmpty then .error .emptyPeers else .ok ⟨peers⟩

def splitUrl? (url : String) : Option (String × String) :=
  let cs := url.toList
  let scheme := "http://".toList
  if cs.take scheme.length = scheme then
    let rest := cs.drop scheme.length
    some (String.ofList (rest.takeWhile (· != '/')), String.ofList (rest.dropWhile (· != '/')))
  else none

def read (α : Type) [Codec α] (r : HttpResponse) : Except Error α :=
  if r.isSuccess then
    match (decode (r.body.getD .null) : Except Fault α) with
    | .ok a => .ok a
    | .error _ => .error (.http "unreadable body")
  else .error (.remote (HttpResponse.statusText r.status ++ ": " ++ r.reason))

section

variable {m : Type → Type} [Monad m] (send : HttpTransport m)

def sendFollowing (peer : String) (r : HttpRequest) : m (Except Error HttpResponse) := do
  match ← send peer r with
  | .error e => return .error e
  | .ok response =>
    match response.location.bind splitUrl? with
    | none => return .ok response
    | some (peer, target) =>
      match ← send peer { r with target := target } with
      | .error e => return .error e
      | .ok response =>
        if response.location.isSome then return .error (.http "too many redirects")
        else return .ok response

/-- Asks peers in order until one answers; else the last error stands. -/
def askFirst (α : Type) [Codec α] (r : HttpRequest) (last : Error) :
    List String → m (Except Error α)
  | [] => return .error last
  | peer :: rest => do
    match (← sendFollowing send peer r).bind (read α) with
    | .ok a => return .ok a
    | .error e => askFirst α r e rest

def ask (α : Type) [Codec α] (c : Client) (r : HttpRequest) : m (Except Error α) :=
  askFirst send α r .emptyPeers c.peers

def join (c : Client) (r : JoinRequest) : m (Except Error NodeInfo) :=
  c.ask send NodeInfo (.post "/join" r)

def remove (c : Client) (host : String) : m (Except Error NodeInfo) :=
  c.ask send NodeInfo (.post "/remove" (⟨host⟩ : RemoveRequest))

def execute (c : Client) (command : Command) : m (Except Error UInt64) := do
  return (← c.ask send ExecuteResponse (.post "/execute" command)).map (·.index)

def status (c : Client) : m (Except Error MemberStatus) := c.ask send MemberStatus (.get "/status")

def data (c : Client) (index : UInt64) : m (Except Error Topology) :=
  c.ask send Topology (.get ("/data?index=" ++ toString index))

end

end Client

end SeriesCluster
