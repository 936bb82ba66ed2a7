import SeriesCluster.Http.MediaType
import SeriesCluster.Json.Codec

namespace SeriesCluster

open Json

structure HttpRequest where
  method : String
  target : String
  contentType : Option String := none
  body : List UInt8 := []
  deriving DecidableEq, Repr

structure HttpResponse where
  status : Nat
  body : Option Value := none
  location : Option String := none
  deriving Repr

namespace HttpRequest

def get (target : String) : HttpRequest := { method := "GET", target := target }

def post {α : Type} [Codec α] (target : String) (a : α) : HttpRequest :=
  { method := "POST", target := target, contentType := some "application/json", body := toBytes a }

def sentTarget (r : HttpRequest) : List Char := r.target.toList.takeWhile (· != '#')

def path (r : HttpRequest) : String := String.ofList (r.sentTarget.takeWhile (· != '?'))

def query (r : HttpRequest) : String :=
  String.ofList ((r.sentTarget.dropWhile (· != '?')).drop 1)

def announcesJson (r : HttpRequest) : Bool :=
  (r.contentType.bind MediaType.ofText?).any MediaType.isJson

/-- The body as typed data. A body of another type, one that is no JSON and one that does not fit
are told apart. What follows the data is ignored. -/
def readBody (α : Type) [Codec α] (r : HttpRequest) : Except HttpResponse α :=
  if !r.announcesJson then .error { status := 415 }
  else
    match decodeFront decode r.body with
    | .ok a => .ok a
    | .error .malformed | .error (.surplus _) => .error { status := 400 }
    | .error (.misfit _) => .error { status := 422 }

end HttpRequest

namespace HttpResponse

def ok {α : Type} [Codec α] (a : α) : HttpResponse := { status := 200, body := some (encode a) }

def failed (status : Nat) (reason : String) : HttpResponse :=
  { status := status, body := some (.object [("error", .text reason)]) }

def isSuccess (r : HttpResponse) : Bool := 200 ≤ r.status && r.status < 300

def reason (r : HttpResponse) : String :=
  match r.body.bind (·.member? "error") with
  | some (.text reason) => reason
  | _ => "no error message"

def statusText (status : Nat) : String :=
  match status with
  | 200 => "200 OK"
  | 307 => "307 Temporary Redirect"
  | 400 => "400 Bad Request"
  | 404 => "404 Not Found"
  | 405 => "405 Method Not Allowed"
  | 415 => "415 Unsupported Media Type"
  | 422 => "422 Unprocessable Entity"
  | 500 => "500 Internal Server Error"
  | 503 => "503 Service Unavailable"
  | n => toString n

end HttpResponse

end SeriesCluster
