import SeriesCluster.Error
import SeriesCluster.Net.Message

namespace SeriesCluster

structure Mux where
  headers : List MuxHeader := []
  deriving DecidableEq, Repr, Inhabited

namespace Mux

def listen (m : Mux) (header : MuxHeader) : Except Error Mux :=
  if m.headers.contains header then .error (.config (.muxHeaderTaken header.byte))
  else .ok { headers := m.headers ++ [header] }

/-- The service that gets a connection, and what the service is sent on it. A connection without a
byte, or with one that no service has claimed, is dropped. -/
def accept? (m : Mux) (received : List UInt8) : Option (MuxHeader × List UInt8) :=
  match received with
  | [] => none
  | b :: rest => if m.headers.contains ⟨b⟩ then some (⟨b⟩, rest) else none

end Mux

end SeriesCluster
