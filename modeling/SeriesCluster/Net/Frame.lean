import SeriesCluster.Error
import SeriesCluster.Json.Codec

namespace SeriesCluster

structure Frame where
  type : UInt8
  payload : List UInt8
  deriving DecidableEq, Repr

namespace Frame

def headerLength : Nat := 9

def bigEndian : Nat → Nat → List UInt8
  | 0, _ => []
  | count + 1, n => UInt8.ofNat (n / 256 ^ count) :: bigEndian count n

def ofBigEndian (bytes : List UInt8) : Nat := bytes.foldl (fun n b => 256 * n + b.toNat) 0

def header (f : Frame) : List UInt8 := f.type :: bigEndian 8 f.payload.length

def bytes (f : Frame) : List UInt8 := f.header ++ f.payload

def carrying {α : Type} [Json.Codec α] (type : UInt8) (a : α) : Frame := ⟨type, Json.toBytes a⟩

inductive Front
  | finished
  | frame (f : Frame) (rest : List UInt8)
  | cut
  | tooLong (length : Nat)
  deriving DecidableEq, Repr

/-- Reads the front of a stream. A length beyond the limit is refused before its payload is read. -/
def front : List UInt8 → Front
  | [] => .finished
  | type :: rest =>
    if rest.length < 8 then .cut
    else
      let length := ofBigEndian (rest.take 8)
      if maxFrameLength < length then .tooLong length
      else if (rest.drop 8).length < length then .cut
      else .frame ⟨type, (rest.drop 8).take length⟩ ((rest.drop 8).drop length)

theorem length_lt_of_front {stream rest : List UInt8} {f : Frame}
    (h : front stream = .frame f rest) : rest.length < stream.length := by
  cases stream with
  | nil => simp [front] at h
  | cons type tail =>
    simp only [front] at h
    split at h
    · cases h
    · split at h
      · cases h
      · split at h
        · cases h
        · cases h
          simp only [List.length_drop, List.length_cons]
          omega

def readAll (stream : List UInt8) : List Frame × Option Error :=
  match _h : front stream with
  | .finished => ([], none)
  | .frame f rest =>
    let (frames, error) := readAll rest
    (f :: frames, error)
  | .cut => ([], some (.ofIo .unexpectedEof))
  | .tooLong length => ([], some (.frameTooLong length))
termination_by stream.length
decreasing_by exact length_lt_of_front _h

def decodePayload (α : Type) [Json.Codec α] (payload : List UInt8) : Except Error α :=
  (Json.ofBytes α payload).mapError fun fault => .serialization fault.reason?

def next? (stream : List UInt8) : Except Error (Option (Frame × List UInt8)) :=
  match front stream with
  | .finished => .ok none
  | .frame f rest => .ok (some (f, rest))
  | .cut => .error (.ofIo .unexpectedEof)
  | .tooLong length => .error (.frameTooLong length)

def next (stream : List UInt8) : Except Error (Frame × List UInt8) := do
  match ← next? stream with
  | some found => .ok found
  | none => .error (.ofIo .unexpectedEof)

def message (α : Type) [Json.Codec α] (peer : String) (expected : UInt8) (stream : List UInt8) :
    Except Error (α × List UInt8) := do
  let (f, rest) ← next stream
  if f.type ≠ expected then throw (.unexpectedMessage f.type (some peer) expected)
  return (← decodePayload α f.payload, rest)

end Frame

end SeriesCluster
