import SeriesCluster.Checksum.Crc32
import SeriesCluster.Consensus.Entry

namespace SeriesCluster.Record

def headerLength : Nat := 8

def littleEndian : Nat → Nat → List UInt8
  | 0, _ => []
  | count + 1, n => UInt8.ofNat n :: littleEndian count (n / 256)

def ofLittleEndian : List UInt8 → Nat
  | [] => 0
  | b :: rest => b.toNat + 256 * ofLittleEndian rest

def frame (payload : List UInt8) : List UInt8 :=
  littleEndian 4 payload.length ++ littleEndian 4 (Crc32.ofBytes payload).toNat ++ payload

def encode (e : Entry) : List UInt8 := frame (Json.toBytes e)

def encodeAll (entries : List Entry) : List UInt8 := entries.flatMap encode

inductive Front
  | finished
  | torn
  | mismatch
  | record (payload rest : List UInt8)
  deriving DecidableEq, Repr

/-- Reads the front of a log file. Less than a header is its end. Only the record itself is looked
at, however long the file is. -/
def front (file : List UInt8) : Front :=
  if (file.take headerLength).length < headerLength then .finished
  else
    let length := ofLittleEndian (file.take 4)
    let check := ofLittleEndian ((file.drop 4).take 4)
    let body := file.drop headerLength
    let payload := body.take length
    if payload.length < length then .torn
    else if (Crc32.ofBytes payload).toNat = check then .record payload (body.drop length)
    else .mismatch

theorem length_lt_of_front {file payload rest : List UInt8}
    (h : front file = .record payload rest) :
    rest.length < file.length := by
  unfold front headerLength at h
  by_cases short : (file.take 8).length < 8
  · rw [if_pos short] at h
    cases h
  · rw [if_neg short] at h
    dsimp only at h
    split at h
    · cases h
    · split at h
      · cases h
        simp only [List.length_take] at short
        simp only [List.length_drop]
        omega
      · cases h

def payloads (file : List UInt8) : List (List UInt8) :=
  match _h : front file with
  | .record payload rest => payload :: payloads rest
  | _ => []
termination_by file.length
decreasing_by exact length_lt_of_front _h

/-- The entries of a log file. A payload that agrees with its check but is no entry is a fault. -/
def readAll (file : List UInt8) : Except Json.Fault (List Entry) :=
  (payloads file).mapM (Json.ofBytes Entry)

end SeriesCluster.Record
