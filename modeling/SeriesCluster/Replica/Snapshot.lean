import SeriesCluster.Consensus.Basic

namespace SeriesCluster

open Json

structure SnapshotHead where
  lastLogId : Option LogId
  lastMembership : StoredMembership
  snapshotId : String
  deriving DecidableEq, Repr

instance : Codec SnapshotHead where
  encode h := .object [("last_log_id", encode h.lastLogId),
    ("last_membership", encode h.lastMembership), ("snapshot_id", encode h.snapshotId)]
  decode := decodeRecord "SnapshotMeta"
    [field (Option LogId) "last_log_id", field StoredMembership "last_membership",
      field String "snapshot_id"] fun ms => do
    return {
      lastLogId := ← ms.get "last_log_id"
      lastMembership := ← ms.get "last_membership"
      snapshotId := ← ms.get "snapshot_id" }

structure Snapshot where
  head : SnapshotHead
  data : List UInt8
  deriving DecidableEq, Repr

instance : Codec Snapshot where
  encode s := .object [("meta", encode s.head), ("data", encode s.data)]
  decode := decodeRecord "StoredSnapshot" [field SnapshotHead "meta", field (List UInt8) "data"]
    fun ms => do return { head := ← ms.get "meta", data := ← ms.get "data" }

end SeriesCluster
