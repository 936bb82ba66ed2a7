import SeriesCluster.Proofs.Json.Lossless
import SeriesCluster.Topology.Basic

namespace SeriesCluster

open Json

namespace Duration

def written (d : Duration) : List (Name × Value) :=
  [("secs", .int (d.nanos / 1000000000 : Nat)), ("nanos", .int (d.nanos % 1000000000 : Nat))]

theorem encode_eq (d : Duration) : encode d = .object d.written := rfl

theorem seconds_le (d : Duration) : d.nanos / 1000000000 ≤ UInt64.size - 1 := by
  have bound := d.nanos_lt
  have size : UInt64.size = 18446744073709551616 := rfl
  omega

theorem subsecond_le (d : Duration) : d.nanos % 1000000000 ≤ UInt32.size - 1 := by
  have size : UInt32.size = 4294967296 := rfl
  omega

theorem parts_written (d : Duration) :
    Parts 0 [fieldBy (decodeNat (UInt64.size - 1) "u64") "secs",
      fieldBy (decodeNat (UInt32.size - 1) "u32") "nanos"] d.written := by
  have size : UInt64.size = 18446744073709551616 := rfl
  have small : UInt32.size = 4294967296 := rfl
  have seconds := d.seconds_le
  have subsecond := d.subsecond_le
  exact .one rfl (.natural (by omega)) (decodeNat_natural _ seconds)
    (.one rfl (.natural (by omega)) (decodeNat_natural _ subsecond) .nil)

theorem ofNanos?_sum (d : Duration) :
    ofNanos? (d.nanos / 1000000000 * 1000000000 + d.nanos % 1000000000) = some d := by
  rw [Nat.div_add_mod', ofNanos?, dif_pos d.nanos_lt]

theorem get_seconds (d : Duration) :
    Members.getBy ⟨rereadValues d.written⟩ "secs" (decodeNat (UInt64.size - 1) "u64") none =
      .ok (d.nanos / 1000000000) := by
  rw [written, Members.getBy_here]
  exact decodeNat_natural "u64" d.seconds_le

theorem get_subsecond (d : Duration) :
    Members.getBy ⟨rereadValues d.written⟩ "nanos" (decodeNat (UInt32.size - 1) "u32") none =
      .ok (d.nanos % 1000000000) := by
  rw [written, Members.getBy_later (by decide), Members.getBy_here]
  exact decodeNat_natural "u32" d.subsecond_le

theorem decode_eq (v : Value) : (decode v : Except Fault Duration) = (do
    let ms ← checkRecord "struct Duration" "struct Duration"
      [fieldBy (decodeNat (UInt64.size - 1) "u64") "secs",
        fieldBy (decodeNat (UInt32.size - 1) "u32") "nanos"] .refused v
    let s ← ms.getBy "secs" (decodeNat (UInt64.size - 1) "u64") none
    let n ← ms.getBy "nanos" (decodeNat (UInt32.size - 1) "u32") none
    match ofNanos? (s * 1000000000 + n) with
    | some d => .ok d
    | none => misfit "overflow deserializing Duration") := rfl

instance : Lossless Duration where
  room := 1
  writable d := by
    rw [encode_eq]
    exact d.parts_written.writable
  decoded d := by
    -- Rewriting keeps the kernel from computing with quotients by a thousand million.
    rw [encode_eq, decode_eq, d.parts_written.checkRecord_eq _ _ _ (by decide), ok_bind,
      get_seconds, ok_bind, get_subsecond, ok_bind, ofNanos?_sum]

end Duration

instance : Lossless NodeInfo :=
  .ofRecord 0 (fun _ => rfl) rfl (by decide)
    (fun n => .cons n.id rfl (by decide) <| .cons n.host rfl (by decide) <|
      .cons n.tcpHost rfl (by decide) <| .cons n.isMeta rfl (by decide) .nil)
    fun _ => by simp [Members.get_later, bind, Except.bind, pure, Except.pure]

instance : Lossless ShardOwner :=
  .ofRecord 0 (fun _ => rfl) rfl (by decide) (fun o => .cons o.nodeId rfl (by decide) .nil)
    fun _ => by simp [bind, Except.bind, pure, Except.pure]

instance : Lossless ShardInfo :=
  .ofRecord 2 (fun _ => rfl) rfl (by decide)
    (fun s => .cons s.id rfl (by decide) <| .cons s.owners rfl (by decide) .nil)
    fun _ => by simp [Members.get_later, bind, Except.bind, pure, Except.pure]

instance : Lossless ShardGroup :=
  .ofRecord 4 (fun _ => rfl) rfl (by decide)
    (fun g => .cons g.id rfl (by decide) <| .cons g.startTime rfl (by decide) <|
      .cons g.endTime rfl (by decide) <| .cons g.deletedAt rfl (by decide) <|
      .cons g.shards rfl (by decide) .nil)
    fun _ => by simp [Members.get_later, bind, Except.bind, pure, Except.pure]

instance : Lossless RetentionPolicy :=
  .ofRecord 6 (fun _ => rfl) rfl (by decide)
    (fun p => .cons p.name rfl (by decide) <| .cons p.duration rfl (by decide) <|
      .cons p.shardGroupDuration rfl (by decide) <| .cons p.replicaCount rfl (by decide) <|
      .cons p.shardGroups rfl (by decide) .nil)
    fun _ => by simp [Members.get_later, bind, Except.bind, pure, Except.pure]

instance : Lossless Database :=
  .ofRecord 8 (fun _ => rfl) rfl (by decide)
    (fun d => .cons d.name rfl (by decide) <| .cons d.defaultPolicy rfl (by decide) <|
      .cons d.policies rfl (by decide) .nil)
    fun _ => by simp [Members.get_later, bind, Except.bind, pure, Except.pure]

instance : Lossless Topology :=
  .ofRecord 10 (fun _ => rfl) rfl (by decide)
    (fun t => .cons t.index rfl (by decide) <| .cons t.metaNodes rfl (by decide) <|
      .cons t.dataNodes rfl (by decide) <| .cons t.databases rfl (by decide) <|
      .cons t.maxNodeId rfl (by decide) <| .cons t.maxShardGroupId rfl (by decide) <|
      .cons t.maxShardId rfl (by decide) .nil)
    fun _ => by simp [Members.get_later, bind, Except.bind, pure, Except.pure]

end SeriesCluster
