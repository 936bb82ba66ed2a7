import Mathlib
import SeriesCluster.Proofs.Topology.NewGroup
import SeriesCluster.Proofs.Topology.ShardIds
import SeriesCluster.Proofs.Topology.WellFormed

/-!
A new group computed in words, one operation after the other; an operation whose result does not fit
its word gives nothing. For its interval none runs over, and for its ids and owners none does as long
as the counters have room, which it takes very many commands to use up. Main statements:
`intervalInWords?_eq`, `applyGroupInWords?_eq`, `hasRoom_of_few`.
-/

namespace SeriesCluster

def timestamp? (n : Int) : Option Int64 :=
  if Int64.minValue.toInt ≤ n ∧ n ≤ Int64.maxValue.toInt then some (Int64.ofInt n) else none

def next? (n : UInt64) : Option UInt64 := if n.toNat + 1 < UInt64.size then some (n + 1) else none

/-- The remainder that is not negative, from the one that division leaves. It runs over with the
quotient, even though that is not asked for. -/
def remainder? (t span : Int64) : Option Int64 :=
  if span = 0 then none
  else do
    let _ ← timestamp? (t.toInt.tdiv span.toInt)
    let r := t % span
    if r < 0 then timestamp? (r.toInt + span.toInt.natAbs) else some r

theorem timestamp?_eq_some {n : Int} {t : Int64} : timestamp? n = some t ↔ t.toInt = n := by
  unfold timestamp?
  constructor
  · intro found
    split at found
    · rename_i fits
      cases found
      rw [Int64.toInt_minValue, Int64.toInt_maxValue] at fits
      exact Int64.toInt_ofInt_of_le fits.1 (by omega)
    · cases found
  · rintro rfl
    rw [if_pos ⟨t.minValue_le_toInt, t.toInt_le⟩, Int64.ofInt_toInt]

theorem exists_timestamp? {n : Int} (low : Int64.minValue.toInt ≤ n)
    (high : n ≤ Int64.maxValue.toInt) : ∃ t, timestamp? n = some t ∧ t.toInt = n := by
  have found : timestamp? n = some (Int64.ofInt n) := if_pos ⟨low, high⟩
  exact ⟨_, found, timestamp?_eq_some.mp found⟩

theorem tdiv_between (t span : Int64) (positive : 0 < span.toInt) :
    Int64.minValue.toInt ≤ t.toInt.tdiv span.toInt ∧
      t.toInt.tdiv span.toInt ≤ Int64.maxValue.toInt := by
  have low := t.le_toInt
  have high := t.toInt_lt
  rw [Int64.toInt_minValue, Int64.toInt_maxValue]
  have smaller := Int.natAbs_tdiv_le_natAbs t.toInt span.toInt
  rcases Int.le_total 0 t.toInt with nonneg | negative
  · have sign : 0 ≤ t.toInt.tdiv span.toInt := Int.tdiv_nonneg nonneg (by omega)
    omega
  · have sign : 0 ≤ (-t.toInt).tdiv span.toInt := Int.tdiv_nonneg (by omega) (by omega)
    rw [Int.neg_tdiv] at sign
    omega

theorem exists_remainder? (t : Int64) {span : Int64} (positive : 0 < span.toInt) :
    ∃ r, remainder? t span = some r ∧ r.toInt = t.toInt % span.toInt := by
  have nonzero : span ≠ 0 := by
    rintro rfl
    simp at positive
  obtain ⟨low, high⟩ := tdiv_between t span positive
  obtain ⟨q, quotient, -⟩ := exists_timestamp? low high
  have bound := span.toInt_le
  have nonneg := Int.emod_nonneg t.toInt (by omega : span.toInt ≠ 0)
  have less := Int.emod_lt_of_pos t.toInt positive
  have value : (t % span).toInt = t.toInt.tmod span.toInt := Int64.toInt_mod t span
  rw [Int.tmod_eq_emod] at value
  simp only [remainder?, if_neg nonzero, quotient, Option.bind_eq_bind, Option.bind_some]
  by_cases below : t % span < 0
  · rw [if_pos below]
    rw [Int64.lt_iff_toInt_lt, Int64.toInt_zero] at below
    -- A negative remainder is the other one less the divisor.
    have same : (t % span).toInt + span.toInt.natAbs = t.toInt % span.toInt := by
      split at value <;> omega
    rw [same]
    refine exists_timestamp? ?_ (by omega)
    rw [Int64.toInt_minValue]
    omega
  · rw [if_neg below]
    rw [Int64.lt_iff_toInt_lt, Int64.toInt_zero] at below
    refine ⟨_, rfl, ?_⟩
    split at value <;> omega

theorem next?_eq {n : UInt64} (room : n.toNat + 1 < UInt64.size) :
    next? n = some (n + 1) ∧ (n + 1).toNat = n.toNat + 1 := by
  have size : UInt64.size = 2 ^ 64 := rfl
  refine ⟨if_pos room, ?_⟩
  rw [UInt64.toNat_add, UInt64.toNat_one, Nat.mod_eq_of_lt (by omega)]

def spanInWords? (d : Duration) : Option Int64 :=
  if d.nanos < 2 ^ 128 then
    let span := Int64.ofNat (min d.nanos (2 ^ 63 - 1))
    some (if span < 1 then 1 else span)
  else none

/-- The interval of a time. That it starts or ends beyond all timestamps is no overflow but an
answer. -/
def intervalInWords? (d : Duration) (t : Int64) : Option (Option (Int64 × Int64)) := do
  let span ← spanInWords? d
  let r ← remainder? t span
  return do
    let start ← timestamp? (t.toInt - r.toInt)
    let stop ← timestamp? (start.toInt + span.toInt)
    return (start, stop)

theorem spanInWords?_eq (p : RetentionPolicy) :
    ∃ span, spanInWords? p.shardGroupDuration = some span ∧ span.toInt = p.span := by
  have narrow : p.shardGroupDuration.nanos < 2 ^ 128 := by
    have bound := p.shardGroupDuration.nanos_lt
    have size : UInt64.size = 2 ^ 64 := rfl
    omega
  refine ⟨_, if_pos narrow, ?_⟩
  have last : Int64.maxValue.toInt.natAbs = 2 ^ 63 - 1 := by decide
  have value : (Int64.ofNat (min p.shardGroupDuration.nanos (2 ^ 63 - 1))).toInt =
      (min p.shardGroupDuration.nanos (2 ^ 63 - 1) : Nat) :=
    Int64.toInt_ofNat_of_lt (by omega)
  have one : (1 : Int64).toInt = 1 := by decide
  rw [RetentionPolicy.span, last]
  split
  · rename_i less
    rw [Int64.lt_iff_toInt_lt, value, one] at less
    rw [one]
    omega
  · rename_i enough
    rw [Int64.lt_iff_toInt_lt, value, one] at enough
    rw [value]
    omega

theorem intervalInWords?_eq (p : RetentionPolicy) (t : Int64) :
    intervalInWords? p.shardGroupDuration t = some (RetentionPolicy.interval? p.span t) := by
  obtain ⟨span, spanned, width⟩ := spanInWords?_eq p
  have positive : 0 < span.toInt := width ▸ p.span_pos
  obtain ⟨r, left, value⟩ := exists_remainder? t positive
  rw [width] at value positive
  have nonneg := Int.emod_nonneg t.toInt (by omega : (p.span : Int) ≠ 0)
  have before := t.toInt_lt
  simp only [intervalInWords?, spanned, left, value, width, Option.bind_eq_bind, Option.bind_some,
    RetentionPolicy.interval?, Option.pure_def, Int64.toInt_minValue, Int64.toInt_maxValue,
    timestamp?]
  -- An end beyond all timestamps is found where it is reached; the other one is not looked at then.
  by_cases early : -2 ^ 63 ≤ t.toInt - t.toInt % p.span
  · have start : (Int64.ofInt (t.toInt - t.toInt % p.span)).toInt = t.toInt - t.toInt % p.span :=
      Int64.toInt_ofInt_of_le early (by omega)
    rw [if_pos ⟨early, by omega⟩, Option.bind_some, start]
    by_cases late : t.toInt - t.toInt % p.span + p.span ≤ 2 ^ 63 - 1
    · rw [if_pos ⟨by omega, late⟩, if_pos ⟨early, late⟩]
      rfl
    · rw [if_neg fun fits => late fits.2, if_neg fun fits => late fits.2]
      rfl
  · rw [if_neg fun fits => early fits.1, if_neg fun fits => early fits.1]
    rfl

def ownersInWords? (nodes : List UInt64) : Nat → UInt64 → Option (List ShardOwner × UInt64)
  | 0, cursor => some ([], cursor)
  | replicas + 1, cursor => do
    let node ← nodes[cursor.toNat % nodes.length]?
    let cursor ← next? cursor
    let (owners, cursor) ← ownersInWords? nodes replicas cursor
    return (⟨node⟩ :: owners, cursor)

def shardsInWords? (nodes : List UInt64) (replicas : Nat) :
    Nat → UInt64 → UInt64 → Option (List ShardInfo × UInt64)
  | 0, last, _ => some ([], last)
  | count + 1, last, cursor => do
    let id ← next? last
    let (owners, cursor) ← ownersInWords? nodes replicas cursor
    let (shards, last) ← shardsInWords? nodes replicas count id cursor
    return (⟨id, owners⟩ :: shards, last)

def nodeAt (nodes : List UInt64) (cursor : Nat) : UInt64 := nodes.getD (cursor % nodes.length) 0

theorem add_one_add_ofNat (n : UInt64) (k : Nat) :
    n + 1 + UInt64.ofNat k = n + UInt64.ofNat (k + 1) := by
  rw [UInt64.add_assoc, UInt64.add_comm 1, ← UInt64.ofNat_one, ← UInt64.ofNat_add]

theorem ownersInWords?_eq {nodes : List UInt64} (nonempty : nodes ≠ []) {replicas : Nat}
    {cursor : UInt64} (room : cursor.toNat + replicas < UInt64.size) :
    ownersInWords? nodes replicas cursor =
      some ((List.range replicas).map fun i => ⟨nodeAt nodes (cursor.toNat + i)⟩,
        cursor + UInt64.ofNat replicas) := by
  induction replicas generalizing cursor with
  | zero => simp [ownersInWords?]
  | succ replicas ih =>
    obtain ⟨following, value⟩ := next?_eq (n := cursor) (by omega)
    have within : cursor.toNat % nodes.length < nodes.length :=
      Nat.mod_lt _ (List.length_pos_iff.mpr nonempty)
    have here : nodes[cursor.toNat % nodes.length]? = some (nodeAt nodes cursor.toNat) := by
      rw [List.getElem?_eq_getElem within, nodeAt, List.getD_eq_getElem _ _ within]
    rw [ownersInWords?, here, following]
    simp only [Option.bind_eq_bind, Option.bind_some]
    rw [ih (by omega), List.range_succ_eq_map, List.map_cons, List.map_map, value,
      add_one_add_ofNat]
    simp only [Option.bind_some, Option.pure_def, Nat.add_zero, Function.comp_def, Nat.succ_eq_add_one,
      Nat.add_assoc, Nat.add_comm 1]

theorem shardsInWords?_eq {nodes : List UInt64} (nonempty : nodes ≠ []) {replicas count : Nat}
    {last cursor : UInt64} (ids : last.toNat + count < UInt64.size)
    (room : cursor.toNat + count * replicas < UInt64.size) :
    shardsInWords? nodes replicas count last cursor =
      some ((List.range count).map fun j => ⟨last + 1 + UInt64.ofNat j,
          (List.range replicas).map fun i => ⟨nodeAt nodes (cursor.toNat + j * replicas + i)⟩⟩,
        last + UInt64.ofNat count) := by
  induction count generalizing last cursor with
  | zero => simp [shardsInWords?]
  | succ count ih =>
    rw [Nat.succ_mul] at room
    obtain ⟨following, value⟩ := next?_eq (n := last) (by omega)
    have behind : cursor.toNat + replicas < UInt64.size := by omega
    have owners := ownersInWords?_eq nonempty behind
    -- The cursor goes on where the owners of this shard have left it.
    have further : (cursor + UInt64.ofNat replicas).toNat = cursor.toNat + replicas :=
      IdPool.toNat_last_add (a := ⟨[], cursor⟩) behind
    rw [shardsInWords?, following, Option.bind_eq_bind, Option.bind_some, owners]
    simp only [Option.bind_eq_bind, Option.bind_some]
    rw [ih (by omega) (by omega), List.range_succ_eq_map, List.map_cons, List.map_map, further]
    simp only [Option.bind_some, Option.pure_def, Function.comp_def, Nat.zero_mul, Nat.add_zero,
      Nat.succ_eq_add_one, add_one_add_ofNat, Nat.succ_mul, Nat.add_assoc, Nat.add_comm replicas]
    rfl

namespace Topology

variable {t t' : Topology}

theorem length_dataIds (t : Topology) : t.dataIds.length = t.dataNodes.length := List.length_map ..

def newGroupInWords? (t : Topology) (p : RetentionPolicy) (start stop : Int64) :
    Option (ShardGroup × UInt64) := do
  let nodes := t.dataIds
  let replicas := max 1 (min p.replicaCount.toNat nodes.length)
  let id ← next? t.maxShardGroupId
  let (shards, last) ←
    shardsInWords? nodes replicas (nodes.length / replicas) t.maxShardId t.index
  return (⟨id, start, stop, none, shards⟩, last)

def createShardGroupInWords? (t : Topology) (database policy : String) (timestamp : Int64) :
    Option (Except Error Topology) :=
  if t.dataIds.isEmpty then some (.error (.refused .noDataNodes))
  else
    match t.policy database policy with
    | .error fault => some (.error fault)
    | .ok p =>
      if (p.groupAt? timestamp).isSome then some (.ok t)
      else do
        match ← intervalInWords? p.shardGroupDuration timestamp with
        | none => return .error (.refused (.noInterval timestamp p.span))
        | some (start, stop) =>
          let (g, last) ← t.newGroupInWords? p start stop
          let t := t.updatePolicy database p.name (insertGroup g)
          return .ok { t with maxShardGroupId := g.id, maxShardId := last }

def applyGroupInWords? (t : Topology) (database policy : String) (timestamp : Int64) :
    Option (Except Error Topology) := do
  match ← t.createShardGroupInWords? database policy timestamp with
  | .error fault => return .error fault
  | .ok s =>
    let index ← next? s.index
    return .ok { s with index := index }

/-- Whether the counters have room for one more group on all data nodes. -/
structure HasRoom (t : Topology) : Prop where
  commands : t.index.toNat + max 1 t.dataNodes.length < UInt64.size
  groups : t.maxShardGroupId.toNat + 1 < UInt64.size
  shards : t.maxShardId.toNat + t.dataNodes.length < UInt64.size

theorem newGroupInWords?_eq (room : t.HasRoom) (nodes : t.dataNodes ≠ []) (p : RetentionPolicy)
    (start stop : Int64) : t.newGroupInWords? p start stop =
      some (t.newGroup p start stop,
        t.maxShardId + UInt64.ofNat (t.newGroup p start stop).shards.length) := by
  have length := t.length_dataIds
  have nonempty : t.dataIds ≠ [] := by simpa [dataIds] using nodes
  obtain ⟨following, -⟩ := next?_eq room.groups
  obtain ⟨commands, -, ids⟩ := room
  have group : t.newGroup p start stop = ⟨t.maxShardGroupId + 1, start, stop, none,
      newShards t.dataIds t.index.toNat (max 1 (min p.replicaCount.toNat t.dataIds.length))
        (t.maxShardId + 1)⟩ := rfl
  rw [newGroupInWords?, group]
  generalize max 1 (min p.replicaCount.toNat t.dataIds.length) = replicas
  -- The picks for all shards together are no more than the nodes, so the cursor has room for them.
  have count : t.dataIds.length / replicas ≤ t.dataIds.length := Nat.div_le_self _ _
  have owners : t.dataIds.length / replicas * replicas ≤ t.dataIds.length :=
    Nat.div_mul_le_self _ _
  have fresh : t.maxShardId.toNat + t.dataIds.length / replicas < UInt64.size := by omega
  have around : t.index.toNat + t.dataIds.length / replicas * replicas < UInt64.size := by omega
  have shards := shardsInWords?_eq nonempty fresh around
  simp only [following, shards, Option.bind_eq_bind, Option.bind_some, Option.pure_def, newShards,
    List.length_map, List.length_range]
  rfl

theorem createShardGroupInWords?_eq (room : t.HasRoom) (database policy : String)
    (timestamp : Int64) : t.createShardGroupInWords? database policy timestamp =
      some (t.createShardGroup database policy timestamp) := by
  rw [createShardGroupInWords?]
  by_cases nodes : t.dataNodes = []
  · rw [createShardGroup_of_no_nodes nodes, if_pos (by simp [dataIds, nodes])]
  rw [if_neg (by simpa [dataIds] using nodes)]
  cases known : t.policy database policy with
  | error fault =>
    rw [createShardGroup_of_node nodes, known]
    rfl
  | ok p =>
    cases found : p.groupAt? timestamp with
    | some g =>
      rw [createShardGroup_of_covered nodes known (by rw [found]; rfl)]
      simp only [found, Option.isSome_some, if_true]
    | none =>
      rw [createShardGroup_of_uncovered nodes known found]
      simp only [found, Option.isSome_none, Bool.false_eq_true, if_false, intervalInWords?_eq,
        Option.bind_eq_bind, Option.bind_some]
      cases RetentionPolicy.interval? p.span timestamp with
      | none => rfl
      | some ends =>
        obtain ⟨start, stop⟩ := ends
        simp only [newGroupInWords?_eq room nodes, Option.bind_some]
        rfl

theorem applyGroupInWords?_eq (room : t.HasRoom) (database policy : String) (timestamp : Int64) :
    t.applyGroupInWords? database policy timestamp =
      some (t.apply (.createShardGroup database policy timestamp)) := by
  rw [applyGroupInWords?, createShardGroupInWords?_eq room, apply, perform]
  cases created : t.createShardGroup database policy timestamp with
  | error fault => rfl
  | ok s =>
    have counted : s.index = t.index := (accepted_createShardGroup created).index
    have bound := room.commands
    obtain ⟨following, -⟩ := next?_eq (n := s.index) (by rw [counted]; omega)
    simp only [Option.bind_eq_bind, Option.bind_some, following]
    rfl

/-- How far the counters are after so many commands. -/
structure CountedBy (t : Topology) (n : Nat) : Prop where
  commands : t.index.toNat ≤ n
  nodes : t.dataNodes.length ≤ n
  groups : t.maxShardGroupId.toNat ≤ n
  shards : t.maxShardId.toNat ≤ n * n

theorem toNat_add_le (a b : UInt64) : (a + b).toNat ≤ a.toNat + b.toNat := by
  rw [UInt64.toNat_add]
  exact Nat.mod_le _ _

theorem NodesStep.length_le {key : NodeInfo → String} {nodes nodes' : List NodeInfo}
    (step : NodesStep key nodes nodes') : nodes'.length ≤ nodes.length + 1 := by
  cases step with
  | fewer kept => exact Nat.le_succ_of_le kept.length_le
  | added free => simp [sortNodes]
  | only n => simp

theorem toNat_shards_le (t : Topology) (p : RetentionPolicy) (start stop : Int64) :
    (UInt64.ofNat (t.newGroup p start stop).shards.length).toNat ≤ t.dataNodes.length := by
  have count : (t.newGroup p start stop).shards.length ≤ t.dataNodes.length := by
    simpa [newGroup, newShards] using Nat.div_le_self t.dataNodes.length _
  exact Nat.le_trans (Nat.mod_le _ _) count

theorem CountedBy.apply {n : Nat} {c : Command} (before : t.CountedBy n) (applied : t.apply c = .ok t') :
    t'.CountedBy (n + 1) := by
  obtain ⟨s, accepted, rfl⟩ := accepted_of_apply applied
  obtain ⟨commands, nodes, groups, shards⟩ := before
  have square : (n + 1) * (n + 1) = n * n + n + (n + 1) := by
    rw [Nat.mul_succ, Nat.succ_mul]
  -- A sum that runs over is less than the numbers give, so these bounds need no room.
  refine
    { commands := ?_
      nodes := Nat.le_trans accepted.dataNodes_step.length_le (Nat.succ_le_succ nodes)
      groups := ?_
      shards := ?_ }
  · rw [accepted.index]
    exact Nat.le_trans (toNat_add_le _ _) (Nat.succ_le_succ commands)
  · change s.maxShardGroupId.toNat ≤ n + 1
    cases accepted.gathered shrinks_id with
    | fewer _ same _ =>
      rw [same]
      omega
    | more _ next _ =>
      rw [next]
      exact Nat.le_trans (toNat_add_le _ _) (Nat.succ_le_succ groups)
  · change s.maxShardId.toNat ≤ (n + 1) * (n + 1)
    cases accepted.gathered shrinks_id with
    | fewer _ _ same =>
      rw [same]
      omega
    | @more p start stop _ _ next =>
      have step := toNat_add_le t.maxShardId (UInt64.ofNat (t.newGroup p start stop).shards.length)
      have few := t.toNat_shards_le p start stop
      rw [next]
      omega

theorem countedBy_applyAll (commands : List Command) :
    (({} : Topology).applyAll commands).CountedBy commands.length := by
  induction commands using List.reverseRecOn with
  | nil => exact ⟨Nat.le_refl _, Nat.le_refl _, Nat.le_refl _, Nat.le_refl _⟩
  | append_singleton first c ih =>
    rw [List.length_append, List.length_singleton, applyAll_concat]
    cases applied : (({} : Topology).applyAll first).apply c with
    | error e =>
      obtain ⟨commands, nodes, groups, shards⟩ := ih
      exact ⟨Nat.le_succ_of_le commands, Nat.le_succ_of_le nodes, Nat.le_succ_of_le groups,
        Nat.le_trans shards (Nat.mul_self_le_mul_self (Nat.le_succ _))⟩
    | ok t' => exact ih.apply applied

theorem hasRoom_of_few {commands : List Command} (few : commands.length < 2 ^ 32) :
    (({} : Topology).applyAll commands).HasRoom := by
  have size : UInt64.size = 2 ^ 64 := rfl
  obtain ⟨counted, nodes, groups, shards⟩ := countedBy_applyAll commands
  have square : commands.length * commands.length ≤ (2 ^ 32 - 1) * (2 ^ 32 - 1) :=
    Nat.mul_self_le_mul_self (by omega)
  exact ⟨by omega, by omega, by omega⟩

end Topology

end SeriesCluster
