import Mathlib
import SeriesCluster.Proofs.Topology.Owners
import SeriesCluster.Proofs.Topology.Words

namespace SeriesCluster

/-- The places among `n` nodes that hold the shards of a group, shard by shard: `replicas` for each,
one after the other from place `start` on, as long as there are enough for one more shard. -/
def roundRobin (n start replicas : Nat) : List (List Nat) :=
  (List.range (n / replicas)).map fun j =>
    (List.range replicas).map fun i => (start + j * replicas + i) % n

variable {n start replicas : Nat}

theorem flatten_map_range (m r : Nat) :
    ((List.range m).map fun j => (List.range r).map fun i => j * r + i).flatten =
      List.range (m * r) := by
  induction m with
  | zero => simp
  | succ m ih =>
    rw [List.range_succ, List.map_append, List.flatten_append, ih, Nat.succ_mul, List.range_add]
    simp

theorem flatten_roundRobin :
    (roundRobin n start replicas).flatten =
      (List.range (n / replicas * replicas)).map fun k => (start + k) % n := by
  rw [← flatten_map_range, List.map_flatten, List.map_map]
  simp only [roundRobin, Function.comp_def, List.map_map, Nat.add_assoc]

theorem length_flatten_roundRobin :
    (roundRobin n start replicas).flatten.length = n / replicas * replicas := by
  rw [flatten_roundRobin, List.length_map, List.length_range]

theorem nodup_flatten_roundRobin : (roundRobin n start replicas).flatten.Nodup := by
  rw [flatten_roundRobin]
  have within : n / replicas * replicas ≤ n := Nat.div_mul_le_self n replicas
  refine List.Nodup.map_on ?_ List.nodup_range
  intro k first l second same
  rw [List.mem_range] at first second
  -- Both are less than `n` steps from the same place, so they are as many.
  have steps : k % n = l % n := Nat.ModEq.add_left_cancel' start same
  rwa [Nat.mod_eq_of_lt (by omega), Nat.mod_eq_of_lt (by omega)] at steps

theorem lt_of_mem_roundRobin {place : Nat} (member : place ∈ (roundRobin n start replicas).flatten) :
    place < n := by
  rw [flatten_roundRobin] at member
  obtain ⟨k, among, rfl⟩ := List.mem_map.mp member
  have within : n / replicas * replicas ≤ n := Nat.div_mul_le_self n replicas
  rw [List.mem_range] at among
  exact Nat.mod_lt _ (by omega)

theorem length_filter_not_mem {α : Type} [DecidableEq α] {l places : List α} (distinct : l.Nodup)
    (apart : places.Nodup) (among : places ⊆ l) :
    (l.filter (· ∉ places)).length = l.length - places.length := by
  have same : (l.filter (· ∈ places)).Perm places := by
    refine (List.perm_ext_iff_of_nodup (distinct.filter _) apart).mpr fun a => ?_
    simpa using fun member => among member
  have split := List.length_eq_length_filter_add (l := l) (· ∈ places)
  rw [same.length_eq] at split
  simp only [← decide_not] at split
  omega

theorem length_unused_roundRobin :
    ((List.range n).filter (· ∉ (roundRobin n start replicas).flatten)).length = n % replicas := by
  rw [length_filter_not_mem List.nodup_range nodup_flatten_roundRobin
    fun place member => List.mem_range.mpr (lt_of_mem_roundRobin member),
    List.length_range, length_flatten_roundRobin]
  have whole := Nat.div_add_mod' n replicas
  omega

namespace Topology

variable {t t' : Topology}

/-- Whether a shard is held by the data nodes at these places, in this order. -/
def HeldAt (t : Topology) (s : ShardInfo) (places : List Nat) : Prop :=
  s.ownerIds.map some = places.map (t.dataIds[·]?)

/-- A group whose shards take the next ids and are spread over the data nodes, `replicas` of them for
each shard, so that no place is used twice. -/
structure Placed (t : Topology) (replicas : Nat) (g : ShardGroup) : Prop where
  counted : g.shards.length = t.dataNodes.length / replicas
  numbered : g.shardIds = t.shardPool.next g.shards.length
  replicated : ∀ s ∈ g.shards, s.owners.length = replicas
  held : List.Forall₂ t.HeldAt g.shards (roundRobin t.dataNodes.length t.index.toNat replicas)
  distinct : (roundRobin t.dataNodes.length t.index.toNat replicas).flatten.Nodup
  unused : ((List.range t.dataNodes.length).filter
    (· ∉ (roundRobin t.dataNodes.length t.index.toNat replicas).flatten)).length =
      t.dataNodes.length % replicas
  apart : t.dataIds.Nodup → g.ownerIds.Nodup

theorem heldAt_ownersRoundRobin (t : Topology) (nonempty : t.dataNodes ≠ []) (id : UInt64)
    (start replicas j : Nat) :
    t.HeldAt ⟨id, ownersRoundRobin t.dataIds start replicas j⟩
      ((List.range replicas).map fun i => (start + j * replicas + i) % t.dataNodes.length) := by
  simp only [HeldAt, ShardInfo.ownerIds, ownersRoundRobin, List.map_map]
  refine List.map_congr_left fun i _ => ?_
  have length := t.length_dataIds
  have within : (start + j * replicas + i) % t.dataIds.length < t.dataIds.length :=
    Nat.mod_lt _ (by rw [length]; exact List.length_pos_iff.mpr nonempty)
  simp only [Function.comp_def, ← length]
  rw [List.getElem?_eq_getElem within, List.getD_eq_getElem _ _ within]

theorem ownerIds_of_held {shards : List ShardInfo} {places : List (List Nat)}
    (held : List.Forall₂ t.HeldAt shards places) :
    (shards.flatMap ShardInfo.ownerIds).map some = places.flatten.map (t.dataIds[·]?) := by
  induction held with
  | nil => rfl
  | cons here _ ih =>
    rw [List.flatMap_cons, List.map_append, ih, here, List.flatten_cons, List.map_append]

theorem ownerIds_nodup_of_held {shards : List ShardInfo} {places : List (List Nat)}
    (held : List.Forall₂ t.HeldAt shards places) (distinct : places.flatten.Nodup)
    (within : ∀ place ∈ places.flatten, place < t.dataIds.length) (apart : t.dataIds.Nodup) :
    (shards.flatMap ShardInfo.ownerIds).Nodup := by
  refine List.Nodup.of_map some ?_
  rw [ownerIds_of_held held]
  -- Where ids are distinct, an id stands at one place only.
  refine distinct.map_on fun place first other _ same => ?_
  exact List.getElem?_inj (within place first) apart |>.mp same

theorem placed_newGroup (nonempty : t.dataNodes ≠ []) (p : RetentionPolicy) (start stop : Int64) :
    t.Placed (min (max p.replicaCount.toNat 1) t.dataNodes.length) (t.newGroup p start stop) := by
  have enough : 0 < t.dataNodes.length := List.length_pos_iff.mpr nonempty
  have length := t.length_dataIds
  have replicas : max 1 (min p.replicaCount.toNat t.dataIds.length) =
      min (max p.replicaCount.toNat 1) t.dataNodes.length := by
    omega
  generalize min (max p.replicaCount.toNat 1) t.dataNodes.length = r at replicas ⊢
  have shards : (t.newGroup p start stop).shards =
      newShards t.dataIds t.index.toNat r (t.maxShardId + 1) := by
    rw [← replicas]
    rfl
  have held : List.Forall₂ t.HeldAt (t.newGroup p start stop).shards
      (roundRobin t.dataNodes.length t.index.toNat r) := by
    rw [shards, newShards, length, roundRobin, List.forall₂_map_left_iff, List.forall₂_map_right_iff,
      List.forall₂_same]
    exact fun j _ => t.heldAt_ownersRoundRobin nonempty _ _ _ j
  refine
    { counted := by simp [shards, newShards, length]
      numbered := shardIds_newGroup t p start stop
      replicated := ?_
      held := held
      distinct := nodup_flatten_roundRobin
      unused := length_unused_roundRobin
      apart := ?_ }
  · intro s member
    rw [shards] at member
    obtain ⟨j, -, rfl⟩ := List.mem_map.mp member
    simp [ownersRoundRobin]
  · refine ownerIds_nodup_of_held held nodup_flatten_roundRobin fun place member => ?_
    rw [length]
    exact lt_of_mem_roundRobin member

def groups (t : Topology) : List ShardGroup := t.gather fun g => [g]

theorem exists_newGroup {database policy : String} {timestamp : Int64} {g : ShardGroup}
    (applied : t.apply (.createShardGroup database policy timestamp) = .ok t')
    (added : t'.groups.Perm (t.groups ++ [g])) :
    t.dataNodes ≠ [] ∧ ∃ p start stop, t.policy database policy = .ok p ∧
      RetentionPolicy.interval? p.span timestamp = some (start, stop) ∧
      g = t.newGroup p start stop := by
  obtain ⟨s, accepted, rfl⟩ := accepted_of_apply applied
  cases accepted with
  | groupKept nodes known covered =>
    have length := added.length_eq
    simp [groups, gather] at length
  | @groupCreated _ _ _ p start stop nodes known uncovered interval =>
    refine ⟨nodes, p, start, stop, known, interval, ?_⟩
    have grown := gather_addGroup (k := fun g => [g]) (g := t.newGroup p start stop)
      (policy_name known)
    have same := (List.perm_append_left_iff _).mp (added.symm.trans grown)
    exact List.singleton_perm_singleton.mp same

theorem shardIds_fresh {u : Topology} {g : ShardGroup} {n : Nat} (first : Leads {} u)
    (second : Leads u t) (numbered : g.shardIds = t.shardPool.next n)
    (room : t.maxShardId.toNat + n < UInt64.size) : ∀ id ∈ g.shardIds, id ∉ u.shardIds := by
  intro id given used
  rw [numbered] at given
  have above := UInt64.lt_iff_toNat_lt.mp (IdPool.mem_next room given).1
  have sound : u.shardPool.Sound := first.shardPool.sound ⟨.nil, nofun⟩
  have below := UInt64.le_iff_toNat_le.mp (sound.le_last id used)
  have order := UInt64.le_iff_toNat_le.mp second.shardPool.last_le
  omega

/-- A group that a command adds is placed on as many nodes for each shard as its policy asks for and
as there are; and its shards have new ids, as long as their counter has room for them. While the
counters have room for one more group, nothing that places it runs over its word. -/
theorem replicas_placed {database policy : String} {timestamp : Int64} {g : ShardGroup}
    (applied : t.apply (.createShardGroup database policy timestamp) = .ok t')
    (added : t'.groups.Perm (t.groups ++ [g])) :
    ∃ p, t.policy database policy = .ok p ∧
      t.Placed (min (max p.replicaCount.toNat 1) t.dataNodes.length) g ∧
      (t.maxShardId.toNat + g.shards.length < UInt64.size →
        ∀ u, Leads {} u → Leads u t → ∀ id ∈ g.shardIds, id ∉ u.shardIds) ∧
      (t.HasRoom → t.applyGroupInWords? database policy timestamp = some (.ok t')) := by
  obtain ⟨nodes, p, start, stop, known, -, rfl⟩ := exists_newGroup applied added
  have placed := placed_newGroup nodes p start stop
  refine ⟨p, known, placed, ?_, ?_⟩
  · exact fun room u first second => shardIds_fresh first second placed.numbered room
  · intro room
    rw [applyGroupInWords?_eq room, applied]

def spreading : List Command :=
  [.createDataNode "a:8086" "a:8088", .createDataNode "b:8086" "b:8088",
    .createDataNode "c:8086" "c:8088", .createDataNode "d:8086" "d:8088",
    .createDataNode "e:8086" "e:8088",
    .createDatabase "db"
      (some { name := "rp", shardGroupDuration := some .hour, replicaCount := some 2 })]

def spread : ShardGroup :=
  ⟨1, 0, 3600000000000, none, [⟨1, [⟨2⟩, ⟨3⟩]⟩, ⟨2, [⟨4⟩, ⟨5⟩]⟩]⟩

theorem replicas_placed_spread :
    ∃ t t', Reachable t ∧ t.apply (.createShardGroup "db" "" 5) = .ok t' ∧
      t'.groups.Perm (t.groups ++ [spread]) ∧ t.Placed 2 spread ∧ t.dataIds.Nodup ∧
      spread.ownerIds.Nodup ∧
      (∀ u, Leads {} u → Leads u t → ∀ id ∈ spread.shardIds, id ∉ u.shardIds) ∧
      t.applyGroupInWords? "db" "" 5 = some (.ok t') := by
  have applied : (({} : Topology).applyAll spreading).apply (.createShardGroup "db" "" 5) =
      .ok (({} : Topology).applyAll (spreading ++ [.createShardGroup "db" "" 5])) := by
    cbv
  have added : (({} : Topology).applyAll (spreading ++ [.createShardGroup "db" "" 5])).groups =
      (({} : Topology).applyAll spreading).groups ++ [spread] := by
    cbv
  have found : (({} : Topology).applyAll spreading).policy "db" "" =
      .ok ⟨"rp", .zero, .hour, 2, []⟩ := by
    cbv
  have ids : (({} : Topology).applyAll spreading).dataIds = [1, 2, 3, 4, 5] := by cbv
  have last : (({} : Topology).applyAll spreading).maxShardId = 0 := by cbv
  obtain ⟨p, known, placed, fresh, words⟩ := replicas_placed applied (.of_eq added)
  rw [found] at known
  cases known
  have length : (({} : Topology).applyAll spreading).dataNodes.length = 5 := by
    have same := congrArg List.length ids
    rwa [dataIds, List.length_map] at same
  rw [length] at placed
  have distinct : (({} : Topology).applyAll spreading).dataIds.Nodup := by
    rw [ids]
    decide
  refine ⟨_, _, Reachable.empty.applyAll spreading, applied, .of_eq added, placed, distinct,
    placed.apart distinct, fresh ?_, words (hasRoom_of_few (by decide))⟩
  rw [last]
  decide

end Topology

end SeriesCluster
