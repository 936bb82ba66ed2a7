import SeriesCluster.Proofs.Topology.NodeIds
import SeriesCluster.Proofs.Topology.ShardIds

namespace SeriesCluster

def ShardGroup.ownerIds (g : ShardGroup) : List UInt64 := g.shards.flatMap ShardInfo.ownerIds

namespace Topology

variable {t t' : Topology}

def ownerIds (t : Topology) : List UInt64 := t.gather ShardGroup.ownerIds

theorem mem_gather {β : Type} {k : ShardGroup → List β} {b : β} :
    b ∈ t.gather k ↔ ∃ d ∈ t.databases, ∃ p ∈ d.policies, ∃ g ∈ p.shardGroups, b ∈ k g := by
  simp only [gather, List.mem_flatMap]

theorem mem_ownerIds {id : UInt64} :
    id ∈ t.ownerIds ↔ ∃ l ∈ t.locations, id ∈ l.shard.ownerIds := by
  simp only [ownerIds, mem_gather, ShardGroup.ownerIds, List.mem_flatMap]
  constructor
  · rintro ⟨d, known, p, listed, g, member, s, held, owns⟩
    exact ⟨_, mem_locations.mpr ⟨d, known, p, listed, g, member, s, held, rfl⟩, owns⟩
  · rintro ⟨l, place, owns⟩
    obtain ⟨d, known, p, listed, g, member, s, held, rfl⟩ := mem_locations.mp place
    exact ⟨d, known, p, listed, g, member, s, held, owns⟩

theorem ownerIds_disown (id : UInt64) (g : ShardGroup) :
    (disown id g).ownerIds = g.ownerIds.filter (· != id) := by
  simp only [ShardGroup.ownerIds, disown, List.flatMap_map, List.filter_flatMap]
  refine List.flatMap_congr fun s _ => ?_
  simp only [ShardInfo.ownerIds, List.filter_map]
  rfl

theorem shrinks_ownerIds : Shrinks ShardGroup.ownerIds where
  disowned id g := by
    rw [ownerIds_disown]
    exact List.filter_sublist
  deleted _ _ := .refl _
  dropped _ _ := .flatMap List.filter_sublist _

theorem nodeId_mem_of_ownersRoundRobin {nodes : List UInt64} (nonempty : nodes ≠ [])
    {start replicas shard : Nat} {o : ShardOwner}
    (owns : o ∈ ownersRoundRobin nodes start replicas shard) : o.nodeId ∈ nodes := by
  obtain ⟨i, -, rfl⟩ := List.mem_map.mp owns
  have within : (start + shard * replicas + i) % nodes.length < nodes.length :=
    Nat.mod_lt _ (List.length_pos_iff.mpr nonempty)
  change nodes.getD _ 0 ∈ nodes
  rw [List.getD_eq_getElem _ _ within]
  exact List.getElem_mem within

theorem ownerIds_newGroup (t : Topology) (p : RetentionPolicy) (start stop : Int64) :
    (t.newGroup p start stop).ownerIds ⊆ t.dataIds := by
  intro id owns
  obtain ⟨s, held, own⟩ := List.mem_flatMap.mp owns
  obtain ⟨j, among, rfl⟩ := List.mem_map.mp held
  obtain ⟨o, listed, rfl⟩ := List.mem_map.mp own
  -- Without nodes there would be no shard.
  have nonempty : t.dataNodes.map (·.id) ≠ [] := by
    intro none
    simp [none] at among
  exact nodeId_mem_of_ownersRoundRobin nonempty listed

/-- Whether every owner of a shard is the id of a data node. -/
def OwnersKnown (t : Topology) : Prop := t.ownerIds ⊆ t.dataIds

theorem dataIds_subset_addData (t : Topology) (n : NodeInfo) :
    t.dataIds ⊆ (sortNodes (t.dataNodes ++ [n])).map (·.id) := fun _ member =>
  (map_sortNodes t.dataNodes n).mem_iff.mpr (List.mem_append_left _ member)

theorem Accepted.dataIds_subset {c : Command} (accepted : Accepted t c t')
    (kept : ∀ id, c ≠ .deleteDataNode id) : t.dataIds ⊆ t'.dataIds := by
  induction accepted with
  | firstMetaNodeSet empty created ih => exact ih nofun
  | dataNodeJoined free known => exact t.dataIds_subset_addData _
  | dataNodeCreated free unknown => exact t.dataIds_subset_addData _
  | dataNodeDeleted known => exact absurd rfl (kept _)
  | metaNodeJoined | metaNodeCreated | metaNodeMoved | metaNodeDeleted | databaseKept
  | databaseCreated | databaseDropped | policyKept | policyCreated | policyDropped
  | defaultPolicySet | groupKept | groupCreated | groupDeleted | shardDropped =>
    exact List.Subset.refl _

theorem mem_ownerIds_disowned {id owner : UInt64} :
    owner ∈ ownerIds { t with databases := mapGroups (disown id) t.databases } ↔
      owner ∈ t.ownerIds ∧ owner ≠ id := by
  have filtered : ownerIds { t with databases := mapGroups (disown id) t.databases } =
      t.ownerIds.filter (· != id) := by
    simp only [ownerIds, gather, mapGroups, List.flatMap_map, ownerIds_disown, List.filter_flatMap]
  rw [filtered, List.mem_filter, bne_iff_ne]

theorem Accepted.ownersKnown {c : Command} (accepted : Accepted t c t') (known : t.OwnersKnown) :
    t'.OwnersKnown := by
  by_cases deletes : ∃ id, c = .deleteDataNode id
  · obtain ⟨id, rfl⟩ := deletes
    cases accepted
    intro owner owns
    obtain ⟨owned, other⟩ := mem_ownerIds_disowned.mp owns
    obtain ⟨n, listed, rfl⟩ := List.mem_map.mp (known owned)
    exact List.mem_map_of_mem (List.mem_filter.mpr ⟨listed, bne_iff_ne.mpr other⟩)
  · have kept : t.dataIds ⊆ t'.dataIds := accepted.dataIds_subset fun id same => deletes ⟨id, same⟩
    cases accepted.gathered shrinks_ownerIds with
    | fewer less _ _ => exact List.Subset.trans less.subset (List.Subset.trans known kept)
    | @more p start stop added _ _ =>
      have owned : t.ownerIds ++ (t.newGroup p start stop).ownerIds ⊆ t.dataIds :=
        List.append_subset.mpr ⟨known, t.ownerIds_newGroup p start stop⟩
      exact List.Subset.trans added.subset (List.Subset.trans owned kept)

theorem Reachable.ownersKnown (reached : Reachable t) : t.OwnersKnown := by
  induction reached with
  | empty => exact List.nil_subset _
  | step prior applied ih =>
    obtain ⟨s, accepted, rfl⟩ := accepted_of_apply applied
    exact accepted.ownersKnown ih

theorem not_mem_ownerIds_of_deleted {id : UInt64}
    (applied : t.apply (.deleteDataNode id) = .ok t') : id ∉ t'.ownerIds := by
  obtain ⟨s, accepted, rfl⟩ := accepted_of_apply applied
  cases accepted
  intro owns
  exact (mem_ownerIds_disowned.mp owns).2 rfl

/-- In every topology that commands lead to, the owners of every shard are data nodes; and no shard
is owned by a data node that has just been deleted. -/
theorem owners_exist (reached : Reachable t) :
    (∀ l ∈ t.locations, ∀ o ∈ l.shard.owners, ∃ n ∈ t.dataNodes, n.id = o.nodeId) ∧
      ∀ id t', t.apply (.deleteDataNode id) = .ok t' →
        ∀ l ∈ t'.locations, l.shard.ownedBy id = false := by
  constructor
  · intro l place o owns
    have owner : o.nodeId ∈ t.ownerIds := mem_ownerIds.mpr ⟨l, place, List.mem_map_of_mem owns⟩
    exact List.mem_map.mp (reached.ownersKnown owner)
  · intro id t' applied l place
    rw [ShardInfo.ownedBy, List.contains_eq_mem, decide_eq_false_iff_not]
    exact fun owns => not_mem_ownerIds_of_deleted applied (mem_ownerIds.mpr ⟨l, place, owns⟩)

def replicating : List Command :=
  [.createDataNode "a:8086" "a:8088", .createDataNode "b:8086" "b:8088",
    .createDatabase "db"
      (some { name := "rp", shardGroupDuration := some .hour, replicaCount := some 2 }),
    .createShardGroup "db" "rp" 0, .deleteShardGroup "db" "rp" 1 7, .createShardGroup "db" "" 5]

def replicated (owners later : List ShardOwner) : List Database :=
  [⟨"db", "rp", [⟨"rp", .zero, .hour, 2,
    [⟨1, 0, 3600000000000, some 7, [⟨1, owners⟩]⟩, ⟨2, 0, 3600000000000, none, [⟨2, later⟩]⟩]⟩]⟩]

theorem owners_exist_replicated :
    ∃ t t', Reachable t ∧ t.databases = replicated [⟨2⟩, ⟨1⟩] [⟨2⟩, ⟨1⟩] ∧
      (∀ l ∈ t.locations, ∀ o ∈ l.shard.owners, ∃ n ∈ t.dataNodes, n.id = o.nodeId) ∧
      t.apply (.deleteDataNode 1) = .ok t' ∧ t'.databases = replicated [⟨2⟩] [⟨2⟩] ∧
      ∀ l ∈ t'.locations, l.shard.ownedBy 1 = false := by
  have reached : Reachable (({} : Topology).applyAll replicating) :=
    Reachable.empty.applyAll replicating
  obtain ⟨exist, gone⟩ := owners_exist reached
  have deleted : (({} : Topology).applyAll replicating).apply (.deleteDataNode 1) =
      .ok (({} : Topology).applyAll (replicating ++ [.deleteDataNode 1])) := by
    cbv
  exact ⟨_, _, reached, by cbv, exist, deleted, by cbv, gone 1 _ deleted⟩

end Topology

end SeriesCluster
