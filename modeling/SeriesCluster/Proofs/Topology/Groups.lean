import SeriesCluster.Proofs.Topology.Policies

namespace SeriesCluster

namespace Topology

def gather {β : Type} (k : ShardGroup → List β) (t : Topology) : List β :=
  t.databases.flatMap fun d => d.policies.flatMap fun p => p.shardGroups.flatMap k

/-- Whether a group holds no more after it was changed. -/
structure Shrinks {β : Type} (k : ShardGroup → List β) : Prop where
  disowned : ∀ node g, (k (disown node g)).Sublist (k g)
  deleted : ∀ deletedAt g, (k { g with deletedAt := some deletedAt }).Sublist (k g)
  dropped : ∀ id g, (k { g with shards := g.shards.filter (·.id != id) }).Sublist (k g)

/-- What becomes of all that the groups hold, and of the counters. -/
inductive Gathered {β : Type} (k : ShardGroup → List β) (t t' : Topology) : Prop
  | fewer (kept : (t'.gather k).Sublist (t.gather k)) (groups : t'.maxShardGroupId = t.maxShardGroupId)
    (shards : t'.maxShardId = t.maxShardId)
  | more {p : RetentionPolicy} {start stop : Int64}
    (added : (t'.gather k).Perm (t.gather k ++ k (t.newGroup p start stop)))
    (groups : t'.maxShardGroupId = t.maxShardGroupId + 1)
    (shards : t'.maxShardId = t.maxShardId + UInt64.ofNat (t.newGroup p start stop).shards.length)

variable {t t' : Topology} {β : Type} {k : ShardGroup → List β}

theorem shardGroups_ofSpec {spec : PolicySpec} {p : RetentionPolicy}
    (asked : RetentionPolicy.ofSpec spec = .ok p) : p.shardGroups = [] := by
  unfold RetentionPolicy.ofSpec at asked
  dsimp only at asked
  split at asked <;> cases asked
  rfl

theorem gather_mapGroups {f : ShardGroup → ShardGroup} (fewer : ∀ g, (k (f g)).Sublist (k g)) :
    (gather k { t with databases := mapGroups f t.databases }).Sublist (t.gather k) := by
  unfold gather mapGroups
  dsimp only
  rw [List.flatMap_map]
  refine .flatMap_right _ fun d _ => ?_
  rw [List.flatMap_map]
  refine .flatMap_right _ fun p _ => ?_
  rw [List.flatMap_map]
  exact .flatMap_right _ fun g _ => fewer g

theorem gather_updateDatabase {name : String} {f : Database → Database}
    (fewer : ∀ d, ((f d).policies.flatMap fun p => p.shardGroups.flatMap k).Sublist
      (d.policies.flatMap fun p => p.shardGroups.flatMap k)) :
    ((t.updateDatabase name f).gather k).Sublist (t.gather k) :=
  flatMap_updateFirst_sublist fewer

theorem gather_updatePolicy {database name : String} {f : List ShardGroup → List ShardGroup}
    (fewer : ∀ groups, ((f groups).flatMap k).Sublist (groups.flatMap k)) :
    ((t.updatePolicy database name f).gather k).Sublist (t.gather k) :=
  gather_updateDatabase fun _ => flatMap_updateFirst_sublist fun p => fewer p.shardGroups

theorem gather_addGroup {database : String} {p : RetentionPolicy} {g : ShardGroup}
    (known : t.policy database p.name = .ok p) :
    ((t.updatePolicy database p.name fun groups =>
      (groups ++ [g]).mergeSort fun a b => a.startTime ≤ b.startTime).gather k).Perm
      (t.gather k ++ k g) := by
  obtain ⟨d, found, named⟩ := exists_of_policy known
  refine flatMap_updateFirst_perm found (flatMap_updateFirst_perm named ?_)
  have sorted := (List.mergeSort_perm (p.shardGroups ++ [g])
    fun a b => a.startTime ≤ b.startTime).flatMap_right k
  rwa [List.flatMap_append, List.flatMap_singleton] at sorted

theorem Accepted.gathered {c : Command} (shrinks : Shrinks k) (accepted : Accepted t c t') :
    Gathered k t t' := by
  induction accepted with
  | firstMetaNodeSet empty created ih => exact ih
  | metaNodeJoined | metaNodeCreated | metaNodeMoved | metaNodeDeleted | dataNodeJoined
  | dataNodeCreated | databaseKept | groupKept => exact .fewer (.refl _) rfl rfl
  | dataNodeDeleted known => exact .fewer (gather_mapGroups (shrinks.disowned _)) rfl rfl
  | databaseCreated named unknown asked =>
    refine .fewer ?_ rfl rfl
    simp [gather, shardGroups_ofSpec asked]
  | databaseDropped known => exact .fewer (.flatMap List.filter_sublist _) rfl rfl
  | policyKept named known existing fits =>
    exact .fewer (gather_updateDatabase fun _ => .refl _) rfl rfl
  | policyCreated named known unknown asked =>
    refine .fewer (gather_updateDatabase fun d => ?_) rfl rfl
    simp [shardGroups_ofSpec asked]
  | policyDropped known listed =>
    exact .fewer (gather_updateDatabase fun d => .flatMap List.filter_sublist _) rfl rfl
  | defaultPolicySet known listed =>
    exact .fewer (gather_updateDatabase fun _ => .refl _) rfl rfl
  | groupCreated nodes known uncovered interval =>
    exact .more (gather_addGroup (policy_name known)) rfl rfl
  | groupDeleted known listed =>
    refine .fewer (gather_updatePolicy fun groups => ?_) rfl rfl
    exact flatMap_updateFirst_sublist (shrinks.deleted _)
  | shardDropped =>
    refine .fewer (flatMap_updateFirst_sublist fun d => ?_) rfl rfl
    refine flatMap_updateFirst_sublist fun p => ?_
    exact flatMap_updateFirst_sublist (shrinks.dropped _)

end Topology

end SeriesCluster
