import SeriesCluster.Cluster.Query
import SeriesCluster.Proofs.Cluster.Sources

namespace SeriesCluster

def ShardSelection.streams (g : ShardSelection) (cancelled : Bool) (q : Measurement)
    (opt : ReadOptions) : Except Error (List PointStream) := do
  (← ShardMapping.namesIn g q).mapM fun n => g.read cancelled n opt

namespace ShardMapping

/-- A read of some shards on one node: in its own store if that is this node, else through the node
alone. -/
def readOn (m : ShardMapping) (node : UInt64) (ids : List UInt64) (store : ShardStore) (d : Dialer)
    (cancelled : Bool) (q : Measurement) (opt : ReadOptions) : Except Error PointStream :=
  if ids = [] then .ok (.merge opt.ascending [])
  else if node = m.nodeId then
    (ShardSelection.streams ⟨store, ids⟩ cancelled q opt).map fun streams =>
      .merge opt.ascending streams
  else .ok (.merge opt.ascending (d.read node ids cancelled q opt).toOption.toList)

theorem read_eq_readOn {m : ShardMapping} {q : Measurement} {s : SourceMapping} {opt : ReadOptions}
    {node : UInt64} (source : m.sources.find? q.source = some s) (named : opt.nodeId = some node)
    (store : ShardStore) (d : Dialer) (cancelled : Bool) :
    m.read store d cancelled q opt = m.readOn node (idsOwnedBy node s.shards) store d cancelled q
      (opt.clamp m.minTime m.maxTime) := by
  have routed : m.routingFor s (opt.clamp m.minTime m.maxTime) =
      Routing.pinned m.nodeId node s.shards := by
    rw [routingFor, show (opt.clamp m.minTime m.maxTime).nodeId = some node from named]
  unfold read readOn
  dsimp only
  rw [source]
  dsimp only
  rw [routed, Routing.pinned, ← idsOwnedBy]
  cases ids : idsOwnedBy node s.shards with
  | nil => rfl
  | cons id rest =>
    rw [if_neg (List.cons_ne_nil id rest)]
    by_cases own : node = m.nodeId
    · simp only [own, if_true, List.isEmpty_cons, if_false, Bool.false_eq_true]
      rw [ShardSelection.streams]
      cases namesIn ⟨store, id :: rest⟩ q with
      | error cause => rfl
      | ok names =>
        rw [ok_bind, ok_bind]
        cases names.mapM fun n =>
            ShardSelection.read ⟨store, id :: rest⟩ cancelled n (opt.clamp m.minTime m.maxTime) with
        | error cause => rfl
        | ok streams =>
          rw [ok_bind, SortedMap.toList_empty, List.filterMap_nil, List.append_nil]
          rfl
    · simp only [own, if_false, List.isEmpty_cons, Bool.false_eq_true, List.isEmpty_nil, if_true]
      have alone : (SortedMap.ofList [(node, id :: rest)]).toList = [(node, id :: rest)] := rfl
      rw [alone, List.filterMap_cons]
      cases d.read node (id :: rest) cancelled q (opt.clamp m.minTime m.maxTime) with
      | error cause => rfl
      | ok stream => rfl

end ShardMapping

namespace Mapper

theorem idsOwnedBy_ownedShards (node : UInt64) (groups : List ShardGroup) :
    idsOwnedBy node (ownedShards groups) = idsOwnedBy node (groups.flatMap (·.shards)) := by
  unfold idsOwnedBy ownedShards
  rw [List.filter_filter]
  apply congrArg
  apply List.filter_congr
  intro s _
  cases owners : s.owners with
  | nil => simp [ShardInfo.ownedBy, ShardInfo.ownerIds, owners]
  | cons first rest => simp

/-- Whatever groups of shards there are and whatever owners are picked: each occurrence of a shard is
read once, here if this node owns it and else on one of its owners, and not at all without owners. A
read that names a node reads those shards of a mapped source that the node owns, on that node. -/
theorem routed_to_owners (m : Mapper) (picks : Picks) (groups : List ShardGroup) (used : Nat) :
    (∃ placed, Routing.Places m.nodeId (groups.flatMap (·.shards)) placed
      (Routing.ofGroups m.nodeId picks groups used).1) ∧
    ∀ {lookup : GroupLookup} {sources : List QuerySource} {engine : ShardEngine}
      {mapping : ShardMapping} {made : State} {q : Measurement} {info : SourceMapping},
      m.mapShards lookup picks sources engine = (.ok mapping, made) →
      lookup q.source = .ok groups → mapping.sources.find? q.source = some info →
      (∃ before, info.routing = (Routing.ofGroups m.nodeId picks groups before).1) ∧
        ∀ {opt : ReadOptions} {node : UInt64}, opt.nodeId = some node →
          ∀ store d cancelled, mapping.read store d cancelled q opt =
            mapping.readOn node (idsOwnedBy node (groups.flatMap (·.shards))) store d cancelled q
              (opt.clamp m.minTime m.maxTime) := by
  refine ⟨Routing.exists_places .., ?_⟩
  intro lookup sources engine mapping made q info mapped known found
  obtain ⟨rfl, kept⟩ := mapped_of_mapShards mapped
  obtain ⟨groups', before, known', rfl⟩ := kept q.source info found
  rw [known] at known'
  cases known'
  refine ⟨⟨before, rfl⟩, ?_⟩
  intro opt node named store d cancelled
  rw [ShardMapping.read_eq_readOn found named, ← idsOwnedBy_ownedShards]
  rfl

def threeShards : List ShardGroup :=
  [⟨1, 0, 10, none, [⟨1, [⟨2⟩, ⟨3⟩]⟩, ⟨2, [⟨2⟩, ⟨1⟩]⟩, ⟨3, []⟩]⟩]

def load : Measurement := { database := "db", retentionPolicy := "rp", name := "load" }

def loadMapping : ShardMapping where
  nodeId := 1
  minTime := none
  maxTime := none
  sources := .ofList [(load.source,
    ⟨⟨[2], .ofList [(3, [1])]⟩, [⟨1, [⟨2⟩, ⟨3⟩]⟩, ⟨2, [⟨2⟩, ⟨1⟩]⟩]⟩)]

theorem routed_to_owners_named :
    (∃ made, mapShards { nodeId := 1 } (fun _ => .ok threeShards) (fun _ => 1) [.measurement load] {} =
      (.ok loadMapping, made)) ∧
      ∀ store d cancelled, loadMapping.read store d cancelled load { nodeId := some 2 } =
        .ok (.merge true (d.read 2 [1, 2] cancelled load { nodeId := some 2 }).toOption.toList) := by
  obtain ⟨made, mapped⟩ : ∃ made, mapShards { nodeId := 1 } (fun _ => .ok threeShards) (fun _ => 1)
      [.measurement load] {} = (.ok loadMapping, made) := ⟨_, rfl⟩
  refine ⟨⟨made, mapped⟩, ?_⟩
  intro store d cancelled
  have named : ({ nodeId := some 2 } : ReadOptions).nodeId = some 2 := rfl
  have routed := routed_to_owners { nodeId := 1 } (fun _ => 1) threeShards 0
  exact (routed.2 mapped rfl rfl).2 named store d cancelled

end Mapper

end SeriesCluster
