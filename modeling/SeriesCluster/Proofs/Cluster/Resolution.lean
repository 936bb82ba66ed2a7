import SeriesCluster.Proofs.Cluster.Mapping
import SeriesCluster.Proofs.Cluster.Placed

namespace SeriesCluster

def ShardStore.createAll (s : ShardStore) (owner : Source) (ids : List UInt64) : ShardStore :=
  ids.foldl (fun s id => s.createShard owner id true) s

def ShardEngine.supply (e : ShardEngine) (owner : Source) (ids : List UInt64) : ShardEngine :=
  match e.creationFault with
  | none => { e with store := e.store.createAll owner ids }
  | some _ => e

namespace Mapper

/-- Why a list of shards cannot be created: the policy is to fail, and the first shard fails. -/
def creationRefusal? (policy : ReconcilePolicy) (ids : List UInt64) (e : ShardEngine) : Option Error :=
  match policy, e.creationFault, ids with
  | .fail, some cause, id :: _ => some (.creatingShard id cause)
  | _, _, _ => none

theorem createMissing_of_able (policy : ReconcilePolicy) (source : Source) (ids : List UInt64)
    {e : ShardEngine} (able : e.creationFault = none) :
    createMissing policy source ids e =
      (.ok (), { e with store := e.store.createAll source ids }) := by
  induction ids generalizing e with
  | nil => rfl
  | cons id ids ih =>
    have created : e.createShard source id =
        .ok { e with store := e.store.createShard source id true } := by
      rw [ShardEngine.createShard, able]
    rw [createMissing, created]
    exact ih able

theorem createMissing_of_unable (policy : ReconcilePolicy) (source : Source) (ids : List UInt64)
    {e : ShardEngine} {cause : Error} (unable : e.creationFault = some cause) :
    createMissing policy source ids e =
      (match policy, ids with
        | .fail, id :: _ => .error (.creatingShard id cause)
        | _, _ => .ok (), e) := by
  induction ids with
  | nil => cases policy <;> rfl
  | cons id ids ih =>
    have failed : e.createShard source id = .error cause := by
      rw [ShardEngine.createShard, unable]
    rw [createMissing, failed]
    cases policy with
    | fail => rfl
    | ignore | warn => exact ih

theorem createMissing_eq (policy : ReconcilePolicy) (source : Source) (ids : List UInt64)
    (e : ShardEngine) : createMissing policy source ids e =
      (match creationRefusal? policy ids e with
        | some cause => .error cause
        | none => .ok (), e.supply source ids) := by
  unfold creationRefusal? ShardEngine.supply
  cases fault : e.creationFault with
  | none =>
    rw [createMissing_of_able policy source ids fault, fault]
    cases policy <;> rfl
  | some cause =>
    rw [createMissing_of_unable policy source ids fault]
    cases policy <;> cases ids <;> rfl

def missing (m : Mapper) (groups : List ShardGroup) (e : ShardEngine) : List UInt64 :=
  (idsOwnedBy m.nodeId (groups.flatMap (·.shards))).filter fun id => !e.store.shards.contains id

/-- What keeps a source from being mapped: its lookup fails, or a shard of it that should be created
cannot be. -/
def refusal? (m : Mapper) (lookup : GroupLookup) (e : ShardEngine) (source : Source) : Option Error :=
  match lookup source with
  | .error cause => some cause
  | .ok groups => creationRefusal? m.policy (m.missing groups e) e

theorem refusal?_supply (m : Mapper) (lookup : GroupLookup) (e : ShardEngine) (owner : Source)
    (ids : List UInt64) (source : Source) :
    m.refusal? lookup (e.supply owner ids) source = m.refusal? lookup e source := by
  cases e with
  | mk store fault =>
    cases fault with
    | some cause => rfl
    | none =>
      unfold refusal?
      cases lookup source with
      | error cause => rfl
      | ok groups => cases h : m.policy <;> simp [creationRefusal?, ShardEngine.supply]

theorem filter_present (store : ShardStore) (ids : List UInt64) :
    (ids.filter fun id => !(store.present ids).contains id) =
      ids.filter fun id => !store.shards.contains id := by
  apply List.filter_congr
  intro id member
  simp [ShardStore.present, member]

def mappingOf (m : Mapper) (picks : Picks) (groups : List ShardGroup) (used : Nat) : SourceMapping :=
  ⟨(Routing.ofGroups m.nodeId picks groups used).1, ownedShards groups⟩

theorem mapGroups_eq (m : Mapper) (picks : Picks) (source : Source) (groups : List ShardGroup)
    (s : State) : m.mapGroups picks source groups s =
      match creationRefusal? m.policy (m.missing groups s.engine) s.engine with
      | some cause => (.error cause, { s with
          engine := s.engine.supply source (m.missing groups s.engine)
          used := (Routing.ofGroups m.nodeId picks groups s.used).2 })
      | none => (.ok (), { s with
          sources := s.sources.insert source (m.mappingOf picks groups s.used)
          engine := s.engine.supply source (m.missing groups s.engine)
          used := (Routing.ofGroups m.nodeId picks groups s.used).2 }) := by
  obtain ⟨placed, places⟩ := Routing.exists_places m.nodeId picks groups s.used
  have needed : (Routing.ofGroups m.nodeId picks groups s.used).1.here.filter (fun id =>
      !(s.engine.store.present (Routing.ofGroups m.nodeId picks groups s.used).1.here).contains id) =
      m.missing groups s.engine := by
    rw [filter_present, places.here_eq]
    rfl
  unfold Routing.ofGroups at needed
  unfold mapGroups reconcile
  dsimp only
  rw [Routing.extend_filter_owned, needed, createMissing_eq]
  cases creationRefusal? m.policy (m.missing groups s.engine) s.engine with
  | none => rfl
  | some cause => rfl

def resolve (m : Mapper) (lookup : GroupLookup) (picks : Picks) (source : Source) (s : State) :
    Except Error Unit × State :=
  match lookup source with
  | .error e => (.error e, { s with lookups := s.lookups ++ [source] })
  | .ok groups => m.mapGroups picks source groups { s with lookups := s.lookups ++ [source] }

theorem mapSource_eq (m : Mapper) (lookup : GroupLookup) (picks : Picks) (source : Source)
    (s : State) : m.mapSource lookup picks source s =
      if s.sources.contains source then (.ok (), s) else m.resolve lookup picks source s := rfl

/-- What resolving a source may do. It is refused and only noted, or it gets its mapping, and the
shards that are missing for it are asked for. -/
inductive Resolved (m : Mapper) (lookup : GroupLookup) (picks : Picks) (source : Source) (s : State) :
    Except Error Unit × State → Prop
  | refused {cause : Error} {used : Nat} (refusal : m.refusal? lookup s.engine source = some cause) :
    Resolved m lookup picks source s
      (.error cause, { s with lookups := s.lookups ++ [source], used := used })
  | mapped {groups : List ShardGroup} {used : Nat} (found : lookup source = .ok groups)
    (free : m.refusal? lookup s.engine source = none) :
    Resolved m lookup picks source s
      (.ok (), {
        sources := s.sources.insert source (m.mappingOf picks groups s.used)
        lookups := s.lookups ++ [source]
        engine := s.engine.supply source (m.missing groups s.engine)
        used := used })

theorem supply_of_refusal {policy : ReconcilePolicy} {ids : List UInt64} {e : ShardEngine}
    {cause : Error} (refusal : creationRefusal? policy ids e = some cause) (owner : Source)
    (others : List UInt64) : e.supply owner others = e := by
  unfold creationRefusal? at refusal
  unfold ShardEngine.supply
  cases fault : e.creationFault with
  | some cause => rfl
  | none => simp [fault] at refusal

theorem resolve_resolved (m : Mapper) (lookup : GroupLookup) (picks : Picks) (source : Source)
    (s : State) : Resolved m lookup picks source s (m.resolve lookup picks source s) := by
  unfold resolve
  cases found : lookup source with
  | error cause =>
    have refusal : m.refusal? lookup s.engine source = some cause := by rw [refusal?, found]
    exact .refused refusal
  | ok groups =>
    have same : m.refusal? lookup s.engine source =
        creationRefusal? m.policy (m.missing groups s.engine) s.engine := by
      rw [refusal?, found]
    dsimp only
    rw [mapGroups_eq]
    cases refusal : creationRefusal? m.policy (m.missing groups s.engine) s.engine with
    | none => exact .mapped found (same.trans refusal)
    | some cause =>
      dsimp only
      rw [supply_of_refusal refusal]
      exact .refused (same.trans refusal)

def resolveAll (m : Mapper) (lookup : GroupLookup) (picks : Picks) :
    List Source → State → Except Error Unit × State
  | [], s => (.ok (), s)
  | source :: rest, s =>
    match m.resolve lookup picks source s with
    | (.error e, s) => (.error e, s)
    | (.ok _, s) => resolveAll m lookup picks rest s

def unmapped (asked : List Measurement) (s : State) : List Source :=
  ((asked.map (·.source)).filter fun source => !s.sources.contains source).eraseDups

theorem contains_insert (sources : SortedMap Source SourceMapping) (source k : Source)
    (info : SourceMapping) :
    (sources.insert source info).contains k = (k == source || sources.contains k) := by
  unfold SortedMap.contains
  rw [SortedMap.find?_insert]
  by_cases same : k = source <;> simp [same]

theorem mapMeasurements_eq (m : Mapper) (lookup : GroupLookup) (picks : Picks)
    (asked : List Measurement) (s : State) :
    m.mapMeasurements lookup picks asked s = m.resolveAll lookup picks (unmapped asked s) s := by
  induction asked generalizing s with
  | nil => rfl
  | cons q asked ih =>
    rw [mapMeasurements, mapSource_eq]
    unfold unmapped
    rw [List.map_cons]
    cases known : s.sources.contains q.source with
    | true =>
      rw [if_pos rfl, List.filter_cons_of_neg (by simp [known])]
      exact ih s
    | false =>
      rw [if_neg Bool.false_ne_true, List.filter_cons_of_pos (by simp [known]), List.eraseDups_cons,
        resolveAll]
      have step := m.resolve_resolved lookup picks q.source s
      generalize m.resolve lookup picks q.source s = result at step ⊢
      cases step with
      | refused refusal => rfl
      | mapped found free =>
        dsimp only
        rw [ih]
        -- What is mapped now is what is left out of the later occurrences.
        unfold unmapped
        rw [List.filter_filter]
        congr 2
        apply List.filter_congr
        intro k _
        rw [contains_insert, Bool.not_or]

end Mapper

end SeriesCluster
