import Mathlib
import SeriesCluster.Proofs.Topology.Resubmission
import SeriesCluster.Proofs.Topology.Words

namespace SeriesCluster

def Replaced {α : Type} (a b : α) (l l' : List α) : Prop :=
  ∃ before after, l = before ++ a :: after ∧ l' = before ++ b :: after

def Inserted {α : Type} (a : α) (l l' : List α) : Prop :=
  ∃ before after, l = before ++ after ∧ l' = before ++ a :: after

theorem replaced_self {α : Type} {a : α} {l : List α} (member : a ∈ l) : Replaced a a l l := by
  obtain ⟨before, after, split⟩ := List.append_of_mem member
  exact ⟨before, after, split, split⟩

theorem inserted_of_sublist {α : Type} {a : α} {l l' : List α} (kept : l.Sublist l')
    (added : l'.Perm (l ++ [a])) : Inserted a l l' := by
  induction kept with
  | slnil => simp at added
  | @cons l l' b kept ih =>
    have length := added.length_eq
    rw [List.length_cons, List.length_append, List.length_singleton] at length
    -- The one entry that is not kept is this, so the rests are the same.
    have same : l = l' := kept.eq_of_length (by omega)
    subst same
    have new : [b].Perm [a] :=
      (List.perm_append_left_iff l).mp (List.perm_append_comm.trans added)
    rw [List.singleton_perm_singleton.mp new]
    exact ⟨[], l, rfl, rfl⟩
  | cons_cons b kept ih =>
    obtain ⟨before, after, rfl, rfl⟩ := ih ((List.perm_cons b).mp added)
    exact ⟨b :: before, after, rfl, rfl⟩

namespace RetentionPolicy

variable {p : RetentionPolicy} {t : Int64}

/-- Whether one live group of the policy holds a time, and that has the interval of the time. -/
def CoversOnce (p : RetentionPolicy) (t : Int64) : Prop :=
  ∃ g, (p.shardGroups.filter fun g => !g.isDeleted && g.contains t) = [g] ∧
    g.startTime.toInt = p.startOf t ∧ g.endTime.toInt = p.startOf t + p.span

theorem OnGrid.coversOnce (grid : p.OnGrid) (covered : (p.groupAt? t).isSome) : p.CoversOnce t := by
  obtain ⟨g, found⟩ := Option.isSome_iff_exists.mp covered
  have listed : g ∈ p.shardGroups := List.mem_of_find?_eq_some found
  have live := List.find?_some found
  have holds : g ∈ p.shardGroups.filter fun g => !g.isDeleted && g.contains t :=
    List.mem_filter.mpr ⟨listed, live⟩
  have once : (p.shardGroups.filter fun g => !g.isDeleted && g.contains t).length = 1 :=
    Nat.le_antisymm (grid.tiled.unique t) (List.length_pos_of_mem holds)
  obtain ⟨h, only⟩ := List.length_eq_one_iff.mp once
  rw [only, List.mem_singleton] at holds
  subst holds
  rw [Bool.and_eq_true] at live
  exact ⟨g, only, grid.eq_startOf listed live.2⟩

theorem OnGrid.inserted (grid : p.OnGrid) (g : ShardGroup) :
    Inserted g p.shardGroups (Topology.insertGroup g p.shardGroups) := by
  refine inserted_of_sublist ?_ (List.mergeSort_perm _ _)
  refine List.sublist_mergeSort (fun a b c => ?_) (fun a b => ?_) ?_ (List.sublist_append_left _ _)
  · simpa using Int64.le_trans
  · simpa using Int64.le_total _ _
  · simpa using grid.ordered

end RetentionPolicy

namespace Topology

variable {t t' : Topology} {database policy : String} {timestamp : Int64} {p p' : RetentionPolicy}

/-- Whether nothing is changed but one policy of a database, and the counters of groups, shards and
commands. -/
structure ChangesOnly (t t' : Topology) (database : String) (p p' : RetentionPolicy) : Prop where
  metaNodes : t'.metaNodes = t.metaNodes
  dataNodes : t'.dataNodes = t.dataNodes
  maxNodeId : t'.maxNodeId = t.maxNodeId
  databases : ∃ d policies, d.name = database ∧
    Replaced d { d with policies := policies } t.databases t'.databases ∧
    Replaced p p' d.policies policies
  regrouped : p' = { p with shardGroups := p'.shardGroups }

theorem changesOnly_self (known : t.policy database policy = .ok p) (n : UInt64) :
    t.ChangesOnly { t with index := n } database p p := by
  obtain ⟨d, found, named⟩ := exists_of_policy known
  have name : d.name = database := by simpa using List.find?_some found
  exact ⟨rfl, rfl, rfl, ⟨d, d.policies, name, replaced_self (mem_of_database? found),
    replaced_self (List.mem_of_find?_eq_some named)⟩, rfl⟩

theorem changesOnly_addGroup (known : t.policy database policy = .ok p) (g : ShardGroup) (n : UInt64) :
    t.ChangesOnly { t.addGroup database p g with index := n } database p
      { p with shardGroups := insertGroup g p.shardGroups } := by
  obtain ⟨d, found, named⟩ := exists_of_policy (policy_name known)
  have name : d.name = database := by simpa using List.find?_some found
  have policies := updateFirst_of_find?_eq_some
    (f := fun p => { p with shardGroups := insertGroup g p.shardGroups }) named
  have databases := updateFirst_of_find?_eq_some (f := fun d => { d with
    policies := updateFirst (·.name == d.resolve p.name)
      (fun p => { p with shardGroups := insertGroup g p.shardGroups }) d.policies }) found
  exact ⟨rfl, rfl, rfl, ⟨d, _, name, databases, policies⟩, rfl⟩

/-- What the command for a group makes of its policy: it keeps a policy that holds the time, and gives
one more group to another. -/
structure Covered (t t' : Topology) (database : String) (timestamp : Int64)
    (p p' : RetentionPolicy) : Prop where
  once : p'.CoversOnce timestamp
  only : t.ChangesOnly t' database p p'
  kept : (p.groupAt? timestamp).isSome → t' = { t with index := t.index + 1 }
  grown : p.groupAt? timestamp = none → ∃ g, Inserted g p.shardGroups p'.shardGroups

theorem Reachable.exists_covered (reached : Reachable t)
    (applied : t.apply (.createShardGroup database policy timestamp) = .ok t') :
    ∃ p p', t.policy database policy = .ok p ∧ t'.policy database policy = .ok p' ∧
      t.Covered t' database timestamp p p' := by
  have after : Reachable t' := reached.step applied
  obtain ⟨s, accepted, rfl⟩ := accepted_of_apply applied
  cases accepted with
  | @groupKept _ _ _ p g nodes known covered =>
    have some : (p.groupAt? timestamp).isSome := by rw [covered]; rfl
    have grid : p.OnGrid := reached.onGrid (lists_of_policy known)
    refine ⟨p, p, known, known, ?_⟩
    exact
      { once := grid.coversOnce some
        only := changesOnly_self known _
        kept := fun _ => rfl
        grown := fun uncovered => by rw [covered] at uncovered; cases uncovered }
  | @groupCreated _ _ _ p start stop nodes known uncovered interval =>
    have found : (t.addGroup database p (t.newGroup p start stop)).policy database policy =
        .ok { p with shardGroups := insertGroup (t.newGroup p start stop) p.shardGroups } := by
      change (t.updatePolicy database p.name _).policy database policy = _
      rw [updatePolicy_name known]
      exact policy_updatePolicy known
    have grid : p.OnGrid := reached.onGrid (lists_of_policy known)
    have grown := after.onGrid (lists_of_policy found)
    refine ⟨p, _, known, found, ?_⟩
    exact
      { once := grown.coversOnce (isSome_groupAt?_created interval)
        only := changesOnly_addGroup known _ _
        kept := fun covered => by rw [uncovered] at covered; cases covered
        grown := fun _ => ⟨_, grid.inserted _⟩ }

/-- A group for a time is accepted when there is a node, the policy is found, and both ends of the
interval are timestamps; the ends take no operation that runs over, nor does the rest while the
counters have room. The policy then holds the time once, and nothing else has changed. -/
theorem group_covers (reached : Reachable t) (database policy : String) (timestamp : Int64) :
    ((∃ t', t.apply (.createShardGroup database policy timestamp) = .ok t') ↔
      t.dataNodes ≠ [] ∧ ∃ p, t.policy database policy = .ok p ∧ p.HasInterval timestamp) ∧
    (∀ fault, t.apply (.createShardGroup database policy timestamp) = .error fault ↔
      t.GroupRefused database policy timestamp fault) ∧
    (∀ p : RetentionPolicy, intervalInWords? p.shardGroupDuration timestamp =
      some (RetentionPolicy.interval? p.span timestamp)) ∧
    (t.HasRoom → t.applyGroupInWords? database policy timestamp =
      some (t.apply (.createShardGroup database policy timestamp))) ∧
    ∀ t', t.apply (.createShardGroup database policy timestamp) = .ok t' →
      ∃ p p', t.policy database policy = .ok p ∧ t'.policy database policy = .ok p' ∧
        t.Covered t' database timestamp p p' :=
  ⟨reached.createsGroup_iff, fun _ => reached.groupRefused_iff,
    fun p => intervalInWords?_eq p timestamp,
    fun room => applyGroupInWords?_eq room database policy timestamp,
    fun _ applied => reached.exists_covered applied⟩

def covering : List Command :=
  [.createDataNode "a:8086" "a:8088",
    .createDatabase "db" (some { name := "rp", shardGroupDuration := some .hour }),
    .createShardGroup "db" "rp" 5]

def firstHourPolicy : RetentionPolicy :=
  ⟨"rp", .zero, .hour, 1, [⟨1, 0, 3600000000000, none, [⟨1, [⟨1⟩]⟩]⟩]⟩

def twoHourPolicy : RetentionPolicy :=
  ⟨"rp", .zero, .hour, 1, [⟨2, -3600000000000, 0, none, [⟨2, [⟨1⟩]⟩]⟩,
    ⟨1, 0, 3600000000000, none, [⟨1, [⟨1⟩]⟩]⟩]⟩

theorem group_covers_hours :
    ∃ t t', Reachable t ∧ t.HasRoom ∧ t.policy "db" "" = .ok firstHourPolicy ∧
      t.applyGroupInWords? "db" "" (-1) = some (.ok t') ∧
      t.Covered t' "db" (-1) firstHourPolicy twoHourPolicy ∧
      ∀ timestamp ∈ [Int64.minValue, Int64.maxValue],
        t.apply (.createShardGroup "db" "" timestamp) =
          .error (.refused (.noInterval timestamp 3600000000000)) := by
  have reached : Reachable (({} : Topology).applyAll covering) := Reachable.empty.applyAll covering
  have room : (({} : Topology).applyAll covering).HasRoom := hasRoom_of_few (by decide)
  have known : (({} : Topology).applyAll covering).policy "db" "" = .ok firstHourPolicy := by cbv
  have nodes : (({} : Topology).applyAll covering).dataNodes = [⟨1, "a:8086", "a:8088", false⟩] := by
    cbv
  have applied : (({} : Topology).applyAll covering).apply (.createShardGroup "db" "" (-1)) =
      .ok (({} : Topology).applyAll (covering ++ [.createShardGroup "db" "" (-1)])) := by
    cbv
  have left : (({} : Topology).applyAll (covering ++ [.createShardGroup "db" "" (-1)])).policy "db" "" =
      .ok twoHourPolicy := by
    cbv
  obtain ⟨-, -, -, words, made⟩ := group_covers reached "db" "" (-1)
  obtain ⟨p, p', before, after, covered⟩ := made _ applied
  rw [known] at before
  rw [left] at after
  cases before
  cases after
  refine ⟨_, _, reached, room, known, applied ▸ words room, covered, ?_⟩
  have first : ¬ firstHourPolicy.HasInterval Int64.minValue :=
    RetentionPolicy.interval?_eq_none_iff.mp (by cbv)
  have last : ¬ firstHourPolicy.HasInterval Int64.maxValue :=
    RetentionPolicy.interval?_eq_none_iff.mp (by cbv)
  have outside : ∀ timestamp ∈ [Int64.minValue, Int64.maxValue],
      ¬ firstHourPolicy.HasInterval timestamp :=
    List.forall_mem_cons.mpr ⟨first, List.forall_mem_singleton.mpr last⟩
  intro timestamp extreme
  obtain ⟨-, refused, -⟩ := group_covers reached "db" "" timestamp
  exact (refused _).mpr (.noInterval (by simp [nodes]) known (outside timestamp extreme))

end Topology

end SeriesCluster
