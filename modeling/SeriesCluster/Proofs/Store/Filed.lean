import SeriesCluster.Proofs.Store.Read
import SeriesCluster.Proofs.Store.Write

namespace SeriesCluster

inductive ShardStore.Reachable : ShardStore → Prop
  | empty : Reachable {}
  | createShard {s : ShardStore} (before : Reachable s) (owner : Source) (id : UInt64)
    (enabled : Bool) : Reachable (s.createShard owner id enabled)
  | write {s t : ShardStore} {id : UInt64} {points : List Point} (before : Reachable s)
    (written : s.write id points = .ok t) : Reachable t
  | dropShard {s : ShardStore} (before : Reachable s) (id : UInt64) : Reachable (s.dropShard id).2

def seriesNamed (shard : SortedMap String MeasurementSeries) (name : String) : MeasurementSeries :=
  (shard.find? name).getD ∅

def pointsNamed (shard : SortedMap String MeasurementSeries) (name : String) : List Point :=
  (seriesNamed shard name).values.flatMap (·.values)

def pointsKeyed (shard : SortedMap String MeasurementSeries) (name key : String) : SeriesPoints :=
  ((seriesNamed shard name).find? key).getD ∅

/-- Points stand under their own names, series keys and times. -/
def Filed (shard : SortedMap String MeasurementSeries) : Prop :=
  ∀ name key time p, (pointsKeyed shard name key).find? time = some p →
    p.name = name ∧ p.seriesKey = key ∧ p.time = time

open SortedMap Shard

section Operations

variable {shard : SortedMap String MeasurementSeries}

theorem find?_pointsKeyed_write (shard : SortedMap String MeasurementSeries) (q : Point)
    (name key : String) (time : Int64) :
    (pointsKeyed (writeMeasurement shard q) name key).find? time =
      if q.name = name ∧ q.seriesKey = key ∧ q.time = time then
        some (writeSlot ((pointsKeyed shard name key).find? time) q)
      else (pointsKeyed shard name key).find? time := by
  have measurement : seriesNamed (writeMeasurement shard q) name =
      if name = q.name then writeSeries (seriesNamed shard q.name) q
      else seriesNamed shard name := by
    rw [seriesNamed, writeMeasurement, alterBy, alter, find?_insert]
    split <;> rfl
  by_cases named : q.name = name
  · subst named
    have series : pointsKeyed (writeMeasurement shard q) q.name key =
        if key = q.seriesKey then writePoint (pointsKeyed shard q.name q.seriesKey) q
        else pointsKeyed shard q.name key := by
      rw [pointsKeyed, measurement, if_pos rfl, writeSeries, alterBy, alter, find?_insert]
      split <;> rfl
    by_cases keyed : q.seriesKey = key
    · subst keyed
      rw [series, if_pos rfl, writePoint, alterBy, alter, find?_insert]
      by_cases timed : q.time = time
      · subst timed
        simp
      · simp [timed, Ne.symm timed]
    · rw [series, if_neg (Ne.symm keyed), if_neg (by simp [keyed])]
  · rw [pointsKeyed, measurement, if_neg (Ne.symm named), if_neg (by simp [named]), pointsKeyed]

theorem Filed.empty : Filed ∅ := by
  intro name key time p found
  cases found

theorem Filed.write (filed : Filed shard) (q : Point) : Filed (writeMeasurement shard q) := by
  intro name key time p found
  rw [find?_pointsKeyed_write] at found
  split at found
  · rename_i place
    obtain ⟨rfl, rfl, rfl⟩ := place
    cases found
    cases there : (pointsKeyed shard q.name q.seriesKey).find? q.time with
    | none => exact ⟨rfl, rfl, rfl⟩
    | some slot => exact filed _ _ _ slot there
  · exact filed name key time p found

theorem Filed.writeAll (filed : Filed shard) (points : List Point) :
    Filed (points.foldl writeMeasurement shard) := by
  induction points generalizing shard with
  | nil => exact filed
  | cons q points ih => exact ih (filed.write q)

end Operations

namespace ShardStore

variable {s t : ShardStore} {id : UInt64} {points : List Point}

theorem contents_write (written : s.write id points = .ok t) (id' : UInt64) :
    t.contents id' =
      if id' = id then points.foldl writeMeasurement (s.contents id) else s.contents id' := by
  rw [write] at written
  split at written
  · cases written
  · rename_i shard there
    split at written
    · cases written
      rw [contents, contents, contents, find?_insert, there, foldl_store]
      split <;> rfl
    · cases written

theorem contents_dropShard (s : ShardStore) (id id' : UInt64) :
    (s.dropShard id).2.contents id' = if id' = id then ∅ else s.contents id' := by
  rw [contents, contents, dropShard, find?_erase]
  split <;> rfl

theorem Reachable.filed (reachable : s.Reachable) (id : UInt64) : Filed (s.contents id) := by
  induction reachable with
  | empty => exact .empty
  | createShard before owner id' enabled ih =>
    rw [contents_createShard]
    exact ih
  | @write s t id' points before written ih =>
    rw [contents_write written]
    split
    · rename_i same
      exact (same ▸ ih).writeAll points
    · exact ih
  | dropShard before id' ih =>
    rw [contents_dropShard]
    split
    · exact .empty
    · exact ih

end ShardStore

namespace ShardEngine

variable {e t : ShardEngine} {id : UInt64} {points : List Point}

theorem contents_write (written : e.write id points = .ok t) (id' : UInt64) :
    t.store.contents id' = if id' = id then points.foldl writeMeasurement (e.store.contents id')
      else e.store.contents id' := by
  rw [write] at written
  cases stored : e.store.write id points with
  | error cause =>
    rw [stored] at written
    cases written
  | ok store =>
    rw [stored] at written
    cases written
    change store.contents id' = _
    rw [ShardStore.contents_write stored]
    split
    · rename_i same
      rw [same]
    · rfl

theorem contents_createShard {owner : Source} (creates : e.createShard owner id = .ok t)
    (id' : UInt64) : t.store.contents id' = e.store.contents id' := by
  rw [createShard] at creates
  split at creates
  · cases creates
  · cases creates
    exact e.store.contents_createShard owner id id' true

theorem find?_of_shardNotFound {missing : UInt64}
    (refused : e.write id points = .error (.shardNotFound missing)) :
    e.store.shards.find? id = none := by
  rw [write, ShardStore.write] at refused
  split at refused
  · assumption
  · split at refused
    · cases refused
    · cases refused

end ShardEngine

section Keyed

variable {shard : SortedMap String MeasurementSeries} {name key : String}

theorem pointsKeyed_of_mem {e : String × SeriesPoints} (known : e ∈ (seriesNamed shard name).toList) :
    pointsKeyed shard name e.1 = e.2 := by
  rw [pointsKeyed, find?_eq_some_iff.mpr known, Option.getD_some]

namespace Filed

theorem seriesKey_eq (filed : Filed shard) {p : Point}
    (member : p ∈ (pointsKeyed shard name key).values) : p.seriesKey = key := by
  obtain ⟨⟨time, q⟩, listed, rfl⟩ := List.mem_map.mp member
  exact (filed _ _ _ q (find?_eq_some_iff.mpr listed)).2.1

theorem time_eq (filed : Filed shard) {e : Int64 × Point}
    (listed : e ∈ (pointsKeyed shard name key).toList) : e.2.time = e.1 :=
  (filed _ _ _ e.2 (find?_eq_some_iff.mpr listed)).2.2

theorem increasing (filed : Filed shard) (name key : String) :
    (pointsKeyed shard name key).values.Pairwise (·.time < ·.time) := by
  apply List.pairwise_map.mpr
  refine (pointsKeyed shard name key).increasing.imp_of_mem ?_
  intro a b here there less
  rw [filed.time_eq here, filed.time_eq there]
  exact Std.compare_eq_lt.mp less

end Filed

end Keyed

end SeriesCluster
