import SeriesCluster.Cluster.Query
import SeriesCluster.Proofs.Except
import SeriesCluster.Proofs.SortedMap
import SeriesCluster.Proofs.Stream.Collect

namespace SeriesCluster

open PointStream

def ShardStore.contents (s : ShardStore) (id : UInt64) : SortedMap String MeasurementSeries :=
  ((s.shards.find? id).map (·.measurements)).getD ∅

theorem ShardStore.contents_createShard (s : ShardStore) (owner : Source) (id id' : UInt64)
    (enabled : Bool) : (s.createShard owner id enabled).contents id' = s.contents id' := by
  rw [contents, contents, createShard, SortedMap.find?_insert]
  by_cases same : id' = id
  · rw [if_pos same, same]
    cases s.shards.find? id with
    | none => rfl
    | some shard => rfl
  · rw [if_neg same]

def namesAmong (pattern : Option Pattern) (name : String)
    (shard : SortedMap String MeasurementSeries) : List String :=
  match pattern with
  | some p => shard.keys.filter p.isMatch
  | none => [name]

namespace ReadOptions

/-- The points that a read of a measurement selects in a shard. -/
def pointsOf (opt : ReadOptions) (shard : SortedMap String MeasurementSeries) (name : String) :
    List Point :=
  if opt.isInverted then [] else ((shard.find? name).getD ∅).values.flatMap opt.select

def pointsIn (opt : ReadOptions) (pattern : Option Pattern) (name : String)
    (shard : SortedMap String MeasurementSeries) : List Point :=
  (namesAmong pattern name shard).flatMap (opt.pointsOf shard)

theorem pointsOf_absent {opt : ReadOptions} {shard : SortedMap String MeasurementSeries}
    {name : String} (absent : name ∉ shard.keys) : opt.pointsOf shard name = [] := by
  rw [pointsOf, SortedMap.find?_eq_none absent]
  exact ite_self []

end ReadOptions

section Lists

variable {α β γ : Type}

/-- A table's entries, row by row or column by column. -/
theorem flatMap_flatMap_perm (rows : List α) (columns : List β) (f : α → β → List γ) :
    (rows.flatMap fun a => columns.flatMap (f a)).Perm
      (columns.flatMap fun b => rows.flatMap fun a => f a b) := by
  induction rows with
  | nil => simp
  | cons a rows ih =>
    simp only [List.flatMap_cons]
    exact (ih.append_left _).trans (List.flatMap_append_perm columns (f a) _)

theorem flatMap_filter_eq {f : α → List β} {keep : α → Bool} {as : List α}
    (empty : ∀ a ∈ as, keep a = false → f a = []) : (as.filter keep).flatMap f = as.flatMap f := by
  induction as with
  | nil => rfl
  | cons a as ih =>
    have rest := ih fun b member => empty b (List.mem_cons_of_mem _ member)
    cases kept : keep a with
    | true => rw [List.filter_cons_of_pos kept, List.flatMap_cons, List.flatMap_cons, rest]
    | false =>
      rw [List.filter_cons_of_neg (by simp [kept]), List.flatMap_cons,
        empty a List.mem_cons_self kept, List.nil_append, rest]

end Lists

namespace ShardSelection

variable (g : ShardSelection) (opt : ReadOptions)

def names (pattern : Option Pattern) (name : String) : List String :=
  match pattern with
  | some p => g.measurementsMatching p
  | none => [name]

theorem seriesOf_shards (name : String) : g.series name =
    g.ids.flatMap fun id => ((g.store.contents id).find? name).getD ∅ |>.values := by
  rw [series, shards, List.filterMap_eq_flatMap_toList, List.flatMap_assoc]
  refine List.flatMap_congr fun id _ => ?_
  rw [ShardStore.contents]
  cases g.store.shards.find? id with
  | none => rfl
  | some shard => simp [Shard.seriesOf]

theorem flatten_selected (name : String) : (g.selected name opt).flatten =
    g.ids.flatMap fun id =>
      (((g.store.contents id).find? name).getD ∅).values.flatMap opt.select := by
  have empty : ∀ points ∈ (g.series name).map opt.select,
      (!points.isEmpty) = false → id points = [] := by simp
  have kept := flatMap_filter_eq empty
  rw [List.flatMap_id, List.flatMap_id] at kept
  rw [selected, kept, ← List.flatMap_def, seriesOf_shards, List.flatMap_assoc]

theorem read_delivers (name : String) : ∃ s, g.read false name opt = .ok s ∧
    Delivers opt.ascending s (g.ids.flatMap fun id => opt.pointsOf (g.store.contents id) name) := by
  by_cases inverted : opt.isInverted
  · have none : (g.ids.flatMap fun id => opt.pointsOf (g.store.contents id) name) = [] := by
      simp [ReadOptions.pointsOf, inverted]
    rw [none]
    exact ⟨.empty, by rw [read, if_neg Bool.false_ne_true, if_pos inverted],
      Delivers.ofPoints {} .nil⟩
  · have all : (g.ids.flatMap fun id => opt.pointsOf (g.store.contents id) name) =
        (g.selected name opt).flatten := by
      simp [ReadOptions.pointsOf, inverted, flatten_selected]
    rw [all]
    exact ⟨_, by rw [read, if_neg Bool.false_ne_true, if_neg inverted],
      (Delivers.ofPoints _ (pairwise_mergeSort _ _)).perm (List.mergeSort_perm _ _)⟩

theorem nodup_names (pattern : Option Pattern) (name : String) : (g.names pattern name).Nodup := by
  cases pattern with
  | none => exact List.pairwise_singleton _ name
  | some p => exact SortedMap.nodup_keys _

theorem mem_measurementsMatching (p : Pattern) (n : String) : n ∈ g.measurementsMatching p ↔
    p.isMatch n = true ∧ ∃ id ∈ g.ids, n ∈ (g.store.contents id).keys := by
  rw [measurementsMatching, SortedSet.mem_elements_ofList, List.mem_filter, List.mem_flatMap,
    and_comm]
  refine and_congr_right fun _ => ?_
  constructor
  · rintro ⟨shard, there, known⟩
    obtain ⟨id, member, found⟩ := List.mem_filterMap.mp there
    refine ⟨id, member, ?_⟩
    rwa [ShardStore.contents, found]
  · rintro ⟨id, member, known⟩
    cases found : g.store.shards.find? id with
    | none =>
      rw [ShardStore.contents, found] at known
      exact absurd known List.not_mem_nil
    | some shard =>
      rw [ShardStore.contents, found] at known
      exact ⟨shard, List.mem_filterMap.mpr ⟨id, member, found⟩, known⟩

theorem flatMap_names (pattern : Option Pattern) (name : String) {id : UInt64} (member : id ∈ g.ids) :
    ((g.names pattern name).flatMap (opt.pointsOf (g.store.contents id))).Perm
      (opt.pointsIn pattern name (g.store.contents id)) := by
  cases pattern with
  | none => exact .refl _
  | some p =>
    have absent : ∀ n ∈ g.measurementsMatching p, (g.store.contents id).contains n = false →
        opt.pointsOf (g.store.contents id) n = [] := fun n _ missing => by
      refine ReadOptions.pointsOf_absent fun known => ?_
      rw [(SortedMap.contains_iff _ n).mpr known] at missing
      cases missing
    rw [names, ← flatMap_filter_eq absent]
    refine List.Perm.flatMap_right _ ?_
    refine (List.perm_ext_iff_of_nodup ((g.nodup_names (some p) name).filter _)
      ((SortedMap.nodup_keys _).filter _)).mpr fun n => ?_
    rw [List.mem_filter, List.mem_filter, SortedMap.contains_iff, names, mem_measurementsMatching]
    constructor
    · rintro ⟨⟨accepted, -⟩, known⟩
      exact ⟨known, accepted⟩
    · rintro ⟨known, accepted⟩
      exact ⟨⟨accepted, id, member, known⟩, known⟩

theorem reads (pattern : Option Pattern) (name : String) : ∃ streams lists,
    (g.names pattern name).mapM (fun n => g.read false n opt) = .ok streams ∧
      List.Forall₂ (Delivers opt.ascending) streams lists ∧
      lists.flatten.Perm (g.ids.flatMap fun id => opt.pointsIn pattern name (g.store.contents id)) := by
  obtain ⟨streams, opened, deliver⟩ := exists_mapM_eq_ok fun n (_ : n ∈ g.names pattern name) =>
    g.read_delivers opt n
  refine ⟨streams, (g.names pattern name).map fun n =>
    g.ids.flatMap fun id => opt.pointsOf (g.store.contents id) n, opened, ?_, ?_⟩
  · exact List.forall₂_map_right_iff.mpr deliver
  · rw [← List.flatMap_def]
    refine (flatMap_flatMap_perm _ _ _).trans ?_
    exact List.Perm.flatMap_left _ fun id member => g.flatMap_names opt pattern name member

end ShardSelection

end SeriesCluster
