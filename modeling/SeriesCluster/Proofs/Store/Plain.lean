import Mathlib.Data.List.Nodup
import SeriesCluster.Proofs.Store.Filed
import SeriesCluster.Proofs.Stream.Stable

namespace SeriesCluster

open PointStream

def ShardStore.stored (s : ShardStore) (id : UInt64) (name : String) : List Point :=
  pointsNamed (s.contents id) name

namespace ReadOptions

/-- A point with those of its fields that are asked for. -/
def asked (opt : ReadOptions) (p : Point) : Point :=
  { p with fields := p.fields.filter fun f _ => opt.fields = [] ∨ f ∈ opt.fields }

/-- What a query gives of some points. -/
def plain (opt : ReadOptions) (points : List Point) : List Point :=
  ((points.filter fun p => opt.startTime ≤ p.time ∧ p.time ≤ opt.endTime).map opt.asked).filter
    (·.fields ≠ ∅)

end ReadOptions

def positioned (parts : List (List Point)) : List Tagged :=
  parts.zipIdx.flatMap fun e => e.1.map (e.2, ·)

def ShardSelection.plain (g : ShardSelection) (name : String) (opt : ReadOptions) : List Tagged :=
  positioned (g.ids.map fun id => opt.plain (g.store.stored id name))

/-- One point comes before another: by time in a direction, then by series key, then by position. -/
def ComesBefore (ascending : Bool) (a b : Tagged) : Prop :=
  (if ascending then a.2.time < b.2.time else b.2.time < a.2.time) ∨
    a.2.time = b.2.time ∧
      (a.2.seriesKey < b.2.seriesKey ∨ a.2.seriesKey = b.2.seriesKey ∧ a.1 < b.1)

namespace ReadOptions

variable (opt : ReadOptions) {shard : SortedMap String MeasurementSeries} {name key : String}

theorem project_eq (p : Point) : opt.project p = opt.asked p := by
  rw [project, asked]
  by_cases all : opt.fields = []
  · have kept : (p.fields.filter fun f _ => opt.fields = [] ∨ f ∈ opt.fields) = p.fields :=
      SortedMap.filter_eq_self (by simp [all])
    rw [if_pos (by simp [all]), kept]
  · rw [if_neg (by simpa using all)]
    simp [all]

theorem plain_flatMap {α : Type} (l : List α) (f : α → List Point) :
    opt.plain (l.flatMap f) = l.flatMap fun a => opt.plain (f a) := by
  simp only [plain, List.filter_flatMap, List.map_flatMap]

theorem places_plain_sublist (points : List Point) :
    ((opt.plain points).map Point.place).Sublist (points.map Point.place) := by
  have kept := List.filter_sublist (p := (·.fields ≠ ∅)) (l :=
    (points.filter fun p => opt.startTime ≤ p.time ∧ p.time ≤ opt.endTime).map opt.asked)
  have places := kept.map Point.place
  rw [List.map_map] at places
  exact places.trans (List.filter_sublist.map Point.place)

theorem plain_inverted (inverted : opt.isInverted) (points : List Point) : opt.plain points = [] := by
  have none : (points.filter fun p => opt.startTime ≤ p.time ∧ p.time ≤ opt.endTime) = [] := by
    apply List.filter_eq_nil_iff.mpr
    intro p _ inside
    simp only [decide_eq_true_eq] at inside
    have less : opt.endTime < opt.startTime := by simpa [isInverted] using inverted
    exact Int64.not_lt.mpr (Int64.le_trans inside.1 inside.2) less
  rw [plain, none]
  rfl

theorem select_eq (filed : Filed shard) :
    opt.select (pointsKeyed shard name key) =
      let found := opt.plain (pointsKeyed shard name key).values
      let ordered := if opt.ascending then found else found.reverse
      if opt.limit = 0 then ordered else ordered.take opt.limit.toNat := by
  have ranged : opt.inRange (pointsKeyed shard name key) =
      (pointsKeyed shard name key).values.filter fun p =>
        opt.startTime ≤ p.time ∧ p.time ≤ opt.endTime := by
    rw [inRange, SortedMap.values, List.filter_map]
    apply congrArg
    apply List.filter_congr
    intro e listed
    rw [Bool.eq_iff_iff, TimeRange.contains, Bool.and_eq_true, decide_eq_true_iff,
      decide_eq_true_iff, Function.comp, decide_eq_true_iff, filed.time_eq listed]
    rfl
  have nonempty : (fun p : Point => !p.fields.isEmpty) = fun p => decide (p.fields ≠ ∅) := by
    funext p
    simp [← SortedMap.isEmpty_iff]
  rw [select, ranged, nonempty, funext opt.project_eq]
  rfl

theorem select_perm_plain (filed : Filed shard) (unlimited : opt.limit = 0) :
    (opt.select (pointsKeyed shard name key)).Perm
      (opt.plain (pointsKeyed shard name key).values) := by
  rw [opt.select_eq filed]
  simp only [unlimited, if_true]
  split
  · exact .refl _
  · exact List.reverse_perm _

end ReadOptions

theorem Filed.nodup_places {shard : SortedMap String MeasurementSeries} (filed : Filed shard)
    (name : String) :
    ((pointsNamed shard name).map Point.place).Nodup := by
  rw [pointsNamed, SortedMap.values, List.flatMap_map, List.map_flatMap, List.nodup_flatMap]
  constructor
  · intro e known
    rw [← pointsKeyed_of_mem known]
    apply List.Nodup.of_map Prod.fst
    rw [List.map_map]
    apply List.pairwise_map.mpr
    refine (filed.increasing name e.1).imp ?_
    intro p q less same
    have same : p.time = q.time := same
    rw [same] at less
    exact Int64.lt_irrefl less
  · have keys := List.pairwise_map.mp (seriesNamed shard name).nodup_keys
    refine keys.imp_of_mem ?_
    intro e e' known known' other a here there
    obtain ⟨p, member, rfl⟩ := List.mem_map.mp here
    obtain ⟨q, member', same⟩ := List.mem_map.mp there
    rw [← pointsKeyed_of_mem known] at member
    rw [← pointsKeyed_of_mem known'] at member'
    have key : q.seriesKey = p.seriesKey := congrArg Prod.snd same
    rw [filed.seriesKey_eq member, filed.seriesKey_eq member'] at key
    exact other key.symm

section Shard

variable {s : ShardStore} {id : UInt64} {name : String} {opt : ReadOptions}

theorem pointsOf_perm_plain (filed : Filed (s.contents id)) (unlimited : opt.limit = 0) :
    (opt.pointsOf (s.contents id) name).Perm (opt.plain (s.stored id name)) := by
  rw [ReadOptions.pointsOf]
  split
  · rename_i inverted
    rw [opt.plain_inverted inverted]
  · rw [ShardStore.stored, pointsNamed, opt.plain_flatMap, ← seriesNamed, SortedMap.values, List.flatMap_map,
      List.flatMap_map]
    apply List.Perm.flatMap_left
    intro e known
    have series : pointsKeyed (s.contents id) name e.1 = e.2 := pointsKeyed_of_mem known
    rw [← series]
    exact opt.select_perm_plain filed unlimited

theorem nodup_places_plain (filed : Filed (s.contents id)) :
    ((opt.plain (s.stored id name)).map Point.place).Nodup :=
  (filed.nodup_places name).sublist (opt.places_plain_sublist _)

end Shard

section Positions

variable {parts parts' : List (List Point)}

theorem map_snd_positioned (parts : List (List Point)) :
    (positioned parts).map (·.2) = parts.flatten := by
  have points : (positioned parts).map (·.2) = (parts.zipIdx.map Prod.fst).flatten := by
    rw [positioned, List.map_flatMap, List.flatMap_def]
    simp [Function.comp_def]
  rw [points, List.zipIdx_map_fst]

theorem positioned_perm (same : List.Forall₂ List.Perm parts parts') :
    (positioned parts).Perm (positioned parts') := by
  have start (n : Nat) : ((parts.zipIdx n).flatMap fun e => e.1.map (e.2, ·)).Perm
      ((parts'.zipIdx n).flatMap fun e => e.1.map (e.2, ·)) := by
    induction same generalizing n with
    | nil => exact .refl _
    | cons here later ih =>
      rw [List.zipIdx_cons, List.zipIdx_cons, List.flatMap_cons, List.flatMap_cons]
      exact (here.map _).append (ih (n + 1))
  exact start 0

theorem pairwise_positioned (once : ∀ l ∈ parts, (l.map Point.place).Nodup) :
    (positioned parts).Pairwise fun a b => a.2.place = b.2.place → a.1 < b.1 := by
  have positions : parts.zipIdx.Pairwise fun e e' => e.2 < e'.2 := by
    apply List.pairwise_map.mp
    rw [List.zipIdx_map_snd]
    exact List.pairwise_lt_range' 1
  rw [positioned, List.pairwise_flatMap]
  constructor
  · rintro ⟨l, i⟩ listed
    have distinct := List.pairwise_map.mp (once l (List.fst_mem_of_mem_zipIdx listed))
    exact List.pairwise_map.mpr (distinct.imp fun other same => absurd same other)
  · refine positions.imp ?_
    intro e e' less a here b there _
    obtain ⟨p, -, rfl⟩ := List.mem_map.mp here
    obtain ⟨q, -, rfl⟩ := List.mem_map.mp there
    exact less

/-- Sorting leaves points at one place in the order of their positions. -/
theorem exists_sorted_positioned (ascending : Bool) (once : ∀ l ∈ parts, (l.map Point.place).Nodup) :
    ∃ out : List Tagged, out.map (·.2) = sortPoints ascending parts.flatten ∧
      out.Perm (positioned parts) ∧ out.Pairwise (ComesBefore ascending) := by
  -- Sorting with the positions moves points as sorting without them does.
  let le (a b : Tagged) : Bool := pointOrder ascending a.2 b.2 != .gt
  have trans (a b c : Tagged) (before : le a b) (after : le b c) : le a c :=
    inOrder_iff.mpr ((inOrder_iff.mp before).trans (inOrder_iff.mp after))
  have total (a b : Tagged) : le a b || le b a := by
    rw [Bool.or_eq_true]
    exact (inOrder_total ascending a.2 b.2).imp inOrder_iff.mpr inOrder_iff.mpr
  have stable (k : Int64 × String) : ((positioned parts).mergeSort le).filter (·.2.place = k) =
      (positioned parts).filter (·.2.place = k) := by
    apply filter_mergeSort trans total
    intro a b here here'
    simp only [decide_eq_true_eq] at here here'
    exact inOrder_iff.mpr (inOrder_of_place (here.trans here'.symm))
  refine ⟨(positioned parts).mergeSort le, ?_, List.mergeSort_perm _ _, ?_⟩
  · rw [List.map_mergeSort (s := fun p q => pointOrder ascending p q != .gt) fun _ _ _ _ => rfl,
      map_snd_positioned]
    rfl
  · have inOrder := List.pairwise_mergeSort trans total (positioned parts)
    rw [List.pairwise_iff_forall_sublist] at inOrder ⊢
    intro a b sub
    have tied (same : a.2.place = b.2.place) : a.1 < b.1 := by
      have both := sub.filter (·.2.place = b.2.place)
      rw [stable] at both
      simp only [same, List.filter_cons, decide_true, if_true, List.filter_nil] at both
      exact List.pairwise_iff_forall_sublist.mp (pairwise_positioned once)
        (both.trans List.filter_sublist) same
    rcases Ordering.isLE_iff_eq_lt_or_eq_eq.mp (inOrder_iff.mp (inOrder sub)) with less | same
    · rcases Ordering.then_eq_lt.mp less with time | ⟨time, series⟩
      · left
        cases ascending with
        | true => exact Std.compare_eq_lt.mp time
        | false => exact Std.compare_eq_lt.mp time
      · right
        have time : timeOrder ascending a.2.time b.2.time = .eq := time
        exact ⟨Std.LawfulEqCmp.eq_of_compare time, .inl (compareOfLessAndEq_eq_lt.mp series)⟩
    · right
      have place := pointOrder_eq_iff.mp same
      obtain ⟨time, series⟩ := Prod.mk.inj place
      exact ⟨time, .inr ⟨series, tied place⟩⟩

end Positions

theorem PointStream.toPoints_ofPoints (points : List Point) (stats : ReadStats) :
    (ofPoints points stats).toPoints = .ok points := by
  rw [(gives_ofPoints points stats).toPoints_eq]
  simp [ofPoints, close, Except.map]

namespace ShardSelection

theorem exists_read_eq (g : ShardSelection) (name : String) (opt : ReadOptions) :
    ∃ stats, g.read false name opt = .ok (.ofPoints (sortPoints opt.ascending
        (g.ids.flatMap fun id => opt.pointsOf (g.store.contents id) name)) stats) ∧
      stats.pointCount = .ofNat
        (g.ids.flatMap fun id => opt.pointsOf (g.store.contents id) name).length := by
  by_cases inverted : opt.isInverted
  · have none : (g.ids.flatMap fun id => opt.pointsOf (g.store.contents id) name) = [] := by
      simp [ReadOptions.pointsOf, inverted]
    refine ⟨{}, ?_, ?_⟩
    · rw [read, if_neg Bool.false_ne_true, if_pos inverted, none]
      simp [sortPoints, empty]
    · rw [none]
      rfl
  · have all : (g.ids.flatMap fun id => opt.pointsOf (g.store.contents id) name) =
        (g.selected name opt).flatten := by
      simp [ReadOptions.pointsOf, inverted, flatten_selected]
    rw [all, ← (sortPoints_perm opt.ascending _).length_eq]
    refine ⟨⟨.ofNat (g.selected name opt).length, _⟩, ?_, rfl⟩
    rw [read, if_neg Bool.false_ne_true, if_neg inverted]
    rfl

theorem read_eq_plain {s : ShardStore} (reachable : s.Reachable) (ids : List UInt64) (name : String)
    {opt : ReadOptions} (unlimited : opt.limit = 0) :
    ∃ (stream : PointStream) (out : List Tagged),
      ShardSelection.read ⟨s, ids⟩ false name opt = .ok stream ∧
        stream.toPoints = .ok (out.map (·.2)) ∧
        out.Perm (ShardSelection.plain ⟨s, ids⟩ name opt) ∧
        out.Pairwise (ComesBefore opt.ascending) ∧
        stream.stats.pointCount = .ofNat out.length := by
  obtain ⟨stats, opened, count⟩ := exists_read_eq ⟨s, ids⟩ name opt
  have same : List.Forall₂ List.Perm (ids.map fun id => opt.pointsOf (s.contents id) name)
      (ids.map fun id => opt.plain (s.stored id name)) := by
    apply List.forall₂_map_left_iff.mpr
    apply List.forall₂_map_right_iff.mpr
    apply List.forall₂_same.mpr
    intro id _
    exact pointsOf_perm_plain (reachable.filed id) unlimited
  have once : ∀ l ∈ ids.map fun id => opt.pointsOf (s.contents id) name,
      (l.map Point.place).Nodup := by
    intro l member
    obtain ⟨id, -, rfl⟩ := List.mem_map.mp member
    have filed := reachable.filed id
    exact ((pointsOf_perm_plain filed unlimited).map _).nodup_iff.mpr (nodup_places_plain filed)
  obtain ⟨out, points, permuted, ordered⟩ := exists_sorted_positioned opt.ascending once
  rw [← List.flatMap_def] at points
  refine ⟨_, out, opened, ?_, permuted.trans (positioned_perm same), ordered, ?_⟩
  · rw [toPoints_ofPoints, points]
  · have lengths := congrArg List.length points
    rw [List.length_map, (sortPoints_perm ..).length_eq] at lengths
    rw [lengths]
    exact count

def cpuReport (time x : Int64) : Point :=
  { name := "cpu", fields := .ofList [("x", .integer x)], time := time }

def cpuShard (points : List Point) : Shard where
  database := "db0"
  retentionPolicy := "rp0"
  enabled := true
  measurements := .ofList [("cpu", .ofList [("cpu", .ofList (points.map fun p => (p.time, p)))])]

def sharedSeries : ShardStore where
  shards := .ofList [(1, cpuShard [cpuReport 1 10, cpuReport 3 11]),
    (2, cpuShard [cpuReport 2 20, cpuReport 3 21])]

theorem reachable_sharedSeries : sharedSeries.Reachable := by
  let created := (({} : ShardStore).createShard ⟨"db0", "rp0"⟩ 1 true).createShard
    ⟨"db0", "rp0"⟩ 2 true
  let first : ShardStore := { created with
    shards := created.shards.insert 1 (cpuShard [cpuReport 1 10, cpuReport 3 11]) }
  have writesFirst : created.write 1 [cpuReport 1 10, cpuReport 3 11] = .ok first := by cbv
  have writesSecond : first.write 2 [cpuReport 2 20, cpuReport 3 21] = .ok sharedSeries := by cbv
  exact (((ShardStore.Reachable.empty.createShard _ 1 true).createShard _ 2 true).write
    writesFirst).write writesSecond

theorem read_eq_plain_sharedSeries : sharedSeries.Reachable ∧
    ({ startTime := 2, ascending := false } : ReadOptions).limit = 0 ∧
    ∃ (stream : PointStream) (out : List Tagged),
      ShardSelection.read ⟨sharedSeries, [2, 1]⟩ false "cpu"
          { startTime := 2, ascending := false } = .ok stream ∧
        stream.toPoints = .ok (out.map (·.2)) ∧
        out.Perm [(0, cpuReport 2 20), (0, cpuReport 3 21), (1, cpuReport 3 11)] ∧
        out.Pairwise (ComesBefore false) ∧ stream.stats.pointCount = 3 := by
  obtain ⟨stream, out, opened, drained, permuted, ordered, count⟩ :=
    read_eq_plain reachable_sharedSeries [2, 1] "cpu"
      (show ({ startTime := 2, ascending := false } : ReadOptions).limit = 0 from rfl)
  have found : ShardSelection.plain ⟨sharedSeries, [2, 1]⟩ "cpu"
      { startTime := 2, ascending := false } =
      [(0, cpuReport 2 20), (0, cpuReport 3 21), (1, cpuReport 3 11)] := by cbv
  rw [found] at permuted
  rw [permuted.length_eq] at count
  exact ⟨reachable_sharedSeries, rfl, stream, out, opened, drained, permuted, ordered, count⟩

end ShardSelection

end SeriesCluster
