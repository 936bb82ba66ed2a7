import SeriesCluster.Proofs.Store.Plain

namespace SeriesCluster

open PointStream

/-- How many parts there are and how much is in them, as words. -/
def ReadStats.ofParts (parts : List (List Point)) : ReadStats :=
  ⟨.ofNat parts.length, .ofNat parts.flatten.length⟩

def ReadStats.Within (a b : ReadStats) : Prop :=
  a.seriesCount ≤ b.seriesCount ∧ a.pointCount ≤ b.pointCount

def ReadCost.expected (c : ReadCost) : ReadStats := ⟨c.numSeries, c.cachedValues⟩

/-- Some parts are no more than others, and there is no more in them. -/
structure NoMore (parts parts' : List (List Point)) : Prop where
  series : parts.length ≤ parts'.length
  points : parts.flatten.length ≤ parts'.flatten.length

def filled (parts : List (List Point)) : List (List Point) := parts.filter (!·.isEmpty)

namespace ReadStats

theorem ofParts_append (parts parts' : List (List Point)) :
    ofParts (parts ++ parts') = (ofParts parts).add (ofParts parts') := by
  simp only [ofParts, add, List.length_append, List.flatten_append, Int64.ofNat_add]

end ReadStats

theorem filled_cons (l : List Point) (parts : List (List Point)) :
    filled (l :: parts) = filled [l] ++ filled parts := by
  rw [filled, filled, filled, ← List.filter_append, List.singleton_append]

theorem filled_append (parts parts' : List (List Point)) :
    filled (parts ++ parts') = filled parts ++ filled parts' := List.filter_append ..

theorem length_filled_le (parts : List (List Point)) :
    (filled parts).length ≤ (filled parts).flatten.length := by
  induction parts with
  | nil => exact Nat.le_refl 0
  | cons l parts ih =>
    have first : (filled [l]).length ≤ (filled [l]).flatten.length := by
      cases l with
      | nil => exact Nat.le_refl 0
      | cons p l => simp [filled]
    rw [filled_cons, List.length_append, List.flatten_append, List.length_append]
    exact Nat.add_le_add first ih

theorem noMore_filled {parts parts' : List (List Point)}
    (each : List.Forall₂ (fun l l' => l.length ≤ l'.length) parts parts') :
    NoMore (filled parts) (filled parts') := by
  induction each with
  | nil => exact ⟨Nat.le_refl 0, Nat.le_refl 0⟩
  | @cons l l' parts parts' here later ih =>
    have first : NoMore (filled [l]) (filled [l']) := by
      cases l with
      | nil => exact ⟨Nat.zero_le _, Nat.zero_le _⟩
      | cons p l =>
        cases l' with
        | nil => simp at here
        | cons p' l' => exact ⟨Nat.le_refl 1, by simpa [filled] using here⟩
    rw [filled_cons, filled_cons l']
    constructor
    · rw [List.length_append, List.length_append]
      exact Nat.add_le_add first.series ih.series
    · rw [List.flatten_append, List.flatten_append, List.length_append, List.length_append]
      exact Nat.add_le_add first.points ih.points

theorem NoMore.within {parts parts' : List (List Point)} (noMore : NoMore parts (filled parts'))
    (room : (filled parts').flatten.length < 2 ^ 63) :
    (ReadStats.ofParts parts).Within (.ofParts (filled parts')) := by
  have series := noMore.series
  have points := noMore.points
  have most := length_filled_le parts'
  constructor
  · exact (Int64.ofNat_le_iff_le (by omega) (by omega)).mpr series
  · exact (Int64.ofNat_le_iff_le (by omega) (by omega)).mpr points

namespace ReadOptions

variable (opt : ReadOptions)

/-- The points of a series in the range by a scan of the series, which fails for a range in which no
time can lie. -/
def scan? (points : SeriesPoints) : Option (List Point) :=
  if opt.isInverted then none else some (opt.inRange points)

def arrange (found : List Point) : List Point :=
  let kept := (found.map opt.project).filter (!·.fields.isEmpty)
  let ordered := if opt.ascending then kept else kept.reverse
  if opt.limit = 0 then ordered else ordered.take opt.limit.toNat

def countByScan? (series : List SeriesPoints) : Option ReadStats :=
  series.foldlM (fun c points => do
    let n := (← opt.scan? points).length
    return if n = 0 then c else c.add ⟨1, Int64.ofNat n⟩) {}

variable {opt}

theorem scan?_eq (upright : ¬ opt.isInverted) : opt.scan? = fun points => pure (opt.inRange points) := by
  funext points
  rw [scan?, if_neg upright]
  rfl

theorem inRange_inverted (inverted : opt.isInverted) (points : SeriesPoints) :
    opt.inRange points = [] := by
  have after : opt.endTime < opt.startTime := of_decide_eq_true inverted
  have none : ∀ e ∈ points.toList, ¬ opt.timeRange.contains e.1 = true := by
    intro e _ within
    rw [TimeRange.contains, Bool.and_eq_true, decide_eq_true_eq, decide_eq_true_eq] at within
    exact Int64.not_lt.mpr (Int64.le_trans within.1 within.2) after
  rw [inRange, List.filter_eq_nil_iff.mpr none, List.map_nil]

theorem length_select_le (points : SeriesPoints) :
    (opt.select points).length ≤ (opt.inRange points).length := by
  have kept : (((opt.inRange points).map opt.project).filter (!·.fields.isEmpty)).length ≤
      (opt.inRange points).length := by
    have projected : ((opt.inRange points).map opt.project).length = (opt.inRange points).length :=
      List.length_map _
    rw [← projected]
    exact List.length_filter_le ..
  unfold select
  dsimp only
  split
  · split
    · exact kept
    · rwa [List.length_reverse]
  · rw [List.length_take]
    split
    · omega
    · rw [List.length_reverse]
      omega

theorem length_select_eq (all : opt.fields = []) (unlimited : opt.limit = 0) {points : SeriesPoints}
    (each : ∀ p ∈ opt.inRange points, p.fields ≠ ∅) :
    (opt.select points).length = (opt.inRange points).length := by
  have same : (opt.inRange points).map opt.project = opt.inRange points := by
    have id : opt.project = id := by
      funext p
      rw [project, all]
      rfl
    rw [id, List.map_id]
  have kept : (opt.inRange points).filter (!·.fields.isEmpty) = opt.inRange points := by
    apply List.filter_eq_self.mpr
    intro p member
    rw [Bool.not_eq_true', Bool.eq_false_iff, ne_eq, SortedMap.isEmpty_iff]
    exact each p member
  unfold select
  dsimp only
  rw [same, kept, if_pos unlimited]
  split
  · rfl
  · rw [List.length_reverse]

end ReadOptions

namespace ShardSelection

variable (g : ShardSelection) (name : String) (opt : ReadOptions)

/-- The points in the range of a read, series by series; series without any are left out. -/
def candidates : List (List Point) := filled ((g.series name).map opt.inRange)

def readByScan? (cancelled : Bool) : Option (Except Error PointStream) :=
  if cancelled then some (.error .cancelled)
  else if opt.isInverted then some (.ok .empty)
  else do
    let found ← (g.series name).mapM opt.scan?
    let parts := filled (found.map opt.arrange)
    let points := parts.flatten.mergeSort fun p q => pointOrder opt.ascending p q != .gt
    return .ok (.ofPoints points {
      seriesCount := Int64.ofNat parts.length
      pointCount := Int64.ofNat points.length })

def costByScan? : Option ReadCost :=
  if opt.isInverted then some {}
  else
    let holders := g.shards.filter fun s => s.measurements.contains name
    holders.foldlM (fun cost s => do
      let counts ← opt.countByScan? (s.seriesOf name)
      return cost.combine {
        numShards := 1
        numSeries := counts.seriesCount
        cachedValues := counts.pointCount }) {}

theorem readByScan?_eq (cancelled : Bool) :
    g.readByScan? name opt cancelled = some (g.read cancelled name opt) := by
  rw [readByScan?, read]
  split
  · rfl
  · split
    · rfl
    · rename_i upright
      rw [ReadOptions.scan?_eq upright, List.mapM_pure, pure_bind, List.map_map]
      rfl

theorem costByScan?_eq : g.costByScan? name opt = some (g.readCost name opt) := by
  rw [costByScan?, readCost]
  split
  · rfl
  · rename_i upright
    have counted (series : List SeriesPoints) :
        opt.countByScan? series = pure (countInRange opt series) := by
      rw [ReadOptions.countByScan?, ReadOptions.scan?_eq upright]
      simp only [pure_bind]
      exact List.foldlM_pure
    simp only [counted, pure_bind]
    exact List.foldlM_pure

theorem countInRange_eq (series : List SeriesPoints) :
    countInRange opt series = .ofParts (filled (series.map opt.inRange)) := by
  -- What is counted is added to what was counted before.
  have added (series : List SeriesPoints) (c : ReadStats) :
      series.foldl (fun c points =>
        let n := (opt.inRange points).length
        if n = 0 then c else c.add ⟨1, Int64.ofNat n⟩) c =
      c.add (.ofParts (filled (series.map opt.inRange))) := by
    induction series generalizing c with
    | nil => exact c.add_zero.symm
    | cons points series ih =>
      rw [List.foldl_cons, ih, List.map_cons, filled_cons, ReadStats.ofParts_append,
        ← ReadStats.add_assoc]
      congr 1
      cases opt.inRange points with
      | nil => exact c.add_zero.symm
      | cons p found => simp [filled, ReadStats.ofParts]
  rw [countInRange, added, ReadStats.zero_add]

theorem candidates_inverted (inverted : opt.isInverted) : g.candidates name opt = [] := by
  apply List.filter_eq_nil_iff.mpr
  intro found member
  obtain ⟨points, -, rfl⟩ := List.mem_map.mp member
  rw [ReadOptions.inRange_inverted inverted]
  decide

theorem flatMap_holders :
    (g.shards.filter fun s => s.measurements.contains name).flatMap (·.seriesOf name) =
      g.series name := by
  apply flatMap_filter_eq
  intro s _ absent
  rw [Shard.seriesOf, SortedMap.find?_eq_none]
  · rfl
  · intro known
    rw [(SortedMap.contains_iff _ name).mpr known] at absent
    cases absent

theorem expected_readCost :
    (g.readCost name opt).expected = .ofParts (g.candidates name opt) := by
  by_cases inverted : opt.isInverted
  · rw [candidates_inverted g name opt inverted, readCost, if_pos inverted]
    rfl
  · have added (holders : List Shard) (cost : ReadCost) :
        (holders.foldl (fun cost s =>
          let counts := countInRange opt (s.seriesOf name)
          cost.combine {
            numShards := 1
            numSeries := counts.seriesCount
            cachedValues := counts.pointCount }) cost).expected =
        cost.expected.add (.ofParts
          (filled ((holders.flatMap (·.seriesOf name)).map opt.inRange))) := by
      induction holders generalizing cost with
      | nil => exact cost.expected.add_zero.symm
      | cons s holders ih =>
        rw [List.foldl_cons, ih, List.flatMap_cons, List.map_append, filled_append,
          ReadStats.ofParts_append, ← ReadStats.add_assoc]
        congr 1
        rw [← countInRange_eq]
        rfl
    rw [readCost, if_neg inverted, added, flatMap_holders]
    exact ReadStats.zero_add _

theorem noMore_selected : NoMore (g.selected name opt) (g.candidates name opt) :=
  noMore_filled (List.forall₂_map_left_iff.mpr (List.forall₂_map_right_iff.mpr
    (List.forall₂_same.mpr fun points _ => ReadOptions.length_select_le points)))

theorem ofParts_selected_eq (all : opt.fields = []) (unlimited : opt.limit = 0)
    (each : ∀ points ∈ g.series name, ∀ p ∈ opt.inRange points, p.fields ≠ ∅) :
    ReadStats.ofParts (g.selected name opt) = .ofParts (g.candidates name opt) := by
  have back : NoMore (g.candidates name opt) (g.selected name opt) :=
    noMore_filled (List.forall₂_map_left_iff.mpr (List.forall₂_map_right_iff.mpr
      (List.forall₂_same.mpr fun points member =>
        Nat.le_of_eq (ReadOptions.length_select_eq all unlimited (each points member)).symm)))
  have forth := g.noMore_selected name opt
  rw [ReadStats.ofParts, ReadStats.ofParts, Nat.le_antisymm forth.series back.series,
    Nat.le_antisymm forth.points back.points]

theorem exists_read_counted : ∃ stream, g.read false name opt = .ok stream ∧
    stream.stats = .ofParts (g.selected name opt) ∧ (opt.isInverted → stream.stats = {}) := by
  by_cases inverted : opt.isInverted
  · have none : (g.selected name opt).length = 0 ∧ (g.selected name opt).flatten.length = 0 := by
      have bound := g.noMore_selected name opt
      rw [candidates_inverted g name opt inverted] at bound
      exact ⟨Nat.le_zero.mp bound.series, Nat.le_zero.mp bound.points⟩
    refine ⟨.empty, by rw [read, if_neg Bool.false_ne_true, if_pos inverted], ?_, fun _ => ?_⟩
    · rw [ReadStats.ofParts, none.1, none.2]
      simp only [empty, ofPoints, PointStream.stats]
      rfl
    · simp only [empty, ofPoints, PointStream.stats]
  · refine ⟨_, by rw [read, if_neg Bool.false_ne_true, if_neg inverted], ?_, fun h => absurd h inverted⟩
    simp only [ofPoints, PointStream.stats, List.length_mergeSort]
    rfl

/-- What a read counts is never above its estimate, and meets it if there is no projection and no limit
and every point in the range has a field. Both are kept in words, which compare as what they count
does as long as it fits a word. For a range in which no time can lie both are zero; no scan fails. -/
theorem cost_bounds_read : ∃ stream,
    g.read false name opt = .ok stream ∧
      g.readByScan? name opt false = some (.ok stream) ∧
      g.costByScan? name opt = some (g.readCost name opt) ∧
      (opt.isInverted → stream.stats = {} ∧ g.readCost name opt = {}) ∧
      stream.stats = .ofParts (g.selected name opt) ∧
      (g.readCost name opt).expected = .ofParts (g.candidates name opt) ∧
      NoMore (g.selected name opt) (g.candidates name opt) ∧
      ((g.candidates name opt).flatten.length < 2 ^ 63 →
        stream.stats.Within (g.readCost name opt).expected) ∧
      (opt.fields = [] → opt.limit = 0 →
        (∀ points ∈ g.series name, ∀ p ∈ opt.inRange points, p.fields ≠ ∅) →
        stream.stats = (g.readCost name opt).expected) := by
  obtain ⟨stream, opened, counted, none⟩ := g.exists_read_counted name opt
  have scanned := g.readByScan?_eq name opt false
  rw [opened] at scanned
  refine ⟨stream, opened, scanned, g.costByScan?_eq name opt, ?_, counted,
    g.expected_readCost name opt, g.noMore_selected name opt, ?_, ?_⟩
  · intro inverted
    exact ⟨none inverted, by rw [readCost, if_pos inverted]⟩
  · intro room
    rw [counted, expected_readCost]
    exact (g.noMore_selected name opt).within room
  · intro all unlimited each
    rw [counted, expected_readCost]
    exact g.ofParts_selected_eq name opt all unlimited each

theorem cost_bounds_read_sharedSeries :
    (∃ stream, ShardSelection.read ⟨sharedSeries, [1, 2]⟩ false "cpu" { startTime := 2, limit := 1 } =
        .ok stream ∧
      stream.stats = ⟨2, 2⟩ ∧
      (readCost ⟨sharedSeries, [1, 2]⟩ "cpu" { startTime := 2, limit := 1 }).expected = ⟨2, 3⟩ ∧
      stream.stats.Within
        (readCost ⟨sharedSeries, [1, 2]⟩ "cpu" { startTime := 2, limit := 1 }).expected) ∧
    (∃ stream, ShardSelection.read ⟨sharedSeries, [1, 2]⟩ false "cpu" {} = .ok stream ∧
      stream.stats = ⟨2, 4⟩ ∧
      stream.stats = (readCost ⟨sharedSeries, [1, 2]⟩ "cpu" {}).expected) ∧
    ∃ stream, ShardSelection.read ⟨sharedSeries, [1, 2]⟩ false "cpu" { startTime := 2, endTime := 1 } =
        .ok stream ∧
      costByScan? ⟨sharedSeries, [1, 2]⟩ "cpu" { startTime := 2, endTime := 1 } = some {} ∧
      stream.stats = {} := by
  refine ⟨?_, ?_, ?_⟩
  · obtain ⟨stream, opened, -, -, -, counted, expected, -, bound, -⟩ :=
      cost_bounds_read ⟨sharedSeries, [1, 2]⟩ "cpu" { startTime := 2, limit := 1 }
    refine ⟨stream, opened, counted.trans (by cbv), expected.trans (by cbv), bound ?_⟩
    have found : (candidates ⟨sharedSeries, [1, 2]⟩ "cpu" { startTime := 2, limit := 1 }).flatten =
        [cpuReport 3 11, cpuReport 2 20, cpuReport 3 21] := by cbv
    rw [found]
    decide
  · obtain ⟨stream, opened, -, -, -, counted, -, -, -, equal⟩ :=
      cost_bounds_read ⟨sharedSeries, [1, 2]⟩ "cpu" {}
    refine ⟨stream, opened, counted.trans (by cbv), equal rfl rfl ?_⟩
    have found : series ⟨sharedSeries, [1, 2]⟩ "cpu" =
        [.ofList [(1, cpuReport 1 10), (3, cpuReport 3 11)],
          .ofList [(2, cpuReport 2 20), (3, cpuReport 3 21)]] := by cbv
    rw [found]
    decide
  · obtain ⟨stream, opened, -, scanned, none, -⟩ :=
      cost_bounds_read ⟨sharedSeries, [1, 2]⟩ "cpu" { startTime := 2, endTime := 1 }
    obtain ⟨zero, free⟩ := none (by decide)
    exact ⟨stream, opened, scanned.trans (congrArg some free), zero⟩

end ShardSelection

end SeriesCluster
