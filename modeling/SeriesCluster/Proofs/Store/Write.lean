import Mathlib.Data.List.Induction
import SeriesCluster.Proofs.SortedMap
import SeriesCluster.Store.Engine

/-!
What writing some points leaves in a shard. A write goes through three maps, to the measurement, the
series and the time of each point; what it leaves at one place is made by the points for this place
alone (`find?_foldl_alterBy`). So writing the same points twice comes to writing them once
(`repeatable_store`), although points of one write may overwrite each other.
-/

namespace SeriesCluster

universe u v w

variable {κ : Type u} {α : Type v} {β : Type w}

/-- Taking the same steps once more changes nothing. -/
def Repeatable {σ : Type w} (step : σ → α → σ) : Prop :=
  ∀ (s : σ) (as : List α), as.foldl step (as.foldl step s) = as.foldl step s

/-- A step on a place that may be empty and is filled by it. -/
def filling (f : Option β → α → β) (old : Option β) (a : α) : Option β := some (f old a)

section Filling

variable {step : β → α → β}

theorem foldl_filling (step : β → α → β) (blank : β) (old : Option β) (a : α) (as : List α) :
    (a :: as).foldl (filling fun old a => step (old.getD blank) a) old =
      some ((a :: as).foldl step (old.getD blank)) := by
  rw [List.foldl_cons, List.foldl_cons, filling]
  generalize step (old.getD blank) a = next
  induction as generalizing next with
  | nil => rfl
  | cons b as ih => exact ih (step next b)

theorem getD_foldl_filling (step : β → α → β) (blank : β) (old : Option β) (as : List α) :
    (as.foldl (filling fun old a => step (old.getD blank) a) old).getD blank =
      as.foldl step (old.getD blank) := by
  cases as with
  | nil => rfl
  | cons a as => rw [foldl_filling, Option.getD_some]

theorem Repeatable.filling (repeatable : Repeatable step) (blank : β) :
    Repeatable (filling fun old a => step (old.getD blank) a) := by
  intro old as
  cases as with
  | nil => rfl
  | cons a as => rw [foldl_filling, foldl_filling, Option.getD_some, repeatable]

theorem foldl_filling_last (value : α → β) (old : Option β) (as : List α) :
    as.foldl (SeriesCluster.filling fun _ a => value a) old =
      (as.foldl (SeriesCluster.filling fun _ a => value a) none).or old := by
  induction as using List.reverseRecOn with
  | nil => rfl
  | append_singleton as a => rw [List.foldl_append, List.foldl_append]; rfl

end Filling

namespace SortedMap

variable [Ord κ] [Std.TransOrd κ]

def alterBy (key : α → κ) (f : Option β → α → β) (m : SortedMap κ β) (a : α) : SortedMap κ β :=
  m.alter (key a) (f · a)

variable [Std.LawfulEqOrd κ] [DecidableEq κ] {key : α → κ} {f : Option β → α → β}

theorem find?_foldl_alterBy (m : SortedMap κ β) (as : List α) (k : κ) :
    (as.foldl (alterBy key f) m).find? k =
      (as.filter (key · = k)).foldl (filling f) (m.find? k) := by
  induction as generalizing m with
  | nil => rfl
  | cons a as ih =>
    rw [List.foldl_cons, ih, alterBy, alter, find?_insert]
    by_cases here : key a = k
    · rw [if_pos here.symm, List.filter_cons_of_pos (by simpa using here), List.foldl_cons, here]
      rfl
    · rw [if_neg (Ne.symm here), List.filter_cons_of_neg (by simpa using here)]

theorem repeatable_alterBy (repeatable : Repeatable (filling f)) : Repeatable (alterBy key f) := by
  intro m as
  refine eq_of_find? fun k => ?_
  rw [find?_foldl_alterBy, find?_foldl_alterBy, repeatable]

theorem insert_insert (m : SortedMap κ β) (k : κ) (x y : β) :
    (m.insert k x).insert k y = m.insert k y := by
  refine eq_of_find? fun j => ?_
  rw [find?_insert, find?_insert, find?_insert]
  split
  · rfl
  · rfl

end SortedMap

namespace Shard

open SortedMap

def overwrite (fields : SortedMap String FieldValue) (p : Point) : SortedMap String FieldValue :=
  writeFields fields p.fields

/-- What a point leaves at its place. -/
def writeSlot (old : Option Point) (p : Point) : Point :=
  let slot := old.getD { p with fields := ∅ }
  { slot with fields := overwrite slot.fields p }

def writePoint : SeriesPoints → Point → SeriesPoints := alterBy (·.time) writeSlot

def writeSeries : MeasurementSeries → Point → MeasurementSeries :=
  alterBy (·.seriesKey) fun old p => writePoint (old.getD ∅) p

def writeMeasurement :
    SortedMap String MeasurementSeries → Point → SortedMap String MeasurementSeries :=
  alterBy (·.name) fun old p => writeSeries (old.getD ∅) p

theorem foldl_store (s : Shard) (points : List Point) :
    points.foldl store s = { s with measurements := points.foldl writeMeasurement s.measurements } := by
  induction points generalizing s with
  | nil => rfl
  | cons p points ih =>
    rw [List.foldl_cons, ih]
    rfl

theorem foldl_overwrite (fields : SortedMap String FieldValue) (points : List Point) :
    points.foldl overwrite fields =
      (points.flatMap (·.fields.toList)).foldl (alterBy (·.1) fun _ e => e.2) fields := by
  rw [List.foldl_flatMap]
  rfl

theorem repeatable_overwrite : Repeatable overwrite := by
  have last : Repeatable (filling fun (_ : Option FieldValue) (e : String × FieldValue) => e.2) := by
    intro old entries
    rw [foldl_filling_last, foldl_filling_last _ old, ← Option.or_assoc, Option.or_self]
  intro fields points
  rw [foldl_overwrite, foldl_overwrite]
  exact repeatable_alterBy last fields _

theorem foldl_writeSlot_some (slot : Point) (points : List Point) :
    points.foldl (filling writeSlot) (some slot) =
      some { slot with fields := points.foldl overwrite slot.fields } := by
  induction points generalizing slot with
  | nil => rfl
  | cons p points ih =>
    rw [List.foldl_cons, filling, ih]
    rfl

theorem foldl_writeSlot_none (p : Point) (points : List Point) :
    (p :: points).foldl (filling writeSlot) none =
      some { p with fields := (p :: points).foldl overwrite ∅ } :=
  foldl_writeSlot_some { p with fields := ∅ } (p :: points)

theorem repeatable_writeSlot : Repeatable (filling writeSlot) := by
  intro old points
  cases old with
  | some slot => rw [foldl_writeSlot_some, foldl_writeSlot_some, repeatable_overwrite]
  | none =>
    cases points with
    | nil => rfl
    | cons p points => rw [foldl_writeSlot_none, foldl_writeSlot_some, repeatable_overwrite]

theorem repeatable_writeMeasurement : Repeatable writeMeasurement :=
  have times : Repeatable writePoint := repeatable_alterBy repeatable_writeSlot
  have series : Repeatable writeSeries := repeatable_alterBy (times.filling ∅)
  repeatable_alterBy (series.filling ∅)

theorem repeatable_store : Repeatable store := by
  intro s points
  rw [foldl_store, foldl_store, repeatable_writeMeasurement]

end Shard

variable {id : UInt64} {points : List Point}

theorem ShardStore.exists_write_createShard (s : ShardStore) (owner : Source) (id : UInt64)
    (points : List Point) : ∃ t, (s.createShard owner id true).write id points = .ok t := by
  rw [write, createShard]
  simp only [SortedMap.find?_insert, if_true]
  exact ⟨_, rfl⟩

theorem ShardStore.write_again {s t : ShardStore} (written : s.write id points = .ok t) :
    t.write id points = .ok t := by
  rw [write] at written
  split at written
  · cases written
  · rename_i shard found
    split at written
    · rename_i enabled
      cases written
      have taken : (points.foldl Shard.store shard).enabled := by rwa [Shard.foldl_store]
      rw [write]
      simp only [SortedMap.find?_insert, if_true, taken, Shard.repeatable_store shard points,
        SortedMap.insert_insert]
    · cases written

namespace ShardEngine

theorem exists_write_createShard {e created : ShardEngine} {owner : Source}
    (creates : e.createShard owner id = .ok created) (points : List Point) :
    ∃ t, created.write id points = .ok t := by
  rw [createShard] at creates
  split at creates
  · cases creates
  · cases creates
    obtain ⟨t, written⟩ := e.store.exists_write_createShard owner id points
    rw [write, written]
    exact ⟨_, rfl⟩

theorem write_again {e t : ShardEngine} (written : e.write id points = .ok t) :
    t.write id points = .ok t := by
  rw [write] at written
  cases stored : e.store.write id points with
  | error cause =>
    rw [stored] at written
    cases written
  | ok store =>
    rw [stored] at written
    cases written
    rw [write, ShardStore.write_again stored]
    rfl

end ShardEngine

end SeriesCluster
