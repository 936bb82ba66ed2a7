import Mathlib.Data.List.Nodup
import Mathlib.Logic.Relation

namespace SeriesCluster

/-- The ids in use, and the last one that was given out. -/
structure IdPool where
  used : List UInt64
  last : UInt64

namespace IdPool

def next (a : IdPool) (n : Nat) : List UInt64 :=
  (List.range n).map fun j => a.last + 1 + UInt64.ofNat j

inductive Step (a : IdPool) : IdPool → Prop
  | returned {used : List UInt64} (fewer : used.Sublist a.used) : Step a ⟨used, a.last⟩
  | given {used : List UInt64} {n : Nat} (more : used.Perm (a.used ++ a.next n)) :
    Step a ⟨used, a.last + UInt64.ofNat n⟩

/-- Whether the counter has room for the ids that a step adds. -/
def Fits (a b : IdPool) : Prop := a.last.toNat + (b.used.length - a.used.length) < UInt64.size

structure Sound (a : IdPool) : Prop where
  nodup : a.used.Nodup
  le_last : ∀ id ∈ a.used, id ≤ a.last

variable {a b : IdPool} {n : Nat}

theorem length_next (a : IdPool) (n : Nat) : (a.next n).length = n := by simp [next]

theorem toNat_last_add (room : a.last.toNat + n < UInt64.size) :
    (a.last + UInt64.ofNat n).toNat = a.last.toNat + n := by
  have size : UInt64.size = 2 ^ 64 := rfl
  rw [UInt64.toNat_add, UInt64.toNat_ofNat_of_lt' (by omega), Nat.mod_eq_of_lt (by omega)]

theorem toNat_next (room : a.last.toNat + n < UInt64.size) {j : Nat} (within : j < n) :
    (a.last + 1 + UInt64.ofNat j).toNat = a.last.toNat + 1 + j := by
  have size : UInt64.size = 2 ^ 64 := rfl
  have one : (a.last + 1).toNat = a.last.toNat + 1 := by
    rw [UInt64.toNat_add, UInt64.toNat_one, Nat.mod_eq_of_lt (by omega)]
  rw [UInt64.toNat_add, UInt64.toNat_ofNat_of_lt' (by omega), one, Nat.mod_eq_of_lt (by omega)]

theorem mem_next (room : a.last.toNat + n < UInt64.size) {id : UInt64} (member : id ∈ a.next n) :
    a.last < id ∧ id ≤ a.last + UInt64.ofNat n := by
  obtain ⟨j, within, rfl⟩ := List.mem_map.mp member
  rw [List.mem_range] at within
  have value := toNat_next room within
  rw [UInt64.lt_iff_toNat_lt, UInt64.le_iff_toNat_le, toNat_last_add room]
  omega

theorem nodup_next (room : a.last.toNat + n < UInt64.size) : (a.next n).Nodup := by
  refine List.Nodup.map_on ?_ List.nodup_range
  intro i first j second same
  rw [List.mem_range] at first second
  have left := toNat_next room first
  have right := toNat_next room second
  rw [same] at left
  omega

theorem room_of_given {used : List UInt64} (more : used.Perm (a.used ++ a.next n))
    (fits : a.Fits ⟨used, a.last + UInt64.ofNat n⟩) : a.last.toNat + n < UInt64.size := by
  have length := more.length_eq
  rw [List.length_append, length_next] at length
  unfold Fits at fits
  dsimp only at fits
  omega

namespace Step

theorem last_le (step : a.Step b) (fits : a.Fits b) : a.last ≤ b.last := by
  cases step with
  | returned fewer => exact UInt64.le_refl _
  | given more =>
    rw [UInt64.le_iff_toNat_le, toNat_last_add (room_of_given more fits)]
    omega

theorem mem (step : a.Step b) (fits : a.Fits b) {id : UInt64} (member : id ∈ b.used) :
    id ∈ a.used ∨ a.last < id := by
  cases step with
  | returned fewer => exact .inl (fewer.subset member)
  | given more =>
    rcases List.mem_append.mp (more.mem_iff.mp member) with old | new
    · exact .inl old
    · exact .inr (mem_next (room_of_given more fits) new).1

theorem sound (step : a.Step b) (fits : a.Fits b) (sound : a.Sound) : b.Sound := by
  have le := step.last_le fits
  cases step with
  | returned fewer => exact ⟨sound.nodup.sublist fewer, fun id member =>
      sound.le_last id (fewer.subset member)⟩
  | given more =>
    have room := room_of_given more fits
    constructor
    · rw [more.nodup_iff, List.nodup_append]
      refine ⟨sound.nodup, nodup_next room, ?_⟩
      rintro old first new second rfl
      have below := UInt64.le_iff_toNat_le.mp (sound.le_last old first)
      have above := UInt64.lt_iff_toNat_lt.mp (mem_next room second).1
      omega
    · intro id member
      rcases List.mem_append.mp (more.mem_iff.mp member) with old | new
      · exact UInt64.le_trans (sound.le_last id old) le
      · exact (mem_next room new).2

end Step

def Leads : IdPool → IdPool → Prop := Relation.ReflTransGen fun a b => a.Step b ∧ a.Fits b

namespace Leads

theorem last_le (run : a.Leads b) : a.last ≤ b.last := by
  induction run with
  | refl => exact UInt64.le_refl _
  | tail prior step ih => exact UInt64.le_trans ih (step.1.last_le step.2)

theorem mem (run : a.Leads b) {id : UInt64} (member : id ∈ b.used) :
    id ∈ a.used ∨ a.last < id := by
  induction run with
  | refl => exact .inl member
  | tail prior step ih =>
    rcases step.1.mem step.2 member with before | new
    · exact ih before
    · have le := UInt64.le_iff_toNat_le.mp (last_le prior)
      have lt := UInt64.lt_iff_toNat_lt.mp new
      exact .inr (UInt64.lt_iff_toNat_lt.mpr (by omega))

theorem sound (run : a.Leads b) (sound : a.Sound) : b.Sound := by
  induction run with
  | refl => exact sound
  | tail prior step ih => exact step.1.sound step.2 ih

theorem not_mem {c : IdPool} (sound : a.Sound) (first : a.Leads b) (later : b.Leads c) {id : UInt64}
    (was : id ∈ a.used) (gone : id ∉ b.used) : id ∉ c.used := by
  intro again
  -- It could only come back above all that had been given out when it was gone.
  rcases later.mem again with kept | new
  · exact gone kept
  · have below := UInt64.le_iff_toNat_le.mp (sound.le_last id was)
    have order := UInt64.le_iff_toNat_le.mp first.last_le
    have above := UInt64.lt_iff_toNat_lt.mp new
    omega

end Leads

end IdPool

end SeriesCluster
