import Mathlib
import SeriesCluster.Proofs.Topology.WellFormed

namespace SeriesCluster

theorem find?_key_of_nodup {α κ : Type} [DecidableEq κ] {key : α → κ} {l : List α}
    (distinct : (l.map key).Nodup) {a : α} (member : a ∈ l) : l.find? (key · == key a) = some a := by
  cases found : l.find? (key · == key a) with
  | none =>
    have other := List.find?_eq_none.mp found a member
    simp at other
  | some b =>
    have same : key b = key a := by simpa using List.find?_some found
    rw [List.inj_on_of_nodup_map distinct (List.mem_of_find?_eq_some found) member same]

theorem Database.WellFormed.policy?_name_iff {d : Database} (formed : d.WellFormed)
    {p : RetentionPolicy} (listed : p ∈ d.policies) :
    d.policy? p.name = some p ↔ (p.name = "" → d.defaultPolicy = "") := by
  have found : d.policies.find? (·.name == p.name) = some p :=
    find?_key_of_nodup formed.policies_distinct listed
  by_cases unnamed : p.name = ""
  · have default : d.resolve p.name = d.defaultPolicy := by simp [Database.resolve, unnamed]
    rw [Database.policy?, default]
    constructor
    · intro first _
      have same : p.name = d.defaultPolicy := by simpa using List.find?_some first
      exact same ▸ unnamed
    · intro none
      rw [none unnamed, ← unnamed]
      exact found
  · have own : d.resolve p.name = p.name := by simp [Database.resolve, unnamed]
    rw [Database.policy?, own]
    exact iff_of_true found fun none => absurd none unnamed

theorem Database.Evolves.name_eq {d d' : Database} (step : d.Evolves d') : d'.name = d.name := by
  cases step <;> rfl

theorem Database.Evolves.unnamed {d d' : Database} (step : d.Evolves d')
    (unnamed : "" ∈ d'.policyNames) : "" ∈ d.policyNames := by
  cases step with
  | regrouped names =>
    rw [Database.policyNames, names] at unnamed
    exact unnamed
  | defaultChosen listed => exact unnamed
  | @policyAdded p named _ chosen =>
    obtain ⟨q, member, none⟩ := List.mem_map.mp unnamed
    rcases List.mem_append.mp member with kept | new
    · exact List.mem_map.mpr ⟨q, kept, none⟩
    · cases List.mem_singleton.mp new
      -- What is added to a database that is there has a name.
      exact absurd none named
  | policyDropped name => exact (List.filter_sublist.map _).subset unnamed

namespace Topology

variable {t t' : Topology}

theorem WellFormed.database?_name (formed : t.WellFormed) {d : Database} (known : d ∈ t.databases) :
    t.database? d.name = some d :=
  find?_key_of_nodup formed.databases_distinct known

theorem WellFormed.policy_iff (formed : t.WellFormed) {d : Database} (known : d ∈ t.databases)
    (name : String) (p : RetentionPolicy) :
    t.policy d.name name = .ok p ↔ d.policy? name = some p := by
  have here := formed.database?_name known
  constructor
  · intro found
    obtain ⟨e, known', named⟩ := exists_of_policy found
    rw [here] at known'
    cases known'
    exact named
  · exact policy_of_database? here

/-- Whether the policies without a name are those that some databases have been created with. -/
def UnnamedAsked (commands : List Command) (t : Topology) : Prop :=
  ∀ d ∈ t.databases, "" ∈ d.policyNames →
    ∃ spec, .createDatabase d.name (some spec) ∈ commands ∧ spec.name = ""

theorem unnamedAsked_applyAll (commands : List Command) :
    UnnamedAsked commands (({} : Topology).applyAll commands) := by
  refine along_applyAll (P := UnnamedAsked commands) nofun ?_ commands (List.prefix_refl commands)
  intro first c within before
  rw [applyAll_concat]
  cases applied : (({} : Topology).applyAll first).apply c with
  | error e => exact before
  | ok t' =>
    obtain ⟨s, accepted, rfl⟩ := accepted_of_apply applied
    intro d' member unnamed
    rcases accepted.databaseOrigin member with
      ⟨name, policy, p, rfl, -, asked, rfl⟩ | ⟨d, known, rfl | step⟩
    · have none : p.name = "" := (List.mem_singleton.mp unnamed).symm
      rw [RetentionPolicy.name_ofSpec asked] at none
      cases policy with
      | none => exact absurd none (by decide)
      | some spec => exact ⟨spec, within.subset (by simp), none⟩
    · exact before _ known unnamed
    · obtain ⟨spec, asked, none⟩ := before d known (step.unnamed unnamed)
      exact ⟨spec, step.name_eq ▸ asked, none⟩

/-- Whatever commands lead to: a policy of a database is found by its name, unless it has none and the
database has another default; and a policy without a name is one that a database of this name was
created with. -/
theorem addressed_iff (commands : List Command) :
    ∀ d ∈ (({} : Topology).applyAll commands).databases, ∀ p ∈ d.policies,
      ((({} : Topology).applyAll commands).policy d.name p.name = .ok p ↔
        (p.name = "" → d.defaultPolicy = "")) ∧
      (p.name = "" → ∃ spec, .createDatabase d.name (some spec) ∈ commands ∧ spec.name = "") := by
  intro d known p listed
  have formed := (Reachable.empty.applyAll commands).wellFormed
  constructor
  · rw [formed.policy_iff known]
    exact (formed.databases d known).policy?_name_iff listed
  · intro unnamed
    have named : "" ∈ d.policyNames := unnamed ▸ name_mem_policyNames listed
    exact unnamedAsked_applyAll commands d known named

def supplanting : List Command :=
  [.createDataNode "a:8086" "a:8088",
    .createDatabase "db" (some { name := "", shardGroupDuration := some .hour }),
    .createShardGroup "db" "" 5, .createPolicy "db" { name := "rp" } true]

def supplantedPolicy : RetentionPolicy :=
  ⟨"", .zero, .hour, 1, [⟨1, 0, 3600000000000, none, [⟨1, [⟨1⟩]⟩]⟩]⟩

def supplanted : Database := ⟨"db", "rp", [supplantedPolicy, ⟨"rp", .zero, .week, 1, []⟩]⟩

theorem databases_supplanting : (({} : Topology).applyAll supplanting).databases = [supplanted] := by
  cbv

theorem addressed_iff_supplanting :
    (({} : Topology).applyAll supplanting).databases = [supplanted] ∧
      (({} : Topology).applyAll supplanting).policy "db" "rp" = .ok ⟨"rp", .zero, .week, 1, []⟩ ∧
      (({} : Topology).applyAll supplanting).policy "db" "" ≠ .ok supplantedPolicy := by
  have known : supplanted ∈ (({} : Topology).applyAll supplanting).databases := by
    rw [databases_supplanting]
    exact List.mem_cons_self
  have addressed := addressed_iff supplanting supplanted known
  refine ⟨databases_supplanting, ?_, fun found => ?_⟩
  · exact (addressed ⟨"rp", .zero, .week, 1, []⟩ (by simp [supplanted])).1.mpr (by decide)
  · exact absurd ((addressed supplantedPolicy List.mem_cons_self).1.mp found rfl) (by decide)

/-- A policy with a shard that nobody can ask for: its name stands for another policy. -/
theorem unnamed_supplanted :
    ∃ t, Reachable t ∧ t.databases = [supplanted] ∧
      t.shardLocation? 1 = some ⟨"db", "", 1, ⟨1, [⟨1⟩]⟩⟩ ∧
      t.policy "db" "" = .ok ⟨"rp", .zero, .week, 1, []⟩ ∧
      ¬ ∀ d ∈ t.databases, ∀ p ∈ d.policies, t.policy d.name p.name = .ok p := by
  have found : (({} : Topology).applyAll supplanting).policy "db" "" =
      .ok ⟨"rp", .zero, .week, 1, []⟩ := by
    cbv
  refine ⟨_, Reachable.empty.applyAll supplanting, databases_supplanting, by cbv, found, ?_⟩
  intro addressed
  rw [databases_supplanting] at addressed
  have unnamed := addressed supplanted List.mem_cons_self supplantedPolicy List.mem_cons_self
  change (({} : Topology).applyAll supplanting).policy "db" "" = .ok supplantedPolicy at unnamed
  rw [found] at unnamed
  have names := congrArg (Except.map RetentionPolicy.name) unnamed
  exact absurd names (by decide)

end Topology

end SeriesCluster
