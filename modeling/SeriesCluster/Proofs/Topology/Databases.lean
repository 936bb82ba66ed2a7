import SeriesCluster.Proofs.Topology.Policies

namespace SeriesCluster

def Database.policyNames (d : Database) : List String := d.policies.map (·.name)

/-- One change of a database: of the groups of its policies, of its default, or of its policies. -/
inductive Database.Evolves (d : Database) : Database → Prop
  | regrouped {policies : List RetentionPolicy}
    (names : policies.map (·.name) = d.policies.map (·.name)) :
    Evolves d { d with policies := policies }
  | defaultChosen {name : String} (listed : name ∈ d.policyNames) :
    Evolves d { d with defaultPolicy := name }
  | policyAdded {p : RetentionPolicy} (named : p.name ≠ "") (unknown : p.name ∉ d.policyNames)
    (chosen : Bool) :
    Evolves d { d with
      policies := d.policies ++ [p]
      defaultPolicy := if chosen then p.name else d.defaultPolicy }
  | policyDropped (name : String) :
    Evolves d { d with
      policies := d.policies.filter (·.name != name)
      defaultPolicy := if d.defaultPolicy = name then "" else d.defaultPolicy }

namespace Topology

variable {t t' : Topology}

/-- Where a database comes from: the command creates it, or it has been there, or it has changed. -/
def DatabaseOrigin (t : Topology) (c : Command) (d' : Database) : Prop :=
  (∃ name policy p, c = .createDatabase name policy ∧ name ≠ "" ∧
    RetentionPolicy.ofSpec (policy.getD { name := defaultPolicyName }) = .ok p ∧
    d' = ⟨name, p.name, [p]⟩) ∨
  ∃ d ∈ t.databases, d' = d ∨ d.Evolves d'

theorem DatabaseOrigin.kept {c : Command} {d : Database} (known : d ∈ t.databases) :
    t.DatabaseOrigin c d :=
  .inr ⟨d, known, .inl rfl⟩

theorem databaseOrigin_updateDatabase {c : Command} {name : String} {f : Database → Database}
    {d d' : Database} (known : t.database? name = some d) (evolves : f d = d ∨ d.Evolves (f d))
    (member : d' ∈ (t.updateDatabase name f).databases) : t.DatabaseOrigin c d' := by
  rcases mem_updateDatabase member with kept | ⟨e, found, rfl⟩
  · exact .kept kept
  · rw [known] at found
    cases found
    exact .inr ⟨d, mem_of_database? known, evolves⟩

theorem databaseOrigin_updatePolicy {c : Command} {database name : String} {p : RetentionPolicy}
    {f : List ShardGroup → List ShardGroup} {d' : Database} (known : t.policy database name = .ok p)
    (member : d' ∈ (t.updatePolicy database name f).databases) : t.DatabaseOrigin c d' := by
  obtain ⟨d, found, -⟩ := exists_of_policy known
  refine databaseOrigin_updateDatabase found (.inr (.regrouped ?_)) member
  exact map_updateFirst fun _ => rfl

theorem name_mem_policyNames {d : Database} {p : RetentionPolicy} (listed : p ∈ d.policies) :
    p.name ∈ d.policyNames :=
  List.mem_map_of_mem listed

theorem Accepted.databaseOrigin {c : Command} {d' : Database} (accepted : Accepted t c t')
    (member : d' ∈ t'.databases) : t.DatabaseOrigin c d' := by
  cases accepted with
  | firstMetaNodeSet empty created =>
    cases created with
    | metaNodeJoined | metaNodeCreated => exact .kept member
  | metaNodeJoined | metaNodeCreated | metaNodeMoved | metaNodeDeleted | dataNodeJoined
  | dataNodeCreated | databaseKept | groupKept => exact .kept member
  | dataNodeDeleted known =>
    obtain ⟨d, listed, rfl⟩ := List.mem_map.mp member
    exact .inr ⟨d, listed, .inr (.regrouped (by simp [Function.comp_def]))⟩
  | databaseCreated named unknown asked =>
    rcases List.mem_append.mp member with kept | new
    · exact .kept kept
    · cases List.mem_singleton.mp new
      exact .inl ⟨_, _, _, rfl, named, asked, rfl⟩
  | databaseDropped known => exact .kept (List.mem_filter.mp member).1
  | @policyKept database spec makeDefault d q named known existing fits =>
    refine databaseOrigin_updateDatabase known ?_ member
    cases makeDefault with
    | false => exact .inl rfl
    | true =>
      have same : q.name = spec.name := by simpa using List.find?_some existing
      exact .inr (.defaultChosen (same ▸ name_mem_policyNames (List.mem_of_find?_eq_some existing)))
  | @policyCreated database spec makeDefault d p named known unknown asked =>
    refine databaseOrigin_updateDatabase known (.inr ?_) member
    have same := RetentionPolicy.name_ofSpec asked
    rw [← same] at named unknown ⊢
    refine .policyAdded named ?_ makeDefault
    simpa [Database.policyNames] using unknown
  | @policyDropped database name d known listed =>
    exact databaseOrigin_updateDatabase known (.inr (.policyDropped name)) member
  | @defaultPolicySet database name d known listed =>
    obtain ⟨p, listed, rfl⟩ := listed
    exact databaseOrigin_updateDatabase known (.inr (.defaultChosen (name_mem_policyNames listed)))
      member
  | @groupCreated database policy timestamp p start stop nodes known uncovered interval =>
    let grow (groups : List ShardGroup) :=
      (groups ++ [t.newGroup p start stop]).mergeSort fun a b => a.startTime ≤ b.startTime
    exact databaseOrigin_updatePolicy (f := grow) (policy_name known) member
  | groupDeleted known listed => exact databaseOrigin_updatePolicy known member
  | shardDropped =>
    rcases mem_updateFirst member with kept | ⟨d, found, rfl⟩
    · exact .kept kept
    · exact .inr ⟨d, List.mem_of_find?_eq_some found,
        .inr (.regrouped (map_updateFirst fun _ => rfl))⟩

/-- What holds of new databases, and outlives every change of them, holds of all. -/
theorem Reachable.everyDatabase {P : Database → Prop}
    (new : ∀ {name : String} {p : RetentionPolicy}, name ≠ "" → P ⟨name, p.name, [p]⟩)
    (evolves : ∀ {d d'}, P d → d.Evolves d' → P d') (reached : Reachable t) :
    ∀ d ∈ t.databases, P d := by
  induction reached with
  | empty => exact nofun
  | step prior applied ih =>
    intro d' member
    obtain ⟨s, accepted, rfl⟩ := accepted_of_apply applied
    rcases accepted.databaseOrigin member with ⟨name, policy, p, -, named, -, rfl⟩ | ⟨d, known, rfl | step⟩
    · exact new named
    · exact ih _ known
    · exact evolves (ih d known) step

end Topology

end SeriesCluster
