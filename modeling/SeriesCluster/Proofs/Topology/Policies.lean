import SeriesCluster.Proofs.Topology.Accepted
import SeriesCluster.Proofs.Topology.UpdateFirst

namespace SeriesCluster

inductive RetentionPolicy.Evolves (p : RetentionPolicy) : RetentionPolicy → Prop
  | grown {timestamp : Int64} (g : ShardGroup) (live : g.isDeleted = false)
    (uncovered : p.groupAt? timestamp = none)
    (interval : interval? p.span timestamp = some (g.startTime, g.endTime)) :
    Evolves p { p with
      shardGroups := (p.shardGroups ++ [g]).mergeSort fun a b => a.startTime ≤ b.startTime }
  | disowned (node : UInt64) :
    Evolves p { p with shardGroups := p.shardGroups.map (Topology.disown node) }
  | groupDeleted (id : UInt64) (deletedAt : Int64) :
    Evolves p { p with
      shardGroups := updateFirst (·.id == id) (fun g => { g with deletedAt := some deletedAt })
        p.shardGroups }
  | shardDropped (id : UInt64) :
    Evolves p { p with
      shardGroups := updateFirst (Topology.holds id) (fun g =>
        { g with shards := g.shards.filter (·.id != id) }) p.shardGroups }

theorem RetentionPolicy.name_ofSpec {spec : PolicySpec} {p : RetentionPolicy}
    (asked : ofSpec spec = .ok p) : p.name = spec.name := by
  unfold ofSpec at asked
  dsimp only at asked
  split at asked
  · cases asked
  · cases asked
    rfl

namespace Topology

variable {t t' : Topology}

def Lists (t : Topology) (p : RetentionPolicy) : Prop := ∃ d ∈ t.databases, p ∈ d.policies

theorem mem_of_database? {name : String} {d : Database} (known : t.database? name = some d) :
    d ∈ t.databases :=
  List.mem_of_find?_eq_some known

theorem lists_of_policy {database name : String} {p : RetentionPolicy}
    (found : t.policy database name = .ok p) : t.Lists p := by
  obtain ⟨d, known, named⟩ := exists_of_policy found
  exact ⟨d, mem_of_database? known, List.mem_of_find?_eq_some named⟩

theorem policy_of_database? {database name : String} {d : Database} {p : RetentionPolicy}
    (known : t.database? database = some d) (named : d.policy? name = some p) :
    t.policy database name = .ok p := by
  have here : t.getDatabase database = .ok d := by rw [getDatabase, known]
  unfold policy
  rw [here]
  simp only [bind, Except.bind, named]

theorem resolve_resolve (d : Database) (name : String) :
    d.resolve (d.resolve name) = d.resolve name := by
  by_cases unnamed : name.isEmpty
  · have default : d.resolve name = d.defaultPolicy := if_pos unnamed
    rw [default, Database.resolve]
    split <;> rfl
  · have own : d.resolve name = name := if_neg unnamed
    rw [own, own]

/-- The policy that a name stands for is found again by its own name, also by an empty one. -/
theorem policy_name {database name : String} {p : RetentionPolicy}
    (found : t.policy database name = .ok p) : t.policy database p.name = .ok p := by
  obtain ⟨d, known, named⟩ := exists_of_policy found
  have same : p.name = d.resolve name := by simpa using List.find?_some named
  refine policy_of_database? known ?_
  unfold Database.policy? at named ⊢
  rw [same, resolve_resolve]
  exact named

theorem mem_updateDatabase {name : String} {f : Database → Database} {d' : Database}
    (member : d' ∈ (t.updateDatabase name f).databases) :
    d' ∈ t.databases ∨ ∃ d, t.database? name = some d ∧ d' = f d :=
  mem_updateFirst member

theorem lists_updateDatabase {name : String} {f : Database → Database} {p : RetentionPolicy}
    (listed : (t.updateDatabase name f).Lists p) :
    t.Lists p ∨ ∃ d, t.database? name = some d ∧ p ∈ (f d).policies := by
  obtain ⟨d', member, listed⟩ := listed
  rcases mem_updateDatabase member with kept | ⟨d, known, rfl⟩
  · exact .inl ⟨d', kept, listed⟩
  · exact .inr ⟨d, known, listed⟩

theorem lists_updatePolicy {database name : String} {f : List ShardGroup → List ShardGroup}
    {p' : RetentionPolicy} (listed : (t.updatePolicy database name f).Lists p') :
    t.Lists p' ∨ ∃ p, t.policy database name = .ok p ∧
      p' = { p with shardGroups := f p.shardGroups } := by
  rcases lists_updateDatabase listed with kept | ⟨d, known, member⟩
  · exact .inl kept
  · rcases mem_updateFirst member with kept | ⟨p, found, rfl⟩
    · exact .inl ⟨d, mem_of_database? known, kept⟩
    · exact .inr ⟨p, policy_of_database? known found, rfl⟩

/-- Where a policy comes from: it is new, or it has been there, or it has changed its groups. -/
def Origin (t : Topology) (p' : RetentionPolicy) : Prop :=
  (∃ spec, RetentionPolicy.ofSpec spec = .ok p') ∨ ∃ p, t.Lists p ∧ (p' = p ∨ p.Evolves p')

theorem Origin.kept {p : RetentionPolicy} (listed : t.Lists p) : t.Origin p :=
  .inr ⟨p, listed, .inl rfl⟩

theorem Origin.evolved {p p' : RetentionPolicy} (listed : t.Lists p) (step : p.Evolves p') :
    t.Origin p' :=
  .inr ⟨p, listed, .inr step⟩

theorem origin_mapGroups {id : UInt64} {d' : Database} {p' : RetentionPolicy}
    (member : d' ∈ mapGroups (disown id) t.databases) (listed : p' ∈ d'.policies) :
    t.Origin p' := by
  obtain ⟨d, known, rfl⟩ := List.mem_map.mp member
  obtain ⟨p, held, rfl⟩ := List.mem_map.mp listed
  exact .evolved ⟨d, known, held⟩ (.disowned id)

theorem Accepted.origin {c : Command} (accepted : Accepted t c t') {p' : RetentionPolicy}
    (listed : t'.Lists p') : t.Origin p' := by
  induction accepted with
  | firstMetaNodeSet empty created ih => exact ih listed
  | metaNodeJoined | metaNodeCreated | metaNodeMoved | metaNodeDeleted | dataNodeJoined
  | dataNodeCreated | databaseKept | groupKept => exact .kept listed
  | dataNodeDeleted known =>
    obtain ⟨d', member, listed⟩ := listed
    exact origin_mapGroups member listed
  | databaseCreated named unknown asked =>
    obtain ⟨d, member, listed⟩ := listed
    rcases List.mem_append.mp member with kept | new
    · exact .kept ⟨d, kept, listed⟩
    · cases List.mem_singleton.mp new
      cases List.mem_singleton.mp listed
      exact .inl ⟨_, asked⟩
  | databaseDropped known =>
    obtain ⟨d, member, listed⟩ := listed
    exact .kept ⟨d, (List.mem_filter.mp member).1, listed⟩
  | policyKept named known existing fits =>
    rcases lists_updateDatabase listed with kept | ⟨d, known, member⟩
    · exact .kept kept
    · exact .kept ⟨d, mem_of_database? known, member⟩
  | policyCreated named known unknown asked =>
    rcases lists_updateDatabase listed with kept | ⟨d, known, member⟩
    · exact .kept kept
    · rcases List.mem_append.mp member with kept | new
      · exact .kept ⟨d, mem_of_database? known, kept⟩
      · cases List.mem_singleton.mp new
        exact .inl ⟨_, asked⟩
  | policyDropped known held =>
    rcases lists_updateDatabase listed with kept | ⟨d, known, member⟩
    · exact .kept kept
    · exact .kept ⟨d, mem_of_database? known, (List.mem_filter.mp member).1⟩
  | defaultPolicySet known held =>
    rcases lists_updateDatabase listed with kept | ⟨d, known, member⟩
    · exact .kept kept
    · exact .kept ⟨d, mem_of_database? known, member⟩
  | groupCreated nodes known uncovered interval =>
    obtain ⟨d', member, listed⟩ := listed
    dsimp only at member
    rcases lists_updatePolicy ⟨d', member, listed⟩ with kept | ⟨p, again, rfl⟩
    · exact .kept kept
    · -- The policy is looked up twice: by the name of the command, then by its own.
      rw [policy_name known] at again
      cases again
      exact .evolved (lists_of_policy known) (.grown _ rfl uncovered interval)
  | groupDeleted known held =>
    rcases lists_updatePolicy listed with kept | ⟨p, found, rfl⟩
    · exact .kept kept
    · exact .evolved (lists_of_policy found) (.groupDeleted _ _)
  | shardDropped =>
    obtain ⟨d', member, listed⟩ := listed
    rcases mem_updateFirst member with kept | ⟨d, found, rfl⟩
    · exact .kept ⟨d', kept, listed⟩
    · have known : d ∈ t.databases := List.mem_of_find?_eq_some found
      rcases mem_updateFirst listed with kept | ⟨p, held, rfl⟩
      · exact .kept ⟨d, known, kept⟩
      · exact .evolved ⟨d, known, List.mem_of_find?_eq_some held⟩ (.shardDropped _)

/-- What holds of new policies, and outlives every change of their groups, holds of all. -/
theorem Reachable.everyPolicy {P : RetentionPolicy → Prop}
    (new : ∀ {spec p}, RetentionPolicy.ofSpec spec = .ok p → P p)
    (evolves : ∀ {p p'}, P p → p.Evolves p' → P p') (reached : Reachable t) :
    ∀ p, t.Lists p → P p := by
  induction reached with
  | empty =>
    rintro p ⟨d, member, -⟩
    cases member
  | step prior applied ih =>
    intro p' listed
    obtain ⟨s, accepted, rfl⟩ := accepted_of_apply applied
    rcases accepted.origin listed with ⟨spec, asked⟩ | ⟨p, before, rfl | step⟩
    · exact new asked
    · exact ih p' before
    · exact evolves (ih p before) step

end Topology

end SeriesCluster
