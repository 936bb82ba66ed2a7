import SeriesCluster.Proofs.Except
import SeriesCluster.Proofs.Topology.Index
import SeriesCluster.Proofs.Topology.Policies
import SeriesCluster.Topology.InPlace

namespace SeriesCluster

variable {α : Type} {p : α → Bool} {f : α → α} {l : List α}

theorem filter_not_eq_self (none : l.any p = false) : l.filter (!p ·) = l :=
  List.filter_eq_self.mpr (by simpa using none)

theorem length_filter_not_ne (some : l.any p = true) : (l.filter (!p ·)).length ≠ l.length := by
  obtain ⟨a, member, gone⟩ := List.any_eq_true.mp some
  intro same
  have stays := List.length_filter_eq_length_iff.mp same a member
  simp [gone] at stays

namespace Topology.Edit

variable {β : Type} {t : Topology}

theorem on_bind (e : Edit α) (next : α → Edit β) :
    (e >>= next).on t = match e.on t with
      | (.ok a, t') => (next a).on t'
      | (.error fault, t') => (.error fault, t') := by
  unfold on
  rw [run_bind_run]
  rcases e.run.run t with ⟨fault | a, t'⟩ <;> rfl

theorem on_get : (get : Edit Topology).on t = (.ok t, t) := rfl

theorem on_modify (f : Topology → Topology) : (modify f : Edit Unit).on t = (.ok (), f t) := rfl

theorem on_ofExcept (x : Except Error α) : (MonadExcept.ofExcept x : Edit α).on t = (x, t) := by
  cases x <;> rfl

/-- What comes out of a change that is made as a whole or refused as a whole. -/
def wholly (t : Topology) : Except Error Topology → Except Error Unit × Topology
  | .ok t' => (.ok (), t')
  | .error fault => (.error fault, t)

theorem on_then_modify {e : Edit Unit} {result : Except Error Topology}
    (first : e.on t = wholly t result) (f : Topology → Topology) :
    (do e; modify f : Edit Unit).on t = wholly t (result.map f) := by
  rw [on_bind, first]
  cases result <;> rfl

theorem on_idOf (other : Option NodeInfo) :
    (idOf other).on t = (.ok (t.nodeIdFor other).1, (t.nodeIdFor other).2) := by
  cases other <;> rfl

theorem on_createMetaNode (host tcpHost : String) :
    (createMetaNode host tcpHost).on t = wholly t (t.createMetaNode host tcpHost) := by
  simp only [createMetaNode, Topology.createMetaNode, on_bind, on_get]
  split
  · rfl
  · simp only [on_bind, on_get, on_idOf, on_modify]
    rfl

theorem on_setMetaNode (host tcpHost : String) :
    (setMetaNode host tcpHost).on t = wholly t (t.setMetaNode host tcpHost) := by
  simp only [setMetaNode, Topology.setMetaNode, on_bind, on_get]
  rcases nodes : t.metaNodes with _ | ⟨n, _ | ⟨m, rest⟩⟩
  · exact on_createMetaNode host tcpHost
  · rfl
  · rfl

theorem on_createDataNode (host tcpHost : String) :
    (createDataNode host tcpHost).on t = wholly t (t.createDataNode host tcpHost) := by
  simp only [createDataNode, Topology.createDataNode, on_bind, on_get]
  split
  · rfl
  · simp only [on_bind, on_get, on_idOf, on_modify]
    rfl

theorem on_retain (list : Topology → List α) (put : List α → Topology → Topology)
    (list_put : ∀ l t, list (put l t) = l) (put_list : ∀ t, put (list t) t = t)
    (gone : α → Bool) (fault : Error) :
    (retain list put (!gone ·) fault).on t = wholly t
      (if (list t).any gone then .ok (put ((list t).filter (!gone ·)) t) else .error fault) := by
  simp only [retain, on_bind, on_get, on_modify, list_put]
  cases known : (list t).any gone with
  | true =>
    rw [if_neg (length_filter_not_ne known)]
    rfl
  | false =>
    rw [filter_not_eq_self known, if_pos rfl, put_list]
    rfl

theorem on_deleteMetaNode (id : UInt64) :
    (deleteMetaNode id).on t = wholly t (t.deleteMetaNode id) :=
  on_retain (·.metaNodes) (fun nodes t => { t with metaNodes := nodes }) (fun _ _ => rfl)
    (fun _ => rfl) (·.id == id) .nodeNotFound

theorem on_deleteDataNode (id : UInt64) :
    (deleteDataNode id).on t = wholly t (t.deleteDataNode id) := by
  have retained := on_retain (t := t) (·.dataNodes) (fun nodes t => { t with dataNodes := nodes })
    (fun _ _ => rfl) (fun _ => rfl) (·.id == id) .nodeNotFound
  refine (on_then_modify retained _).trans ?_
  rw [Topology.deleteDataNode]
  split <;> rfl

theorem on_dropDatabase (name : String) :
    (dropDatabase name).on t = wholly t (t.dropDatabase name) := by
  have retained := on_retain (t := t) (·.databases)
    (fun databases t => { t with databases := databases })
    (fun _ _ => rfl) (fun _ => rfl) (·.name == name) (.databaseNotFound name)
  simp only [Topology.dropDatabase, Topology.database?, List.isSome_find?]
  exact retained

theorem on_createDatabase (name : String) (policy : Option PolicySpec) :
    (createDatabase name policy).on t = wholly t (t.createDatabase name policy) := by
  unfold createDatabase Topology.createDatabase
  split
  · rfl
  · simp only [on_bind, on_get]
    split
    · rfl
    · simp only [on_bind, on_ofExcept]
      cases RetentionPolicy.ofSpec (policy.getD { name := defaultPolicyName }) <;> rfl

theorem getDatabase_of_database? {name : String} {d : Database}
    (known : t.database? name = some d) : t.getDatabase name = .ok d := by
  rw [getDatabase, known]

theorem getDatabase_of_unknown {name : String} (unknown : t.database? name = none) :
    t.getDatabase name = .error (.databaseNotFound name) := by
  rw [getDatabase, unknown]

variable {name : String} {d : Database}

theorem updateDatabase_congr {f g : Database → Database}
    (known : t.database? name = some d) (same : f d = g d) :
    t.updateDatabase name f = t.updateDatabase name g := by
  unfold updateDatabase
  rw [updateFirst_congr known same]

theorem updateDatabase_self {f : Database → Database} (known : t.database? name = some d)
    (same : f d = d) : t.updateDatabase name f = t := by
  unfold updateDatabase
  rw [updateFirst_self known same]

theorem name_of_database? (known : t.database? name = some d) : (d.name == name) = true :=
  List.find?_some (p := fun d : Database => d.name == name) known

theorem database?_updateDatabase {f : Database → Database} (known : t.database? name = some d)
    (kept : (f d).name = d.name) : (t.updateDatabase name f).database? name = some (f d) := by
  have same : ((f d).name == name) = true := kept ▸ name_of_database? known
  exact find?_updateFirst known same

theorem on_inDatabase (known : t.database? name = some d)
    (f : Database → Except Error Unit × Database) :
    (inDatabase name f).on t = ((f d).1, t.updateDatabase name fun d => (f d).2) := by
  simp only [inDatabase, on_bind, on_get, getDatabase_of_database? known, on_ofExcept, on_modify]
  rw [updateDatabase_congr (g := fun d => (f d).2) known rfl]

theorem on_inDatabase_unknown (unknown : t.database? name = none)
    (f : Database → Except Error Unit × Database) :
    (inDatabase name f).on t = (.error (.databaseNotFound name), t) := by
  simp only [inDatabase, on_bind, on_get, getDatabase_of_unknown unknown, on_ofExcept]

theorem on_inDatabase_after {f : Database → Database} (known : t.database? name = some d)
    (kept : (f d).name = d.name) (g : Database → Except Error Unit × Database) :
    (inDatabase name g).on (t.updateDatabase name f) =
      ((g (f d)).1, t.updateDatabase name fun d => (g (f d)).2) := by
  have same : ((f d).name == name) = true := kept ▸ name_of_database? known
  rw [on_inDatabase (database?_updateDatabase known kept)]
  congr 1
  unfold updateDatabase
  rw [updateFirst_updateFirst known same]
  rfl

theorem on_setDefaultPolicy (database name : String) :
    (setDefaultPolicy database name).on t = wholly t (t.setDefaultPolicy database name) := by
  unfold setDefaultPolicy Topology.setDefaultPolicy
  cases known : t.database? database with
  | none =>
    rw [on_inDatabase_unknown known, getDatabase_of_unknown known]
    rfl
  | some d =>
    rw [on_inDatabase known, getDatabase_of_database? known]
    simp only [bind, Except.bind]
    by_cases listed : d.policies.any (·.name == name)
    · rw [if_pos listed, if_pos listed]
      exact congrArg _ (updateDatabase_congr known (by rw [if_pos listed]))
    · rw [if_neg listed, if_neg listed]
      exact congrArg _ (updateDatabase_self known (by rw [if_neg listed]))

theorem on_dropPolicy (database name : String) :
    (dropPolicy database name).on t = wholly t (t.dropPolicy database name) := by
  unfold dropPolicy Topology.dropPolicy
  cases known : t.database? database with
  | none =>
    rw [on_bind, on_inDatabase_unknown known, getDatabase_of_unknown known]
    rfl
  | some d =>
    rw [on_bind, on_inDatabase known, getDatabase_of_database? known]
    simp only [bind, Except.bind]
    cases listed : d.policies.any (·.name == name) with
    | true =>
      have fewer : (d.policies.filter (·.name != name)).length ≠ d.policies.length :=
        length_filter_not_ne listed
      simp only [if_neg fewer, if_true]
      refine (on_inDatabase_after known rfl _).trans (congrArg _ (updateDatabase_congr known ?_))
      dsimp only
      split <;> rfl
    | false =>
      have same : d.policies.filter (·.name != name) = d.policies := filter_not_eq_self listed
      simp only [same, if_true, Bool.false_eq_true, if_false]
      exact congrArg _ (updateDatabase_self known (by rw [same]))

theorem on_makeDefault {f : Database → Database} (known : t.database? name = some d)
    (kept : (f d).name = d.name) (makeDefault : Bool) (policy : String) :
    (if makeDefault then inDatabase name fun d => (.ok (), { d with defaultPolicy := policy })
      else pure () : Edit Unit).on (t.updateDatabase name f) =
      (.ok (), t.updateDatabase name fun d => { f d with
        defaultPolicy := if makeDefault then policy else (f d).defaultPolicy }) := by
  cases makeDefault with
  | true => exact on_inDatabase_after known kept _
  | false => rfl

theorem on_createPolicy (database : String) (spec : PolicySpec) (makeDefault : Bool) :
    (createPolicy database spec makeDefault).on t =
      wholly t (t.createPolicy database spec makeDefault) := by
  unfold createPolicy Topology.createPolicy
  cases unnamed : spec.name.isEmpty with
  | true =>
    simp only [if_true]
    rfl
  | false =>
    simp only [Bool.false_eq_true, if_false, on_bind, on_ofExcept]
    cases RetentionPolicy.ofSpec spec with
    | error fault => rfl
    | ok p =>
      cases known : t.database? database with
      | none =>
        rw [getDatabase_of_unknown known]
        simp only [on_inDatabase_unknown known]
        rfl
      | some d =>
        rw [getDatabase_of_database? known]
        simp only [on_inDatabase known, bind, Except.bind]
        cases existing : d.policies.find? (·.name == spec.name) with
        | none =>
          refine (on_makeDefault known (by rw [existing]) makeDefault spec.name).trans ?_
          exact congrArg _ (updateDatabase_congr known (by rw [existing]; rfl))
        | some q =>
          cases fits : q.fits spec with
          | true =>
            simp only [Option.any_some, fits, if_true, Bool.not_true, Bool.false_eq_true, if_false]
            refine (on_makeDefault known (by rw [existing]) makeDefault spec.name).trans ?_
            exact congrArg _ (updateDatabase_congr known (by rw [existing]; rfl))
          | false =>
            simp only [Option.any_some, fits, if_true, Bool.not_false, Bool.false_eq_true, if_false]
            exact congrArg _ (updateDatabase_self known (by rw [existing]))

theorem updatePolicy_congr {database name : String} {p : RetentionPolicy}
    {f g : List ShardGroup → List ShardGroup} (found : t.policy database name = .ok p)
    (same : f p.shardGroups = g p.shardGroups) :
    t.updatePolicy database name f = t.updatePolicy database name g := by
  obtain ⟨d, known, named⟩ := exists_of_policy found
  refine updateDatabase_congr known ?_
  rw [updateFirst_congr (g := fun p => { p with shardGroups := g p.shardGroups }) named]
  rw [same]

theorem on_inPolicy {database name : String} {p : RetentionPolicy}
    (found : t.policy database name = .ok p)
    (f : List ShardGroup → Except Error (List ShardGroup)) :
    (inPolicy database name f).on t = wholly t
      ((f p.shardGroups).map fun groups => t.updatePolicy database name fun _ => groups) := by
  obtain ⟨d, known, named⟩ := exists_of_policy found
  simp only [inPolicy, on_bind, on_get, getDatabase_of_database? known, on_ofExcept, named]
  cases f p.shardGroups <;> rfl

theorem on_inPolicy_unknown {database name : String} {fault : Error}
    (missing : t.policy database name = .error fault)
    (f : List ShardGroup → Except Error (List ShardGroup)) :
    (inPolicy database name f).on t = (.error fault, t) := by
  unfold Topology.policy at missing
  simp only [inPolicy, on_bind, on_get, on_ofExcept]
  cases known : t.getDatabase database with
  | error cause =>
    rw [known] at missing
    cases missing
    rfl
  | ok d =>
    rw [known] at missing
    simp only [bind, Except.bind] at missing
    dsimp only
    cases named : d.policy? name with
    | none =>
      rw [named] at missing
      cases missing
      rfl
    | some p =>
      rw [named] at missing
      cases missing

theorem on_deleteShardGroup (database policy : String) (id : UInt64) (deletedAt : Int64) :
    (deleteShardGroup database policy id deletedAt).on t =
      wholly t (t.deleteShardGroup database policy id deletedAt) := by
  unfold deleteShardGroup Topology.deleteShardGroup
  cases found : t.policy database policy with
  | error fault => exact on_inPolicy_unknown found _
  | ok p =>
    rw [on_inPolicy found]
    simp only [bind, Except.bind]
    split
    · refine congrArg (fun t' => (Except.ok (), t')) ?_
      exact updatePolicy_congr found rfl
    · rfl

/-- Placing a group among those that were found is placing it among those that are there. -/
theorem updatePolicy_placed {database name : String} {p : RetentionPolicy}
    (found : t.policy database name = .ok p) (g : ShardGroup) :
    t.updatePolicy database p.name (fun _ =>
        (p.shardGroups ++ [g]).mergeSort fun a b => a.startTime ≤ b.startTime) =
      t.updatePolicy database p.name fun groups =>
        (groups ++ [g]).mergeSort fun a b => a.startTime ≤ b.startTime :=
  updatePolicy_congr (policy_name found) rfl

theorem on_createShardGroup (database policy : String) (timestamp : Int64) :
    (createShardGroup database policy timestamp).on t =
      wholly t (t.createShardGroup database policy timestamp) := by
  unfold createShardGroup Topology.createShardGroup
  simp only [on_bind, on_get]
  cases nodes : (t.dataNodes.map (·.id)).isEmpty with
  | true =>
    simp only [if_true]
    rfl
  | false =>
    simp only [Bool.false_eq_true, if_false, on_bind, on_ofExcept]
    cases found : t.policy database policy with
    | error fault => rfl
    | ok p =>
      have opened : ∀ f : RetentionPolicy → Except Error Topology, (Except.ok p >>= f) = f p :=
        fun _ => rfl
      rw [opened]
      dsimp only
      cases (p.groupAt? timestamp).isSome with
      | true => rfl
      | false =>
        simp only [Bool.false_eq_true, if_false]
        cases RetentionPolicy.interval? p.span timestamp with
        | none => rfl
        | some bounds =>
          simp only [on_bind, on_modify]
          -- The ids are counted by now, but the policy is found again by its own name.
          have again (groupId shardId : UInt64) :
              { t with maxShardGroupId := groupId, maxShardId := shardId }.policy database p.name =
                .ok p := policy_name found
          refine (on_inPolicy (again _ _) _).trans ?_
          exact congrArg (fun t' : Topology => (Except.ok (), { t' with
            maxShardGroupId := t.maxShardGroupId + 1
            maxShardId :=
              t.maxShardId + UInt64.ofNat (t.newGroup p bounds.1 bounds.2).shards.length }))
            (updatePolicy_placed found (t.newGroup p bounds.1 bounds.2))

/-- A change of one element that counts is the only one. -/
theorem untilFirst_eq {change : α → Bool × α}
    (change_eq : ∀ a, change a = (p a, if p a then f a else a)) (l : List α) :
    untilFirst change l = (l.any p, updateFirst p f l) := by
  induction l with
  | nil => rfl
  | cons a l ih =>
    rw [untilFirst, change_eq, updateFirst, List.any_cons]
    cases p a with
    | true => rfl
    | false => simp only [ih, Bool.false_or, Bool.false_eq_true, if_false]

theorem untilFirst_inside {change : α → Bool × α} (inside : β → List α) (put : List α → β → β)
    (put_inside : ∀ b, put (inside b) b = b)
    (change_eq : ∀ a, change a = (p a, if p a then f a else a)) (b : β) :
    ((untilFirst change (inside b)).1, put (untilFirst change (inside b)).2 b) =
      ((inside b).any p, if (inside b).any p then put (updateFirst p f (inside b)) b else b) := by
  rw [untilFirst_eq change_eq]
  cases known : (inside b).any p with
  | true => rfl
  | false => rw [updateFirst_of_any_eq_false known, put_inside]; rfl

theorem withoutShard_eq (id : UInt64) (g : ShardGroup) : withoutShard id g =
    (holds id g, if holds id g then { g with shards := g.shards.filter (·.id != id) } else g) := by
  unfold withoutShard
  cases known : holds id g with
  | true =>
    have fewer : (g.shards.filter (·.id != id)).length ≠ g.shards.length :=
      length_filter_not_ne known
    simp only [bne_iff_ne.mpr fewer, if_true]
  | false =>
    have same : g.shards.filter (·.id != id) = g.shards := filter_not_eq_self known
    simp only [same, bne_self_eq_false, Bool.false_eq_true, if_false]

theorem on_dropShard (id : UInt64) : (dropShard id).on t = wholly t (t.dropShard id) := by
  have inGroups := untilFirst_inside RetentionPolicy.shardGroups
    (fun groups p => { p with shardGroups := groups }) (fun _ => rfl) (withoutShard_eq id)
  have inPolicies := untilFirst_inside Database.policies
    (fun policies d => { d with policies := policies }) (fun _ => rfl) inGroups
  have inDatabases := untilFirst_eq inPolicies t.databases
  simp only [dropShard, on_bind, on_get, on_modify, inDatabases, Topology.dropShard]
  cases known : t.databases.any (·.policies.any (·.shardGroups.any (holds id))) with
  | true => rfl
  | false =>
    simp only [Bool.false_eq_true, if_false, updateFirst_of_any_eq_false known]
    rfl

theorem on_perform (t : Topology) (c : Command) : (perform c).on t = wholly t (t.perform c) := by
  cases c with
  | createMetaNode host tcpHost => exact on_createMetaNode host tcpHost
  | setMetaNode host tcpHost => exact on_setMetaNode host tcpHost
  | deleteMetaNode id => exact on_deleteMetaNode id
  | createDataNode host tcpHost => exact on_createDataNode host tcpHost
  | deleteDataNode id => exact on_deleteDataNode id
  | createDatabase name policy => exact on_createDatabase name policy
  | dropDatabase name => exact on_dropDatabase name
  | createPolicy database policy makeDefault => exact on_createPolicy database policy makeDefault
  | dropPolicy database name => exact on_dropPolicy database name
  | setDefaultPolicy database name => exact on_setDefaultPolicy database name
  | createShardGroup database policy timestamp =>
    exact on_createShardGroup database policy timestamp
  | deleteShardGroup database policy id deletedAt =>
    exact on_deleteShardGroup database policy id deletedAt
  | dropShard id => exact on_dropShard id

/-- A command in place comes out as the command does as a whole. -/
theorem on_command (t : Topology) (c : Command) : (command c).on t = wholly t (t.apply c) := by
  refine (on_then_modify (on_perform t c) _).trans ?_
  rw [apply]
  cases t.perform c <;> rfl

end Edit

/-- A refused command leaves a topology as it was, however far its steps have come; an accepted one
adds one to the index. -/
theorem command_atomic (t : Topology) (c : Command) (room : t.index.toNat + 1 < UInt64.size) :
    match (Edit.command c).on t with
    | (.error fault, t') => t.apply c = .error fault ∧ t' = t
    | (.ok _, t') => t.apply c = .ok t' ∧ t'.index.toNat = t.index.toNat + 1 := by
  rw [Edit.on_command]
  cases applied : t.apply c with
  | error fault => exact ⟨rfl, rfl⟩
  | ok t' =>
    refine ⟨rfl, ?_⟩
    rw [index_of_apply applied, UInt64.toNat_add]
    exact Nat.mod_eq_of_lt room

def unnamedPolicy : Topology where
  index := 4
  dataNodes := [⟨1, "a:8086", "a:8088", false⟩]
  databases := [⟨"db", "", [⟨"", .zero, .day, 1, []⟩]⟩]
  maxNodeId := 1

theorem command_atomic_unnamedPolicy :
    unnamedPolicy.index.toNat + 1 < UInt64.size ∧
      match (Edit.command (.createShardGroup "db" "" 0)).on unnamedPolicy with
      | (.error fault, t') =>
        unnamedPolicy.apply (.createShardGroup "db" "" 0) = .error fault ∧ t' = unnamedPolicy
      | (.ok _, t') => unnamedPolicy.apply (.createShardGroup "db" "" 0) = .ok t' ∧
        t'.index.toNat = unnamedPolicy.index.toNat + 1 :=
  ⟨by decide, command_atomic unnamedPolicy (.createShardGroup "db" "" 0) (by decide)⟩

end Topology

end SeriesCluster
