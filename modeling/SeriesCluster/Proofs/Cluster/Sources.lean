import SeriesCluster.Proofs.Cluster.Resolution

namespace SeriesCluster

namespace QuerySource

mutual

def count : QuerySource → Nat
  | measurement _ => 1
  | subquery sources => 1 + countAll sources

def countAll : List QuerySource → Nat
  | [] => 0
  | s :: rest => s.count + countAll rest

end

theorem countAll_append (first second : List QuerySource) :
    countAll (first ++ second) = countAll first + countAll second := by
  induction first with
  | nil => simp [countAll]
  | cons s first ih =>
    rw [List.cons_append, countAll, countAll, ih]
    omega

theorem allMeasurements_append (first second : List QuerySource) :
    allMeasurements (first ++ second) = allMeasurements first ++ allMeasurements second := by
  induction first with
  | nil => rfl
  | cons s first ih => rw [List.cons_append, allMeasurements, allMeasurements, ih, List.append_assoc]

def pushAll (sources pending : List QuerySource) : List QuerySource :=
  sources.reverse.foldl (fun pending s => s :: pending) pending

theorem pushAll_eq (sources pending : List QuerySource) :
    pushAll sources pending = sources ++ pending := by
  simp [pushAll]

def distinctSources (sources : List QuerySource) : List Source :=
  ((allMeasurements sources).map (·.source)).eraseDups

end QuerySource

theorem nodup_eraseDups {α : Type} [DecidableEq α] (l : List α) : l.eraseDups.Nodup := by
  induction h : l.length using Nat.strong_induction_on generalizing l with
  | _ n ih =>
    cases l with
    | nil => simp
    | cons a l =>
      have shorter : (l.filter fun b => !b == a).length < n := by
        have le := List.length_filter_le (fun b => !b == a) l
        simp only [List.length_cons] at h
        omega
      rw [List.eraseDups_cons, List.nodup_cons]
      exact ⟨by simp [List.mem_eraseDups], ih _ shorter _ rfl⟩

namespace Mapper

/-- Maps the sources on a stack in so many turns, each of which takes the top one off. A query inside
it puts its own sources in its place. Nothing comes of it if the turns do not suffice. -/
def mapPending (m : Mapper) (lookup : GroupLookup) (picks : Picks) :
    Nat → List QuerySource → State → Option (Except Error Unit × State)
  | 0, _, _ => none
  | _ + 1, [], s => some (.ok (), s)
  | turns + 1, .measurement q :: pending, s =>
    match m.mapSource lookup picks q.source s with
    | (.error e, s) => some (.error e, s)
    | (.ok _, s) => mapPending m lookup picks turns pending s
  | turns + 1, .subquery inner :: pending, s =>
    mapPending m lookup picks turns (QuerySource.pushAll inner pending) s

theorem mapPending_eq (m : Mapper) (lookup : GroupLookup) (picks : Picks) {turns : Nat}
    {pending : List QuerySource} (enough : QuerySource.countAll pending < turns) (s : State) :
    m.mapPending lookup picks turns pending s =
      some (m.mapMeasurements lookup picks (QuerySource.allMeasurements pending) s) := by
  induction turns generalizing pending s with
  | zero => omega
  | succ turns ih =>
    cases pending with
    | nil => rfl
    | cons top pending =>
      rw [QuerySource.countAll] at enough
      cases top with
      | measurement q =>
        rw [QuerySource.count] at enough
        rw [mapPending, QuerySource.allMeasurements, QuerySource.measurements, List.singleton_append,
          mapMeasurements]
        cases m.mapSource lookup picks q.source s with
        | mk result s' =>
          cases result with
          | error e => rfl
          | ok _ => exact ih (by omega) s'
      | subquery inner =>
        rw [QuerySource.count] at enough
        have fewer : QuerySource.countAll (QuerySource.pushAll inner pending) < turns := by
          rw [QuerySource.pushAll_eq, QuerySource.countAll_append]
          omega
        rw [mapPending, ih fewer, QuerySource.pushAll_eq, QuerySource.allMeasurements_append]
        rfl

section Run

variable {m : Mapper} {lookup : GroupLookup} {picks : Picks}

theorem resolveAll_keeps {P : State → Prop}
    (keep : ∀ source s, P s → P (m.resolve lookup picks source s).2) (sources : List Source)
    {s : State} (holds : P s) : P (m.resolveAll lookup picks sources s).2 := by
  induction sources generalizing s with
  | nil => exact holds
  | cons source rest ih =>
    have kept := keep source s holds
    rw [resolveAll]
    cases result : m.resolve lookup picks source s with
    | mk outcome s' =>
      rw [result] at kept
      cases outcome with
      | error e => exact kept
      | ok _ => exact ih kept

def Mapped (m : Mapper) (lookup : GroupLookup) (picks : Picks) (s : State) : Prop :=
  ∀ source info, s.sources.find? source = some info →
    ∃ groups used, lookup source = .ok groups ∧ info = m.mappingOf picks groups used

theorem Mapped.resolve (source : Source) (s : State) (mapped : Mapped m lookup picks s) :
    Mapped m lookup picks (m.resolve lookup picks source s).2 := by
  have step := m.resolve_resolved lookup picks source s
  generalize m.resolve lookup picks source s = result at step ⊢
  cases step with
  | refused refusal => exact mapped
  | @mapped groups used found free =>
    intro k info known
    dsimp only at known
    rw [SortedMap.find?_insert] at known
    split at known
    · rename_i same
      cases known
      exact ⟨groups, s.used, same ▸ found, rfl⟩
    · exact mapped k info known

/-- All sources are resolved, or those before the first that is refused. -/
inductive Outcome (m : Mapper) (lookup : GroupLookup) (s : State) (sources : List Source) :
    Except Error Unit × State → Prop
  | all {made : State} (free : ∀ k ∈ sources, m.refusal? lookup s.engine k = none)
    (lookups : made.lookups = s.lookups ++ sources)
    (keys : ∀ k, made.sources.contains k = true ↔ s.sources.contains k = true ∨ k ∈ sources) :
    Outcome m lookup s sources (.ok (), made)
  | upTo {before after : List Source} {k : Source} {cause : Error} {made : State}
    (split : sources = before ++ k :: after)
    (free : ∀ j ∈ before, m.refusal? lookup s.engine j = none)
    (refusal : m.refusal? lookup s.engine k = some cause)
    (lookups : made.lookups = s.lookups ++ (before ++ [k])) :
    Outcome m lookup s sources (.error cause, made)

theorem resolveAll_outcome (m : Mapper) (lookup : GroupLookup) (picks : Picks)
    (sources : List Source) (s : State) :
    Outcome m lookup s sources (m.resolveAll lookup picks sources s) := by
  induction sources generalizing s with
  | nil => exact .all (by simp) (List.append_nil _).symm (by simp)
  | cons source rest ih =>
    have step := m.resolve_resolved lookup picks source s
    rw [resolveAll]
    generalize m.resolve lookup picks source s = result at step ⊢
    cases step with
    | refused refusal =>
      have split : source :: rest = [] ++ source :: rest := rfl
      exact .upTo split (by simp) refusal rfl
    | @mapped groups used found free =>
      -- What one source has asked for does not make another be refused.
      have same (k : Source) := m.refusal?_supply lookup s.engine source (m.missing groups s.engine) k
      have others := ih ⟨s.sources.insert source (m.mappingOf picks groups s.used),
        s.lookups ++ [source], s.engine.supply source (m.missing groups s.engine), used⟩
      dsimp only
      generalize m.resolveAll lookup picks rest _ = result at others ⊢
      cases others with
      | all freeRest lookups keys =>
        apply Outcome.all
        · intro k member
          rcases List.mem_cons.mp member with rfl | member
          · exact free
          · rw [← same]
            exact freeRest k member
        · rw [lookups, List.append_assoc, List.singleton_append]
        · intro k
          rw [keys, contains_insert, Bool.or_eq_true, beq_iff_eq, List.mem_cons]
          tauto
      | @upTo before after k cause made split freeBefore refusal lookups =>
        have longer : source :: rest = (source :: before) ++ k :: after := by
          rw [split, List.cons_append]
        apply Outcome.upTo longer
        · intro j member
          rcases List.mem_cons.mp member with rfl | member
          · exact free
          · rw [← same]
            exact freeBefore j member
        · rw [← same]
          exact refusal
        · rw [lookups, List.append_assoc, List.singleton_append, List.cons_append]

end Run

theorem mapMeasurements_start (m : Mapper) (lookup : GroupLookup) (picks : Picks)
    (sources : List QuerySource) (engine : ShardEngine) :
    m.mapMeasurements lookup picks (QuerySource.allMeasurements sources) { engine := engine } =
      m.resolveAll lookup picks (QuerySource.distinctSources sources) { engine := engine } := by
  have all : unmapped (QuerySource.allMeasurements sources) { engine := engine } =
      QuerySource.distinctSources sources :=
    congrArg List.eraseDups (List.filter_eq_self.mpr fun _ _ => rfl)
  rw [mapMeasurements_eq, all]

theorem mapShards_eq (m : Mapper) (lookup : GroupLookup) (picks : Picks) (sources : List QuerySource)
    (engine : ShardEngine) : m.mapShards lookup picks sources engine =
      match m.resolveAll lookup picks (QuerySource.distinctSources sources) { engine := engine } with
      | (result, made) =>
        (result.map fun _ => ⟨m.nodeId, m.minTime, m.maxTime, made.sources, false⟩, made) := by
  rw [mapShards, mapMeasurements_start]

theorem mapped_of_mapShards {m : Mapper} {lookup : GroupLookup} {picks : Picks}
    {sources : List QuerySource} {engine : ShardEngine} {mapping : ShardMapping} {made : State}
    (mapped : m.mapShards lookup picks sources engine = (.ok mapping, made)) :
    mapping = ⟨m.nodeId, m.minTime, m.maxTime, made.sources, false⟩ ∧
      Mapped m lookup picks made := by
  have kept : Mapped m lookup picks
      (m.resolveAll lookup picks (QuerySource.distinctSources sources) { engine := engine }).2 :=
    resolveAll_keeps Mapped.resolve _ nofun
  rw [mapShards_eq] at mapped
  generalize m.resolveAll lookup picks _ _ = run at kept mapped
  obtain ⟨cause | _, s⟩ := run
  · cases mapped
  · cases mapped
    exact ⟨rfl, kept⟩

/-- The sources of a query are looked up once each, where they first occur from left to right, and
each is mapped to what its lookup gave; the first that is refused ends it. The loop over a stack does
the same, in no more turns than there are sources. -/
theorem maps_first_occurrences (m : Mapper) (lookup : GroupLookup) (picks : Picks)
    (sources : List QuerySource) (engine : ShardEngine) :
    ∃ result made, m.mapShards lookup picks sources engine = (result, made) ∧
      m.mapPending lookup picks (QuerySource.countAll sources + 1)
        (QuerySource.pushAll sources []) { engine := engine } =
          some (result.map fun _ => (), made) ∧
      made.lookups.Nodup ∧
      ((∃ mapping, result = .ok mapping ∧ made.lookups = QuerySource.distinctSources sources ∧
          mapping.sources.keys.Perm (QuerySource.distinctSources sources) ∧
          ∀ k ∈ QuerySource.distinctSources sources, m.refusal? lookup engine k = none ∧
            ∃ groups used, lookup k = .ok groups ∧
              mapping.sources.find? k = some (m.mappingOf picks groups used)) ∨
        ∃ before k after cause, QuerySource.distinctSources sources = before ++ k :: after ∧
          (∀ j ∈ before, m.refusal? lookup engine j = none) ∧
          m.refusal? lookup engine k = some cause ∧ result = .error cause ∧
          made.lookups = before ++ [k]) := by
  have outcome := m.resolveAll_outcome lookup picks (QuerySource.distinctSources sources)
    { engine := engine }
  have kept : Mapped m lookup picks
      (m.resolveAll lookup picks (QuerySource.distinctSources sources) { engine := engine }).2 :=
    resolveAll_keeps Mapped.resolve _ nofun
  have enough : QuerySource.countAll (QuerySource.pushAll sources []) <
      QuerySource.countAll sources + 1 := by
    rw [QuerySource.pushAll_eq, List.append_nil]
    omega
  have distinct : (QuerySource.distinctSources sources).Nodup := nodup_eraseDups _
  rw [mapShards_eq, mapPending_eq m lookup picks enough, QuerySource.pushAll_eq, List.append_nil,
    mapMeasurements_start]
  generalize m.resolveAll lookup picks (QuerySource.distinctSources sources) _ = run
    at outcome kept ⊢
  cases outcome with
  | @all made free lookups keys =>
    refine ⟨_, made, rfl, rfl, ?_, .inl ⟨_, rfl, lookups, ?_, ?_⟩⟩
    · rw [lookups]
      exact distinct
    · apply (List.perm_ext_iff_of_nodup made.sources.nodup_keys distinct).mpr
      intro k
      rw [← SortedMap.contains_iff, keys]
      simp [SortedMap.contains]
    · intro k member
      have known : made.sources.contains k = true := (keys k).mpr (.inr member)
      obtain ⟨info, found⟩ := Option.isSome_iff_exists.mp known
      obtain ⟨groups, used, looked, same⟩ := kept k info found
      exact ⟨free k member, groups, used, looked, same ▸ found⟩
  | @upTo before after k cause made split free refusal lookups =>
    refine ⟨_, made, rfl, rfl, ?_, .inr ⟨before, k, after, cause, split, free, refusal, rfl, lookups⟩⟩
    have first : (before ++ [k]).Sublist (before ++ k :: after) :=
      (List.singleton_sublist.mpr List.mem_cons_self).append_left before
    rw [lookups]
    exact (split ▸ distinct).sublist first

def twoPolicies : Topology where
  index := 4
  dataNodes := [⟨1, "a:8086", "a:8088", false⟩]
  databases := [⟨"db", "rp", [
    ⟨"rp", .zero, .hour, 1, [⟨1, 0, 3600000000000, none, [⟨1, [⟨1⟩]⟩]⟩]⟩,
    ⟨"old", .zero, .week, 1, []⟩]⟩]
  maxNodeId := 1
  maxShardGroupId := 1
  maxShardId := 1

def inBoth : List QuerySource :=
  [.measurement { database := "db", retentionPolicy := "rp", name := "cpu" },
    .measurement { database := "db", retentionPolicy := "old", name := "cpu" }]

def mapBoth : Except Error ShardMapping × State :=
  mapShards { nodeId := 1, policy := .fail }
    (fun k => twoPolicies.groupsIn k.database k.retentionPolicy ⟨0, 9⟩) (fun _ => 0) inBoth
    { creationFault := some (.internal "disk full") }

/-- No lookup fails, and yet the second source is not looked up: the shard of the first one cannot be
created. -/
theorem stops_at_uncreatable :
    QuerySource.distinctSources inBoth = [⟨"db", "rp"⟩, ⟨"db", "old"⟩] ∧
      (∀ k ∈ QuerySource.distinctSources inBoth,
        (twoPolicies.groupsIn k.database k.retentionPolicy ⟨0, 9⟩).isOk) ∧
      mapBoth.1 = .error (.creatingShard 1 (.internal "disk full")) ∧
      mapBoth.2.lookups = [⟨"db", "rp"⟩] := by
  have keys : QuerySource.distinctSources inBoth = [⟨"db", "rp"⟩, ⟨"db", "old"⟩] := by
    decide
  refine ⟨keys, ?_, by cbv, by cbv⟩
  rw [keys]
  intro k member
  rcases List.mem_pair.mp member with rfl | rfl
  · cbv
  · cbv

end Mapper

end SeriesCluster
