import SeriesCluster.Proofs.Cluster.Pool

/-!
How many writes and connections a pool has at once. Main statement: `within_bound`. Every permit is
free or held by one write in progress. That alone does not bound the idle connections: it is only
when none is idle that a write begins to dial, and a connection becomes idle only when its write has
no other (`Bounded`).
-/

namespace SeriesCluster

namespace PooledWrite

def share (counted : WriteStage → Bool) (k : Nat) (w : PooledWrite) : Nat :=
  if w.pool = some k && counted w.stage then 1 else 0

variable {counted : WriteStage → Bool} {k : Nat} {w : PooledWrite}

theorem share_own (own : w.pool = some k) (stage : WriteStage) :
    ({ w with stage := stage } : PooledWrite).share counted k = (counted stage).toNat := by
  cases counts : counted stage <;> simp [share, own, counts]

theorem share_other {j : Nat} (own : w.pool = some j) (other : j ≠ k) : w.share counted k = 0 := by
  simp [share, own, other]

theorem share_uncounted (none : counted w.stage = false) : w.share counted k = 0 := by
  simp [share, none]

theorem share_atStage {stage : WriteStage} (same : counted stage = counted w.stage) :
    ({ w with stage := stage } : PooledWrite).share counted k = w.share counted k := by
  simp [share, same]

end PooledWrite

theorem WriteStage.isInProgress_of_isConnecting {stage : WriteStage} (connecting : stage.isConnecting) :
    stage.isInProgress := by
  cases stage <;> first | rfl | cases connecting

theorem WriteStage.isConnecting_of_onConnection {stage next : WriteStage}
    {f : PooledConnection → Option PooledConnection} (moved : stage.onConnection f = some next) :
    stage.isConnecting ∧ next.isConnecting := by
  cases stage with
  | started | located | waiting | admitted | dialing | leaving | ended => cases moved
  | ready | sent | returning =>
    obtain ⟨d, -, rfl⟩ := Option.map_eq_some_iff.mp moved
    exact ⟨rfl, rfl⟩

namespace PoolState

open WriteStage

variable {m n k : Nat} {s t : PoolState} {w v : PooledWrite} {p q : Pool}
variable {counted : WriteStage → Bool}

def holders (counted : WriteStage → Bool) (s : PoolState) (k : Nat) : Nat :=
  s.writes.countP fun w => w.pool = some k && counted w.stage

theorem inProgress_eq (s : PoolState) (k : Nat) : s.inProgress k = s.holders isInProgress k := rfl

theorem connections_eq (there : s.pools[k]? = some p) :
    s.connections k = p.idle.length + s.holders isConnecting k := by
  rw [connections, there]
  rfl

theorem holders_isConnecting_le (s : PoolState) (k : Nat) :
    s.holders isConnecting k ≤ s.holders isInProgress k := by
  refine List.countP_mono_left fun w _ counts => ?_
  simp only [Bool.and_eq_true] at counts ⊢
  exact ⟨counts.1, isInProgress_of_isConnecting counts.2⟩

theorem holders_setWrite (counted : WriteStage → Bool) (here : s.writes[n]? = some w)
    (v : PooledWrite) (k : Nat) :
    (s.setWrite n v).holders counted k + w.share counted k =
      s.holders counted k + v.share counted k := by
  obtain ⟨inside, at_n⟩ := List.getElem?_eq_some_iff.mp here
  have counts := List.countP_set (p := fun w : PooledWrite => w.pool = some k && counted w.stage)
    (a := v) inside
  -- The write that is replaced is one of those counted, so nothing is lost by the subtraction.
  have among : w.share counted k ≤ s.holders counted k := by
    rw [PooledWrite.share]
    split
    · rename_i counts
      have member : w ∈ s.writes := List.mem_of_getElem? here
      exact List.countP_pos_iff.mpr ⟨w, member, counts⟩
    · exact Nat.zero_le _
  rw [at_n] at counts
  change (s.setWrite n v).holders counted k =
    s.holders counted k - w.share counted k + v.share counted k at counts
  omega

theorem idle_of_takeIdle {idle rest : List PooledConnection}
    (none : takeIdle idle = (.none, rest)) : rest = [] := by
  induction idle with
  | nil =>
    cases none
    rfl
  | cons c idle ih =>
    rw [takeIdle] at none
    split at none
    · cases none
    · exact ih none

structure Fits (m : Nat) (s : PoolState) (k : Nat) (p : Pool) : Prop where
  permits : s.holders isInProgress k + p.free = bound m
  connections : p.idle.length + s.holders isConnecting k ≤ bound m

structure Bounded (m : Nat) (s : PoolState) : Prop where
  known : ∀ w ∈ s.writes, ∀ k, w.pool = some k → k < s.pools.length
  pools : ∀ k p, s.pools[k]? = some p → Fits m s k p

theorem Fits.of_holders (fits : Fits m s k p)
    (same : ∀ counted, t.holders counted k = s.holders counted k) : Fits m t k p where
  permits := by
    rw [same]
    exact fits.permits
  connections := by
    rw [same]
    exact fits.connections

theorem Fits.setWrite (fits : Fits m s k p) (here : s.writes[n]? = some w)
    (held : v.share isInProgress k = w.share isInProgress k)
    (connected : v.share isConnecting k ≤ w.share isConnecting k) : Fits m (s.setWrite n v) k p where
  permits := by
    have before := fits.permits
    have counts := holders_setWrite isInProgress here v k
    omega
  connections := by
    have before := fits.connections
    have counts := holders_setWrite isConnecting here v k
    omega

theorem Fits.move (fits : Fits m s k p) (here : s.writes[n]? = some w) (own : w.pool = some k)
    {stage : WriteStage}
    (permits : stage.isInProgress.toNat + q.free = w.stage.isInProgress.toNat + p.free)
    (connections : q.idle = [] ∨
      q.idle.length + stage.isConnecting.toNat ≤ p.idle.length + w.stage.isConnecting.toNat) :
    Fits m (s.atStage n w stage) k q := by
  have changed (counted : WriteStage → Bool) :
      (s.atStage n w stage).holders counted k + (counted w.stage).toNat =
        s.holders counted k + (counted stage).toNat := by
    rw [← PooledWrite.share_own own stage, ← PooledWrite.share_own own w.stage]
    exact holders_setWrite counted here { w with stage := stage } k
  have before := fits.permits
  have held := changed isInProgress
  have after : (s.atStage n w stage).holders isInProgress k + q.free = bound m := by omega
  refine ⟨after, ?_⟩
  rcases connections with none | fewer
  · have most := (s.atStage n w stage).holders_isConnecting_le k
    rw [none, List.length_nil]
    omega
  · have room := fits.connections
    have connected := changed isConnecting
    omega

namespace Bounded

theorem new (addresses : SortedMap UInt64 String) : Bounded m { addresses := addresses } :=
  ⟨nofun, fun k p there => by simp at there⟩

theorem of_pools (known : ∀ w ∈ s.writes, ∀ j, w.pool = some j → j < s.pools.length)
    (others : ∀ j p, j ≠ k → s.pools[j]? = some p → Fits m s j p) (own : Fits m s k q) :
    Bounded m (s.setPool k q) where
  known w member j placed := by
    rw [PoolState.setPool, List.length_set]
    exact known w member j placed
  pools j p there := by
    by_cases same : k = j
    · subst same
      obtain ⟨inside, -⟩ := List.getElem?_eq_some_iff.mp there
      rw [PoolState.setPool, List.length_set] at inside
      rw [PoolState.setPool, List.getElem?_set_self inside] at there
      cases there
      exact own.of_holders fun _ => rfl
    · rw [PoolState.setPool, List.getElem?_set_ne same] at there
      exact (others j p (Ne.symm same) there).of_holders fun _ => rfl

theorem setPool (bounded : Bounded m s) (there : s.pools[k]? = some p) (free : q.free = p.free)
    (idle : q.idle.length ≤ p.idle.length) : Bounded m (s.setPool k q) := by
  have fits := bounded.pools k p there
  refine of_pools bounded.known (fun j r _ found => bounded.pools j r found) ⟨?_, ?_⟩
  · rw [free]
    exact fits.permits
  · exact Nat.le_trans (Nat.add_le_add_right idle _) fits.connections

theorem setWrite (bounded : Bounded m s) (here : s.writes[n]? = some w)
    (known : ∀ k, v.pool = some k → k < s.pools.length)
    (held : ∀ k, v.share isInProgress k = w.share isInProgress k)
    (connected : ∀ k, v.share isConnecting k ≤ w.share isConnecting k) :
    Bounded m (s.setWrite n v) where
  known u member k own := by
    rcases List.mem_or_eq_of_mem_set member with member | rfl
    · exact bounded.known u member k own
    · exact known k own
  pools k p there := (bounded.pools k p there).setWrite here (held k) (connected k)

theorem atStage (bounded : Bounded m s) (here : s.writes[n]? = some w) {stage : WriteStage}
    (held : stage.isInProgress = w.stage.isInProgress)
    (connected : stage.isConnecting → w.stage.isConnecting) : Bounded m (s.atStage n w stage) := by
  have member : w ∈ s.writes := List.mem_of_getElem? here
  refine bounded.setWrite here (bounded.known w member) (fun k => PooledWrite.share_atStage held) ?_
  intro k
  cases connecting : stage.isConnecting with
  | false =>
    rw [PooledWrite.share_uncounted connecting]
    exact Nat.zero_le _
  | true =>
    have before := connected connecting
    exact Nat.le_of_eq (PooledWrite.share_atStage (connecting.trans before.symm))

theorem move (bounded : Bounded m s) (here : s.writes[n]? = some w)
    (pool : s.poolOf? w = some (k, p)) {stage : WriteStage}
    (permits : stage.isInProgress.toNat + q.free = w.stage.isInProgress.toNat + p.free)
    (connections : q.idle = [] ∨
      q.idle.length + stage.isConnecting.toNat ≤ p.idle.length + w.stage.isConnecting.toNat) :
    Bounded m ((s.atStage n w stage).setPool k q) := by
  obtain ⟨own, there⟩ := exists_of_poolOf? pool
  have member : w ∈ s.writes := List.mem_of_getElem? here
  refine of_pools ?_ ?_ ((bounded.pools k p there).move here own permits connections)
  · intro u among j placed
    rcases List.mem_or_eq_of_mem_set among with among | rfl
    · exact bounded.known u among j placed
    · exact bounded.known w member j placed
  · intro j r other found
    have owned : ({ w with stage := stage } : PooledWrite).pool = some k := own
    refine (bounded.pools j r found).setWrite here ?_ ?_
    · rw [PooledWrite.share_other own other.symm, PooledWrite.share_other owned other.symm]
    · rw [PooledWrite.share_other owned other.symm]
      exact Nat.zero_le _

theorem poolFor (bounded : Bounded m s) {owner : UInt64} {addr : String}
    (pool : s.poolFor m owner addr = (k, t)) :
    Bounded m t ∧ k < t.pools.length ∧ t.writes = s.writes := by
  have fresh : Bounded m { s with
      pools := s.pools ++ [{ addr := addr, free := bound m }]
      current := s.current.insert owner s.pools.length } := by
    refine ⟨fun w member j placed => ?_, fun j p there => ?_⟩
    · have inside := bounded.known w member j placed
      rw [List.length_append]
      omega
    · rcases Nat.lt_or_ge j s.pools.length with before | last
      · rw [List.getElem?_append_left before] at there
        exact (bounded.pools j p there).of_holders fun _ => rfl
      · -- No write is in a pool that has just been made.
        have none (counted : WriteStage → Bool) : s.holders counted j = 0 := by
          refine List.countP_eq_zero.mpr fun w member counts => ?_
          have placed : w.pool = some j := by simpa using (Bool.and_eq_true_iff.mp counts).1
          have inside := bounded.known w member j placed
          omega
        rw [List.getElem?_append_right last] at there
        obtain rfl := List.mem_singleton.mp (List.mem_of_getElem? there)
        refine ⟨?_, ?_⟩
        · change s.holders isInProgress j + bound m = bound m
          rw [none, Nat.zero_add]
        · change 0 + s.holders isConnecting j ≤ bound m
          rw [none]
          exact Nat.zero_le _
  unfold PoolState.poolFor at pool
  split at pool
  · cases pool
    exact ⟨fresh, by simp, rfl⟩
  · split at pool
    · rename_i k p found
      split at pool
      · cases pool
        exact ⟨bounded, (List.getElem?_eq_some_iff.mp found).1, rfl⟩
      · cases pool
        exact ⟨fresh, by simp, rfl⟩
    · cases pool
      exact ⟨fresh, by simp, rfl⟩

theorem moves (bounded : Bounded m s) (here : s.writes[n]? = some w) (moved : Moves m s n w t) :
    Bounded m t := by
  have known := bounded.known w (List.mem_of_getElem? here)
  cases moved with
  | located stage found =>
    refine bounded.setWrite here known ?_ ?_
    all_goals
      intro k
      rw [PooledWrite.share_uncounted rfl, PooledWrite.share_uncounted (by rw [stage]; rfl)]
  | joined stage given pool =>
    obtain ⟨bounded', inside, same⟩ := bounded.poolFor pool
    refine bounded'.setWrite (same ▸ here) ?_ ?_ ?_
    · rintro _ ⟨⟩
      exact inside
    all_goals
      intro k
      rw [PooledWrite.share_uncounted rfl, PooledWrite.share_uncounted (by rw [stage]; rfl)]
  | refused stage other => exact bounded.atStage here stage.symm nofun
  | permitted stage pool free =>
    refine bounded.move here pool ?_ (.inr ?_)
    · rw [stage]
      change 1 + (_ - 1) = 0 + _
      omega
    · rw [stage]
      exact Nat.le_refl _
  | @checkedOut k p c idle stage pool found =>
    have taken := (takeIdle_sublist p.idle).length_le
    rw [found] at taken
    refine bounded.move here pool ?_ (.inr ?_)
    · rw [stage]
      rfl
    · rw [stage]
      change idle.length + 1 ≤ p.idle.length + 0
      simpa [Nat.add_comm] using taken
  | noneIdle stage pool found =>
    refine bounded.move here pool ?_ (.inl (idle_of_takeIdle found))
    rw [stage]
    rfl
  | dialed stage pool =>
    exact bounded.atStage here (by rw [stage]; rfl) fun _ => by rw [stage]; rfl
  | requested stage =>
    exact bounded.atStage here (by rw [stage]; rfl) fun _ => by rw [stage]; rfl
  | byPeer peer moved =>
    obtain ⟨before, after⟩ := isConnecting_of_onConnection moved
    refine bounded.atStage here ?_ fun _ => before
    rw [isInProgress_of_isConnecting before, isInProgress_of_isConnecting after]
  | received stage first =>
    exact bounded.atStage here (by rw [stage]; rfl) fun _ => by rw [stage]; rfl
  | replaced stage =>
    have connecting : w.stage.isConnecting := by rcases stage with stage | stage <;> rw [stage] <;> rfl
    exact bounded.atStage here (isInProgress_of_isConnecting connecting).symm fun _ => connecting
  | gaveUp stage other =>
    exact bounded.atStage here (isInProgress_of_isConnecting stage).symm nofun
  | @kept k p c a stage pool =>
    refine bounded.move here pool ?_ (.inr ?_)
    · rw [stage]
      rfl
    · rw [stage]
      exact Nat.le_refl _
  | dropped stage => exact bounded.atStage here (by rw [stage]; rfl) nofun
  | @left k p result answer stage pool =>
    refine bounded.move here pool ?_ (.inr ?_)
    · rw [stage]
      change 0 + (p.free + 1) = 1 + p.free
      omega
    · rw [stage]
      exact Nat.le_refl _

theorem onIdle {f : PooledConnection → Option PooledConnection} {position : Nat}
    (bounded : Bounded m s) (stepped : s.onIdle k position f = some t) : Bounded m t := by
  obtain ⟨p, there, stepped⟩ := Option.bind_eq_some_iff.mp stepped
  obtain ⟨c, member, stepped⟩ := Option.bind_eq_some_iff.mp stepped
  obtain ⟨d, changed, stepped⟩ := Option.bind_eq_some_iff.mp stepped
  cases stepped
  exact bounded.setPool there rfl (Nat.le_of_eq List.length_set)

theorem begin (bounded : Bounded m s) (owner : UInt64) : Bounded m (s.begin owner) where
  known w member k placed := by
    rcases List.mem_append.mp member with member | member
    · exact bounded.known w member k placed
    · obtain rfl := List.mem_singleton.mp member
      cases placed
  pools k p there := (bounded.pools k p there).of_holders fun counted => by
    simp [holders, PoolState.begin]

theorem same (bounded : Bounded m s) (pools : t.pools = s.pools) (writes : t.writes = s.writes) :
    Bounded m t where
  known := by
    rw [pools, writes]
    exact bounded.known
  pools k p there := (bounded.pools k p (pools ▸ there)).of_holders fun counted => by
    rw [holders, writes, ← holders]

theorem step {e : PoolEvent} (bounded : Bounded m s) (stepped : s.step m e = some t) :
    Bounded m t := by
  cases e with
  | moved | removed | closing =>
    cases stepped
    exact bounded.same rfl rfl
  | began owner =>
    cases stepped
    exact bounded.begin owner
  | write n e =>
    obtain ⟨w, here, stepped⟩ := Option.bind_eq_some_iff.mp stepped
    exact bounded.moves here (moves_of_stepWrite stepped)
  | idleAnswered | idleClosed => exact bounded.onIdle stepped
  | forgot =>
    rw [PoolState.step] at stepped
    split at stepped
    · cases stepped
      exact bounded.same rfl rfl
    · cases stepped
  | shut k =>
    obtain ⟨p, there, stepped⟩ := Option.bind_eq_some_iff.mp stepped
    split at stepped
    · cases stepped
      exact bounded.setPool there rfl (Nat.le_refl _)
    · cases stepped
  | drained k =>
    obtain ⟨p, there, stepped⟩ := Option.bind_eq_some_iff.mp stepped
    split at stepped
    · cases stepped
      exact bounded.setPool there rfl (Nat.zero_le _)
    · cases stepped

end Bounded

theorem Reachable.bounded (reached : Reachable m s) : Bounded m s := by
  induction reached with
  | new addresses => exact .new addresses
  | after reached stepped ih => exact ih.step stepped

theorem within_bound (reached : Reachable m s) (there : s.pools[k]? = some p) :
    s.inProgress k ≤ bound m ∧ s.connections k ≤ bound m ∧ s.inProgress k + p.free = bound m ∧
      ((∀ w ∈ s.writes, w.pool = some k → w.stage.isInProgress = false) → p.free = bound m) := by
  have fits := reached.bounded.pools k p there
  have accounted : s.inProgress k + p.free = bound m := by
    rw [inProgress_eq]
    exact fits.permits
  refine ⟨by omega, ?_, accounted, fun none => ?_⟩
  · rw [connections_eq there]
    exact fits.connections
  · have idle : s.inProgress k = 0 := by
      refine List.countP_eq_zero.mpr fun w member counts => ?_
      obtain ⟨own, held⟩ := Bool.and_eq_true_iff.mp counts
      rw [none w member (of_decide_eq_true own)] at held
      cases held
    omega

/-- Three writes for one owner over two connections at most. The second one finds the connection of
the first one stale and dials again; the third one finds none idle. -/
def redialing : List PoolEvent :=
  [.began 1, .began 1, .began 1, .write 0 .located, .write 1 .located, .write 2 .located,
    .write 0 .joined, .write 1 .joined, .write 2 .joined,
    .write 0 .permitted, .write 0 .checkedOut, .write 0 .dialed, .write 0 .requested,
    .write 0 (.answered (.carrying FrameType.writeResponse WriteResponse.stored)),
    .write 0 .received, .write 0 .checkedIn, .write 0 .left,
    .write 1 .permitted, .write 1 .checkedOut, .write 1 .requested, .write 1 .peerClosed,
    .write 1 (.foundStale (.ofIo .unexpectedEof)), .write 2 .permitted, .write 2 .checkedOut]

theorem within_bound_redialing : ∃ s p, Reachable 2 s ∧ s.pools[0]? = some p ∧
    s.inProgress 0 = bound 2 ∧ s.connections 0 = bound 2 ∧ p.free = 0 := by
  have counted : (run? 2 { addresses := .ofList [(1, "a:8088")] } redialing).map
      (fun s => (s.pools.length, s.inProgress 0, s.connections 0)) = some (1, bound 2, bound 2) := by
    decide +kernel
  obtain ⟨s, run, counts⟩ := Option.map_eq_some_iff.mp counted
  obtain ⟨one, busy, connected⟩ : s.pools.length = 1 ∧ s.inProgress 0 = bound 2 ∧
      s.connections 0 = bound 2 := by simpa using counts
  have reached : Reachable 2 s := (Reachable.new _).run? run
  have inside : 0 < s.pools.length := by omega
  have there : s.pools[0]? = some s.pools[0] := List.getElem?_eq_getElem inside
  obtain ⟨-, -, accounted, -⟩ := within_bound reached there
  exact ⟨s, s.pools[0], reached, there, busy, connected, by omega⟩

end PoolState

end SeriesCluster
