import Mathlib.Data.List.Infix
import Mathlib.Logic.Relation
import SeriesCluster.Cluster.Pool

/-!
Responses and requests on pooled connections. Main statement: `answered_by_own_response`. What carries
it is that a connection on which anything is under way belongs to the write that has sent its request
on it, and to no pool (`Sound`). All moves of a write are listed once (`Moves`).
-/

namespace SeriesCluster

open PoolState

namespace PooledConnection

variable {c d : PooledConnection} {n : Nat} {f : Frame}

/-- Of what is under way on the connection there is only the request of a write, or its response. -/
def Serves (n : Nat) (c : PooledConnection) : Prop :=
  c.unanswered = [n] ∧ c.unread = [] ∨ c.unanswered = [] ∧ ∃ f, c.unread = [(n, f)]

theorem isQuiet_iff : c.isQuiet ↔ c.unanswered = [] ∧ c.unread = [] := by
  simp [isQuiet, List.isEmpty_iff]

theorem answer?_quiet (quiet : c.isQuiet) : c.answer? f = none := by
  rw [answer?, (isQuiet_iff.mp quiet).1]

theorem send_serves (quiet : c.isQuiet) (n : Nat) : (c.send n).Serves n := by
  obtain ⟨unanswered, unread⟩ := isQuiet_iff.mp quiet
  refine .inl ⟨?_, unread⟩
  rw [send, unanswered]
  rfl

theorem peer_of_answer? (answered : c.answer? f = some d) : d.peer = c.peer := by
  unfold answer? at answered
  split at answered
  · split at answered
    · cases answered
      rfl
    · cases answered
  · cases answered

theorem Serves.answer? (serves : c.Serves n) (answered : c.answer? f = some d) : d.Serves n := by
  unfold PooledConnection.answer? at answered
  rcases serves with ⟨unanswered, unread⟩ | ⟨unanswered, -⟩
  · rw [unanswered] at answered
    split at answered
    · rename_i write rest same
      cases same
      split at answered
      · cases answered
        refine .inr ⟨rfl, f, ?_⟩
        rw [unread]
        rfl
      · cases answered
    · cases answered
  · rw [unanswered] at answered
    cases answered

theorem Serves.read {write : Nat} {rest : List (Nat × Frame)} (serves : c.Serves n)
    (first : c.unread = (write, f) :: rest) :
    write = n ∧ ({ c with unread := rest } : PooledConnection).isQuiet := by
  rcases serves with ⟨-, unread⟩ | ⟨unanswered, g, unread⟩
  · rw [unread] at first
    cases first
  · rw [unread] at first
    cases first
    exact ⟨rfl, isQuiet_iff.mpr ⟨unanswered, rfl⟩⟩

end PooledConnection

namespace PoolState

variable {m n : Nat} {s t : PoolState} {w : PooledWrite}

/-- Whether an error is no response to a write. -/
def NoResponse (cause : Error) : Prop := ∀ code text, cause ≠ .remoteWrite code text

inductive ByPeer : (PooledConnection → Option PooledConnection) → Prop
  | answered (f : Frame) : ByPeer (PooledConnection.answer? f)
  | closed : ByPeer (some ·.closedByPeer)

/-- The moves of a write, with what holds when they are made. -/
inductive Moves (m : Nat) (s : PoolState) (n : Nat) (w : PooledWrite) : PoolState → Prop
  | located {addr : String} (stage : w.stage = .started)
    (known : s.addresses.find? w.owner = some addr) :
    Moves m s n w (s.setWrite n { w with addr := some addr, stage := .located })
  | joined {addr : String} {k : Nat} {t : PoolState} (stage : w.stage = .located)
    (given : w.addr = some addr) (pool : s.poolFor m w.owner addr = (k, t)) :
    Moves m s n w (t.setWrite n { w with pool := some k, stage := .waiting })
  | refused {cause : Error} (stage : w.stage.isInProgress = false) (other : NoResponse cause) :
    Moves m s n w (s.atStage n w (.ended (.error cause) none))
  | permitted {k : Nat} {p : Pool} (stage : w.stage = .waiting)
    (pool : s.poolOf? w = some (k, p)) (free : p.free ≠ 0) :
    Moves m s n w ((s.atStage n w .admitted).setPool k { p with free := p.free - 1 })
  | checkedOut {k : Nat} {p : Pool} {c : PooledConnection} {idle : List PooledConnection}
    (stage : w.stage = .admitted) (pool : s.poolOf? w = some (k, p))
    (found : takeIdle p.idle = (some c, idle)) :
    Moves m s n w ((s.atStage n w (.ready c true)).setPool k { p with idle := idle })
  | noneIdle {k : Nat} {p : Pool} {idle : List PooledConnection} (stage : w.stage = .admitted)
    (pool : s.poolOf? w = some (k, p)) (found : takeIdle p.idle = (none, idle)) :
    Moves m s n w ((s.atStage n w .dialing).setPool k { p with idle := idle })
  | dialed {k : Nat} {p : Pool} (stage : w.stage = .dialing)
    (pool : s.poolOf? w = some (k, p)) :
    Moves m s n w (s.atStage n w (.ready { peer := p.addr } false))
  | requested {c : PooledConnection} {reused : Bool} (stage : w.stage = .ready c reused) :
    Moves m s n w (s.atStage n w (.sent (c.send n) reused))
  | byPeer {f : PooledConnection → Option PooledConnection} {next : WriteStage} (peer : ByPeer f)
    (moved : w.stage.onConnection f = some next) : Moves m s n w (s.atStage n w next)
  | received {c : PooledConnection} {reused : Bool} {write : Nat} {f : Frame}
    {rest : List (Nat × Frame)} (stage : w.stage = .sent c reused)
    (first : c.unread = (write, f) :: rest) :
    Moves m s n w (s.atStage n w
      (.returning { c with unread := rest } (!s.closed) ⟨write, c.peer, f⟩))
  | replaced {c : PooledConnection} (stage : w.stage = .ready c true ∨ w.stage = .sent c true) :
    Moves m s n w (s.atStage n w .dialing)
  | gaveUp {cause : Error} (stage : w.stage.isConnecting) (other : NoResponse cause) :
    Moves m s n w (s.atStage n w (.leaving (.error cause) none))
  | kept {k : Nat} {p : Pool} {c : PooledConnection} {a : Answer}
    (stage : w.stage = .returning c true a) (pool : s.poolOf? w = some (k, p)) :
    Moves m s n w ((s.atStage n w (.leaving a.result (some a))).setPool k
      { p with idle := c :: p.idle })
  | dropped {c : PooledConnection} {a : Answer} (stage : w.stage = .returning c false a) :
    Moves m s n w (s.atStage n w (.leaving a.result (some a)))
  | left {k : Nat} {p : Pool} {result : Except Error Unit} {answer : Option Answer}
    (stage : w.stage = .leaving result answer) (pool : s.poolOf? w = some (k, p)) :
    Moves m s n w ((s.atStage n w (.ended result answer)).setPool k { p with free := p.free + 1 })

theorem noResponse_of_isOfConnection {cause : Error} (own : cause.isOfConnection) :
    NoResponse cause := by
  rintro code text rfl
  cases own

theorem noResponse_of_hasSource {cause : Error} (own : cause.hasSource) : NoResponse cause := by
  rintro code text rfl
  cases own

theorem noResponse_of_isReset {cause : Error} (own : cause.isReset) : NoResponse cause := by
  rintro code text rfl
  cases own

theorem noResponse_of_ofFrame {f : Frame} {cause : Error}
    (unread : Exchange.ofFrame f = .stale cause ∨ Exchange.ofFrame f = .failed cause) :
    NoResponse cause := by
  rintro code text rfl
  unfold Exchange.ofFrame at unread
  split at unread
  · rcases unread with unread | unread <;> cases unread
  · split at unread
    · rcases unread with unread | unread <;> cases unread
    · rename_i cause decoded
      rw [Frame.decodePayload] at decoded
      rcases unread with unread | unread
      · cases unread
      · cases unread
        cases result : Json.ofBytes WriteResponse f.payload <;> rw [result] at decoded <;>
          cases decoded

theorem noResponse_eof : NoResponse (.ofIo .unexpectedEof) := nofun

theorem moves_whenStale {cause : Error} {c : PooledConnection} {reused : Bool}
    (stage : w.stage = .ready c reused ∨ w.stage = .sent c reused) (other : NoResponse cause) :
    Moves m s n w (s.atStage n w (.whenStale cause reused)) := by
  cases reused with
  | true => exact .replaced stage
  | false =>
    refine .gaveUp ?_ other
    rcases stage with stage | stage <;> rw [stage] <;> rfl

theorem moves_of_stepWrite {e : WriteEvent} (stepped : s.stepWrite m n w e = some t) :
    Moves m s n w t := by
  unfold stepWrite at stepped
  split at stepped
  · rename_i stage
    split at stepped
    · rename_i addr known
      cases stepped
      exact .located stage known
    · cases stepped
      exact .refused (by rw [stage]; rfl) nofun
  · rename_i stage
    obtain ⟨addr, given, stepped⟩ := Option.bind_eq_some_iff.mp stepped
    cases stepped
    exact .joined stage given rfl
  · rename_i stage
    obtain ⟨⟨k, p⟩, pool, stepped⟩ := Option.bind_eq_some_iff.mp stepped
    dsimp only at stepped
    split at stepped
    · cases stepped
    · rename_i available
      cases stepped
      exact .permitted stage pool (by simp at available; exact available.2)
  · rename_i stage
    cases stepped
    exact .refused (by rw [stage]; rfl) nofun
  · rename_i stage
    obtain ⟨⟨k, p⟩, pool, stepped⟩ := Option.bind_eq_some_iff.mp stepped
    dsimp only at stepped
    split at stepped
    · cases stepped
      exact .refused (by rw [stage]; rfl) nofun
    · cases stepped
  · rename_i stage
    obtain ⟨⟨k, p⟩, pool, stepped⟩ := Option.bind_eq_some_iff.mp stepped
    dsimp only at stepped
    rcases found : takeIdle p.idle with ⟨_ | c, idle⟩
    · rw [found] at stepped
      cases stepped
      exact .noneIdle stage pool found
    · rw [found] at stepped
      cases stepped
      exact .checkedOut stage pool found
  · rename_i stage
    obtain ⟨⟨k, p⟩, pool, stepped⟩ := Option.bind_eq_some_iff.mp stepped
    cases stepped
    exact .dialed stage pool
  · rename_i cause stage
    split at stepped
    · rename_i own
      cases stepped
      exact .gaveUp (by rw [stage]; rfl) (noResponse_of_isOfConnection own)
    · cases stepped
  · rename_i c reused stage
    cases stepped
    exact .requested stage
  · rename_i f
    obtain ⟨next, moved, rfl⟩ := Option.map_eq_some_iff.mp stepped
    exact .byPeer (.answered f) moved
  · obtain ⟨next, moved, rfl⟩ := Option.map_eq_some_iff.mp stepped
    exact .byPeer .closed moved
  · rename_i c reused stage
    have connecting : w.stage.isConnecting := by rw [stage]; rfl
    split at stepped
    · rename_i write f rest first
      split at stepped
      · cases stepped
        exact .received stage first
      · rename_i cause read
        cases stepped
        exact .gaveUp connecting (noResponse_of_ofFrame (.inl read))
      · rename_i cause read
        cases stepped
        exact .gaveUp connecting (noResponse_of_ofFrame (.inr read))
    · cases stepped
  · rename_i cause c reused stage
    split at stepped
    · rename_i own
      cases stepped
      exact moves_whenStale (.inl stage) (noResponse_of_hasSource own)
    · cases stepped
  · rename_i cause c reused stage
    split at stepped
    · rename_i stale
      cases stepped
      refine moves_whenStale (.inr stage) ?_
      rcases Bool.or_eq_true_iff.mp stale with reset | finished
      · exact noResponse_of_isReset reset
      · rw [of_decide_eq_true (Bool.and_eq_true_iff.mp finished).2]
        exact noResponse_eof
    · cases stepped
  · rename_i cause c reused stage
    split at stepped
    · rename_i own
      cases stepped
      exact .gaveUp (by rw [stage]; rfl) (noResponse_of_isOfConnection own)
    · cases stepped
  · rename_i cause c reused stage
    split at stepped
    · rename_i own
      cases stepped
      exact .gaveUp (by rw [stage]; rfl) (noResponse_of_isOfConnection own)
    · cases stepped
  · rename_i c keep a stage
    obtain ⟨⟨k, p⟩, pool, stepped⟩ := Option.bind_eq_some_iff.mp stepped
    dsimp only at stepped
    split at stepped
    · rename_i keeps
      cases stepped
      exact .kept (keeps ▸ stage) pool
    · rename_i drops
      cases stepped
      exact .dropped (Bool.eq_false_iff.mpr drops ▸ stage)
  · rename_i result answer stage
    obtain ⟨⟨k, p⟩, pool, stepped⟩ := Option.bind_eq_some_iff.mp stepped
    cases stepped
    exact .left stage pool
  · cases stepped

end PoolState

def Reports (result : Except Error Unit) : Prop :=
  result = .ok () ∨ ∃ code text, result = .error (.remoteWrite code text)

theorem not_reports {cause : Error} (other : NoResponse cause) : ¬ Reports (.error cause) := by
  rintro (stored | ⟨code, text, rejected⟩)
  · cases stored
  · exact other code text (Except.error.inj rejected)

namespace PooledWrite

variable {addrs : List String} {n : Nat} {w : PooledWrite}

/-- A write that reports a response has read the one to its own request, at its own address. -/
def Explained (n : Nat) (w : PooledWrite) (result : Except Error Unit) (answer : Option Answer) :
    Prop :=
  Reports result → ∃ a, answer = some a ∧ a.write = n ∧ w.addr = some a.peer ∧ result = a.result

def Placed (addrs : List String) (w : PooledWrite) : Prop :=
  ∃ k addr, w.pool = some k ∧ addrs[k]? = some addr ∧ w.addr = some addr

def Sound (addrs : List String) (n : Nat) (w : PooledWrite) : Prop :=
  match w.stage with
  | .started | .located => True
  | .waiting | .admitted | .dialing => w.Placed addrs
  | .ready c _ => w.Placed addrs ∧ c.isQuiet ∧ w.addr = some c.peer
  | .sent c _ => w.Placed addrs ∧ c.Serves n ∧ w.addr = some c.peer
  | .returning c _ a =>
    w.Placed addrs ∧ c.isQuiet ∧ w.addr = some c.peer ∧ a.write = n ∧ a.peer = c.peer
  | .leaving result answer | .ended result answer => w.Explained n result answer

theorem Placed.mono {more : List String} (placed : w.Placed addrs) (grown : addrs <+: more) :
    w.Placed more := by
  obtain ⟨k, addr, pool, there, given⟩ := placed
  obtain ⟨rest, rfl⟩ := grown
  have inside := (List.getElem?_eq_some_iff.mp there).1
  exact ⟨k, addr, pool, (List.getElem?_append_left inside).trans there, given⟩

theorem Sound.mono {more : List String} (sound : w.Sound addrs n) (grown : addrs <+: more) :
    w.Sound more n := by
  obtain ⟨owner, addr, pool, stage⟩ := w
  cases stage with
  | started | located | leaving | ended => exact sound
  | waiting | admitted | dialing => exact Placed.mono sound grown
  | ready | sent | returning => exact ⟨sound.1.mono grown, sound.2⟩

theorem Sound.at {stage : WriteStage} (sound : w.Sound addrs n) (here : w.stage = stage) :
    ({ w with stage := stage } : PooledWrite).Sound addrs n := by
  rw [← here]
  exact sound

theorem Sound.placed (sound : w.Sound addrs n) (connecting : w.stage.isConnecting) :
    w.Placed addrs := by
  obtain ⟨owner, addr, pool, stage⟩ := w
  cases stage with
  | started | located | waiting | admitted | leaving | ended => cases connecting
  | dialing => exact sound
  | ready | sent | returning => exact sound.1

theorem Sound.onConnection {f : PooledConnection → Option PooledConnection} {next : WriteStage}
    (sound : w.Sound addrs n) (peer : ByPeer f) (moved : w.stage.onConnection f = some next) :
    ({ w with stage := next } : PooledWrite).Sound addrs n := by
  obtain ⟨owner, addr, pool, stage⟩ := w
  cases stage with
  | started | located | waiting | admitted | dialing | leaving | ended => cases moved
  | ready c reused =>
    obtain ⟨placed, quiet, given⟩ := sound
    obtain ⟨d, changed, rfl⟩ := Option.map_eq_some_iff.mp moved
    cases peer with
    | answered f =>
      rw [PooledConnection.answer?_quiet quiet] at changed
      cases changed
    | closed =>
      cases changed
      exact ⟨placed, quiet, given⟩
  | sent c reused =>
    obtain ⟨placed, serves, given⟩ := sound
    obtain ⟨d, changed, rfl⟩ := Option.map_eq_some_iff.mp moved
    cases peer with
    | answered f =>
      refine ⟨placed, serves.answer? changed, given.trans ?_⟩
      rw [PooledConnection.peer_of_answer? changed]
    | closed =>
      cases changed
      exact ⟨placed, serves, given⟩
  | returning c keep a =>
    obtain ⟨placed, quiet, given, own⟩ := sound
    obtain ⟨d, changed, rfl⟩ := Option.map_eq_some_iff.mp moved
    cases peer with
    | answered f =>
      rw [PooledConnection.answer?_quiet quiet] at changed
      cases changed
    | closed =>
      cases changed
      exact ⟨placed, quiet, given, own⟩

end PooledWrite

namespace PoolState

variable {m n : Nat} {s t : PoolState} {w : PooledWrite}

def addrs (s : PoolState) : List String := s.pools.map (·.addr)

def KeepsQuiet (p : Pool) : Prop := ∀ c ∈ p.idle, c.isQuiet ∧ c.peer = p.addr

structure Sound (s : PoolState) : Prop where
  idle : ∀ p ∈ s.pools, KeepsQuiet p
  writes : ∀ (n : Nat) (w : PooledWrite), s.writes[n]? = some w → w.Sound s.addrs n

theorem exists_of_poolOf? {k : Nat} {p : Pool} (pool : s.poolOf? w = some (k, p)) :
    w.pool = some k ∧ s.pools[k]? = some p := by
  obtain ⟨k', own, pool⟩ := Option.bind_eq_some_iff.mp pool
  obtain ⟨p', there, same⟩ := Option.bind_eq_some_iff.mp pool
  cases same
  exact ⟨own, there⟩

theorem takeIdle_sublist (idle : List PooledConnection) :
    ((takeIdle idle).1.toList ++ (takeIdle idle).2).Sublist idle := by
  induction idle with
  | nil => exact .refl _
  | cons c rest ih =>
    rw [takeIdle]
    split
    · exact .refl _
    · exact ih.cons c

namespace Sound

theorem setWrite (sound : s.Sound) (n : Nat) {w : PooledWrite} (fine : w.Sound s.addrs n) :
    (s.setWrite n w).Sound where
  idle := sound.idle
  writes k v there := by
    by_cases same : n = k
    · subst same
      have inside : n < s.writes.length := by
        have := (List.getElem?_eq_some_iff.mp there).1
        rwa [PoolState.setWrite, List.length_set] at this
      rw [PoolState.setWrite, List.getElem?_set_self inside] at there
      cases there
      exact fine
    · rw [PoolState.setWrite, List.getElem?_set_ne same] at there
      exact sound.writes k v there

theorem setPool (sound : s.Sound) {k : Nat} {p q : Pool} (there : s.pools[k]? = some p)
    (same : q.addr = p.addr) (idle : KeepsQuiet q) : (s.setPool k q).Sound where
  idle r member := by
    rcases List.mem_or_eq_of_mem_set member with member | rfl
    · exact sound.idle r member
    · exact idle
  writes n w written := by
    have kept : (s.setPool k q).addrs = s.addrs := by
      rw [addrs, PoolState.setPool, List.map_set, addrs, same]
      refine List.ext_getElem? fun j => ?_
      by_cases here : k = j
      · subst here
        rw [List.getElem?_set_self, List.getElem?_map, there]
        · rfl
        · rw [List.length_map]
          exact (List.getElem?_eq_some_iff.mp there).1
      · rw [List.getElem?_set_ne here]
    rw [kept]
    exact sound.writes n w written

theorem keepsQuiet (sound : s.Sound) {k : Nat} {p : Pool} (there : s.pools[k]? = some p) :
    KeepsQuiet p :=
  sound.idle p (List.mem_of_getElem? there)

theorem poolFor (sound : s.Sound) {owner : UInt64} {addr : String} {k : Nat}
    (pool : s.poolFor m owner addr = (k, t)) :
    t.Sound ∧ t.addrs[k]? = some addr ∧ t.writes = s.writes := by
  have fresh : ({ s with
      pools := s.pools ++ [{ addr := addr, free := bound m }]
      current := s.current.insert owner s.pools.length } : PoolState).Sound := by
    refine ⟨fun p member => ?_, fun n w there => ?_⟩
    · rcases List.mem_append.mp member with member | member
      · exact sound.idle p member
      · obtain rfl := List.mem_singleton.mp member
        exact nofun
    · refine (sound.writes n w there).mono ?_
      rw [addrs, addrs, List.map_append]
      exact List.prefix_append _ _
  have last : (s.pools ++ [({ addr := addr, free := bound m } : Pool)]).map (·.addr) =
      s.addrs ++ [addr] := List.map_append
  have there : (s.addrs ++ [addr])[s.pools.length]? = some addr := by
    rw [addrs, List.getElem?_append_right (by simp)]
    simp
  unfold PoolState.poolFor at pool
  split at pool
  · cases pool
    exact ⟨fresh, by rw [addrs, last, there], rfl⟩
  · split at pool
    · rename_i k p found
      split at pool
      · rename_i same
        cases pool
        refine ⟨sound, ?_, rfl⟩
        rw [addrs, List.getElem?_map, found, Option.map_some, same]
      · cases pool
        exact ⟨fresh, by rw [addrs, last, there], rfl⟩
    · cases pool
      exact ⟨fresh, by rw [addrs, last, there], rfl⟩

theorem addr_of_placed {k : Nat} {p : Pool} (placed : w.Placed s.addrs)
    (pool : s.poolOf? w = some (k, p)) : w.addr = some p.addr := by
  obtain ⟨own, there⟩ := exists_of_poolOf? pool
  obtain ⟨j, addr, known, found, given⟩ := placed
  rw [own] at known
  cases known
  rw [addrs, List.getElem?_map, there] at found
  cases found
  exact given

theorem peer_eq {k : Nat} {p : Pool} {c : PooledConnection} (placed : w.Placed s.addrs)
    (pool : s.poolOf? w = some (k, p)) (given : w.addr = some c.peer) : c.peer = p.addr :=
  Option.some.inj (given.symm.trans (addr_of_placed placed pool))

theorem moves (sound : s.Sound) (here : s.writes[n]? = some w) (moved : Moves m s n w t) :
    t.Sound := by
  have own := sound.writes n w here
  cases moved with
  | located stage known => exact sound.setWrite n trivial
  | joined stage given pool =>
    obtain ⟨sound', there, -⟩ := sound.poolFor pool
    exact sound'.setWrite n ⟨_, _, rfl, there, given⟩
  | refused stage other => exact sound.setWrite n fun reports => absurd reports (not_reports other)
  | permitted stage pool free =>
    have placed : w.Placed s.addrs := own.at stage
    obtain ⟨-, there⟩ := exists_of_poolOf? pool
    have before := sound.keepsQuiet there
    have admitted : (s.atStage n w .admitted).Sound := sound.setWrite n placed
    exact admitted.setPool there rfl before
  | @checkedOut k p c idle stage pool found =>
    have placed : w.Placed s.addrs := own.at stage
    obtain ⟨-, there⟩ := exists_of_poolOf? pool
    have before := sound.keepsQuiet there
    have taken := takeIdle_sublist p.idle
    rw [found] at taken
    obtain ⟨quiet, peer⟩ := before c (taken.subset List.mem_cons_self)
    have ready : (s.atStage n w (.ready c true)).Sound :=
      sound.setWrite n ⟨placed, quiet, (addr_of_placed placed pool).trans (congrArg some peer.symm)⟩
    refine ready.setPool there rfl fun d member => ?_
    exact before d (taken.subset (List.mem_cons_of_mem c member))
  | @noneIdle k p idle stage pool found =>
    have placed : w.Placed s.addrs := own.at stage
    obtain ⟨-, there⟩ := exists_of_poolOf? pool
    have taken := takeIdle_sublist p.idle
    rw [found] at taken
    have dialing : (s.atStage n w .dialing).Sound := sound.setWrite n placed
    refine dialing.setPool there rfl fun d member => ?_
    exact sound.keepsQuiet there d (taken.subset member)
  | dialed stage pool =>
    have placed : w.Placed s.addrs := own.at stage
    exact sound.setWrite n ⟨placed, rfl, addr_of_placed placed pool⟩
  | requested stage =>
    obtain ⟨placed, quiet, given⟩ := own.at stage
    exact sound.setWrite n ⟨placed, PooledConnection.send_serves quiet n, given⟩
  | byPeer peer moved => exact sound.setWrite n (own.onConnection peer moved)
  | received stage first =>
    obtain ⟨placed, serves, given⟩ := own.at stage
    obtain ⟨rfl, quiet⟩ := serves.read first
    exact sound.setWrite _ ⟨placed, quiet, given, rfl, rfl⟩
  | replaced stage =>
    have connecting : w.stage.isConnecting := by
      rcases stage with stage | stage
      · rw [stage]
        rfl
      · rw [stage]
        rfl
    exact sound.setWrite n (own.placed connecting)
  | gaveUp stage other => exact sound.setWrite n fun reports => absurd reports (not_reports other)
  | @kept k p c a stage pool =>
    obtain ⟨placed, quiet, given, answers, peer⟩ := own.at stage
    obtain ⟨-, there⟩ := exists_of_poolOf? pool
    have before := sound.keepsQuiet there
    have same : c.peer = p.addr := peer_eq placed pool given
    have leaving : (s.atStage n w (.leaving a.result (some a))).Sound :=
      sound.setWrite n fun _ => ⟨a, rfl, answers, given.trans (congrArg some peer.symm), rfl⟩
    exact leaving.setPool there rfl (List.forall_mem_cons.mpr ⟨⟨quiet, same⟩, before⟩)
  | dropped stage =>
    obtain ⟨-, -, given, answers, peer⟩ := own.at stage
    exact sound.setWrite n fun _ => ⟨_, rfl, answers, given.trans (congrArg some peer.symm), rfl⟩
  | @left k p result answer stage pool =>
    obtain ⟨-, there⟩ := exists_of_poolOf? pool
    have before := sound.keepsQuiet there
    have explained : w.Explained n result answer := own.at stage
    have ended : (s.atStage n w (.ended result answer)).Sound := sound.setWrite n explained
    exact ended.setPool there rfl before

theorem onIdle {f : PooledConnection → Option PooledConnection} {k position : Nat}
    (sound : s.Sound) (peer : ByPeer f) (stepped : s.onIdle k position f = some t) : t.Sound := by
  obtain ⟨p, there, stepped⟩ := Option.bind_eq_some_iff.mp stepped
  obtain ⟨c, member, stepped⟩ := Option.bind_eq_some_iff.mp stepped
  obtain ⟨d, changed, stepped⟩ := Option.bind_eq_some_iff.mp stepped
  cases stepped
  have before := sound.keepsQuiet there
  obtain ⟨quiet, own⟩ := before c (List.mem_of_getElem? member)
  refine sound.setPool there rfl fun e among => ?_
  rcases List.mem_or_eq_of_mem_set among with among | rfl
  · exact before e among
  · cases peer with
    | answered f =>
      rw [PooledConnection.answer?_quiet quiet] at changed
      cases changed
    | closed =>
      cases changed
      exact ⟨quiet, own⟩

theorem begin (sound : s.Sound) (owner : UInt64) : (s.begin owner).Sound where
  idle := sound.idle
  writes n w there := by
    rcases Nat.lt_or_ge n s.writes.length with before | last
    · rw [PoolState.begin, List.getElem?_append_left before] at there
      exact sound.writes n w there
    · rw [PoolState.begin, List.getElem?_append_right last] at there
      obtain rfl := List.mem_singleton.mp (List.mem_of_getElem? there)
      by_cases closed : s.closed
      · simp only [closed, if_true]
        exact fun reports => absurd reports (not_reports nofun)
      · simp only [closed]
        exact trivial

theorem step {e : PoolEvent} (sound : s.Sound) (stepped : s.step m e = some t) : t.Sound := by
  cases e with
  | moved owner addr =>
    cases stepped
    exact ⟨sound.idle, sound.writes⟩
  | removed owner =>
    cases stepped
    exact ⟨sound.idle, sound.writes⟩
  | began owner =>
    cases stepped
    exact sound.begin owner
  | write n e =>
    obtain ⟨w, here, stepped⟩ := Option.bind_eq_some_iff.mp stepped
    exact sound.moves here (moves_of_stepWrite stepped)
  | idleAnswered k position f => exact sound.onIdle (.answered f) stepped
  | idleClosed k position => exact sound.onIdle .closed stepped
  | closing =>
    cases stepped
    exact ⟨sound.idle, sound.writes⟩
  | forgot =>
    rw [PoolState.step] at stepped
    split at stepped
    · cases stepped
      exact ⟨sound.idle, sound.writes⟩
    · cases stepped
  | shut k =>
    obtain ⟨p, there, stepped⟩ := Option.bind_eq_some_iff.mp stepped
    split at stepped
    · have before := sound.keepsQuiet there
      cases stepped
      exact sound.setPool there rfl before
    · cases stepped
  | drained k =>
    obtain ⟨p, there, stepped⟩ := Option.bind_eq_some_iff.mp stepped
    split at stepped
    · cases stepped
      exact sound.setPool there rfl nofun
    · cases stepped

end Sound

theorem Reachable.sound (reached : Reachable m s) : s.Sound := by
  induction reached with
  | new addresses => exact ⟨nofun, fun n w there => by simp at there⟩
  | after reached stepped ih => exact ih.step stepped

def Leads (m : Nat) : PoolState → PoolState → Prop :=
  Relation.ReflTransGen fun s t => ∃ e, s.step m e = some t

def Readdressed (s : PoolState) (w v : PooledWrite) : Prop :=
  v.owner = w.owner ∧ (v.addr = w.addr ∨ w.stage = .started ∧ v.addr = s.addresses.find? w.owner)

theorem Moves.readdressed (moved : Moves m s n w t) :
    ∃ v, t.writes = s.writes.set n v ∧ Readdressed s w v := by
  cases moved with
  | located stage known => exact ⟨_, rfl, rfl, .inr ⟨stage, known.symm⟩⟩
  | @joined addr k u stage given pool =>
    have same : u.writes = s.writes := by
      unfold poolFor at pool
      split at pool
      · cases pool
        rfl
      · split at pool
        · split at pool
          · cases pool
            rfl
          · cases pool
            rfl
        · cases pool
          rfl
    exact ⟨_, congrArg (List.set · n _) same, rfl, .inl rfl⟩
  | refused | permitted | checkedOut | noneIdle | dialed | requested | byPeer | received
  | replaced | gaveUp | kept | dropped | left => exact ⟨_, rfl, rfl, .inl rfl⟩

theorem write_of_step {e : PoolEvent} {v : PooledWrite} (stepped : s.step m e = some t)
    (there : t.writes[n]? = some v) :
    (∃ w, s.writes[n]? = some w ∧ Readdressed s w v) ∨ v.addr = none := by
  have unmoved (same : t.writes = s.writes) :
      (∃ w, s.writes[n]? = some w ∧ Readdressed s w v) ∨ v.addr = none :=
    .inl ⟨v, same ▸ there, rfl, .inl rfl⟩
  cases e with
  | moved | removed | closing =>
    cases stepped
    exact unmoved rfl
  | began owner =>
    cases stepped
    rcases Nat.lt_or_ge n s.writes.length with before | last
    · rw [PoolState.begin, List.getElem?_append_left before] at there
      exact .inl ⟨v, there, rfl, .inl rfl⟩
    · rw [PoolState.begin, List.getElem?_append_right last] at there
      obtain rfl := List.mem_singleton.mp (List.mem_of_getElem? there)
      exact .inr rfl
  | write k e =>
    obtain ⟨w, here, stepped⟩ := Option.bind_eq_some_iff.mp stepped
    obtain ⟨u, writes, readdressed⟩ := (moves_of_stepWrite stepped).readdressed
    rw [writes] at there
    by_cases same : k = n
    · subst same
      rw [List.getElem?_set_self (List.getElem?_eq_some_iff.mp here).1] at there
      cases there
      exact .inl ⟨w, here, readdressed⟩
    · rw [List.getElem?_set_ne same] at there
      exact .inl ⟨v, there, rfl, .inl rfl⟩
  | idleAnswered | idleClosed =>
    obtain ⟨p, -, stepped⟩ := Option.bind_eq_some_iff.mp stepped
    obtain ⟨c, -, stepped⟩ := Option.bind_eq_some_iff.mp stepped
    obtain ⟨d, -, stepped⟩ := Option.bind_eq_some_iff.mp stepped
    cases stepped
    exact unmoved rfl
  | forgot =>
    rw [step] at stepped
    split at stepped
    · cases stepped
      exact unmoved rfl
    · cases stepped
  | shut | drained =>
    obtain ⟨p, -, stepped⟩ := Option.bind_eq_some_iff.mp stepped
    split at stepped
    · cases stepped
      exact unmoved rfl
    · cases stepped

/-- While a write was looking for its owner, the topology had this address for it. -/
def GivenByTopology (m : Nat) (s : PoolState) (n : Nat) (owner : UInt64) (addr : String) : Prop :=
  ∃ t u, Reachable m t ∧ Leads m t s ∧ t.writes[n]? = some u ∧ u.owner = owner ∧
    u.stage = .started ∧ t.addresses.find? owner = some addr

theorem Reachable.given (reached : Reachable m s) {addr : String} (there : s.writes[n]? = some w)
    (known : w.addr = some addr) : GivenByTopology m s n w.owner addr := by
  induction reached generalizing w with
  | new addresses => simp at there
  | @after s t e reached stepped ih =>
    rcases write_of_step stepped there with ⟨u, before, owner, addressed⟩ | none
    · rcases addressed with same | ⟨stage, found⟩
      · obtain ⟨r, v, start, leads, begun⟩ := ih before (same ▸ known)
        rw [← owner] at begun
        exact ⟨r, v, start, leads.tail ⟨e, stepped⟩, begun⟩
      · refine ⟨s, u, reached, .single ⟨e, stepped⟩, before, owner.symm, stage, ?_⟩
        rw [owner, ← found, known]
    · rw [none] at known
      cases known

theorem answered_by_own_response (reached : Reachable m s) :
    (∀ p ∈ s.pools, ∀ c ∈ p.idle, c.unanswered = [] ∧ c.unread = []) ∧
    ∀ (n : Nat) (w : PooledWrite) (result : Except Error Unit) (answer : Option Answer),
      s.writes[n]? = some w → w.stage = .ended result answer → Reports result →
      ∃ a, answer = some a ∧ a.write = n ∧ result = a.result ∧
        GivenByTopology m s n w.owner a.peer := by
  have sound := reached.sound
  refine ⟨fun p member c idle => ?_, fun n w result answer there stage reports => ?_⟩
  · exact PooledConnection.isQuiet_iff.mp (sound.idle p member c idle).1
  · have explained : w.Explained n result answer := (sound.writes n w there).at stage
    obtain ⟨a, read, own, peer, same⟩ := explained reports
    exact ⟨a, read, own, same, reached.given there peer⟩

theorem Reachable.run? {events : List PoolEvent} (reached : Reachable m s)
    (run : s.run? m events = some t) : Reachable m t := by
  induction events generalizing s with
  | nil =>
    cases run
    exact reached
  | cons e events ih =>
    obtain ⟨u, stepped, later⟩ := Option.bind_eq_some_iff.mp run
    exact ih (reached.after stepped) later

/-- Two writes for one owner, which moves meanwhile: one is stored, and the other one is refused on
the connection of the first. -/
def twoWrites : List PoolEvent :=
  [.began 1, .began 1, .write 0 .located, .write 1 .located, .moved 1 "b:8088",
    .write 0 .joined, .write 1 .joined, .write 0 .permitted, .write 0 .checkedOut,
    .write 0 .dialed, .write 0 .requested,
    .write 0 (.answered (.carrying FrameType.writeResponse WriteResponse.stored)),
    .write 0 .received, .write 0 .checkedIn, .write 0 .left,
    .write 1 .permitted, .write 1 .checkedOut, .write 1 .requested,
    .write 1 (.answered (.carrying FrameType.writeResponse (WriteResponse.failed "full"))),
    .write 1 .received, .write 1 .checkedIn, .write 1 .left]

def outcome? (w : PooledWrite) : Option (Except Error Unit × Answer) :=
  match w.stage with
  | .ended result (some a) => some (result, a)
  | _ => none

theorem stage_of_outcome? {result : Except Error Unit} {a : Answer}
    (ended : outcome? w = some (result, a)) : w.stage = .ended result (some a) := by
  unfold outcome? at ended
  split at ended
  · rename_i stage
    cases ended
    exact stage
  · cases ended

theorem answered_by_own_response_twoWrites : ∃ s w a, Reachable 1 s ∧ s.writes[1]? = some w ∧
    w.stage = .ended (.error (.remoteWrite 1 "full")) (some a) ∧
    Reports (.error (.remoteWrite 1 "full")) ∧ a.write = 1 ∧
    GivenByTopology 1 s 1 w.owner "a:8088" := by
  have ended : ((run? 1 { addresses := .ofList [(1, "a:8088")] } twoWrites).bind
      (·.writes[1]?)).bind outcome? = some (.error (.remoteWrite 1 "full"),
        ⟨1, "a:8088", .carrying FrameType.writeResponse (WriteResponse.failed "full")⟩) := by
    decide +kernel
  obtain ⟨w, found, ended⟩ := Option.bind_eq_some_iff.mp ended
  obtain ⟨s, run, there⟩ := Option.bind_eq_some_iff.mp found
  have reached : Reachable 1 s := (Reachable.new _).run? run
  have stage := stage_of_outcome? ended
  have reports : Reports (.error (.remoteWrite 1 "full")) := .inr ⟨1, "full", rfl⟩
  obtain ⟨a, read, own, -, given⟩ :=
    (answered_by_own_response reached).2 1 w _ _ there stage reports
  cases read
  exact ⟨s, w, _, reached, there, stage, reports, own, given⟩

end PoolState

end SeriesCluster
