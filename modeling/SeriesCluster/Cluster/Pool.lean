import SeriesCluster.Cluster.Writer

namespace SeriesCluster

/-- A connection of a pool. Writes are known by their numbers: those whose requests the other side
has not answered, and the responses that have not been read, each with the write that it answers. -/
structure PooledConnection where
  peer : String
  unanswered : List Nat := []
  unread : List (Nat × Frame) := []
  isOpen : Bool := true
  deriving DecidableEq, Repr

namespace PooledConnection

def send (c : PooledConnection) (write : Nat) : PooledConnection :=
  { c with unanswered := c.unanswered ++ [write] }

def answer? (f : Frame) (c : PooledConnection) : Option PooledConnection :=
  match c.unanswered with
  | write :: rest =>
    if c.isOpen then some { c with unanswered := rest, unread := c.unread ++ [(write, f)] }
    else none
  | [] => none

def closedByPeer (c : PooledConnection) : PooledConnection := { c with isOpen := false }

def isQuiet (c : PooledConnection) : Bool := c.unanswered.isEmpty && c.unread.isEmpty

def isReusable (c : PooledConnection) : Bool := c.isOpen && c.unread.isEmpty

def isFinished (c : PooledConnection) : Bool := !c.isOpen && c.unread.isEmpty

end PooledConnection

/-- The connections to one address: how many permits are free, and the idle ones, the last first. A
pool that is shut gives no more permits. -/
structure Pool where
  addr : String
  free : Nat
  idle : List PooledConnection := []
  isShut : Bool := false
  deriving DecidableEq, Repr

structure Answer where
  write : Nat
  peer : String
  frame : Frame
  deriving DecidableEq, Repr

namespace Answer

def result (a : Answer) : Except Error Unit := (Exchange.ofFrame a.frame).outcome

end Answer

/-- How far a write has come. One that has read its response gives its connection back first, unless
the writer was closed by then, and its permit last. -/
inductive WriteStage
  | started
  | located
  | waiting
  | admitted
  | dialing
  | ready (c : PooledConnection) (reused : Bool)
  | sent (c : PooledConnection) (reused : Bool)
  | returning (c : PooledConnection) (keep : Bool) (a : Answer)
  | leaving (result : Except Error Unit) (answer : Option Answer)
  | ended (result : Except Error Unit) (answer : Option Answer)

namespace WriteStage

def isInProgress : WriteStage → Bool
  | admitted | dialing | ready .. | sent .. | returning .. | leaving .. => true
  | started | located | waiting | ended .. => false

def isConnecting : WriteStage → Bool
  | dialing | ready .. | sent .. | returning .. => true
  | started | located | waiting | admitted | leaving .. | ended .. => false

def whenStale (cause : Error) (reused : Bool) : WriteStage :=
  if reused then dialing else leaving (.error cause) none

def onConnection (f : PooledConnection → Option PooledConnection) : WriteStage → Option WriteStage
  | ready c reused => (f c).map (ready · reused)
  | sent c reused => (f c).map (sent · reused)
  | returning c keep a => (f c).map (returning · keep a)
  | _ => none

end WriteStage

structure PooledWrite where
  owner : UInt64
  addr : Option String := none
  pool : Option Nat := none
  stage : WriteStage := .started

/-- The pools of a writer, those of former addresses included, and its writes, both known by their
numbers. `current` is the pool of each owner. -/
structure PoolState where
  addresses : SortedMap UInt64 String := ∅
  pools : List Pool := []
  current : SortedMap UInt64 Nat := ∅
  writes : List PooledWrite := []
  closed : Bool := false

def Error.isOfConnection : Error → Bool
  | .io .. | .ioTimeout _ | .dial .. | .frameTooLong _ | .serialization _ => true
  | _ => false

inductive WriteEvent
  | located
  | joined
  | permitted
  | exhausted
  | refused
  | checkedOut
  | dialed
  | dialFailed (cause : Error)
  | requested
  | answered (f : Frame)
  | peerClosed
  | received
  | foundStale (cause : Error)
  | failed (cause : Error)
  | checkedIn
  | left
  deriving DecidableEq

inductive PoolEvent
  | moved (owner : UInt64) (addr : String)
  | removed (owner : UInt64)
  | began (owner : UInt64)
  | write (n : Nat) (e : WriteEvent)
  | idleAnswered (pool position : Nat) (f : Frame)
  | idleClosed (pool position : Nat)
  | closing
  | forgot
  | shut (pool : Nat)
  | drained (pool : Nat)
  deriving DecidableEq

namespace PoolState

def bound (maxConnections : Nat) : Nat := max 1 maxConnections

def setWrite (s : PoolState) (n : Nat) (w : PooledWrite) : PoolState :=
  { s with writes := s.writes.set n w }

def atStage (s : PoolState) (n : Nat) (w : PooledWrite) (stage : WriteStage) : PoolState :=
  s.setWrite n { w with stage := stage }

def setPool (s : PoolState) (k : Nat) (p : Pool) : PoolState :=
  { s with pools := s.pools.set k p }

def poolOf? (s : PoolState) (w : PooledWrite) : Option (Nat × Pool) := do
  let k ← w.pool
  return (k, ← s.pools[k]?)

def poolFor (s : PoolState) (maxConnections : Nat) (owner : UInt64) (addr : String) :
    Nat × PoolState :=
  let fresh : Nat × PoolState := (s.pools.length, { s with
    pools := s.pools ++ [{ addr := addr, free := bound maxConnections }]
    current := s.current.insert owner s.pools.length })
  match s.current.find? owner with
  | none => fresh
  | some k =>
    match s.pools[k]? with
    | some p => if p.addr = addr then (k, s) else fresh
    | none => fresh

def begin (s : PoolState) (owner : UInt64) : PoolState :=
  let stage : WriteStage := if s.closed then .ended (.error .closing) none else .started
  { s with writes := s.writes ++ [{ owner := owner, stage := stage }] }

/-- Takes the last idle connection that can be used again; those before it are dropped. -/
def takeIdle : List PooledConnection → Option PooledConnection × List PooledConnection
  | [] => (none, [])
  | c :: rest => if c.isReusable then (some c, rest) else takeIdle rest

def stepWrite (maxConnections : Nat) (s : PoolState) (n : Nat) (w : PooledWrite)
    (e : WriteEvent) : Option PoolState :=
  match e, w.stage with
  | .located, .started =>
    match s.addresses.find? w.owner with
    | some addr => some (s.setWrite n { w with addr := some addr, stage := .located })
    | none => some (s.atStage n w (.ended (.error .nodeNotFound) none))
  | .joined, .located => do
    let (k, s) := s.poolFor maxConnections w.owner (← w.addr)
    some (s.setWrite n { w with pool := some k, stage := .waiting })
  | .permitted, .waiting => do
    let (k, p) ← s.poolOf? w
    if p.isShut || p.free = 0 then none
    else some ((s.atStage n w .admitted).setPool k { p with free := p.free - 1 })
  | .exhausted, .waiting => some (s.atStage n w (.ended (.error .poolExhausted) none))
  | .refused, .waiting => do
    let (_, p) ← s.poolOf? w
    if p.isShut then some (s.atStage n w (.ended (.error .closing) none)) else none
  | .checkedOut, .admitted => do
    let (k, p) ← s.poolOf? w
    let (found, idle) := takeIdle p.idle
    match found with
    | some c => some ((s.atStage n w (.ready c true)).setPool k { p with idle := idle })
    | none => some ((s.atStage n w .dialing).setPool k { p with idle := idle })
  | .dialed, .dialing => do
    let (_, p) ← s.poolOf? w
    some (s.atStage n w (.ready { peer := p.addr } false))
  | .dialFailed cause, .dialing =>
    if cause.isOfConnection then some (s.atStage n w (.leaving (.error cause) none)) else none
  | .requested, .ready c reused => some (s.atStage n w (.sent (c.send n) reused))
  | .answered f, stage => (stage.onConnection (PooledConnection.answer? f)).map (s.atStage n w)
  | .peerClosed, stage => (stage.onConnection (some ·.closedByPeer)).map (s.atStage n w)
  | .received, .sent c _ =>
    match c.unread with
    | (write, f) :: rest =>
      match Exchange.ofFrame f with
      | .done _ => some (s.atStage n w (.returning { c with unread := rest } (!s.closed) ⟨write, c.peer, f⟩))
      | .stale cause | .failed cause => some (s.atStage n w (.leaving (.error cause) none))
    | [] => none
  | .foundStale cause, .ready _ reused =>
    if cause.hasSource then some (s.atStage n w (.whenStale cause reused)) else none
  | .foundStale cause, .sent c reused =>
    if cause.isReset || c.isFinished && cause = .ofIo .unexpectedEof then
      some (s.atStage n w (.whenStale cause reused))
    else none
  | .failed cause, .ready .. | .failed cause, .sent .. =>
    if cause.isOfConnection then some (s.atStage n w (.leaving (.error cause) none)) else none
  | .checkedIn, .returning c keep a => do
    let (k, p) ← s.poolOf? w
    let t := s.atStage n w (.leaving a.result (some a))
    if keep then some (t.setPool k { p with idle := c :: p.idle }) else some t
  | .left, .leaving result answer => do
    let (k, p) ← s.poolOf? w
    some ((s.atStage n w (.ended result answer)).setPool k { p with free := p.free + 1 })
  | _, _ => none

def onIdle (s : PoolState) (k position : Nat) (f : PooledConnection → Option PooledConnection) :
    Option PoolState := do
  let p ← s.pools[k]?
  let c ← f (← p.idle[position]?)
  return s.setPool k { p with idle := p.idle.set position c }

/-- The state after an event; none if the event cannot happen. Once the writer is closed, its pools
are forgotten, shut and emptied one after the other. -/
def step (maxConnections : Nat) (s : PoolState) : PoolEvent → Option PoolState
  | .moved owner addr => some { s with addresses := s.addresses.insert owner addr }
  | .removed owner => some { s with addresses := s.addresses.erase owner }
  | .began owner => some (s.begin owner)
  | .write n e => do s.stepWrite maxConnections n (← s.writes[n]?) e
  | .idleAnswered k position f => s.onIdle k position (PooledConnection.answer? f)
  | .idleClosed k position => s.onIdle k position (some ·.closedByPeer)
  | .closing => some { s with closed := true }
  | .forgot => if s.closed then some { s with current := ∅ } else none
  | .shut k => do
    let p ← s.pools[k]?
    if s.closed then some (s.setPool k { p with isShut := true }) else none
  | .drained k => do
    let p ← s.pools[k]?
    if p.isShut then some (s.setPool k { p with idle := [] }) else none

def run? (maxConnections : Nat) (s : PoolState) (events : List PoolEvent) : Option PoolState :=
  events.foldlM (step maxConnections) s

inductive Reachable (maxConnections : Nat) : PoolState → Prop
  | new (addresses : SortedMap UInt64 String) : Reachable maxConnections { addresses := addresses }
  | after {s t : PoolState} {e : PoolEvent} (reached : Reachable maxConnections s)
    (stepped : step maxConnections s e = some t) : Reachable maxConnections t

def inProgress (s : PoolState) (k : Nat) : Nat :=
  s.writes.countP fun w => w.pool = some k && w.stage.isInProgress

def connections (s : PoolState) (k : Nat) : Nat :=
  ((s.pools[k]?).map (·.idle.length)).getD 0
    + s.writes.countP fun w => w.pool = some k && w.stage.isConnecting

end PoolState

end SeriesCluster
