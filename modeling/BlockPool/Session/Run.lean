import BlockPool.Session.Command
import BlockPool.Session.Reply

/-! Running commands on pools, lists and shadows that share one journal. A command that stops leaves all as
it was at that moment, and the next one goes on from there. -/

set_option autoImplicit false

namespace BlockPool.Session

structure ListRegister where
  pool : Nat
  list : Option LinkedList

structure State where
  counter : PoolCounter := {}
  pools : Array (Option FaultyPool) := #[]
  lists : Array ListRegister := #[]
  shadows : Array ShadowHeap := #[]
  handles : Array (Option Handle) := #[]
  nodes : Array (Option NodeRef) := #[]
  journal : Journal := #[]

namespace State

variable {α : Type}

def handle (s : State) : HandleArg → Option Handle
  | .nothing => none
  | .register index => s.handles[index]?.join
  | .literal h => some h

def node (s : State) (index : Nat) : Option NodeRef := s.nodes[index]?.join

def nodeArg (s : State) (index : Option Nat) : Option NodeRef := index.bind s.node

def putBack (s : State) (index : Nat) (pool : FaultyPool) : State :=
  let { pool := inner, plan, calls, lastIssued } := pool
  { s with
    pools := s.pools.setIfInBounds index (some ⟨{ inner with journal := #[] }, plan, calls, lastIssued⟩)
    journal := s.journal ++ inner.journal }

def onPool (index : Nat) (step : Step FaultyPool α) : Step State (Option α) := fun s =>
  match s.pools[index]?.join with
  | none => .ok none s
  | some pool =>
    let s := { s with pools := s.pools.setIfInBounds index none }
    match step pool with
    | .ok value pool => .ok (some value) (s.putBack index pool)
    | .error reason pool => .error reason (s.putBack index pool)

def pushHandle (h : Option Handle) : Step State Unit :=
  modify fun s => { s with handles := s.handles.push h }

def pushNode (node : Option NodeRef) : Step State Unit :=
  modify fun s => { s with nodes := s.nodes.push node }

def setList (index : Nat) (register : ListRegister) : Step State Unit :=
  modify fun s => { s with lists := s.lists.setIfInBounds index register }

def setShadow (index : Nat) (shadow : ShadowHeap) : Step State Unit :=
  modify fun s => { s with shadows := s.shadows.setIfInBounds index shadow }

end State

open State

def orNoRegister (reply : Option Reply) : Reply := reply.getD .noRegister

def create (config : PoolConfig) : Step State Reply := do
  let counter := (← get).counter
  match Step.attempt (Pool.init config) counter with
  | (.error reason, _) => throw reason
  | (.ok (.error e), _) =>
    modify fun s => { s with pools := s.pools.push none }
    return .rejected e
  | (.ok (.ok pool), counter) =>
    let index := (← get).pools.size
    modify fun s => ({ s with counter, pools := s.pools.push none }).putBack index { pool }
    return .created pool.id pool.config

def describeBlock (block : BlockInfo) : Except Abort (BlockInfo × Nat × String) := do
  let stop ← block.stop
  let text ← block.text
  return (block, stop, text)

def answerPayload (h : Handle) : PayloadCommand → Step Pool Reply
  | .read offset len => do
    return .access (fun bytes => .bytes bytes.toList) (← Pool.read h offset len)
  | .write offset data => do
    return .access (fun _ => .done) (← Pool.write h offset data)
  | .payload => do
    return .access .bytes (← Pool.withPayload h fun _ bytes => bytes.toList)
  | .exclusiveOr byte => do
    return .access .count (← Pool.editPayload h fun len bytes => .ok len (bytes.map (· ^^^ byte)))
  | .storeAndStop byte => do
    let stopped : Except AccessError Unit ← Pool.editPayload h fun _ bytes =>
      .error .closure (bytes.setIfInBounds 0 byte)
    return .access (fun _ => .nothing) stopped
  | .usable => return .size (← Pool.usableSize h)
  | .locate => do
    match ← Pool.locate h with
    | none => return .block none
    | some block => return .block (some (← describeBlock block))
  | .lockedRecord => do
    let text := (← get).lockedRecord
    return .access .text (← Pool.withPayload h fun _ _ => text)
  | .node => do
    return .access (fun bytes => .node (NodeBytes.decode bytes)) (← Pool.read h 0 Node.encodedLength)
  | .pokeNode node => do
    return .access (fun _ => .done) (← Pool.write h 0 node.encode.toList)

def answerPool (h : HandleArg → Option Handle) : PoolCommand → Step Pool Reply
  | .deinit => do
    Pool.deinit
    return .nothing
  | .isInitialized => return .flag (← Pool.isInitialized)
  | .live => return .count (← Pool.liveAllocations)
  | .usage => return .usage (← Pool.usage)
  | .metricsRecord => return .text (Text.optional PoolMetrics.record (← Pool.metrics))
  | .usageRecord => return .text (Text.optional PoolUsage.record (← Pool.usage))
  | .blockTexts => do
    let texts ← (← Pool.blocks).mapM fun block => Step.ofExcept block.text
    return .texts texts
  | .record => return .text (← get).record
  | .alloc size => return .handle (← Pool.alloc size)
  | .free arg => do
    Pool.free (h arg)
    return .nothing
  | .resize arg size => return .handle (← Pool.resize (h arg) size)
  -- a plan concerns the clients of a pool and not the pool
  | .spoil _ => return .nothing

def poolCommand (index : Nat) (command : PoolCommand) : Step State Reply := do
  let s ← get
  let arg := s.handle
  let reply ← onPool index do
    if let .spoil plan := command then
      FaultyPool.follow plan
    FaultyPool.direct (answerPool arg command)
  match reply with
  | some (.handle h) => pushHandle h
  | _ => pure ()
  return orNoRegister reply

-- Whether there is a handle is asked before the pool is looked for.
def payloadCommand (index : Nat) (arg : HandleArg) (command : PayloadCommand) : Step State Reply := do
  match (← get).handle arg with
  | none => return .noHandle
  | some h => return orNoRegister (← onPool index (FaultyPool.direct (answerPayload h command)))

-- The list as it is now, the answer, and whether a node register is filled.
structure ListOutcome where
  list : LinkedList
  reply : Reply
  node : Option (Option NodeRef) := none

def nodeOutcome (result : LinkedList × Option NodeRef) : ListOutcome :=
  { list := result.1, reply := .handle (result.2.map NodeRef.handle), node := some result.2 }

def answerList (node : Nat → Option NodeRef) (command : ListCommand) (l : LinkedList) : Step FaultyPool ListOutcome :=
  match command with
  | .pushBack value => return nodeOutcome (← l.pushBack value)
  | .find value => return nodeOutcome (l, ← l.find value)
  | .head => return nodeOutcome (l, l.first)
  | .remove value => do
    let (l, removed) ← l.remove value
    return { list := l, reply := .flag removed }
  | .length => return { list := l, reply := .count (← l.length) }
  | .isEmpty => return { list := l, reply := .flag l.isEmpty }
  | .take count => return { list := l, reply := .values (← l.take count) }
  | .display => return { list := l, reply := .text (← l.display) }
  | .record => return { list := l, reply := .text (← l.record) }
  | .range start stop => return { list := l, reply := .text (← l.displayRange (start.bind node) (stop.bind node)) }
  | .clear => return { list := ← l.clear, reply := .nothing }
  | .drop => return { list := ← l.clear, reply := .nothing }

def answerNode (node : NodeRef) (command : NodeCommand) (l : LinkedList) : Step FaultyPool ListOutcome :=
  match command with
  | .insertAfter value => return nodeOutcome (← l.insertAfter node value)
  | .insertBefore value => return nodeOutcome (← l.insertBefore node value)
  | .value => return { list := l, reply := .value (← l.value node) }

def onList (index : Nat) (dropped : Bool) (step : LinkedList → Step FaultyPool ListOutcome) : Step State Reply := do
  match (← get).lists[index]? with
  | some ⟨pool, some l⟩ =>
    match ← onPool pool (step l) with
    | none => return .noRegister
    | some outcome =>
      setList index ⟨pool, if dropped then none else some outcome.list⟩
      match outcome.node with
      | some node => pushNode node
      | none => pure ()
      return outcome.reply
  | _ => return .noRegister

def listCommand (index : Nat) (command : ListCommand) : Step State Reply := do
  let node := (← get).node
  let dropped := match command with
    | .drop => true
    | _ => false
  onList index dropped (answerList node command)

-- Whether there is a node is asked before the list is looked for.
def nodeCommand (index node : Nat) (command : NodeCommand) : Step State Reply := do
  match (← get).node node with
  | some anchor => onList index false (answerNode anchor command)
  | none =>
    match command with
    | .value => pure ()
    | _ => pushNode none
    return .noNode

def newList (pool : Nat) : Step State Reply := do
  let index := (← get).lists.size
  modify fun s => { s with lists := s.lists.push ⟨pool, some {}⟩ }
  return .count index

def nodeHandle (index : Nat) : Step State Reply := do
  let h := ((← get).node index).map NodeRef.handle
  pushHandle h
  return .handle h

def answerShadow (shadow : ShadowHeap) : ShadowCommand → Step FaultyPool (ShadowHeap × Verdict)
  | .run ops => shadow.run ops
  | .verify => return (shadow, ← shadow.verify)
  | .release => shadow.releaseAll

def shadowCommand (pool index : Nat) (command : ShadowCommand) : Step State Reply := do
  match (← get).shadows[index]? with
  | none => return .noRegister
  | some shadow =>
    match ← onPool pool (answerShadow shadow command) with
    | none => return .noRegister
    | some (shadow, verdict) =>
      setShadow index shadow
      return .verdict verdict

def newShadow : Step State Reply := do
  let index := (← get).shadows.size
  modify fun s => { s with shadows := s.shadows.push {} }
  return .count index

def answer : Command → Step State Reply
  | .init config => create config
  | .pool index command => poolCommand index command
  | .payload index arg command => payloadCommand index arg command
  | .newList pool => newList pool
  | .list index command => listCommand index command
  | .node index node command => nodeCommand index node command
  | .nodeHandle _ index => nodeHandle index
  | .newShadow _ => newShadow
  | .shadow pool index command => shadowCommand pool index command

def perform (command : Command) (s : State) : Reply × State :=
  match Step.attempt (answer command) s with
  | (.ok reply, s) => (reply, s)
  | (.error reason, s) => (.stopped reason, s)

def viewPool : Step Pool PoolView := do
  let blocks ← Pool.blocks
  let metrics ← Pool.metrics
  let live ← Pool.liveAllocations
  let check ← Pool.checkInvariants
  return { blocks, metrics, live, check }

def shownValues : Nat := 64

def viewList (index : Nat) : Step State (Option ListView) := do
  match (← get).lists[index]? with
  | none => return none
  | some ⟨_, none⟩ => return some .dropped
  | some ⟨pool, some l⟩ => return (← onPool pool (l.take shownValues)).map .values

def poolOf (s : State) : Command → Option Nat
  | .init _ => some (s.pools.size - 1)
  | .pool pool _ => some pool
  | .payload pool _ _ => some pool
  | .newList pool => some pool
  | .list index _ => s.lists[index]?.map ListRegister.pool
  | .node index _ _ => s.lists[index]?.map ListRegister.pool
  | .nodeHandle pool _ => some pool
  | .newShadow pool => some pool
  | .shadow pool _ _ => some pool

-- The looks are calls like any other, and a pool or a plan may notice them.
def look (command : Command) : Step State View := do
  let pool ← match poolOf (← get) command with
    | some index => onPool index (FaultyPool.direct viewPool)
    | none => pure none
  match command with
  | .list index _ => return { pool, list := ← viewList index }
  | .node index _ _ => return { pool, list := ← viewList index }
  | .shadow _ index _ => return { pool, shadow := (← get).shadows[index]?.map ShadowHeap.handles }
  | _ => return { pool }

def observe (command : Command) (s : State) : View × State :=
  match Step.attempt (look command) s with
  | (.ok view, s) => (view, s)
  | (.error _, s) => ({}, s)

def runObserved : State → List Command → List (Reply × View) × State
  | s, [] => ([], s)
  | s, command :: rest =>
    let (reply, s) := perform command s
    let (view, s) := observe command s
    let (replies, s) := runObserved s rest
    ((reply, view) :: replies, s)

def run : State → List Command → List Reply × State
  | s, [] => ([], s)
  | s, command :: rest =>
    let (reply, s) := perform command s
    let (replies, s) := run s rest
    (reply :: replies, s)

def viewPools : Nat → State → List (Option PoolView) × State
  | 0, s => ([], s)
  | count + 1, s =>
    let (views, s) := viewPools count s
    match Step.attempt (onPool count (FaultyPool.direct viewPool)) s with
    | (.ok view, s) => (views ++ [view], s)
    | (.error _, s) => (views ++ [none], s)

def close (s : State) : List (Option PoolView) × State := viewPools s.pools.size s

end BlockPool.Session
