import BlockPool.Heap

/-! A heap on the bench: its parts can be worked each by itself, and fields that no operation corrupts can
be set at will, to see what the operations and the checks make of that. Handles are named by the registers
that hold them, counted from zero in the order of their making. -/

set_option autoImplicit false

namespace BlockPool

structure Workbench where
  heap : Heap
  -- a pool whose handles this heap did not issue
  stranger : PoolId
  handles : Array (Option Handle)

namespace Workbench

variable {α : Type}

inductive HandleArg where
  | nothing
  | register (index : Nat)
  | literal (slot generation : UInt32)
deriving DecidableEq, Repr

structure HeaderEdit where
  offset : Option Nat := none
  size : Option Nat := none
  free : Option Bool := none
  prev : Option (Option BlockId) := none
  next : Option (Option BlockId) := none
deriving DecidableEq, Repr

inductive Poke where
  | header (id : BlockId) (edit : HeaderEdit)
  | capacity (capacity : Nat)
  | generation (slot : Nat) (generation : UInt32)
  | block (slot : Nat) (block : Option BlockId)
  | live (live : Nat)
deriving DecidableEq, Repr

inductive Command where
  -- the heap as a whole
  | alloc (size : Nat)
  | free (h : HandleArg)
  | resize (h : HandleArg) (size : Nat)
  | usable (h : HandleArg)
  | check
  -- headers alone, without rounding and without handles
  | place (size : Nat)
  | release (id : BlockId)
  | payload (id : BlockId)
  | checkRegistry
  | pushVacant (id : BlockId)
  | popVacant
  -- handles alone
  | insert (block : BlockId)
  | get (h : HandleArg)
  | remove (h : HandleArg)
  | liveBlocks
  -- looks up and removes a handle with the slot and the generation of `h` but of another pool
  | foreign (h : HandleArg)
  -- bytes alone; the first byte written is `byte` and each is one more than the byte before it
  | writeBytes (offset len : Nat) (byte : UInt8)
  | readBytes (offset len : Nat)
  | copyBytes (source target len : Nat)
  | clearBytes (offset len : Nat)
  | poke (poke : Poke)
deriving DecidableEq, Repr

inductive Reply where
  | nothing
  | handle (h : Option Handle)
  | size (size : Option Nat)
  | sound (result : Except Violation Unit)
  | placement (placement : Option Placement)
  | coalesce (coalesce : Option Coalesce)
  | range (offset len : Nat)
  | block (id : Option BlockId)
  | blocks (ids : List BlockId)
  | foreign (found removed : Option BlockId)
  | bytes (bytes : List UInt8)
  | stopped (reason : Abort)

def fresh (config : PoolConfig) : Step PoolCounter (Except ConfigError Workbench) := do
  match ← Step.ofExcept config.validate.run with
  | .error e => return .error e
  | .ok () =>
    let id ← PoolCounter.draw
    let stranger ← PoolCounter.draw
    let heap ← Heap.fresh id config
    return .ok ⟨heap, stranger, #[]⟩

def onHeap (step : Step Heap α) : Step Workbench α := fun ⟨heap, stranger, handles⟩ =>
  match step heap with
  | .ok value heap => .ok value ⟨heap, stranger, handles⟩
  | .error reason heap => .error reason ⟨heap, stranger, handles⟩

def pushHandle (h : Option Handle) : Step Workbench Unit := fun ⟨heap, stranger, handles⟩ =>
  .ok () ⟨heap, stranger, handles.push h⟩

def handle (bench : Workbench) : HandleArg → Option Handle
  | .nothing => none
  | .register index => bench.handles[index]?.join
  | .literal slot generation => some ⟨bench.heap.handles.pool, slot, generation⟩

-- Where there is no handle nothing is looked up, and nothing is found.
def lookUp (arg : HandleArg) (question : Handle → Step Workbench (Option α)) : Step Workbench (Option α) := do
  match (← get).handle arg with
  | none => return none
  | some h => question h

def HeaderEdit.apply (edit : HeaderEdit) (h : Header) : Header where
  offset := edit.offset.getD h.offset
  size := edit.size.getD h.size
  free := edit.free.getD h.free
  prev := edit.prev.getD h.prev
  next := edit.next.getD h.next

def adjustSlot (index : Nat) (change : Slot → Slot) : Step HandleTable Unit := do
  match (← get).slots[index]? with
  | none => throw .outOfRange
  | some slot => HandleTable.setSlot index (change slot)

def Poke.apply : Poke → Step Heap Unit
  | .header id edit => Heap.onRegistry (Registry.adjust id edit.apply)
  | .capacity bytes => Heap.onRegistry (modify fun r => { r with capacity := bytes })
  | .generation slot raised => Heap.onHandles (adjustSlot slot fun s => { s with generation := raised })
  | .block slot id => Heap.onHandles (adjustSlot slot fun s => { s with block := id })
  | .live count => Heap.onHandles (HandleTable.setLive count)

def ramp (byte : UInt8) (len : Nat) : List UInt8 := (List.range len).map fun i => byte + UInt8.ofNat i

-- The range is checked before its bytes are made.
def writeRamp (offset len : Nat) (byte : UInt8) : Step Arena Unit := do
  let _ ← Step.query fun arena => arena.slice offset len
  Arena.write offset (ramp byte len)

def answer : Command → Step Workbench Reply
  | .alloc size => do
    let h ← onHeap (Heap.alloc size)
    pushHandle h
    return .handle h
  | .free arg => do
    let h := (← get).handle arg
    onHeap (Heap.free h)
    return .nothing
  | .resize arg size => do
    let h := (← get).handle arg
    let resized ← onHeap (Heap.resize h size)
    pushHandle resized
    return .handle resized
  | .usable arg => return .size (← lookUp arg fun h => Step.query fun bench => bench.heap.usableSize h)
  | .check => return .sound (← Step.query fun bench => bench.heap.check.run)
  | .place size => return .placement (← onHeap (Heap.onRegistry (Registry.allocate size)))
  | .release id => return .coalesce (← onHeap (Heap.onRegistry (Registry.release id)))
  | .payload id => do
    let (offset, len) ← Step.query fun bench => bench.heap.registry.payload id
    return .range offset len
  | .checkRegistry => return .sound (← Step.query fun bench => bench.heap.registry.check.run)
  | .pushVacant id => do
    onHeap (Heap.onRegistry (Registry.pushVacant id))
    return .nothing
  | .popVacant => return .block (← onHeap (Heap.onRegistry Registry.popVacant))
  | .insert block => do
    let h ← onHeap (Heap.onHandles (HandleTable.insert block))
    pushHandle (some h)
    return .handle (some h)
  | .get arg => return .block (← lookUp arg fun h => return (← get).heap.handles.get? h)
  | .remove arg => return .block (← lookUp arg fun h => onHeap (Heap.onHandles (HandleTable.remove h)))
  | .liveBlocks => return .blocks (← get).heap.handles.liveBlocks
  | .foreign arg => do
    let pool := (← get).stranger
    let found ← lookUp arg fun h => return (← get).heap.handles.get? { h with pool }
    let removed ← lookUp arg fun h => onHeap (Heap.onHandles (HandleTable.remove { h with pool }))
    return .foreign found removed
  | .writeBytes offset len byte => do
    onHeap (Heap.onArena (writeRamp offset len byte))
    return .nothing
  | .readBytes offset len => do
    let bytes ← Step.query fun bench => bench.heap.arena.slice offset len
    return .bytes bytes.toList
  | .copyBytes source target len => do
    onHeap (Heap.onArena (Arena.copy source target len))
    return .nothing
  | .clearBytes offset len => do
    onHeap (Heap.onArena (Arena.clear offset len))
    return .nothing
  | .poke poke => do
    onHeap poke.apply
    return .nothing

-- A command that stops leaves the heap as it was at that moment.
def perform (command : Command) (bench : Workbench) : Reply × Workbench :=
  match Step.attempt (answer command) bench with
  | (.ok reply, bench) => (reply, bench)
  | (.error reason, bench) => (.stopped reason, bench)

-- The headers that are not vacant by their ids, the vacant ones, and the table behind the handles.
structure View where
  headers : List (BlockId × Header)
  vacant : List BlockId
  slots : List Slot
  vacated : List UInt32
  live : Nat

def view (bench : Workbench) : View where
  headers := (bench.heap.registry.headers.toList.zipIdx.map Prod.swap).filter fun entry =>
    !bench.heap.registry.vacant.contains entry.1
  vacant := bench.heap.registry.vacant
  slots := bench.heap.handles.slots.toList
  vacated := bench.heap.handles.vacated
  live := bench.heap.handles.live

def run : Workbench → List Command → List (Reply × View)
  | _, [] => []
  | bench, command :: rest =>
    let (reply, bench) := perform command bench
    (reply, bench.view) :: bench.run rest

end Workbench

end BlockPool
