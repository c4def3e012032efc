import BlockPool.Access
import BlockPool.Arena
import BlockPool.HandleTable
import BlockPool.Metrics
import BlockPool.Registry.Check
import BlockPool.Usage

/-! A heap: an arena, the headers that partition it, the handles issued for used blocks, and counters. Every
operation counts its call first, then decides, then changes; a refused call changes nothing but counters. -/

set_option autoImplicit false

namespace BlockPool

structure Heap where
  config : PoolConfig
  arena : Arena
  registry : Registry
  handles : HandleTable
  metrics : PoolMetrics

/-- A closure that is lent a payload of any length; it may change the bytes and not their number. -/
abbrev PayloadEdit (α : Type) := (len : Nat) → Step (Vector UInt8 len) α

namespace Heap

variable {α : Type}

def fresh (id : PoolId) (config : PoolConfig) : Except Abort Heap := do
  let registry ← Registry.single config
  return ⟨config, .zeroed config.capacity, registry, .empty id, {}⟩

def onArena (step : Step Arena α) : Step Heap α := fun ⟨config, arena, registry, handles, metrics⟩ =>
  match step arena with
  | .ok value arena => .ok value ⟨config, arena, registry, handles, metrics⟩
  | .error reason arena => .error reason ⟨config, arena, registry, handles, metrics⟩

def onRegistry (step : Step Registry α) : Step Heap α := fun ⟨config, arena, registry, handles, metrics⟩ =>
  match step registry with
  | .ok value registry => .ok value ⟨config, arena, registry, handles, metrics⟩
  | .error reason registry => .error reason ⟨config, arena, registry, handles, metrics⟩

def onHandles (step : Step HandleTable α) : Step Heap α := fun ⟨config, arena, registry, handles, metrics⟩ =>
  match step handles with
  | .ok value handles => .ok value ⟨config, arena, registry, handles, metrics⟩
  | .error reason handles => .error reason ⟨config, arena, registry, handles, metrics⟩

def tally (change : PoolMetrics → Except Abort PoolMetrics) : Step Heap Unit :=
  fun ⟨config, arena, registry, handles, metrics⟩ =>
    match change metrics with
    | .ok metrics => .ok () ⟨config, arena, registry, handles, metrics⟩
    | .error reason => .error reason ⟨config, arena, registry, handles, metrics⟩

def resolve (heap : Heap) (h : Handle) : Option BlockId := heap.handles.get? h

def usableSize (heap : Heap) (h : Handle) : Except Abort (Option Nat) :=
  match heap.resolve h with
  | none => .ok none
  | some id => do return some (← heap.registry.header id).size

def locate (heap : Heap) (h : Handle) : Except Abort (Option BlockInfo) :=
  match heap.resolve h with
  | none => .ok none
  | some id => do
    let (payloadOffset, size) ← heap.registry.payload id
    let header ← heap.registry.header id
    return some ⟨header.offset, payloadOffset, size, false⟩

def payloadRange (heap : Heap) (h : Handle) (offset len : Nat) : Except Abort (Except AccessError Nat) :=
  match heap.resolve h with
  | none => .ok (.error (.staleHandle h))
  | some id => do
    let (start, size) ← heap.registry.payload id
    match Word.add? offset len with
    | some stop =>
      if stop ≤ size then
        return .ok (← Word.add start offset)
      return .error (.outOfBounds offset len size)
    | none => return .error (.outOfBounds offset len size)

-- One entry of the check of the handles: `seen` are the blocks named by the slots before.
def inspectHandle (heap : Heap) (seen : List BlockId) (id : BlockId) : Check (List BlockId) := do
  let h ← heap.registry.header id
  if h.free then
    throw (.handleToFreeBlock h.offset)
  if seen.contains id then
    throw (.duplicateHandle h.offset)
  return id :: seen

def check (heap : Heap) : Check Unit := do
  heap.registry.check
  let usage ← heap.registry.usage
  if heap.arena.capacity ≠ usage.capacity then
    throw (.spanMismatch heap.arena.capacity usage.capacity)
  if usage.allocatedBlockCount ≠ heap.handles.live then
    throw (.handleMismatch heap.handles.live usage.allocatedBlockCount)
  let _ ← heap.handles.liveBlocks.foldlM heap.inspectHandle []

def refuseAlloc : Step Heap (Option (Handle × BlockId)) := do
  tally fun m => return { m with allocFailures := ← Word.add m.allocFailures 1 }
  return none

def handOut (placement : Placement) : Step Heap (Handle × BlockId) := do
  if placement.split then
    tally fun m => return { m with splits := ← Word.add m.splits 1 }
  if (← get).config.zeroOnAlloc then
    let (offset, len) ← Step.query fun heap => heap.registry.payload placement.id
    onArena (Arena.clear offset len)
  let handle ← onHandles (HandleTable.insert placement.id)
  return (handle, placement.id)

def allocBlock (size : Nat) : Step Heap (Option (Handle × BlockId)) := do
  tally fun m => return { m with allocCalls := ← Word.add m.allocCalls 1 }
  if size = 0 then
    tally fun m => return { m with zeroSizeRequests := ← Word.add m.zeroSizeRequests 1 }
    return none
  match ← Step.query fun heap => heap.config.alignUp size with
  | none => refuseAlloc
  | some aligned =>
    match ← onRegistry (Registry.allocate aligned) with
    | none => refuseAlloc
    | some placement => return some (← handOut placement)

def alloc (size : Nat) : Step Heap (Option Handle) := do
  return (← allocBlock size).map Prod.fst

def surrender (h : Option Handle) : Step Heap (Option BlockId) :=
  match h with
  | none => return none
  | some h => onHandles (HandleTable.remove h)

def expectFree (heap : Heap) (id : BlockId) : Except Abort Unit := do
  if (← heap.registry.header id).free then
    return ()
  throw .assertion

def free (h : Option Handle) : Step Heap Unit := do
  tally fun m => return { m with freeCalls := ← Word.add m.freeCalls 1 }
  match ← surrender h with
  | none => tally fun m => return { m with ignoredFrees := ← Word.add m.ignoredFrees 1 }
  | some id =>
    match ← onRegistry (Registry.release id) with
    | none => return
    | some coalesce =>
      Step.query fun heap => heap.expectFree coalesce.survivor
      tally fun m => return { m with merges := ← Word.add m.merges coalesce.merges }

-- The old block is given back only when the bytes have been copied.
def move (h : Handle) (oldOffset oldLen size : Nat) : Step Heap (Option Handle) := do
  match ← allocBlock size with
  | none =>
    tally fun m => return { m with resizeFailures := ← Word.add m.resizeFailures 1 }
    return none
  | some (moved, id) =>
    let (offset, _) ← Step.query fun heap => heap.registry.payload id
    onArena (Arena.copy oldOffset offset oldLen)
    free (some h)
    tally fun m => return { m with resizeMoved := ← Word.add m.resizeMoved 1 }
    return some moved

def resize (h : Option Handle) (size : Nat) : Step Heap (Option Handle) := do
  tally fun m => return { m with resizeCalls := ← Word.add m.resizeCalls 1 }
  match h with
  | none => alloc size
  | some h =>
    if size = 0 then
      free (some h)
      return none
    match (← get).resolve h with
    | none => return none
    | some id =>
      let (offset, len) ← Step.query fun heap => heap.registry.payload id
      if size ≤ len then
        tally fun m => return { m with resizeInPlace := ← Word.add m.resizeInPlace 1 }
        return some h
      move h offset len size

def read (h : Handle) (offset len : Nat) : Step Heap (Except AccessError (Vector UInt8 len)) := do
  match ← Step.query fun heap => heap.payloadRange h offset len with
  | .error e => return .error e
  | .ok start => return .ok (← Step.query fun heap => heap.arena.slice start len)

def write (h : Handle) (offset : Nat) (data : List UInt8) : Step Heap (Except AccessError Unit) := do
  match ← Step.query fun heap => heap.payloadRange h offset data.length with
  | .error e => return .error e
  | .ok start =>
    onArena (Arena.write start data)
    return .ok ()

def withPayload (h : Handle) (look : (len : Nat) → Vector UInt8 len → α) : Step Heap (Except AccessError α) := do
  match (← get).resolve h with
  | none => return .error (.staleHandle h)
  | some id =>
    let (start, len) ← Step.query fun heap => heap.registry.payload id
    let bytes ← Step.query fun heap => heap.arena.slice start len
    return .ok (look len bytes)

-- What the closure wrote stays also if it gives up.
def editPayload (h : Handle) (edit : PayloadEdit α) : Step Heap (Except AccessError α) := do
  match (← get).resolve h with
  | none => return .error (.staleHandle h)
  | some id =>
    let (start, len) ← Step.query fun heap => heap.registry.payload id
    let bytes ← Step.query fun heap => heap.arena.slice start len
    match edit len bytes with
    | .ok value bytes =>
      onArena (Arena.write start bytes.toList)
      return .ok value
    | .error reason bytes =>
      onArena (Arena.write start bytes.toList)
      throw reason

end Heap

end BlockPool
