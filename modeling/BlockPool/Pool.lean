import BlockPool.Allocator
import BlockPool.Event
import BlockPool.Heap

/-! A pool: a heap that exists from `Pool.init` to `Pool.deinit`, behind a lock. Every operation takes the
lock once. If an operation stops while it holds the lock, the lock is poisoned: the next operation reports
that, clears it and goes on with the heap as it was left. After `Pool.deinit` allocation answers nothing,
access fails, and all views are empty. -/

set_option autoImplicit false

namespace BlockPool

structure Pool where
  id : PoolId
  config : PoolConfig
  heap : Option Heap
  poisoned : Bool := false
  journal : Journal := #[]

instance : Journaled Pool where
  note event pool := { pool with journal := pool.journal.push event }

namespace Pool

variable {α : Type}

-- A rejected configuration draws no id.
def init (config : PoolConfig) : Step PoolCounter (Except ConfigError Pool) := do
  match ← Step.ofExcept config.validate.run with
  | .error e => return .error e
  | .ok () =>
    let id ← PoolCounter.draw
    let heap ← Heap.fresh id config
    let maxBlocks ← config.maxBlocks
    return .ok { id, config, heap := some heap, journal := #[.initialized id config maxBlocks] }

def locked (step : Step (Option Heap) α) : Step Pool α := fun ⟨id, config, heap, poisoned, journal⟩ =>
  let journal := if poisoned then journal.push (.lockRecovered id) else journal
  match step heap with
  | .ok value heap => .ok value ⟨id, config, heap, false, journal⟩
  | .error reason heap => .error reason ⟨id, config, heap, true, journal⟩

def onHeap (absent : α) (step : Step Heap α) : Step Pool α :=
  locked fun heap =>
    match heap with
    | none => .ok absent none
    | some heap =>
      match step heap with
      | .ok value heap => .ok value (some heap)
      | .error reason heap => .error reason (some heap)

def onPayload (step : Step Heap (Except AccessError α)) : Step Pool (Except AccessError α) :=
  onHeap (.error .uninitialized) step

def alloc (size : Nat) : Step Pool (Option Handle) := onHeap none (Heap.alloc size)

def free (h : Option Handle) : Step Pool Unit := onHeap () (Heap.free h)

def resize (h : Option Handle) (size : Nat) : Step Pool (Option Handle) := onHeap none (Heap.resize h size)

def deinit : Step Pool Unit := do
  let live ← locked fun heap => .ok (heap.map fun heap => heap.handles.live) none
  match live with
  | none => return
  | some live => report (.deinitialized (← get).id live)

def read (h : Handle) (offset len : Nat) : Step Pool (Except AccessError (Vector UInt8 len)) :=
  onPayload (Heap.read h offset len)

def write (h : Handle) (offset : Nat) (data : List UInt8) : Step Pool (Except AccessError Unit) :=
  onPayload (Heap.write h offset data)

def withPayload (h : Handle) (look : (len : Nat) → Vector UInt8 len → α) : Step Pool (Except AccessError α) :=
  onPayload (Heap.withPayload h look)

def editPayload (h : Handle) (edit : PayloadEdit α) : Step Pool (Except AccessError α) :=
  onPayload (Heap.editPayload h edit)

def isInitialized : Step Pool Bool := locked fun heap => .ok heap.isSome heap

def usableSize (h : Handle) : Step Pool (Option Nat) := onHeap none (Step.query fun heap => heap.usableSize h)

def locate (h : Handle) : Step Pool (Option BlockInfo) := onHeap none (Step.query fun heap => heap.locate h)

def liveAllocations : Step Pool Nat := onHeap 0 (Step.query fun heap => .ok heap.handles.live)

def metrics : Step Pool (Option PoolMetrics) := onHeap none (Step.query fun heap => .ok (some heap.metrics))

def usage : Step Pool (Option PoolUsage) := onHeap none (Step.query fun heap => heap.registry.usage.map some)

def blocks : Step Pool (List BlockInfo) := onHeap [] (Step.query fun heap => heap.registry.blocks)

def checkInvariants : Step Pool (Except Violation Unit) := onHeap (.ok ()) (Step.query fun heap => heap.check.run)

def recordWith (pool : Pool) (live : String) : String :=
  Text.record "MemoryPool" [("id", pool.id.record), ("config", pool.config.record), ("live_allocations", live)]

-- Looks past a poisoned lock and leaves it poisoned.
def record (pool : Pool) : String :=
  pool.recordWith (toString (match pool.heap with
    | some heap => heap.handles.live
    | none => 0))

-- While the lock is held the count cannot be seen.
def lockedRecord (pool : Pool) : String := pool.recordWith "<locked>"

end Pool

instance : BlockAllocator Pool where
  alloc := Pool.alloc
  free := Pool.free
  resize := Pool.resize
  read := Pool.read
  write := Pool.write
  usableSize := Pool.usableSize

end BlockPool
