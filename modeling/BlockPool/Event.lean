import BlockPool.Config
import BlockPool.Handle

/-! What pools and lists report while they work. Events are kept in the state that reports them, oldest
first. -/

set_option autoImplicit false

namespace BlockPool

inductive Level where
  | trace
  | debug
  | warn
deriving DecidableEq, Repr

def Level.text : Level → String
  | .trace => "TRACE"
  | .debug => "DEBUG"
  | .warn => "WARN"

inductive Event where
  | initialized (pool : PoolId) (config : PoolConfig) (maxBlocks : Nat)
  | deinitialized (pool : PoolId) (liveAllocations : Nat)
  | lockRecovered (pool : PoolId)
  | noMemory (value : UInt16)
  | noAnchor (value : UInt16)
deriving DecidableEq, Repr

namespace Event

def level : Event → Level
  | .initialized _ _ _ => .debug
  | .deinitialized _ _ => .debug
  | .lockRecovered _ => .warn
  | .noMemory _ => .trace
  | .noAnchor _ => .trace

def message : Event → String
  | .initialized _ _ _ => "memory pool initialized"
  | .deinitialized _ _ => "memory pool deinitialized"
  | .lockRecovered _ => "recovering pool lock poisoned by a panicking thread"
  | .noMemory _ => "list insert skipped: no memory for node"
  | .noAnchor _ => "list insert skipped: anchor node not in list"

def fields : Event → List Text.Field
  | .initialized pool config maxBlocks =>
    [("pool", pool.text), ("capacity", toString config.capacity), ("header_overhead", toString config.headerOverhead),
     ("alignment", toString config.alignment), ("fit", config.fit.record), ("max_blocks", toString maxBlocks)]
  | .deinitialized pool live => [("pool", pool.text), ("live_allocations", toString live)]
  | .lockRecovered pool => [("pool", pool.text)]
  | .noMemory value => [("value", toString value.toNat)]
  | .noAnchor value => [("value", toString value.toNat)]

end Event

abbrev Journal := Array Event

class Journaled (σ : Type) where
  note : Event → σ → σ

def report {σ : Type} [Journaled σ] (event : Event) : Step σ Unit := fun state =>
  .ok () (Journaled.note event state)

end BlockPool
