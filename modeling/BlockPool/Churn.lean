import BlockPool.Pool
import BlockPool.Workload

/-! A pool left fragmented by a sequence of calls, with the handles that are still live. A call that picks
an allocation is left out while none is live. -/

set_option autoImplicit false

namespace BlockPool

namespace PoolConfig

def referenceCapacity : Nat := 1024 * 1024

-- One mebibyte that is not cleared, so that time goes into bookkeeping.
def reference (fit : FitPolicy) : PoolConfig := { capacity := referenceCapacity, fit, zeroOnAlloc := false }

end PoolConfig

namespace Churn

-- The last handle takes the place of the one that goes.
def swapRemove (live : Array Handle) (index : Nat) : Array Handle :=
  match live.back? with
  | none => live
  | some last => (live.setIfInBounds index last).pop

def chosen (live : Array Handle) (pick : Nat) : Option (Nat × Handle) :=
  let index := pick % live.size
  live[index]?.map fun h => (index, h)

def step (live : Array Handle) : Op → Step Pool (Array Handle)
  | .alloc size => do
    match ← Pool.alloc size with
    | some h => return live.push h
    | none => return live
  | .free pick => do
    match chosen live pick with
    | none => return live
    | some (index, h) =>
      Pool.free (some h)
      return swapRemove live index
  | .resize pick size => do
    match chosen live pick with
    | none => return live
    | some (index, h) =>
      match ← Pool.resize (some h) size with
      | some moved => return live.setIfInBounds index moved
      | none => return if size = 0 then swapRemove live index else live

def replay : Array Handle → List Op → Step Pool (Array Handle)
  | live, [] => return live
  | live, op :: rest => do
    let live ← step live op
    replay live rest

def build (config : PoolConfig) (seed : UInt64) (steps maxSize : Nat) :
    Step PoolCounter (Except ConfigError (Pool × Array Handle)) := do
  match ← Pool.init config with
  | .error e => return .error e
  | .ok pool =>
    match replay #[] (Workload.random seed steps maxSize) pool with
    | .ok live pool => return .ok (pool, live)
    | .error reason _ => throw reason

end Churn

end BlockPool
