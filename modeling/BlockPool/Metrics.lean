import BlockPool.Word
import BlockPool.Text.Record

/-! Counters of what was asked of a heap and what came of it. They only grow. -/

set_option autoImplicit false

namespace BlockPool

structure PoolMetrics where
  allocCalls : Nat := 0
  allocFailures : Nat := 0
  zeroSizeRequests : Nat := 0
  freeCalls : Nat := 0
  -- frees of no handle, or of one that does not resolve
  ignoredFrees : Nat := 0
  splits : Nat := 0
  merges : Nat := 0
  resizeCalls : Nat := 0
  resizeInPlace : Nat := 0
  resizeMoved : Nat := 0
  resizeFailures : Nat := 0
deriving DecidableEq, Repr, Inhabited

namespace PoolMetrics

def fields (m : PoolMetrics) : List (String × Nat) :=
  [("alloc_calls", m.allocCalls), ("alloc_failures", m.allocFailures), ("zero_size_requests", m.zeroSizeRequests),
   ("free_calls", m.freeCalls), ("ignored_frees", m.ignoredFrees), ("splits", m.splits), ("merges", m.merges),
   ("resize_calls", m.resizeCalls), ("resize_in_place", m.resizeInPlace), ("resize_moved", m.resizeMoved),
   ("resize_failures", m.resizeFailures)]

def record (m : PoolMetrics) : String := Text.record "PoolMetrics" (m.fields.map fun f => (f.1, toString f.2))

end PoolMetrics

end BlockPool
