import BlockPool.LinkedList.Basic
import BlockPool.Pool
import BlockPool.Shadow.Heap

set_option autoImplicit false

namespace BlockPool.Session

inductive Reply where
  | nothing
  | done
  | flag (value : Bool)
  | count (value : Nat)
  | size (value : Option Nat)
  | handle (h : Option Handle)
  | value (value : Option UInt16)
  | values (values : List UInt16)
  | bytes (bytes : List UInt8)
  | text (text : String)
  | texts (texts : List String)
  | created (id : PoolId) (config : PoolConfig)
  | usage (usage : Option PoolUsage)
  | block (block : Option (BlockInfo × Nat × String))
  | node (node : NodeBytes)
  | rejected (e : ConfigError)
  | refused (e : AccessError)
  | diverged (d : Divergence)
  -- the command names an empty register
  | noHandle
  | noNode
  -- the command names no pool, list or shadow
  | noRegister
  | stopped (reason : Abort)

def Reply.access {α : Type} (answer : α → Reply) : Except AccessError α → Reply
  | .ok result => answer result
  | .error e => .refused e

def Reply.verdict : Verdict → Reply
  | .ok () => .done
  | .error d => .diverged d

structure PoolView where
  blocks : List BlockInfo
  metrics : Option PoolMetrics
  live : Nat
  check : Except Violation Unit

inductive ListView where
  | dropped
  | values (values : List UInt16)

-- The pool that a command worked on, and the list or the handles of the shadow if it worked on one.
structure View where
  pool : Option PoolView := none
  list : Option ListView := none
  shadow : Option (List Handle) := none

end BlockPool.Session
