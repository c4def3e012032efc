import BlockPool.FaultyPool
import BlockPool.LinkedList.Basic
import BlockPool.Workload

/-! The commands of a session. Pools, lists, shadows, handles and nodes are named by the registers that hold
them, counted from zero in the order of their making. -/

set_option autoImplicit false

namespace BlockPool.Session

inductive HandleArg where
  | nothing
  | register (index : Nat)
  | literal (h : Handle)
deriving DecidableEq, Repr

-- Commands that need a handle; nothing is called without one.
inductive PayloadCommand where
  | read (offset len : Nat)
  | write (offset : Nat) (data : List UInt8)
  | payload
  -- combine every byte with this one by exclusive or
  | exclusiveOr (byte : UInt8)
  -- store a byte in front, then give up
  | storeAndStop (byte : UInt8)
  | usable
  | locate
  | lockedRecord
  | node
  | pokeNode (node : NodeBytes)

inductive PoolCommand where
  | deinit
  | isInitialized
  | live
  | usage
  | metricsRecord
  | usageRecord
  | blockTexts
  | record
  | alloc (size : Nat)
  | free (h : HandleArg)
  | resize (h : HandleArg) (size : Nat)
  | spoil (plan : FaultPlan)

inductive ListCommand where
  | pushBack (value : UInt16)
  | find (value : UInt16)
  | head
  | remove (value : UInt16)
  | length
  | isEmpty
  | take (count : Nat)
  | display
  | record
  -- the ends are named by their registers, and an empty one is no end
  | range (start stop : Option Nat)
  | clear
  | drop

inductive NodeCommand where
  | insertAfter (value : UInt16)
  | insertBefore (value : UInt16)
  | value

inductive ShadowCommand where
  | run (ops : List Op)
  | verify
  | release

inductive Command where
  | init (config : PoolConfig)
  | pool (pool : Nat) (command : PoolCommand)
  | payload (pool : Nat) (h : HandleArg) (command : PayloadCommand)
  | newList (pool : Nat)
  | list (list : Nat) (command : ListCommand)
  | node (list node : Nat) (command : NodeCommand)
  -- puts the handle of a node into a handle register
  | nodeHandle (pool node : Nat)
  | newShadow (pool : Nat)
  | shadow (pool shadow : Nat) (command : ShadowCommand)

end BlockPool.Session
