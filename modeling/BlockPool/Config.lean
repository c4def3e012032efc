import BlockPool.Word
import BlockPool.Text.Record

/-! Parameters of a pool and the conditions on them. The alignment is a power of two, it divides the header
overhead, the capacity is at most the greatest signed word and more than one header, and the worst-case
block count fits the handle table. `PoolConfig.validate` reports the first condition that fails, in this
order. -/

set_option autoImplicit false

namespace BlockPool

inductive FitPolicy where
  | bestFit
  | firstFit
deriving DecidableEq, Repr, Inhabited

def FitPolicy.record : FitPolicy → String
  | .bestFit => "BestFit"
  | .firstFit => "FirstFit"

inductive ConfigError where
  | alignmentNotPowerOfTwo (alignment : Nat)
  | headerMisaligned (headerOverhead alignment : Nat)
  | capacityTooSmall (capacity minimum : Nat)
  | capacityOverflow (capacity : Nat)
  | tooManyBlocks (maxBlocks : Nat)
deriving DecidableEq, Repr

namespace ConfigError

def name : ConfigError → String
  | .alignmentNotPowerOfTwo _ => "AlignmentNotPowerOfTwo"
  | .headerMisaligned _ _ => "HeaderMisaligned"
  | .capacityTooSmall _ _ => "CapacityTooSmall"
  | .capacityOverflow _ => "CapacityOverflow"
  | .tooManyBlocks _ => "TooManyBlocks"

def fields : ConfigError → List Text.Field
  | .alignmentNotPowerOfTwo alignment => [("alignment", toString alignment)]
  | .headerMisaligned overhead alignment => [("header_overhead", toString overhead), ("alignment", toString alignment)]
  | .capacityTooSmall capacity minimum => [("capacity", toString capacity), ("minimum", toString minimum)]
  | .capacityOverflow capacity => [("capacity", toString capacity)]
  | .tooManyBlocks blocks => [("max_blocks", toString blocks)]

def record (e : ConfigError) : String := Text.record e.name e.fields

def message : ConfigError → String
  | .alignmentNotPowerOfTwo alignment => s!"alignment {alignment} is not a power of two"
  | .headerMisaligned overhead alignment => s!"header overhead {overhead} is not a multiple of alignment {alignment}"
  | .capacityTooSmall capacity minimum => s!"capacity {capacity} bytes is too small: need at least {minimum} bytes"
  | .capacityOverflow capacity => s!"capacity {capacity} bytes exceeds isize::MAX"
  | .tooManyBlocks blocks => s!"worst-case block count {blocks} exceeds the handle table limit"

end ConfigError

structure PoolConfig where
  -- bytes of the arena, headers included
  capacity : Nat
  -- bytes of the arena charged to every block ahead of its payload
  headerOverhead : Nat := 16
  -- payload sizes and offsets are multiples of this
  alignment : Nat := 8
  fit : FitPolicy := .bestFit
  -- fill a payload with zeros when it is handed out
  zeroOnAlloc : Bool := true
deriving DecidableEq, Repr

def PoolConfig.standard : PoolConfig := { capacity := 64 * 1024 }

instance : Inhabited PoolConfig := ⟨.standard⟩

def isPowerOfTwo (n : Nat) : Bool := n == 1 <<< n.log2

namespace PoolConfig

-- The greatest size of one buffer, and the number of handle slots that have a name.
def capacityLimit : Nat := Word.bound / 2 - 1
def blockLimit : Nat := UInt32.size - 1

def minimumCapacity (c : PoolConfig) : Nat := Word.addCapped c.headerOverhead 1

-- Every block but the last holds a header and one unit of payload, so this many blocks are enough.
def maxBlocks (c : PoolConfig) : Except Abort Nat := do
  let span ← Word.add c.headerOverhead c.alignment
  let full ← Word.div c.capacity span
  Word.add full 1

def alignUp (c : PoolConfig) (size : Nat) : Except Abort (Option Nat) := do
  let mask ← Word.sub c.alignment 1
  return (Word.add? size mask).map fun padded => Word.clear padded mask

def validate (c : PoolConfig) : ExceptT ConfigError (Except Abort) Unit := do
  unless isPowerOfTwo c.alignment do
    throw (.alignmentNotPowerOfTwo c.alignment)
  let excess ← Word.mod c.headerOverhead c.alignment
  unless excess = 0 do
    throw (.headerMisaligned c.headerOverhead c.alignment)
  unless c.capacity ≤ capacityLimit do
    throw (.capacityOverflow c.capacity)
  unless c.minimumCapacity ≤ c.capacity do
    throw (.capacityTooSmall c.capacity c.minimumCapacity)
  let blocks ← c.maxBlocks
  unless blocks ≤ blockLimit do
    throw (.tooManyBlocks blocks)

def record (c : PoolConfig) : String :=
  Text.record "PoolConfig"
    [("capacity", toString c.capacity), ("header_overhead", toString c.headerOverhead),
     ("alignment", toString c.alignment), ("fit", c.fit.record), ("zero_on_alloc", Text.truth c.zeroOnAlloc)]

end PoolConfig

end BlockPool
