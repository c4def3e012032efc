import BlockPool.Registry.Basic

set_option autoImplicit false

namespace BlockPool

structure BlockInfo where
  offset : Nat
  payloadOffset : Nat
  size : Nat
  free : Bool
deriving DecidableEq, Repr

namespace BlockInfo

def stop (b : BlockInfo) : Except Abort Nat := Word.add b.payloadOffset b.size

def text (b : BlockInfo) : Except Abort String := do
  let stop ← b.stop
  let state := if b.free then "free" else "used"
  return s!"[{b.payloadOffset}..{stop}) {b.size} bytes {state}"

def record (b : BlockInfo) : String :=
  Text.record "BlockInfo"
    [("offset", toString b.offset), ("payload_offset", toString b.payloadOffset), ("size", toString b.size),
     ("free", Text.truth b.free)]

end BlockInfo

structure PoolUsage where
  capacity : Nat := 0
  blockCount : Nat := 0
  freeBlockCount : Nat := 0
  allocatedBlockCount : Nat := 0
  usedBytes : Nat := 0
  freeBytes : Nat := 0
  headerBytes : Nat := 0
  largestFreeBlock : Nat := 0
deriving DecidableEq, Repr, Inhabited

namespace PoolUsage

def fields (u : PoolUsage) : List (String × Nat) :=
  [("capacity", u.capacity), ("block_count", u.blockCount), ("free_block_count", u.freeBlockCount),
   ("allocated_block_count", u.allocatedBlockCount), ("used_bytes", u.usedBytes), ("free_bytes", u.freeBytes),
   ("header_bytes", u.headerBytes), ("largest_free_block", u.largestFreeBlock)]

def record (u : PoolUsage) : String := Text.record "PoolUsage" (u.fields.map fun f => (f.1, toString f.2))

def fragmentation (u : PoolUsage) : Float :=
  if u.freeBytes = 0 then 0.0
  else 1.0 - u.largestFreeBlock.toUInt64.toFloat / u.freeBytes.toUInt64.toFloat

def count (overhead : Nat) (u : PoolUsage) (block : BlockId × Header) : Except Abort PoolUsage := do
  let blockCount ← Word.add u.blockCount 1
  let headerBytes ← Word.add u.headerBytes overhead
  let u := { u with blockCount, headerBytes }
  let size := block.2.size
  if block.2.free then
    let freeBlockCount ← Word.add u.freeBlockCount 1
    let freeBytes ← Word.add u.freeBytes size
    return { u with freeBlockCount, freeBytes, largestFreeBlock := max u.largestFreeBlock size }
  else
    let allocatedBlockCount ← Word.add u.allocatedBlockCount 1
    let usedBytes ← Word.add u.usedBytes size
    return { u with allocatedBlockCount, usedBytes }

end PoolUsage

namespace Registry

def describe (r : Registry) (block : BlockId × Header) : Except Abort BlockInfo := do
  let payloadOffset ← Word.add block.2.offset r.headerOverhead
  return ⟨block.2.offset, payloadOffset, block.2.size, block.2.free⟩

def blocks (r : Registry) : Except Abort (List BlockInfo) := do
  let blocks ← r.chain.whole
  blocks.mapM r.describe

def usage (r : Registry) : Except Abort PoolUsage := do
  let blocks ← r.chain.whole
  blocks.foldlM (PoolUsage.count r.headerOverhead) { capacity := r.capacity }

end Registry

end BlockPool
