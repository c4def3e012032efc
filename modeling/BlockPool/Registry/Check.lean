import BlockPool.Registry.Basic
import BlockPool.Violation

/-! The check of a header pool. Walking the chain, each block has to begin where the one ahead of it ended,
to link back to it, and not to be free beside a free one; at the end the blocks have to cover the arena and
every header has to be on the chain or vacant. The first violation met is reported. -/

set_option autoImplicit false

namespace BlockPool

abbrev Check := ExceptT Violation (Except Abort)

namespace Registry

structure Patrol where
  linked : Nat := 0
  expected : Nat := 0
  last : Option (BlockId × Header) := none

def inspect (r : Registry) (patrol : Patrol) (block : BlockId × Header) : Check Patrol := do
  let (id, h) := block
  let linked := patrol.linked + 1
  -- a chain longer than the pool comes round
  if r.headers.size < linked then
    throw (.leakedHeaders linked r.vacant.length r.headers.size)
  if h.offset ≠ patrol.expected then
    throw (.gap patrol.expected h.offset)
  if h.prev ≠ patrol.last.map Prod.fst then
    throw (.brokenLink h.offset)
  if let some (_, last) := patrol.last then
    if last.free && h.free then
      throw (.adjacentFree last.offset h.offset)
  let payload ← Word.add h.offset r.headerOverhead
  let expected ← Word.add payload h.size
  return { linked, expected, last := some (id, h) }

def check (r : Registry) : Check Unit := do
  let chain := r.chain
  let patrol ← chain.blocks.foldlM r.inspect {}
  chain.finish
  if patrol.expected ≠ r.capacity then
    throw (.spanMismatch patrol.expected r.capacity)
  if patrol.linked + r.vacant.length ≠ r.headers.size then
    throw (.leakedHeaders patrol.linked r.vacant.length r.headers.size)

end Registry

end BlockPool
