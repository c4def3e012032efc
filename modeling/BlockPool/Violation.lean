import BlockPool.Text.Record

set_option autoImplicit false

namespace BlockPool

inductive Violation where
  | gap (expected found : Nat)
  | spanMismatch (covered capacity : Nat)
  | adjacentFree (first second : Nat)
  | brokenLink (offset : Nat)
  | leakedHeaders (linked vacant total : Nat)
  | handleMismatch (liveHandles allocatedBlocks : Nat)
  | handleToFreeBlock (offset : Nat)
  | duplicateHandle (offset : Nat)
deriving DecidableEq, Repr

namespace Violation

def name : Violation → String
  | .gap _ _ => "Gap"
  | .spanMismatch _ _ => "SpanMismatch"
  | .adjacentFree _ _ => "AdjacentFree"
  | .brokenLink _ => "BrokenLink"
  | .leakedHeaders _ _ _ => "LeakedHeaders"
  | .handleMismatch _ _ => "HandleMismatch"
  | .handleToFreeBlock _ => "HandleToFreeBlock"
  | .duplicateHandle _ => "DuplicateHandle"

def fields : Violation → List (String × Nat)
  | .gap expected found => [("expected", expected), ("found", found)]
  | .spanMismatch covered capacity => [("covered", covered), ("capacity", capacity)]
  | .adjacentFree first second => [("first", first), ("second", second)]
  | .brokenLink offset => [("offset", offset)]
  | .leakedHeaders linked vacant total => [("linked", linked), ("vacant", vacant), ("total", total)]
  | .handleMismatch live allocated => [("live_handles", live), ("allocated_blocks", allocated)]
  | .handleToFreeBlock offset => [("offset", offset)]
  | .duplicateHandle offset => [("offset", offset)]

def record (v : Violation) : String := Text.record v.name (v.fields.map fun f => (f.1, toString f.2))

def message : Violation → String
  | .gap expected found => s!"block expected at offset {expected}, found at {found}"
  | .spanMismatch covered capacity => s!"blocks cover {covered} bytes of a {capacity}-byte arena"
  | .adjacentFree first second => s!"free blocks at {first} and {second} are adjacent"
  | .brokenLink offset => s!"block at offset {offset} has a broken back link"
  | .leakedHeaders linked vacant total => s!"header pool leak: {linked} linked + {vacant} vacant != {total} total"
  | .handleMismatch live allocated => s!"{live} live handles for {allocated} allocated blocks"
  | .handleToFreeBlock offset => s!"live handle resolves to free block at offset {offset}"
  | .duplicateHandle offset => s!"block at offset {offset} is reachable from two live handles"

end Violation

end BlockPool
