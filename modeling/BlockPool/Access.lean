import BlockPool.Handle

set_option autoImplicit false

namespace BlockPool

inductive AccessError where
  | uninitialized
  | staleHandle (handle : Handle)
  | outOfBounds (offset len size : Nat)
deriving DecidableEq, Repr

namespace AccessError

def name : AccessError → String
  | .uninitialized => "Uninitialized"
  | .staleHandle _ => "StaleHandle"
  | .outOfBounds _ _ _ => "OutOfBounds"

def fields : AccessError → List Text.Field
  | .uninitialized => []
  | .staleHandle handle => [("handle", handle.record)]
  | .outOfBounds offset len size => [("offset", toString offset), ("len", toString len), ("size", toString size)]

def record (e : AccessError) : String := Text.record e.name e.fields

def message : AccessError → String
  | .uninitialized => "pool is not initialized"
  | .staleHandle handle => "stale or foreign handle: " ++ handle.text
  | .outOfBounds offset len size =>
    s!"payload access out of bounds: {len} bytes at offset {offset}, allocation holds {size} bytes"

end AccessError

end BlockPool
