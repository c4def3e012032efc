import BlockPool.Access

set_option autoImplicit false

namespace BlockPool

class BlockAllocator (σ : Type) where
  alloc (size : Nat) : Step σ (Option Handle)
  free (h : Option Handle) : Step σ Unit
  -- without a handle like `alloc`, to size zero like `free`
  resize (h : Option Handle) (size : Nat) : Step σ (Option Handle)
  read (h : Handle) (offset len : Nat) : Step σ (Except AccessError (Vector UInt8 len))
  write (h : Handle) (offset : Nat) (data : List UInt8) : Step σ (Except AccessError Unit)
  usableSize (h : Handle) : Step σ (Option Nat)

end BlockPool
