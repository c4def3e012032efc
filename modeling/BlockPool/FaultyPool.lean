import BlockPool.Pool

/-! A pool whose answers to its clients can be spoiled at will, to see what clients make of that. Calls are
counted by kind, spoiled or not, and the plan names those to spoil by their ordinal. -/

set_option autoImplicit false

namespace BlockPool

-- Which calls to spoil, by ordinals from 1.
structure FaultPlan where
  failAlloc : List Nat := []
  -- allocations that answer the handle issued last
  repeatAlloc : List Nat := []
  dropFree : List Nat := []
  failRead : List Nat := []
  failWrite : List Nat := []
  hideUsable : List Nat := []
  -- taken off every usable size
  usableLess : Nat := 0
  -- ask for one byte where zero were asked for
  atLeastOne : Bool := false
deriving DecidableEq, Repr, Inhabited

structure CallCounts where
  alloc : Nat := 0
  free : Nat := 0
  read : Nat := 0
  write : Nat := 0
  usable : Nat := 0
deriving DecidableEq, Repr, Inhabited

structure FaultyPool where
  pool : Pool
  plan : FaultPlan := {}
  calls : CallCounts := {}
  lastIssued : Option Handle := none

instance : Journaled FaultyPool where
  note event f := { f with pool := Journaled.note event f.pool }

namespace FaultyPool

variable {α : Type}

def direct (step : Step Pool α) : Step FaultyPool α := fun ⟨pool, plan, calls, last⟩ =>
  match step pool with
  | .ok value pool => .ok value ⟨pool, plan, calls, last⟩
  | .error reason pool => .error reason ⟨pool, plan, calls, last⟩

-- Follows a new plan from now on and counts afresh. The handle issued last is not forgotten.
def follow (plan : FaultPlan) : Step FaultyPool Unit := fun f => .ok () { f with plan, calls := {} }

def countCall (change : CallCounts → CallCounts) : Step FaultyPool Unit := fun f =>
  .ok () { f with calls := change f.calls }

def remember (h : Option Handle) : Step FaultyPool Unit := fun f => .ok () { f with lastIssued := h <|> f.lastIssued }

def asked (plan : FaultPlan) (size : Nat) : Nat := if plan.atLeastOne then max size 1 else size

def alloc (size : Nat) : Step FaultyPool (Option Handle) := do
  countCall fun c => { c with alloc := c.alloc + 1 }
  let plan := (← get).plan
  let ordinal := (← get).calls.alloc
  let last := (← get).lastIssued
  if plan.repeatAlloc.contains ordinal && last.isSome then
    return last
  if plan.failAlloc.contains ordinal then
    return none
  let issued ← direct (Pool.alloc (asked plan size))
  remember issued
  return issued

def free (h : Option Handle) : Step FaultyPool Unit := do
  countCall fun c => { c with free := c.free + 1 }
  let ordinal := (← get).calls.free
  unless (← get).plan.dropFree.contains ordinal do
    direct (Pool.free h)

def resize (h : Option Handle) (size : Nat) : Step FaultyPool (Option Handle) := do
  let plan := (← get).plan
  direct (Pool.resize h (asked plan size))

def read (h : Handle) (offset len : Nat) : Step FaultyPool (Except AccessError (Vector UInt8 len)) := do
  countCall fun c => { c with read := c.read + 1 }
  let ordinal := (← get).calls.read
  if (← get).plan.failRead.contains ordinal then
    return .error .uninitialized
  direct (Pool.read h offset len)

def write (h : Handle) (offset : Nat) (data : List UInt8) : Step FaultyPool (Except AccessError Unit) := do
  countCall fun c => { c with write := c.write + 1 }
  let ordinal := (← get).calls.write
  if (← get).plan.failWrite.contains ordinal then
    return .error .uninitialized
  direct (Pool.write h offset data)

def usableSize (h : Handle) : Step FaultyPool (Option Nat) := do
  countCall fun c => { c with usable := c.usable + 1 }
  let plan := (← get).plan
  let ordinal := (← get).calls.usable
  if plan.hideUsable.contains ordinal then
    return none
  return (← direct (Pool.usableSize h)).map fun size => size - plan.usableLess

end FaultyPool

instance : BlockAllocator FaultyPool where
  alloc := FaultyPool.alloc
  free := FaultyPool.free
  resize := FaultyPool.resize
  read := FaultyPool.read
  write := FaultyPool.write
  usableSize := FaultyPool.usableSize

end BlockPool
