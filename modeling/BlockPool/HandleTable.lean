import BlockPool.Handle
import BlockPool.Registry.Basic

/-! The table behind the handles of one pool. A handle resolves only if it names this pool and its slot
still has the handle's generation. Vacating a slot raises the generation; a slot whose generation has come
round to zero is not issued from again, so no handle is ever issued twice. -/

set_option autoImplicit false

namespace BlockPool

structure Slot where
  generation : UInt32
  block : Option BlockId
deriving DecidableEq, Repr, Inhabited

structure HandleTable where
  pool : PoolId
  slots : Array Slot
  -- vacated slots, the head is issued from next
  vacated : List UInt32
  live : Nat
deriving DecidableEq, Repr

namespace HandleTable

def empty (pool : PoolId) : HandleTable := ⟨pool, #[], [], 0⟩

def slot? (t : HandleTable) (h : Handle) : Option Slot :=
  if h.pool = t.pool then
    (t.slots[h.slot.toNat]?).filter fun slot => slot.generation = h.generation
  else none

def get? (t : HandleTable) (h : Handle) : Option BlockId :=
  match t.slot? h with
  | some slot => slot.block
  | none => none

def liveBlocks (t : HandleTable) : List BlockId := t.slots.toList.filterMap Slot.block

def setLive (live : Nat) : Step HandleTable Unit := fun ⟨pool, slots, vacated, _⟩ => .ok () ⟨pool, slots, vacated, live⟩

def setSlot (index : Nat) (slot : Slot) : Step HandleTable Unit := fun ⟨pool, slots, vacated, live⟩ =>
  .ok () ⟨pool, slots.setIfInBounds index slot, vacated, live⟩

def pushSlot (slot : Slot) : Step HandleTable UInt32 := fun ⟨pool, slots, vacated, live⟩ =>
  .ok slots.size.toUInt32 ⟨pool, slots.push slot, vacated, live⟩

def popVacated : Step HandleTable (Option UInt32) := fun ⟨pool, slots, vacated, live⟩ =>
  .ok vacated.head? ⟨pool, slots, vacated.tail, live⟩

def pushVacated (index : UInt32) : Step HandleTable Unit := fun ⟨pool, slots, vacated, live⟩ =>
  .ok () ⟨pool, slots, index :: vacated, live⟩

def slotAt (t : HandleTable) (index : UInt32) : Except Abort Slot :=
  match t.slots[index.toNat]? with
  | some slot => .ok slot
  | none => .error .outOfRange

def insert (block : BlockId) : Step HandleTable Handle := do
  let live ← Word.add (← get).live 1
  setLive live
  let pool := (← get).pool
  match ← popVacated with
  | some index =>
    let slot ← Step.query fun t => t.slotAt index
    setSlot index.toNat { slot with block := some block }
    return ⟨pool, index, slot.generation⟩
  | none =>
    let index ← pushSlot ⟨0, some block⟩
    return ⟨pool, index, 0⟩

def remove (h : Handle) : Step HandleTable (Option BlockId) := do
  match (← get).slot? h with
  | some ⟨generation, some block⟩ =>
    let raised := generation + 1
    setSlot h.slot.toNat ⟨raised, none⟩
    if raised ≠ 0 then
      pushVacated h.slot
    let live ← Word.sub (← get).live 1
    setLive live
    return some block
  | _ => return none

end HandleTable

end BlockPool
