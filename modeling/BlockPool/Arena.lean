import BlockPool.Abort

/-! The bytes behind all payloads. An arena keeps its length; it knows offsets and no blocks. -/

set_option autoImplicit false

namespace BlockPool

structure Arena where
  bytes : Array UInt8

namespace Arena

def zeroed (capacity : Nat) : Arena := ⟨Array.replicate capacity 0⟩

def capacity (arena : Arena) : Nat := arena.bytes.size

def slice (arena : Arena) (offset len : Nat) : Except Abort (Vector UInt8 len) :=
  if inside : offset + len ≤ arena.bytes.size then
    .ok ⟨arena.bytes.extract offset (offset + len), by simp; omega⟩
  else .error .outOfRange

-- Later bytes of `data` go to later offsets; what falls outside is dropped.
def overwrite (bytes : Array UInt8) (offset : Nat) : List UInt8 → Array UInt8
  | [] => bytes
  | b :: rest => overwrite (bytes.setIfInBounds offset b) (offset + 1) rest

def write (offset : Nat) (data : List UInt8) : Step Arena Unit := fun ⟨bytes⟩ =>
  if offset + data.length ≤ bytes.size then .ok () ⟨overwrite bytes offset data⟩
  else .error .outOfRange ⟨bytes⟩

def clear (offset len : Nat) : Step Arena Unit := fun arena =>
  if offset + len ≤ arena.bytes.size then write offset (List.replicate len 0) arena
  else .error .outOfRange arena

-- The source is read before anything is written, so the ranges may overlap.
def copy (source target len : Nat) : Step Arena Unit := do
  let data ← Step.query fun arena => arena.slice source len
  write target data.toList

end Arena

end BlockPool
