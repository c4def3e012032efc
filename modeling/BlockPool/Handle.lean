import BlockPool.Abort
import BlockPool.Bytes
import BlockPool.Text.Record

/-! Names of pools and of allocations. A handle says which pool issued it, the slot it was issued from and
how often that slot had been vacated before. Its encoded form is the three words in that order. -/

set_option autoImplicit false

namespace BlockPool

structure PoolId where
  number : UInt32
deriving DecidableEq, Repr

namespace PoolId

def text (id : PoolId) : String := toString id.number.toNat

def record (id : PoolId) : String := Text.wrapped "PoolId" id.text

def order (a b : PoolId) : Ordering := compare a.number.toNat b.number.toNat

end PoolId

structure PoolCounter where
  upcoming : UInt32 := 1
deriving DecidableEq, Repr

-- The counter is as wide as a number and wraps.
def PoolCounter.draw : Step PoolCounter PoolId := fun counter =>
  .ok ⟨counter.upcoming⟩ ⟨counter.upcoming + 1⟩

structure Handle where
  pool : PoolId
  slot : UInt32
  generation : UInt32
deriving DecidableEq, Repr

namespace Handle

def encodedLength : Nat := 12

def toBytes (h : Handle) : Vector UInt8 encodedLength :=
  Bytes.ofWord h.pool.number ++ Bytes.ofWord h.slot ++ Bytes.ofWord h.generation

def ofBytes (bytes : Vector UInt8 encodedLength) : Handle where
  pool := ⟨Bytes.word bytes[0] bytes[1] bytes[2] bytes[3]⟩
  slot := Bytes.word bytes[4] bytes[5] bytes[6] bytes[7]
  generation := Bytes.word bytes[8] bytes[9] bytes[10] bytes[11]

def text (h : Handle) : String :=
  "Handle(pool=" ++ h.pool.text ++ ", slot=" ++ toString h.slot.toNat ++ ", gen=" ++ toString h.generation.toNat ++ ")"

def record (h : Handle) : String :=
  Text.record "Handle" [("pool", h.pool.record), ("slot", toString h.slot.toNat), ("generation", toString h.generation.toNat)]

end Handle

end BlockPool
