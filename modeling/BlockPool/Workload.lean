import BlockPool.Random.Uniform
import BlockPool.Word

/-! Sequences of calls on an allocator that make sense whatever it answers: an allocation is chosen by a
number that is taken modulo the number of live allocations. Equal seeds give equal sequences. About half of
the calls allocate, three in ten free, the rest resize, and one size in twenty is zero. -/

set_option autoImplicit false

namespace BlockPool

inductive Op where
  | alloc (size : Nat)
  | free (pick : Nat)
  | resize (pick size : Nat)
deriving DecidableEq, Repr

namespace Workload

open BlockPool.Random

def drawSize (maxSize : Nat) : StateM Source Nat := do
  if (← between .word 0 19) = 0 then
    return 0
  let greatest := max maxSize 1
  between (.holding greatest) 1 greatest

def drawOp (maxSize : Nat) : StateM Source Op := do
  let roll ← between .word 0 9
  let pick ← between .double 0 (Word.greatest - 1)
  if roll ≤ 4 then
    return .alloc (← drawSize maxSize)
  if roll ≤ 7 then
    return .free pick
  return .resize pick (← drawSize maxSize)

def drawOps (maxSize : Nat) : Nat → StateM Source (List Op)
  | 0 => return []
  | count + 1 => do
    let op ← drawOp maxSize
    let rest ← drawOps maxSize count
    return op :: rest

def random (seed : UInt64) (count maxSize : Nat) : List Op := (drawOps maxSize count (Source.ofSeed seed)).1

end Workload

end BlockPool
