import BlockPool.Random.KeyStream

/-! Numbers drawn evenly from a range. A draw is scaled to the range by the high part of a product; the low
part says when the scaled value may have to go up by one, and a second draw then decides. -/

set_option autoImplicit false

namespace BlockPool.Random

inductive Width where
  | word
  | double
deriving DecidableEq, Repr

-- How many numbers a draw of this width can come to.
def Width.span : Width → Nat
  | .word => UInt32.size
  | .double => UInt64.size

def Width.holding (greatest : Nat) : Width := if greatest < UInt32.size then .word else .double

def draw (width : Width) : StateM Source Nat :=
  match width with
  | .word => return (← Source.word).toNat
  | .double => return (← Source.doubleWord).toNat

def below (width : Width) (range : Nat) : StateM Source Nat := do
  let span := width.span
  let drawn ← draw width
  if range % span = 0 then
    return drawn
  let product := drawn * range
  let scaled := product / span
  let low := product % span
  if low ≤ span - range then
    return scaled
  let high := (← draw width) * range / span
  return if span ≤ low + high then scaled + 1 else scaled

def between (width : Width) (least greatest : Nat) : StateM Source Nat :=
  return least + (← below width (greatest - least + 1))

end BlockPool.Random
