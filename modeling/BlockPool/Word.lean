import BlockPool.Abort

/-! Sizes, offsets and counters are natural numbers below `Word.bound`. Arithmetic on them is exact and says
when a result leaves that range. -/

set_option autoImplicit false

namespace BlockPool.Word

def bound : Nat := UInt64.size

def greatest : Nat := bound - 1

def add? (a b : Nat) : Option Nat := if a + b < bound then some (a + b) else none

def add (a b : Nat) : Except Abort Nat := if a + b < bound then .ok (a + b) else .error .overflow

def sub (a b : Nat) : Except Abort Nat := if b ≤ a then .ok (a - b) else .error .overflow

def div (a b : Nat) : Except Abort Nat := if b = 0 then .error .zeroDivisor else .ok (a / b)

def mod (a b : Nat) : Except Abort Nat := if b = 0 then .error .zeroDivisor else .ok (a % b)

def addCapped (a b : Nat) : Nat := min (a + b) greatest

def mulCapped (a b : Nat) : Nat := min (a * b) greatest

-- The bits of `a` outside `mask`, within the width of a word.
def clear (a mask : Nat) : Nat := a &&& (greatest - mask)

end BlockPool.Word
