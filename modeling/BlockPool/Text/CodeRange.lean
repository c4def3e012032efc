set_option autoImplicit false

namespace BlockPool.Text

abbrev CodeRange := Nat × Nat

def CodeRange.covers (range : CodeRange) (code : Nat) : Bool := range.1 ≤ code && code ≤ range.2

def covered (ranges : List CodeRange) (code : Nat) : Bool := ranges.any fun range => range.covers code

end BlockPool.Text
