/-! A stream of 32-bit words from a key: block after block of sixteen words, each block a mix of the key and
of its own number. The mix is four double rounds of additions, exclusive ors and rotations on a square of
four by four words, first along its columns, then along its diagonals. -/

set_option autoImplicit false

namespace BlockPool.Random

abbrev Key := Vector UInt32 8

abbrev Square := Vector UInt32 16

def rotateLeft (w bits : UInt32) : UInt32 := (w <<< bits) ||| (w >>> (32 - bits))

def rotateRight (w bits : UInt32) : UInt32 := (w >>> bits) ||| (w <<< (32 - bits))

def stir (a b d : Fin 16) (bits : UInt32) (s : Square) : Square :=
  let s := s.set a (s[a] + s[b])
  s.set d (rotateLeft (s[d] ^^^ s[a]) bits)

def quarterRound (a b c d : Fin 16) (s : Square) : Square :=
  stir c d b 7 (stir a b d 8 (stir c d b 12 (stir a b d 16 s)))

def columnRound (s : Square) : Square :=
  quarterRound 3 7 11 15 (quarterRound 2 6 10 14 (quarterRound 1 5 9 13 (quarterRound 0 4 8 12 s)))

def diagonalRound (s : Square) : Square :=
  quarterRound 3 4 9 14 (quarterRound 2 7 8 13 (quarterRound 1 6 11 12 (quarterRound 0 5 10 15 s)))

def doubleRounds : Nat → Square → Square
  | 0, s => s
  | n + 1, s => doubleRounds n (diagonalRound (columnRound s))

def square (key : Key) (number : UInt64) : Square :=
  let constants : Vector UInt32 4 := #v[0x61707865, 0x3320646e, 0x79622d32, 0x6b206574]
  let position : Vector UInt32 4 := #v[number.toUInt32, (number >>> 32).toUInt32, 0, 0]
  constants ++ key ++ position

def block (key : Key) (number : UInt64) : Square :=
  let start := square key number
  start.zipWith (· + ·) (doubleRounds 4 start)

def advance (state : UInt64) : UInt64 := state * 6364136223846793005 + 11634580027462260723

def states (seed : UInt64) : Nat → UInt64
  | 0 => advance seed
  | n + 1 => advance (states seed n)

-- The low word of a shifted state, turned by the five highest bits.
def keyWord (state : UInt64) : UInt32 :=
  rotateRight (((state >>> 18) ^^^ state) >>> 27).toUInt32 (state >>> 59).toUInt32

def keyOf (seed : UInt64) : Key := Vector.ofFn fun i => keyWord (states seed i)

-- A place in the stream of a key: the block it lies in, and how many words of it are used.
structure Source where
  key : Key
  upcoming : UInt64
  current : Square
  used : Nat

namespace Source

def ofSeed (seed : UInt64) : Source :=
  let key := keyOf seed
  ⟨key, 1, block key 0, 0⟩

def word : StateM Source UInt32 := fun source =>
  if h : source.used < 16 then
    (source.current[source.used], { source with used := source.used + 1 })
  else
    let next := block source.key source.upcoming
    (next[0], ⟨source.key, source.upcoming + 1, next, 1⟩)

-- The first of the two words is the low one.
def doubleWord : StateM Source UInt64 := do
  let low ← word
  let high ← word
  return low.toUInt64 ||| (high.toUInt64 <<< 32)

end Source

end BlockPool.Random
