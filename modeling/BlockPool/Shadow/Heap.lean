import BlockPool.Allocator
import BlockPool.Shadow.Divergence
import BlockPool.Workload

/-! A shadow of an allocator: what every live allocation ought to hold, in the order of their making, and
the handles that ought never to resolve again. Each allocation is filled with a byte of its own, so that two
that overlap spoil each other. Calls go to the allocator and to the shadow, and the first breach of what a
call promises is reported. -/

set_option autoImplicit false

namespace BlockPool

abbrev Verdict := Except Divergence Unit

structure ShadowHeap where
  live : List (Handle × List UInt8) := []
  retired : Array Handle := #[]
  fill : UInt8 := 0
deriving Inhabited

namespace ShadowHeap

variable {σ : Type} [BlockAllocator σ]

def handles (s : ShadowHeap) : List Handle := s.live.map Prod.fst

def liveCount (s : ShadowHeap) : Nat := s.live.length

def holds (s : ShadowHeap) (h : Handle) : Bool := s.live.any fun entry => entry.1 = h

-- The entries that stay keep their order.
def drop (s : ShadowHeap) (h : Handle) : ShadowHeap :=
  { s with live := s.live.filter fun entry => entry.1 ≠ h }

def keep (s : ShadowHeap) (h : Handle) (contents : List UInt8) : ShadowHeap :=
  { s with live := s.live ++ [(h, contents)] }

def pick (s : ShadowHeap) (pick : Nat) : Option (Handle × List UInt8) := s.live[pick % s.live.length]?

-- Zero is passed over, so a cleared payload never looks right by accident.
def refill (s : ShadowHeap) : ShadowHeap := { s with fill := max (s.fill + 1) 1 }

def breach (s : ShadowHeap) (h : Handle) (b : Breach) : ShadowHeap × Verdict := (s, .error (.of h b))

def difference (position : Nat) : List UInt8 → List UInt8 → Option Breach
  | e :: expected, f :: found => if e = f then difference (position + 1) expected found else some (.changed position e f)
  | _, _ => none

def checkContents (h : Handle) (expected : List UInt8) : Step σ Verdict := do
  match ← BlockAllocator.read h 0 expected.length with
  | .error e => return .error (.of h (.access e))
  | .ok found =>
    match difference 0 expected found.toList with
    | some b => return .error (.of h b)
    | none => return .ok ()

def verifyAll : List (Handle × List UInt8) → Step σ Verdict
  | [] => return .ok ()
  | (h, expected) :: rest => do
    match ← checkContents h expected with
    | .error d => return .error d
    | .ok () => verifyAll rest

def verify (s : ShadowHeap) : Step σ Verdict := verifyAll s.live

-- Takes `h` for live: what it `kept`, then fresh fill up to `size` bytes.
def install (s : ShadowHeap) (h : Handle) (kept : List UInt8) (size : Nat) : Step σ (ShadowHeap × Verdict) := do
  match ← BlockAllocator.usableSize h with
  | none => return s.breach h .unresolved
  | some usable =>
    if usable < size then
      return s.breach h (.undersized usable size)
    if s.holds h then
      return s.breach h .issuedTwice
    let s := s.refill
    let contents := kept ++ List.replicate (size - kept.length) s.fill
    match ← BlockAllocator.write h 0 contents with
    | .error e => return s.breach h (.access e)
    | .ok () => return (s.keep h contents, .ok ())

def retire (s : ShadowHeap) (h : Handle) : Step σ (ShadowHeap × Verdict) := do
  let s := s.drop h
  match ← BlockAllocator.usableSize h with
  | some _ => return s.breach h .stillResolves
  | none => return ({ s with retired := s.retired.push h }, .ok ())

def alloc (s : ShadowHeap) (size : Nat) : Step σ (ShadowHeap × Verdict) := do
  match ← BlockAllocator.alloc size with
  | none => return (s, .ok ())
  | some h =>
    if size = 0 then
      return s.breach h .zeroSizeIssued
    s.install h [] size

-- With nothing live, a handle that is gone is freed once more.
def free (s : ShadowHeap) (number : Nat) : Step σ (ShadowHeap × Verdict) := do
  match s.pick number with
  | none =>
    BlockAllocator.free s.retired[number % s.retired.size]?
    return (s, .ok ())
  | some (h, _) =>
    BlockAllocator.free (some h)
    s.retire h

def resizeNone (s : ShadowHeap) (size : Nat) : Step σ (ShadowHeap × Verdict) := do
  match ← BlockAllocator.resize none size with
  | none => return (s, .ok ())
  | some h =>
    if size = 0 then
      return s.breach h .zeroResizeIssued
    s.install h [] size

-- An allocation that is now `fresh`: it has to hold what it held, as far as that is within `size`.
def resized (s : ShadowHeap) (h fresh : Handle) (contents : List UInt8) (size : Nat) : Step σ (ShadowHeap × Verdict) := do
  let kept := contents.take size
  match ← checkContents fresh kept with
  | .error d => return (s, .error d)
  | .ok () =>
    let s := s.drop h
    if fresh = h then
      s.install fresh kept size
    else
      match ← s.retire h with
      | (s, .error d) => return (s, .error d)
      | (s, .ok ()) => s.install fresh kept size

def resizeSome (s : ShadowHeap) (h : Handle) (contents : List UInt8) (size : Nat) : Step σ (ShadowHeap × Verdict) := do
  match ← BlockAllocator.resize (some h) size with
  | none =>
    if size = 0 then
      s.retire h
    else
      -- a move that failed leaves the allocation as it was
      return (s, ← checkContents h contents)
  | some fresh =>
    if size = 0 then
      return s.breach fresh .zeroResizeKept
    s.resized h fresh contents size

def resize (s : ShadowHeap) (number size : Nat) : Step σ (ShadowHeap × Verdict) :=
  match s.pick number with
  | none => s.resizeNone size
  | some (h, contents) => s.resizeSome h contents size

def apply (s : ShadowHeap) : Op → Step σ (ShadowHeap × Verdict)
  | .alloc size => s.alloc size
  | .free number => s.free number
  | .resize number size => s.resize number size

def run (s : ShadowHeap) : List Op → Step σ (ShadowHeap × Verdict)
  | [] => return (s, .ok ())
  | op :: rest => do
    match ← s.apply op with
    | (s, .error d) => return (s, .error d)
    | (s, .ok ()) => s.run rest

def releaseEach (s : ShadowHeap) : List Handle → Step σ (ShadowHeap × Verdict)
  | [] => return (s, .ok ())
  | h :: rest => do
    BlockAllocator.free (some h)
    match ← s.retire h with
    | (s, .error d) => return (s, .error d)
    | (s, .ok ()) => s.releaseEach rest

def releaseAll (s : ShadowHeap) : Step σ (ShadowHeap × Verdict) := s.releaseEach s.handles

end ShadowHeap

end BlockPool
