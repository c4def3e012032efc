import BlockPool.Access
import BlockPool.Text.Quoted

set_option autoImplicit false

namespace BlockPool

structure Divergence where
  handle : Option Handle
  reason : String
deriving DecidableEq, Repr

inductive Breach where
  | zeroSizeIssued
  | unresolved
  | undersized (usable requested : Nat)
  | issuedTwice
  | access (e : AccessError)
  -- a resize to zero without a handle, and with one, that answered a handle
  | zeroResizeIssued
  | zeroResizeKept
  | stillResolves
  | changed (position : Nat) (expected found : UInt8)
deriving DecidableEq, Repr

def Breach.reason : Breach → String
  | .zeroSizeIssued => "alloc(0) returned a handle"
  | .unresolved => "fresh handle does not resolve"
  | .undersized usable requested => s!"usable size {usable} below requested {requested}"
  | .issuedTwice => "handle issued twice"
  | .access e => e.message
  | .zeroResizeIssued => "resize(None, 0) returned a handle"
  | .zeroResizeKept => "resize to zero returned a handle"
  | .stillResolves => "handle still resolves after free"
  | .changed position expected found =>
    s!"contents differ at byte {position}: expected 0x{Text.hex [expected]}, found 0x{Text.hex [found]}"

namespace Divergence

def of (handle : Handle) (breach : Breach) : Divergence := ⟨some handle, breach.reason⟩

def message (d : Divergence) : String :=
  match d.handle with
  | some handle => handle.text ++ ": " ++ d.reason
  | none => d.reason

def record (d : Divergence) : String :=
  Text.record "Divergence" [("handle", Text.optional Handle.record d.handle), ("reason", Text.quoted d.reason)]

end Divergence

end BlockPool
