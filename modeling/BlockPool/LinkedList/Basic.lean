import BlockPool.Allocator
import BlockPool.Event
import BlockPool.LinkedList.Node

/-! A singly linked list of 16-bit values whose nodes are blocks of an allocator. A list is its head; all
else is in the blocks, and every operation walks from the head. An insertion that gets no block leaves the
list as it was. Inserting writes the new node before anything points to it, and removing turns the link past
a node before its block is given back. -/

set_option autoImplicit false

namespace BlockPool

structure NodeRef where
  handle : Handle
deriving DecidableEq, Repr

structure LinkedList where
  head : Option Handle := none
deriving DecidableEq, Repr, Inhabited

namespace LinkedList

variable {σ β : Type}

-- There are no more handles than this, so a longer walk has come round.
def walkLimit : Nat := UInt32.size * UInt32.size * UInt32.size

section Walk

variable [BlockAllocator σ]

def load (h : Handle) : Step σ (Option Node) := do
  match ← BlockAllocator.read h 0 Node.encodedLength with
  | .ok bytes => return some (Node.decode bytes)
  | .error _ => return none

def store (h : Handle) (node : Node) : Step σ Bool := do
  match ← BlockAllocator.write h 0 node.encode.toList with
  | .ok () => return true
  | .error _ => return false

-- A node is read only when the fold gets to it.
def walkFrom (visit : β → Handle → Node → ForInStep β) : Nat → Option Handle → β → Step σ β
  | _, none, seen => return seen
  | 0, some _, _ => throw .endless
  | limit + 1, some h, seen => do
    match ← load h with
    | none => return seen
    | some node =>
      match visit seen h node with
      | .done seen => return seen
      | .yield seen => walkFrom visit limit node.next seen

def walk (l : LinkedList) (start : β) (visit : β → Handle → Node → ForInStep β) : Step σ β :=
  walkFrom visit walkLimit l.head start

def search (l : LinkedList) (accept : Handle → Node → Bool) : Step σ (Option (Handle × Node)) :=
  l.walk none fun _ h node => if accept h node then .done (some (h, node)) else .yield none

-- The first node that satisfies `accept`, behind the node ahead of it if there is one.
def searchLink (l : LinkedList) (accept : Handle → Node → Bool) :
    Step σ (Option (Handle × Node) × Option (Handle × Node)) :=
  l.walk (none, none) fun (prev, _) h node =>
    if accept h node then .done (prev, some (h, node)) else .yield (some (h, node), none)

def last (l : LinkedList) : Step σ (Option (Handle × Node)) :=
  l.walk none fun _ h node => .yield (some (h, node))

def find (l : LinkedList) (value : UInt16) : Step σ (Option NodeRef) := do
  let found ← l.search fun _ node => node.value = value
  return found.map fun entry => ⟨entry.1⟩

def value (l : LinkedList) (node : NodeRef) : Step σ (Option UInt16) := do
  let found ← l.search fun h _ => h = node.handle
  return found.map fun entry => entry.2.value

def first (l : LinkedList) : Option NodeRef := l.head.map fun h => ⟨h⟩

def isEmpty (l : LinkedList) : Bool := l.head.isNone

def length (l : LinkedList) : Step σ Nat := l.walk 0 fun count _ _ => .yield (count + 1)

def values (l : LinkedList) : Step σ (List UInt16) := do
  let latest ← l.walk [] fun latest _ node => .yield (node.value :: latest)
  return latest.reverse

-- The nodes with their values, as a walk over the links finds them.
def entries (l : LinkedList) : Step σ (List (NodeRef × UInt16)) := do
  let latest ← l.walk [] fun latest h node => .yield ((⟨h⟩, node.value) :: latest)
  return latest.reverse

-- No node behind the `count` values is read.
def take (l : LinkedList) (count : Nat) : Step σ (List UInt16) := do
  if count = 0 then
    return []
  let latest ← l.walk [] fun latest _ node =>
    let latest := node.value :: latest
    if latest.length < count then .yield latest else .done latest
  return latest.reverse

-- The values from `start`, or the head, through `stop`, or the tail.
def range (l : LinkedList) (start stop : Option NodeRef) : Step σ (List UInt16) := do
  let (_, latest) ← l.walk (start.isNone, []) fun (started, latest) h node =>
    let here := some ⟨h⟩
    if started || here = start then
      let latest := node.value :: latest
      if here = stop then .done (true, latest) else .yield (true, latest)
    else .yield (false, latest)
  return latest.reverse

def listing (values : List UInt16) : String := Text.listing (values.map fun value => toString value.toNat)

def displayRange (l : LinkedList) (start stop : Option NodeRef) : Step σ String :=
  return listing (← l.range start stop)

def display (l : LinkedList) : Step σ String := l.displayRange none none

def record (l : LinkedList) : Step σ String := return listing (← l.values)

def remove (l : LinkedList) (value : UInt16) : Step σ (LinkedList × Bool) := do
  match ← l.searchLink fun _ node => node.value = value with
  | (_, none) => return (l, false)
  | (none, some (h, node)) =>
    BlockAllocator.free (some h)
    return (⟨node.next⟩, true)
  | (some (prev, ahead), some (h, node)) =>
    if ← store prev { ahead with next := node.next } then
      BlockAllocator.free (some h)
      return (l, true)
    return (l, false)

-- The link is read before its node is given back.
def releaseFrom : Nat → Option Handle → Step σ Unit
  | _, none => return
  | 0, some _ => throw .endless
  | limit + 1, some h => do
    let node ← load h
    BlockAllocator.free (some h)
    releaseFrom limit (node.bind Node.next)

def clear (l : LinkedList) : Step σ LinkedList := do
  releaseFrom walkLimit l.head
  return {}

end Walk

section Insert

variable [BlockAllocator σ] [Journaled σ]

-- A block that cannot be written is given back.
def create (node : Node) : Step σ (Option Handle) := do
  match ← BlockAllocator.alloc Node.encodedLength with
  | none =>
    report (.noMemory node.value)
    return none
  | some h =>
    if ← store h node then
      return some h
    BlockAllocator.free (some h)
    return none

def attach (prev : Handle) (node : Node) (h : Handle) : Step σ Bool := do
  if ← store prev { node with next := some h } then
    return true
  BlockAllocator.free (some h)
  return false

-- Puts a node that was just created behind `prev`, or ahead of all others.
def link (l : LinkedList) (prev : Option (Handle × Node)) (h : Handle) : Step σ (LinkedList × Option NodeRef) := do
  match prev with
  | none => return (⟨some h⟩, some ⟨h⟩)
  | some (prev, node) => return (l, if ← attach prev node h then some ⟨h⟩ else none)

def pushBack (l : LinkedList) (value : UInt16) : Step σ (LinkedList × Option NodeRef) := do
  let tail ← l.last
  match ← create ⟨value, none⟩ with
  | none => return (l, none)
  | some h => l.link tail h

def insertAfter (l : LinkedList) (anchor : NodeRef) (value : UInt16) : Step σ (LinkedList × Option NodeRef) := do
  match ← l.search fun h _ => h = anchor.handle with
  | none => return (l, none)
  | some (_, node) =>
    match ← create ⟨value, node.next⟩ with
    | none => return (l, none)
    | some h => l.link (some (anchor.handle, node)) h

def insertBefore (l : LinkedList) (anchor : NodeRef) (value : UInt16) : Step σ (LinkedList × Option NodeRef) := do
  match ← l.searchLink fun h _ => h = anchor.handle with
  | (_, none) =>
    report (.noAnchor value)
    return (l, none)
  | (prev, some _) =>
    match ← create ⟨value, some anchor.handle⟩ with
    | none => return (l, none)
    | some h => l.link prev h

end Insert

end LinkedList

end BlockPool
