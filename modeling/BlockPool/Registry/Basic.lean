import BlockPool.Config

/-! The headers of the blocks that partition an arena. Headers lie in a pool and are linked into one chain
in address order, starting with header 0; free and used blocks share the chain. A block is charged
`headerOverhead` bytes ahead of its payload. Headers that merging took off the chain wait in `vacant` and
are used again first. -/

set_option autoImplicit false

namespace BlockPool

abbrev BlockId := Nat

structure Header where
  offset : Nat
  -- bytes of payload, the header charge excluded
  size : Nat
  free : Bool
  prev : Option BlockId
  next : Option BlockId
deriving DecidableEq, Repr, Inhabited

structure Registry where
  headers : Array Header
  -- the head is used next
  vacant : List BlockId
  capacity : Nat
  headerOverhead : Nat
  fit : FitPolicy
deriving DecidableEq, Repr

inductive ChainEnd where
  | complete
  -- a link names no header
  | dangling
  -- more headers were met than there are
  | cyclic
deriving DecidableEq, Repr

structure Chain where
  blocks : List (BlockId × Header)
  ending : ChainEnd
deriving DecidableEq, Repr

namespace Chain

def follow (headers : Array Header) : Nat → Option BlockId → Chain
  | _, none => ⟨[], .complete⟩
  | 0, some _ => ⟨[], .cyclic⟩
  | bound + 1, some id =>
    match headers[id]? with
    | none => ⟨[], .dangling⟩
    | some header =>
      let rest := follow headers bound header.next
      ⟨(id, header) :: rest.blocks, rest.ending⟩

def finish (chain : Chain) : Except Abort Unit :=
  match chain.ending with
  | .complete => .ok ()
  | .dangling => .error .outOfRange
  | .cyclic => .error .endless

def whole (chain : Chain) : Except Abort (List (BlockId × Header)) := do
  chain.finish
  return chain.blocks

end Chain

structure Placement where
  id : BlockId
  split : Bool
deriving DecidableEq, Repr

-- The header of the run a released block became part of, and how many neighbours it absorbed.
structure Coalesce where
  survivor : BlockId
  merges : Nat
deriving DecidableEq, Repr

namespace Registry

def single (config : PoolConfig) : Except Abort Registry := do
  let size ← Word.sub config.capacity config.headerOverhead
  return {
    headers := #[⟨0, size, true, none, none⟩]
    vacant := []
    capacity := config.capacity
    headerOverhead := config.headerOverhead
    fit := config.fit }

def header (r : Registry) (id : BlockId) : Except Abort Header :=
  match r.headers[id]? with
  | some header => .ok header
  | none => .error .outOfRange

def payload (r : Registry) (id : BlockId) : Except Abort (Nat × Nat) := do
  let h ← r.header id
  let start ← Word.add h.offset r.headerOverhead
  return (start, h.size)

-- One step more than there are headers is enough to tell a cycle.
def chain (r : Registry) : Chain := Chain.follow r.headers (r.headers.size + 1) (some 0)

def adjust (id : BlockId) (change : Header → Header) : Step Registry Unit :=
  fun ⟨headers, vacant, capacity, overhead, fit⟩ =>
    if id < headers.size then .ok () ⟨headers.modify id change, vacant, capacity, overhead, fit⟩
    else .error .outOfRange ⟨headers, vacant, capacity, overhead, fit⟩

def smallest : List (BlockId × Header) → Option (BlockId × Header)
  | [] => none
  | block :: rest =>
    match smallest rest with
    | none => some block
    | some other => if other.2.size < block.2.size then some other else some block

def findFit (r : Registry) (size : Nat) : Except Abort (Option BlockId) :=
  let fitting := r.chain.blocks.filter fun block => block.2.free && size ≤ block.2.size
  let settled := match r.fit with
    | .firstFit => fitting.head?
    | .bestFit => fitting.find? fun block => block.2.size == size
  match settled with
  | some block => .ok (some block.1)
  | none => do
    r.chain.finish
    return (smallest fitting).map Prod.fst

def push (header : Header) : Step Registry BlockId :=
  fun ⟨headers, vacant, capacity, overhead, fit⟩ =>
    .ok (headers.size % UInt32.size) ⟨headers.push header, vacant, capacity, overhead, fit⟩

def popVacant : Step Registry (Option BlockId) :=
  fun ⟨headers, vacant, capacity, overhead, fit⟩ =>
    .ok vacant.head? ⟨headers, vacant.tail, capacity, overhead, fit⟩

def pushVacant (id : BlockId) : Step Registry Unit :=
  fun ⟨headers, vacant, capacity, overhead, fit⟩ =>
    .ok () ⟨headers, id :: vacant, capacity, overhead, fit⟩

def insert (header : Header) : Step Registry BlockId := do
  match ← popVacant with
  | some id =>
    adjust id fun _ => header
    return id
  | none => push header

def linkBack (id : Option BlockId) (prev : BlockId) : Step Registry Unit :=
  match id with
  | some id => adjust id fun h => { h with prev := some prev }
  | none => pure ()

-- Splits only if what lies behind the `size` bytes can hold a header and a payload.
def split (id : BlockId) (size : Nat) : Step Registry Bool := do
  let h ← Step.query fun r => r.header id
  let overhead := (← get).headerOverhead
  let needed ← Word.add size overhead
  if h.size ≤ needed then
    return false
  let start ← Word.add h.offset overhead
  let offset ← Word.add start size
  let created ← insert
    { offset, size := h.size - size - overhead, free := true, prev := some id, next := h.next }
  linkBack h.next created
  adjust id fun h => { h with size, next := some created }
  return true

def allocate (size : Nat) : Step Registry (Option Placement) := do
  match ← Step.query fun r => r.findFit size with
  | none => return none
  | some id =>
    let split ← split id size
    adjust id fun h => { h with free := false }
    return some ⟨id, split⟩

def retire (id : BlockId) : Step Registry Unit := do
  adjust id fun h => { h with size := 0, free := true, prev := none, next := none }
  pushVacant id

def absorbNext (id : BlockId) : Step Registry Unit := do
  let h ← Step.query fun r => r.header id
  match h.next with
  | none => return
  | some next =>
    let absorbed ← Step.query fun r => r.header next
    linkBack absorbed.next id
    let overhead := (← get).headerOverhead
    let span ← Word.add overhead absorbed.size
    let size ← Word.add h.size span
    adjust id fun h => { h with size, next := absorbed.next }
    retire next

def mergeForward (id : BlockId) : Step Registry Nat := do
  let h ← Step.query fun r => r.header id
  match h.next with
  | none => return 0
  | some next =>
    if (← Step.query fun r => r.header next).free then
      absorbNext id
      return 1
    return 0

-- The survivor is the neighbour ahead of `id` if that one is free.
def mergeBackward (id : BlockId) : Step Registry (BlockId × Nat) := do
  let h ← Step.query fun r => r.header id
  match h.prev with
  | none => return (id, 0)
  | some prev =>
    if (← Step.query fun r => r.header prev).free then
      absorbNext prev
      return (prev, 1)
    return (id, 0)

def release (id : BlockId) : Step Registry (Option Coalesce) := do
  if (← Step.query fun r => r.header id).free then
    return none
  adjust id fun h => { h with free := true }
  let forward ← mergeForward id
  let (survivor, backward) ← mergeBackward id
  return some ⟨survivor, forward + backward⟩

end Registry

end BlockPool
