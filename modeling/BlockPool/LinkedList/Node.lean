import BlockPool.Config
import BlockPool.Handle

/-! The record a list keeps in each of its blocks: the value, a flag that says whether a link follows, a
byte that is not used, and the handle of the next node or zeros. -/

set_option autoImplicit false

namespace BlockPool

structure Node where
  value : UInt16
  next : Option Handle
deriving DecidableEq, Repr

namespace Node

def encodedLength : Nat := 16

def encode (node : Node) : Vector UInt8 encodedLength :=
  let (flag, link) : UInt8 × Vector UInt8 Handle.encodedLength := match node.next with
    | some next => (1, next.toBytes)
    | none => (0, Vector.replicate Handle.encodedLength 0)
  Bytes.ofHalf node.value ++ #v[flag, 0] ++ link

-- Any flag but zero announces a link.
def decode (bytes : Vector UInt8 encodedLength) : Node where
  value := Bytes.half bytes[0] bytes[1]
  next := if bytes[2] = 0 then none else some (Handle.ofBytes (bytes.drop 4))

end Node

-- The fields of a record as they lie in its bytes, whether or not the flag announces the link.
structure NodeBytes where
  value : UInt16
  flag : UInt8
  unused : UInt8
  link : Option Handle
deriving DecidableEq, Repr

namespace NodeBytes

def encode (node : NodeBytes) : Vector UInt8 Node.encodedLength :=
  let link := match node.link with
    | some link => link.toBytes
    | none => Vector.replicate Handle.encodedLength 0
  Bytes.ofHalf node.value ++ #v[node.flag, node.unused] ++ link

-- No pool has the number zero until the numbers wrap, so a link to one is none.
def decode (bytes : Vector UInt8 Node.encodedLength) : NodeBytes :=
  let link := Handle.ofBytes (bytes.drop 4)
  { value := Bytes.half bytes[0] bytes[1]
    flag := bytes[2]
    unused := bytes[3]
    link := if link.pool.number = 0 then none else some link }

end NodeBytes

def PoolConfig.forNodes (count : Nat) : PoolConfig :=
  { capacity := Word.mulCapped (max count 1) (Node.encodedLength + PoolConfig.standard.headerOverhead) }

end BlockPool
