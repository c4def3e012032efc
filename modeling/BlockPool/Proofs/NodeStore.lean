import BlockPool.LinkedList.Basic
import BlockPool.Proofs.HeapContents
import BlockPool.Proofs.NodeRecord

set_option autoImplicit false

namespace BlockPool

open LinkedList

-- What a list has to know of the memory it lies in.
structure Account where
  memory : Memory
  live : Nat
  -- every handle that was handed out so far
  issued : List Handle
  -- no fewer than the allocations and releases that were counted
  calls : Nat

section Laws

variable {σ : Type} [BlockAllocator σ]

def upcoming (s : σ) : Except Abort (Option Handle) := ((BlockAllocator.alloc Node.encodedLength : Step σ _).attempt s).1

theorem upcoming_ran (s s' : σ) (answer : Option Handle) (ran : BlockAllocator.alloc Node.encodedLength s = .ok answer s') :
    upcoming s = .ok answer := congrArg Prod.fst (attempt_ok _ s s' answer ran)

variable [Journaled σ]

-- What lists rely on. Allocations may be refused; if the store is faulty, writes may be lost, which is then answered.
-- Allocations depend on no more than a view of the state, and that is not changed by reading.
structure NodeStore {γ : Type} (faulty : Prop) (Roomy : σ → Prop) (view : σ → γ) (Shows : σ → Account → Prop) :
    Prop where
  foresees : ∀ s s' acc, Shows s acc → view s' = view s → upcoming s' = upcoming s
  keepsRoom : ∀ s s', view s' = view s → Roomy s → Roomy s'
  reads : ∀ s acc h bytes, Shows s acc → acc.memory h = some bytes → Node.encodedLength ≤ bytes.length →
    ∃ found s', BlockAllocator.read h 0 Node.encodedLength s = .ok (.ok found) s' ∧ Shows s' acc ∧ view s' = view s ∧
      found.toList = bytes.take Node.encodedLength
  writes : ∀ s acc h bytes (data : List UInt8), Shows s acc → acc.memory h = some bytes → data.length ≤ bytes.length →
    (∃ s', BlockAllocator.write h 0 data s = .ok (.ok ()) s' ∧
      Shows s' { acc with memory := acc.memory.put h (some (splice bytes 0 data)) }) ∨
    (faulty ∧ ∃ e s', BlockAllocator.write h 0 data s = .ok (.error e) s' ∧ Shows s' acc)
  allocates : ∀ s acc, Shows s acc → Roomy s →
    (∃ s', BlockAllocator.alloc Node.encodedLength s = .error .overflow s' ∧ Word.greatest ≤ acc.calls) ∨
    (∃ s', BlockAllocator.alloc Node.encodedLength s = .ok none s' ∧ Shows s' { acc with calls := acc.calls + 1 }) ∨
    (∃ h bytes s', BlockAllocator.alloc Node.encodedLength s = .ok (some h) s' ∧ acc.memory h = none ∧ h ∉ acc.issued ∧
      Node.encodedLength ≤ bytes.length ∧
      Shows s' ⟨acc.memory.put h (some bytes), acc.live + 1, h :: acc.issued, acc.calls + 1⟩)
  frees : ∀ s acc h bytes, Shows s acc → acc.memory h = some bytes →
    (∃ s', BlockAllocator.free (some h) s = .error .overflow s' ∧ Word.greatest ≤ acc.calls) ∨
    (∃ live s', BlockAllocator.free (some h) s = .ok () s' ∧ acc.live = live + 1 ∧
      Shows s' { acc with memory := acc.memory.put h none, live, calls := acc.calls + 1 })
  notes : ∀ s acc event, Shows s acc → Shows (Journaled.note event s) acc ∧ view (Journaled.note event s) = view s

end Laws

section Nodes

variable {σ : Type} [BlockAllocator σ] [Journaled σ] {γ : Type} {faulty : Prop} {Roomy : σ → Prop}
  {view : σ → γ} {Shows : σ → Account → Prop}

def Inscribed (memory : Memory) (h : Handle) (node : Node) : Prop :=
  ∃ bytes, memory h = some bytes ∧ Node.encodedLength ≤ bytes.length ∧ bytes.take Node.encodedLength = node.encode.toList

theorem splice_record (bytes : List UInt8) (node : Node) :
    Node.encodedLength ≤ (splice bytes 0 node.encode.toList).length ∧
      (splice bytes 0 node.encode.toList).take Node.encodedLength = node.encode.toList := by
  have length : node.encode.toList.length = Node.encodedLength := node.encode.length_toList
  have spliced : splice bytes 0 node.encode.toList = node.encode.toList ++ bytes.drop Node.encodedLength := by
    simp only [splice, List.take_zero, List.nil_append, Nat.zero_add, length]
  rw [spliced]
  constructor
  · rw [List.length_append, length]
    exact Nat.le_add_right _ _
  · exact List.take_left' length

theorem load_inscribed (store : NodeStore faulty Roomy view Shows) (s : σ) (acc : Account) (h : Handle) (node : Node)
    (shows : Shows s acc) (inscribed : Inscribed acc.memory h node) :
    ∃ s', LinkedList.load h s = .ok (some node) s' ∧ Shows s' acc ∧ view s' = view s := by
  obtain ⟨bytes, held, enough, record⟩ := inscribed
  obtain ⟨found, s', ran, shows', still, same⟩ := store.reads s acc h bytes shows held enough
  have decoded : Node.decode found = node := by
    rw [Vector.toList_inj.mp (same.trans record)]
    exact decode_encode node
  refine ⟨s', ?_, shows', still⟩
  refine (step_bind_ok _ _ s s' _ ran).trans ?_
  rw [← decoded]
  rfl

theorem store_cases (store : NodeStore faulty Roomy view Shows) (s : σ) (acc : Account) (h : Handle) (bytes : List UInt8)
    (node : Node) (shows : Shows s acc) (held : acc.memory h = some bytes) (enough : Node.encodedLength ≤ bytes.length) :
    (∃ written s', LinkedList.store h node s = .ok true s' ∧ Shows s' { acc with memory := acc.memory.put h (some written) } ∧
      Inscribed (acc.memory.put h (some written)) h node) ∨
    (faulty ∧ ∃ s', LinkedList.store h node s = .ok false s' ∧ Shows s' acc) := by
  have fits : node.encode.toList.length ≤ bytes.length := by rwa [Vector.length_toList]
  rcases store.writes s acc h bytes node.encode.toList shows held fits with ⟨s', ran, shows'⟩ | ⟨fault, e, s', ran, shows'⟩
  · obtain ⟨longer, record⟩ := splice_record bytes node
    exact .inl ⟨_, s', step_bind_ok _ _ s s' _ ran, shows', _, put_same acc.memory h _, longer, record⟩
  · exact .inr ⟨fault, s', step_bind_ok _ _ s s' _ ran, shows'⟩

-- What an attempt to make a node comes to. If it fails the memory is as it was.
inductive Created (faulty : Prop) (Shows : σ → Account → Prop) (s : σ) (acc : Account) (node : Node) :
    EStateM.Result Abort σ (Option Handle) → Prop where
  | halted (s' : σ) (full : Word.greatest < acc.calls + 2) : Created faulty Shows s acc node (.error .overflow s')
  | refused (s' : σ) (nothing : upcoming s = .ok none) (shows : Shows s' { acc with calls := acc.calls + 1 }) :
      Created faulty Shows s acc node (.ok none s')
  | undone (h : Handle) (s' : σ) (fault : faulty)
      (shows : Shows s' { acc with issued := h :: acc.issued, calls := acc.calls + 2 }) :
      Created faulty Shows s acc node (.ok none s')
  | made (h : Handle) (bytes : List UInt8) (s' : σ) (served : upcoming s = .ok (some h)) (vacant : acc.memory h = none)
      (fresh : h ∉ acc.issued) (inscribed : Inscribed (acc.memory.put h (some bytes)) h node)
      (shows : Shows s' ⟨acc.memory.put h (some bytes), acc.live + 1, h :: acc.issued, acc.calls + 1⟩) :
      Created faulty Shows s acc node (.ok (some h) s')

theorem put_vacant (memory : Memory) (h : Handle) (content : Option (List UInt8)) (vacant : memory h = none) :
    (memory.put h content).put h none = memory := by
  rw [put_put]
  funext k
  by_cases same : k = h
  · rw [same, put_same, vacant]
  · exact put_other memory h k none same

theorem create_cases (store : NodeStore faulty Roomy view Shows) (s : σ) (acc : Account) (node : Node) (shows : Shows s acc)
    (roomy : Roomy s) : Created faulty Shows s acc node (LinkedList.create node s) := by
  unfold LinkedList.create
  rcases store.allocates s acc shows roomy with
    ⟨s', ran, full⟩ | ⟨s', ran, shows'⟩ | ⟨h, bytes, s', ran, vacant, fresh, enough, shows'⟩
  · rw [step_bind_error _ _ s s' _ ran]
    exact .halted s' (Nat.lt_succ_of_le (Nat.le_succ_of_le full))
  · rw [step_bind_ok _ _ s s' _ ran]
    exact .refused _ (upcoming_ran s s' none ran) (store.notes s' _ (.noMemory node.value) shows').1
  · rw [step_bind_ok _ _ s s' _ ran]
    have held : acc.memory.put h (some bytes) h = some bytes := put_same acc.memory h _
    rcases store_cases store s' _ h bytes node shows' held enough with
      ⟨written, s'', wrote, shows'', inscribed⟩ | ⟨fault, s'', lost, shows''⟩
    · simp only
      rw [step_bind_ok _ _ s' s'' _ wrote]
      simp only [put_put] at shows'' inscribed
      exact .made h written s'' (upcoming_ran s s' (some h) ran) vacant fresh inscribed shows''
    · simp only
      rw [step_bind_ok _ _ s' s'' _ lost]
      rcases store.frees s'' _ h bytes shows'' held with ⟨final, gave, full⟩ | ⟨live, final, gave, counted, shows'''⟩
      · simp only [Bool.false_eq_true, if_false]
        rw [step_bind_error _ _ s'' final _ gave]
        exact .halted final (Nat.lt_succ_of_le full)
      · simp only [Bool.false_eq_true, if_false]
        rw [step_bind_ok _ _ s'' final _ gave]
        cases Nat.succ.inj counted
        simp only [put_vacant acc.memory h (some bytes) vacant] at shows'''
        exact .undone h final fault shows'''

end Nodes

end BlockPool
