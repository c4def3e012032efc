import BlockPool.Proofs.SharedPool
import BlockPool.Proofs.SlotGrowth

set_option autoImplicit false

namespace BlockPool

-- An open pool that an account is right about, with so many slots for handles at most.
def Housed (config : PoolConfig) (slots : Nat) (pool : Pool) (acc : Account) : Prop :=
  ∃ heap, pool.heap = some heap ∧ Inventory config heap acc ∧ heap.handles.slots.size ≤ slots

theorem housed_stocked (config : PoolConfig) (slots : Nat) (pool : Pool) (acc : Account) (housed : Housed config slots pool acc) :
    Stocked config pool acc := by
  obtain ⟨heap, opened, inventory, _⟩ := housed
  exact ⟨heap, opened, inventory⟩

theorem housed_heap (config : PoolConfig) (slots : Nat) (pool pool' : Pool) (acc : Account) (same : pool'.heap = pool.heap)
    (housed : Housed config slots pool acc) : Housed config slots pool' acc := by
  obtain ⟨heap, opened, kept⟩ := housed
  exact ⟨heap, same.trans opened, kept⟩

theorem housed_larger (config : PoolConfig) (slots slots' : Nat) (pool : Pool) (acc : Account)
    (housed : Housed config slots pool acc) (more : slots ≤ slots') : Housed config slots' pool acc := by
  obtain ⟨heap, opened, inventory, few⟩ := housed
  exact ⟨heap, opened, inventory, few.trans more⟩

section Calls

variable (config : PoolConfig) (geometry : Geometry config) (slots : Nat) (pool : Pool) (acc : Account)
  (housed : Housed config slots pool acc)

include geometry housed

theorem pool_reads (h : Handle) (bytes : List UInt8) (len : Nat) (held : acc.memory h = some bytes)
    (inside : len ≤ bytes.length) :
    ∃ (found : Vector UInt8 len) (pool' : Pool), BlockAllocator.read h 0 len pool = .ok (.ok found) pool' ∧
      pool'.heap = pool.heap ∧
      found.toList = bytes.take len := by
  obtain ⟨heap, opened, inventory, _⟩ := housed
  obtain ⟨found, ran, same⟩ := heap_reads config geometry heap acc h bytes len inventory held inside
  obtain ⟨pool', ran', left⟩ := on_heap_ran _ _ _ pool heap heap opened ran
  exact ⟨found, pool', ran', left.trans opened.symm, same⟩

theorem pool_usable (h : Handle) :
    ∃ pool', BlockAllocator.usableSize h pool = .ok ((acc.memory h).map List.length) pool' ∧ pool'.heap = pool.heap := by
  obtain ⟨heap, opened, inventory, _⟩ := housed
  obtain ⟨blocks, sound⟩ := inventory.kept
  have ran := usable_size_agrees config geometry heap blocks h sound
  rw [← inventory.memory] at ran
  obtain ⟨pool', ran', left⟩ := on_heap_ran none _ _ pool heap heap opened ran
  exact ⟨pool', ran', left.trans opened.symm⟩

theorem pool_writes (h : Handle) (bytes data : List UInt8) (held : acc.memory h = some bytes)
    (inside : data.length ≤ bytes.length) :
    ∃ pool', BlockAllocator.write h 0 data pool = .ok (.ok ()) pool' ∧
      Housed config slots pool' { acc with memory := acc.memory.put h (some (splice bytes 0 data)) } := by
  obtain ⟨heap, opened, inventory, few⟩ := housed
  obtain ⟨next, ran, stock⟩ := heap_writes config geometry heap acc h bytes data inventory held inside
  obtain ⟨pool', ran', left⟩ := on_heap_ran _ _ _ pool heap next opened ran
  have still := arena_only_slots heap _ (write_arena_only h 0 data)
  rw [attempt_ok _ heap next _ ran] at still
  exact ⟨pool', ran', next, left, stock, still.le.trans few⟩

theorem call_housed (call : PoolCall Unit) (room : slots < UInt32.size) (going : call ≠ .deinit) :
    ∃ memory live, Housed config (slots + call.slots) (call.after pool)
        ⟨memory, live, (call.granted (call.perform.attempt pool).1).toList ++ acc.issued, acc.calls + 1⟩ ∧
      Agrees config acc.calls (some acc.memory) call (call.perform.attempt pool).1 (some memory) ∧
      ∀ h, call.granted (call.perform.attempt pool).1 = some h → call.handle = some h ∨ h ∉ acc.issued := by
  obtain ⟨heap, opened, inventory, few⟩ := housed
  obtain ⟨blocks, sound⟩ := inventory.kept
  have roomy : RoomForHandles pool := by
    intro heap' opened'
    cases opened.symm.trans opened'
    exact few.trans_lt room
  obtain ⟨acc', ⟨next, opened', inventory'⟩, agrees, origin, issued, calls⟩ :=
    call_stocked config geometry pool acc call ⟨heap, opened, inventory⟩ roomy going
  have left : (call.after pool).heap = some (call.work.attempt heap).2 := by
    rw [PoolCall.after, call.perform_works going]
    exact (on_heap_open call.absent call.work pool heap opened).2
  cases opened'.symm.trans left
  have grown := work_slots config geometry heap blocks call sound
  refine ⟨acc'.memory, acc'.live, ⟨_, left, ?_, by omega⟩, agrees, origin⟩
  rw [← issued, ← calls]
  exact inventory'

end Calls

inductive Granted (config : PoolConfig) (slots : Nat) (acc : Account) (size : Nat) :
    EStateM.Result Abort Pool (Option Handle) → Prop where
  | refused (live : Nat) (pool' : Pool) (housed : Housed config slots pool' ⟨acc.memory, live, acc.issued, acc.calls + 1⟩) :
      Granted config slots acc size (.ok none pool')
  | granted (h : Handle) (bytes : List UInt8) (live : Nat) (pool' : Pool) (positive : 0 < size) (vacant : acc.memory h = none)
      (fresh : h ∉ acc.issued) (enough : size ≤ bytes.length)
      (housed : Housed config slots pool' ⟨acc.memory.put h (some bytes), live, h :: acc.issued, acc.calls + 1⟩) :
      Granted config slots acc size (.ok (some h) pool')

inductive Reshaped (config : PoolConfig) (slots : Nat) (acc : Account) (h : Handle) (bytes : List UInt8) (size : Nat) :
    EStateM.Result Abort Pool (Option Handle) → Prop where
  | freed (live : Nat) (pool' : Pool) (zero : size = 0)
      (housed : Housed config slots pool' ⟨acc.memory.put h none, live, acc.issued, acc.calls + 1⟩) :
      Reshaped config slots acc h bytes size (.ok none pool')
  | refused (live : Nat) (pool' : Pool) (nonzero : size ≠ 0)
      (housed : Housed config slots pool' ⟨acc.memory, live, acc.issued, acc.calls + 1⟩) :
      Reshaped config slots acc h bytes size (.ok none pool')
  | stayed (live : Nat) (pool' : Pool) (nonzero : size ≠ 0) (fits : size ≤ bytes.length)
      (housed : Housed config slots pool' ⟨acc.memory, live, h :: acc.issued, acc.calls + 1⟩) :
      Reshaped config slots acc h bytes size (.ok (some h) pool')
  | moved (n : Handle) (rest : List UInt8) (live : Nat) (pool' : Pool) (nonzero : size ≠ 0) (differs : n ≠ h)
      (vacant : acc.memory n = none) (fresh : n ∉ acc.issued) (enough : size ≤ (bytes ++ rest).length)
      (housed : Housed config slots pool' ⟨(acc.memory.put h none).put n (some (bytes ++ rest)), live,
        n :: acc.issued, acc.calls + 1⟩) :
      Reshaped config slots acc h bytes size (.ok (some n) pool')

section Outcomes

variable (config : PoolConfig) (geometry : Geometry config) (slots : Nat) (pool : Pool) (acc : Account)

theorem agrees_granted (step : Step Pool (Option Handle)) (size live : Nat) (memory : Memory)
    (housed : Housed config slots (step.attempt pool).2
      ⟨memory, live, (answeredHandle (step.attempt pool).1).toList ++ acc.issued, acc.calls + 1⟩)
    (agrees : AllocAgrees config acc.calls acc.memory size (step.attempt pool).1 memory)
    (fresh : ∀ h, answeredHandle (step.attempt pool).1 = some h → h ∉ acc.issued) (few : acc.calls < Word.greatest) :
    Granted config slots acc size (step pool) := by
  cases ran : step pool with
  | error reason pool' =>
      rw [attempt_error step pool pool' reason ran] at agrees
      exact absurd agrees.2.1 (Nat.not_le.mpr few)
  | ok answer pool' =>
      rw [attempt_ok step pool pool' answer ran] at agrees housed fresh
      cases answer with
      | none =>
          cases agrees
          exact .refused live pool' housed
      | some h =>
          obtain ⟨positive, vacant, bytes, enough, _, rfl⟩ := agrees
          exact .granted h bytes live pool' positive vacant (fresh h rfl) enough housed

theorem agrees_reshaped (step : Step Pool (Option Handle)) (h : Handle) (bytes : List UInt8) (size live : Nat)
    (memory : Memory)
    (housed : Housed config slots (step.attempt pool).2
      ⟨memory, live, (answeredHandle (step.attempt pool).1).toList ++ acc.issued, acc.calls + 1⟩)
    (agrees : ResizeAgrees config acc.calls acc.memory (some h) size (step.attempt pool).1 memory)
    (origin : ∀ n, answeredHandle (step.attempt pool).1 = some n → some h = some n ∨ n ∉ acc.issued)
    (few : acc.calls < Word.greatest) (held : acc.memory h = some bytes) :
    Reshaped config slots acc h bytes size (step pool) := by
  cases ran : step pool with
  | error reason pool' =>
      rw [attempt_error step pool pool' reason ran] at agrees
      exact absurd agrees.2.1 (Nat.not_le.mpr few)
  | ok answer pool' =>
      rw [attempt_ok step pool pool' answer ran] at agrees housed origin
      simp only [ResizeAgrees] at agrees
      by_cases zero : size = 0
      · simp only [if_pos zero] at agrees
        obtain ⟨rfl, rfl⟩ := agrees
        exact .freed live pool' zero housed
      · simp only [if_neg zero, held] at agrees
        by_cases fits : size ≤ bytes.length
        · simp only [if_pos fits] at agrees
          obtain ⟨rfl, rfl⟩ := agrees
          exact .stayed live pool' zero fits housed
        · simp only [if_neg fits] at agrees
          cases answer with
          | none =>
              cases agrees
              exact .refused live pool' zero housed
          | some n =>
              obtain ⟨vacant, rest, enough, _, rfl⟩ := agrees
              have differs : n ≠ h := by
                rintro rfl
                rw [vacant] at held
                cases held
              have fresh : n ∉ acc.issued := (origin n rfl).resolve_left fun named => differs (Option.some.inj named).symm
              exact .moved n rest live pool' zero differs vacant fresh (by rwa [List.length_append]) housed

theorem agrees_freed (step : Step Pool Unit) (h : Option Handle) (live : Nat) (memory : Memory)
    (housed : Housed config slots (step.attempt pool).2 ⟨memory, live, acc.issued, acc.calls + 1⟩)
    (agrees : FreeAgrees acc.calls acc.memory h (step.attempt pool).1 memory) (few : acc.calls < Word.greatest) :
    ∃ live pool', step pool = .ok () pool' ∧
      Housed config slots pool' ⟨h.elim acc.memory fun h => acc.memory.put h none, live, acc.issued, acc.calls + 1⟩ := by
  cases ran : step pool with
  | error reason pool' =>
      rw [attempt_error step pool pool' reason ran] at agrees
      exact absurd agrees.2.1 (Nat.not_le.mpr few)
  | ok answer pool' =>
      rw [attempt_ok step pool pool' answer ran] at agrees housed
      refine ⟨live, pool', rfl, ?_⟩
      cases h with
      | none =>
          cases agrees
          exact housed
      | some h =>
          cases agrees
          exact housed

variable (housed : Housed config slots pool acc) (room : slots < UInt32.size) (few : acc.calls < Word.greatest)

include geometry housed room few

theorem alloc_granted (size : Nat) : Granted config (slots + 1) acc size (BlockAllocator.alloc size pool) := by
  obtain ⟨memory, live, housed', ⟨_, same, agrees⟩, origin⟩ :=
    call_housed config geometry slots pool acc housed (.alloc size) room nofun
  cases same
  exact agrees_granted config (slots + 1) pool acc (Pool.alloc size) size live memory housed' agrees
    (fun h issued => (origin h issued).resolve_left nofun) few

theorem resize_nothing_granted (size : Nat) : Granted config (slots + 1) acc size (BlockAllocator.resize none size pool) := by
  obtain ⟨memory, live, housed', ⟨_, same, agrees⟩, origin⟩ :=
    call_housed config geometry slots pool acc housed (.resize none size) room nofun
  cases same
  exact agrees_granted config (slots + 1) pool acc (Pool.resize none size) size live memory housed' agrees
    (fun h issued => (origin h issued).resolve_left nofun) few

theorem resize_reshaped (h : Handle) (bytes : List UInt8) (size : Nat) (held : acc.memory h = some bytes) :
    Reshaped config (slots + 1) acc h bytes size (BlockAllocator.resize (some h) size pool) := by
  obtain ⟨memory, live, housed', ⟨_, same, agrees⟩, origin⟩ :=
    call_housed config geometry slots pool acc housed (.resize (some h) size) room nofun
  cases same
  exact agrees_reshaped config (slots + 1) pool acc (Pool.resize (some h) size) h bytes size live memory housed'
    agrees origin few held

theorem free_housed (h : Option Handle) :
    ∃ live pool', BlockAllocator.free h pool = .ok () pool' ∧
      Housed config slots pool' ⟨h.elim acc.memory fun h => acc.memory.put h none, live, acc.issued, acc.calls + 1⟩ := by
  obtain ⟨memory, live, housed', ⟨_, same, agrees⟩, _⟩ :=
    call_housed config geometry slots pool acc housed (.free h) room nofun
  cases same
  exact agrees_freed config slots pool acc (Pool.free h) h live memory housed' agrees few

end Outcomes

end BlockPool
