import BlockPool.Proofs.HeapAgreement

set_option autoImplicit false

namespace BlockPool

open Heap

-- Handle slots have 32-bit numbers.
def RoomForHandles (pool : Pool) : Prop := ∀ heap, pool.heap = some heap → heap.handles.slots.size < UInt32.size

instance (pool : Pool) : Decidable (RoomForHandles pool) :=
  inferInstanceAs (Decidable (∀ heap ∈ pool.heap, heap.handles.slots.size < UInt32.size))

-- The pool and the reference machine go through the same calls, and each outcome is one the machine allows.
def Accounted {α : Type} (config : PoolConfig) : Pool → Option Memory → Nat → List (PoolCall α) → Prop
  | _, _, _, [] => True
  | pool, memory, made, call :: rest =>
    RoomForHandles pool →
      ∃ memory', Agrees config made memory call (call.perform.attempt pool).1 memory' ∧ SparesOthers call memory memory' ∧
        Accounted config (call.after pool) memory' (made + 1) rest

-- The payloads of a pool are the entries of a memory, after `made` calls.
def Mirrors (config : PoolConfig) (pool : Pool) (made : Nat) : Option Memory → Prop
  | none => pool.heap = none
  | some memory => ∃ heap blocks, pool.heap = some heap ∧ Sound config heap blocks ∧ Counted made heap.metrics ∧
      memory = contents heap

theorem closed_agrees {α : Type} (config : PoolConfig) (made : Nat) (call : PoolCall α) (going : call ≠ .deinit) (pool : Pool)
    (closed : pool.heap = none) :
    Agrees config made none call (call.perform.attempt pool).1 none ∧ (call.after pool).heap = none := by
  rw [PoolCall.after, PoolCall.perform_works call going]
  obtain ⟨answer, still⟩ := on_heap_closed call.absent call.work pool closed
  exact ⟨⟨answer, rfl⟩, still⟩

theorem open_agrees {α : Type} (config : PoolConfig) (geometry : Geometry config) (call : PoolCall α)
    (going : call ≠ .deinit) (pool : Pool) (heap : Heap) (blocks : List LinkedSpan) (made : Nat)
    (opened : pool.heap = some heap) (sound : Sound config heap blocks) (room : heap.handles.slots.size < UInt32.size)
    (counted : Counted made heap.metrics) :
    Agrees config made (some (contents heap)) call (call.perform.attempt pool).1 (some (contents (call.work.attempt heap).2)) ∧
      Mirrors config (call.after pool) (made + 1) (some (contents (call.work.attempt heap).2)) := by
  rw [PoolCall.after, PoolCall.perform_works call going]
  obtain ⟨answer, left⟩ := on_heap_open call.absent call.work pool heap opened
  obtain ⟨blocks', sound'⟩ := work_kept config geometry call heap ⟨blocks, sound⟩
  have advanced := work_advanced config geometry heap blocks call sound
  refine ⟨?_, _, blocks', left, sound', advanced_counted made _ _ counted advanced, rfl⟩
  rw [answer]
  exact work_agrees config geometry heap blocks call going made sound room counted

theorem call_agrees {α : Type} (config : PoolConfig) (geometry : Geometry config) (call : PoolCall α) (pool : Pool)
    (memory : Option Memory) (made : Nat) (mirrors : Mirrors config pool made memory) (room : RoomForHandles pool) :
    ∃ memory', Agrees config made memory call (call.perform.attempt pool).1 memory' ∧
      Mirrors config (call.after pool) (made + 1) memory' := by
  by_cases closing : call = .deinit
  · subst closing
    obtain ⟨answer, closed⟩ := deinit_closes pool
    refine ⟨none, ?_, closed⟩
    cases memory with
    | none => exact ⟨answer, rfl⟩
    | some memory => exact ⟨answer, rfl⟩
  · cases memory with
    | none => exact ⟨none, closed_agrees config made call closing pool mirrors⟩
    | some memory =>
        obtain ⟨heap, blocks, opened, sound, counted, rfl⟩ := mirrors
        exact ⟨_, open_agrees config geometry call closing pool heap blocks made opened sound (room heap opened) counted⟩

theorem calls_accounted {α : Type} (config : PoolConfig) (geometry : Geometry config) (calls : List (PoolCall α))
    (pool : Pool) (memory : Option Memory) (made : Nat) (mirrors : Mirrors config pool made memory) :
    Accounted config pool memory made calls := by
  -- the induction carries that the pool mirrors the memory; the outcomes are what one call adds to that
  induction calls generalizing pool memory made with
  | nil => trivial
  | cons call rest ih =>
      intro room
      obtain ⟨memory', agrees, next⟩ := call_agrees config geometry call pool memory made mirrors room
      exact ⟨memory', agrees, agrees_spares_others config made call memory memory' _ agrees, ih _ _ _ next⟩

theorem unissued_contents (heap : Heap) (id : PoolId) (fresh : heap.handles = .empty id) : contents heap = fun _ => none := by
  funext h
  refine contents_none heap h ?_
  rw [Heap.resolve, fresh]
  cases known : (HandleTable.empty id).get? h with
  | none => rfl
  | some block =>
      obtain ⟨_, slot⟩ := (get_some_iff _ h block).mp known
      simp [HandleTable.empty] at slot

theorem pool_is_memory {α : Type} (config : PoolConfig) (valid : config.Valid) (counter : PoolCounter) :
    ∃ pool next, Pool.init config counter = .ok (.ok pool) next ∧
      ∀ calls : List (PoolCall α), Accounted config pool (some fun _ => none) 0 calls := by
  have geometry := valid_geometry config valid
  obtain ⟨pool, next, heap, made, opened, _, _, handles, metrics, sound⟩ := init_pool config valid counter
  refine ⟨pool, next, made, fun calls => calls_accounted config geometry calls pool _ 0 ?_⟩
  refine ⟨heap, _, opened, sound, ?_, (unissued_contents heap pool.id handles).symm⟩
  rw [metrics]
  exact ⟨Nat.le_refl _, Nat.le_refl _, Nat.le_refl _⟩

theorem accounted_reached {α : Type} (config : PoolConfig) (done rest : List (PoolCall α)) (pool : Pool) (memory : Option Memory)
    (made : Nat) (accounted : Accounted config pool memory made (done ++ rest))
    (room : ∀ n < done.length, RoomForHandles (afterCalls (done.take n) pool)) :
    ∃ memory', Accounted config (afterCalls done pool) memory' (made + done.length) rest := by
  induction done generalizing pool memory made with
  | nil => exact ⟨memory, accounted⟩
  | cons call others ih =>
      obtain ⟨memory', _, _, next⟩ := accounted (room 0 (Nat.succ_pos _))
      obtain ⟨memory'', final⟩ :=
        ih (call.after pool) memory' (made + 1) next fun n fewer => room (n + 1) (Nat.succ_lt_succ fewer)
      refine ⟨memory'', ?_⟩
      rw [List.length_cons, Nat.add_comm others.length, ← Nat.add_assoc]
      exact final

-- What was written is read from where it has moved.
theorem pool_is_memory_unaligned :
    (PoolConfig.mk 100 8 8 .bestFit true).Valid ∧
      ∃ pool next reached memory memory', Pool.init (PoolConfig.mk 100 8 8 .bestFit true) ⟨3⟩ = .ok (.ok pool) next ∧
        afterCalls ([.alloc 5, .write ⟨⟨3⟩, 0, 0⟩ 2 [7, 9], .resize (some ⟨⟨3⟩, 0, 0⟩) 20] :
          List (PoolCall Unit)) pool = reached ∧
        ((Pool.read ⟨⟨3⟩, 1, 0⟩ 0 5).attempt reached).1 = .ok (.ok #v[0, 0, 7, 9, 0]) ∧
        Agrees (PoolConfig.mk 100 8 8 .bestFit true) 3 memory (.read ⟨⟨3⟩, 1, 0⟩ 0 5 : PoolCall Unit)
          ((Pool.read ⟨⟨3⟩, 1, 0⟩ 0 5).attempt reached).1 memory' ∧
        SparesOthers (.read ⟨⟨3⟩, 1, 0⟩ 0 5 : PoolCall Unit) memory memory' := by
  have valid : (PoolConfig.mk 100 8 8 .bestFit true).Valid := by rfl
  obtain ⟨pool, next, made, accounted⟩ := @pool_is_memory Unit (PoolConfig.mk 100 8 8 .bestFit true) valid ⟨3⟩
  generalize sofar :
    ([.alloc 5, .write ⟨⟨3⟩, 0, 0⟩ 2 [7, 9], .resize (some ⟨⟨3⟩, 0, 0⟩) 20] : List (PoolCall Unit)) =
    calls
  have room : ∀ n < calls.length + 1, RoomForHandles (afterCalls (calls.take n) pool) := by
    cases made
    cases sofar
    decide +kernel
  have answered : ((Pool.read ⟨⟨3⟩, 1, 0⟩ 0 5).attempt (afterCalls calls pool)).1 = .ok (.ok #v[0, 0, 7, 9, 0]) := by
    cases made
    cases sofar
    decide +kernel
  have count : calls.length = 3 := by rw [← sofar]; rfl
  obtain ⟨memory, further⟩ := accounted_reached _ calls [.read ⟨⟨3⟩, 1, 0⟩ 0 5] pool _ 0 (accounted _) fun n fewer =>
    room n (Nat.lt_succ_of_lt fewer)
  have full := room calls.length (Nat.lt_succ_self _)
  rw [List.take_length] at full
  obtain ⟨memory', agrees, spares, _⟩ := further full
  rw [count] at agrees
  exact ⟨valid, pool, next, _, memory, memory', made, rfl, answered, agrees, spares⟩

end BlockPool
