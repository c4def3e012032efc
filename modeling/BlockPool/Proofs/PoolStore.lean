import BlockPool.Proofs.NodeStore
import BlockPool.Proofs.PoolMemory
import BlockPool.Proofs.SingleRelease

set_option autoImplicit false

namespace BlockPool

open Heap

structure Inventory (config : PoolConfig) (heap : Heap) (acc : Account) : Prop where
  kept : Kept config heap
  recorded : ∃ history, Ledger heap.handles history ∧ ∀ h ∈ acc.issued, ∃ block, .issued h block ∈ history
  memory : acc.memory = contents heap
  live : acc.live = heap.handles.live
  counted : Counted acc.calls heap.metrics

-- A handle that comes to resolve has never been issued before.
theorem newly_resolving (t next : HandleTable) (history : List HandleEvent) (h : Handle) (block other : BlockId)
    (ledger : Ledger t history) (continues : Continues t next) (unknown : t.get? h = none)
    (known : next.get? h = some block) : .issued h other ∉ history := by
  intro issued
  obtain ⟨since, earlier, rfl⟩ := List.append_of_mem issued
  by_cases gone : .removed h ∈ since
  · have spent : Spent t h := ⟨_, other, since, earlier, ledger, rfl, gone⟩
    rw [spent_unknown next h (spent_stays t next h continues spent)] at known
    cases known
  · have still := (ledger.accountable.resolves h other).mpr ⟨since, earlier, rfl, gone⟩
    rw [unknown] at still
    cases still

theorem inventory_next (config : PoolConfig) (heap next : Heap) (acc : Account) (subject : Option Handle)
    (blocks blocks' : List LinkedSpan) (calls : Nat) (inventory : Inventory config heap acc)
    (passage : Passage config subject heap blocks next blocks') (counted : Counted calls next.metrics) :
    Inventory config next ⟨contents next, next.handles.live, acc.issued, calls⟩ := by
  obtain ⟨history, ledger, covers⟩ := inventory.recorded
  obtain ⟨later, ledger'⟩ := passage.continues history ledger
  refine ⟨⟨blocks', passage.sound⟩, ⟨later ++ history, ledger', fun h member => ?_⟩, rfl, rfl, counted⟩
  obtain ⟨block, issued⟩ := covers h member
  exact ⟨block, List.mem_append_right _ issued⟩

theorem held_resolves (heap : Heap) (h : Handle) (bytes : List UInt8) (held : contents heap h = some bytes) :
    ∃ block, heap.resolve h = some block := by
  cases known : heap.resolve h with
  | none =>
      rw [contents_none heap h known] at held
      cases held
  | some block => exact ⟨block, rfl⟩

theorem inventory_issued (config : PoolConfig) (heap : Heap) (acc : Account) (h : Handle) (bytes : List UInt8)
    (inventory : Inventory config heap acc) (held : acc.memory h = some bytes) :
    Inventory config heap { acc with issued := h :: acc.issued } := by
  obtain ⟨kept, ⟨history, ledger, covers⟩, memory, live, counted⟩ := inventory
  rw [memory] at held
  obtain ⟨block, known⟩ := held_resolves heap h bytes held
  refine ⟨kept, ⟨history, ledger, fun k member => ?_⟩, memory, live, counted⟩
  rcases List.mem_cons.mp member with rfl | earlier
  · exact ⟨block, outstanding_was_issued history k block ((ledger.accountable.resolves k block).mp known)⟩
  · exact covers k earlier

theorem inventory_fresh (config : PoolConfig) (geometry : Geometry config) (heap next : Heap) (acc : Account) (h : Handle)
    (bytes : List UInt8) (inventory : Inventory config heap acc) (continues : Continues heap.handles next.handles)
    (vacant : acc.memory h = none) (held : contents next h = some bytes) : h ∉ acc.issued := by
  intro member
  obtain ⟨blocks, sound⟩ := inventory.kept
  obtain ⟨history, ledger, covers⟩ := inventory.recorded
  obtain ⟨other, issued⟩ := covers h member
  obtain ⟨block, known⟩ := held_resolves next h bytes held
  rw [inventory.memory] at vacant
  rcases contents_cases config geometry heap blocks h sound with ⟨unknown, _⟩ | ⟨_, _, _, found, _⟩
  · exact newly_resolving heap.handles next.handles history h block other ledger continues unknown known issued
  · rw [vacant] at found
    cases found

theorem inventory_looser (config : PoolConfig) (heap : Heap) (acc : Account) (issued : List Handle) (calls : Nat)
    (inventory : Inventory config heap acc) (fewer : ∀ h ∈ issued, h ∈ acc.issued) (more : acc.calls ≤ calls) :
    Inventory config heap { acc with issued, calls } := by
  obtain ⟨kept, ⟨history, ledger, covers⟩, memory, live, ⟨allocs, frees, resizes⟩⟩ := inventory
  exact ⟨kept, ⟨history, ledger, fun h member => covers h (fewer h member)⟩, memory, live,
    ⟨allocs.trans more, frees.trans more, resizes.trans more⟩⟩

theorem heap_allocates (config : PoolConfig) (geometry : Geometry config) (heap : Heap) (acc : Account) (size : Nat)
    (inventory : Inventory config heap acc) (room : heap.handles.slots.size < UInt32.size) :
    (Heap.alloc size heap = .error .overflow heap ∧ Word.greatest ≤ acc.calls) ∨
    (∃ next, Heap.alloc size heap = .ok none next ∧ Inventory config next { acc with calls := acc.calls + 1 }) ∨
    ∃ h bytes next, Heap.alloc size heap = .ok (some h) next ∧ acc.memory h = none ∧ h ∉ acc.issued ∧
      size ≤ bytes.length ∧
      Inventory config next ⟨acc.memory.put h (some bytes), acc.live + 1, h :: acc.issued, acc.calls + 1⟩ := by
  obtain ⟨blocks, sound⟩ := inventory.kept
  have advanced := advanced_more 1 0 0 _ _ (alloc_advanced config geometry heap blocks size sound) (by decide)
  have counted := advanced_counted acc.calls _ _ inventory.counted advanced
  rcases alloc_block_cases config geometry heap blocks size sound with
    ⟨full, stopped⟩ | ⟨_, refused, kept⟩ | ⟨before, id, whole, after, created, h, next, rfl, served⟩
  · exact .inl ⟨alloc_stopped heap size .overflow stopped, full_counter acc.calls _ inventory.counted.allocs full⟩
  · have ran := alloc_ran heap _ size _ refused
    rw [attempt_ok _ heap _ _ ran] at counted
    have passage := passage_same config none heap _ blocks kept rfl
    have next := inventory_next config heap _ acc none blocks blocks _ inventory passage counted
    refine .inr (.inl ⟨_, ran, ?_⟩)
    rwa [contents_metrics, ← inventory.memory, show heap.handles.live = acc.live from inventory.live.symm] at next
  · have ran := alloc_ran heap next size _ served.ran
    rw [attempt_ok _ heap next _ ran] at counted
    have passage := served_passage config heap next size whole before after id created h served room
    obtain ⟨absent, bytes, enough, _, same⟩ :=
      served_contents config geometry heap next size whole before after id created h sound served room
    rw [← inventory.memory] at same absent
    have held : contents next h = some bytes := by rw [same, put_same]
    have fresh := inventory_fresh config geometry heap next acc h bytes inventory passage.continues absent held
    have live : next.handles.live = acc.live + 1 := by
      obtain ⟨k, table, inserted, grown⟩ :=
        insert_succeeds heap.handles id sound.handles (sound_live config geometry heap _ sound)
      rw [served.issued] at inserted
      cases inserted
      rw [grown, inventory.live]
    have stock := inventory_issued config next _ h bytes
      (inventory_next config heap next acc none _ _ _ inventory passage counted) held
    rw [same, live] at stock
    exact .inr (.inr ⟨h, bytes, next, ran, absent, fresh, enough, stock⟩)

theorem heap_frees (config : PoolConfig) (geometry : Geometry config) (heap : Heap) (acc : Account) (h : Handle)
    (bytes : List UInt8) (inventory : Inventory config heap acc) (held : acc.memory h = some bytes) :
    (Heap.free (some h) heap = .error .overflow heap ∧ Word.greatest ≤ acc.calls) ∨
    ∃ live next, Heap.free (some h) heap = .ok () next ∧ acc.live = live + 1 ∧
      Inventory config next { acc with memory := acc.memory.put h none, live, calls := acc.calls + 1 } := by
  obtain ⟨blocks, sound⟩ := inventory.kept
  have advanced := advanced_more 0 1 0 _ _ (free_advanced config geometry heap blocks (some h) sound) (by decide)
  have counted := advanced_counted acc.calls _ _ inventory.counted advanced
  rcases free_cases config geometry heap blocks (some h) sound with
    ⟨full, stopped⟩ | ⟨unknown, _, _⟩ | ⟨handle, before, after, ahead, behind, id, survivor, size, whole,
      merges, next, named, rfl, freed⟩
  · exact .inl ⟨stopped, full_counter acc.calls _ inventory.counted.frees full⟩
  · rw [inventory.memory, contents_none heap h unknown] at held
    cases held
  · cases named
    rw [attempt_ok _ heap next _ freed.ran] at counted
    have passage := freed_passage config heap next h before after ahead behind id survivor size whole merges sound freed
    have same := freed_contents config geometry heap next h before after ahead behind id survivor size whole merges sound freed
    have stock := inventory_next config heap next acc (some h) _ _ _ inventory passage counted
    have live : acc.live = next.handles.live + 1 := by
      rw [inventory.live, freed.handles, vacate]
      exact (Nat.sub_add_cancel (resolving_counted heap.handles h id freed.resolved sound.handles)).symm
    rw [same, ← inventory.memory] at stock
    exact .inr ⟨_, next, freed.ran, live, stock⟩

theorem heap_reads (config : PoolConfig) (geometry : Geometry config) (heap : Heap) (acc : Account) (h : Handle)
    (bytes : List UInt8) (len : Nat) (inventory : Inventory config heap acc) (held : acc.memory h = some bytes)
    (inside : len ≤ bytes.length) :
    ∃ found : Vector UInt8 len, Heap.read h 0 len heap = .ok (.ok found) heap ∧ found.toList = bytes.take len := by
  obtain ⟨blocks, sound⟩ := inventory.kept
  rw [inventory.memory] at held
  have reached : reach (contents heap) h 0 len = .ok bytes := by
    simp only [reach, held, Nat.zero_add, if_pos inside]
  rcases read_cases config geometry heap blocks h 0 len sound with ⟨e, missed, _⟩ | ⟨_, found, reached', ran, same⟩
  · rw [reached] at missed
    cases missed
  · rw [reached] at reached'
    cases reached'
    exact ⟨found, ran, same⟩

theorem heap_writes (config : PoolConfig) (geometry : Geometry config) (heap : Heap) (acc : Account) (h : Handle)
    (bytes data : List UInt8) (inventory : Inventory config heap acc) (held : acc.memory h = some bytes)
    (inside : data.length ≤ bytes.length) :
    ∃ next, Heap.write h 0 data heap = .ok (.ok ()) next ∧
      Inventory config next { acc with memory := acc.memory.put h (some (splice bytes 0 data)) } := by
  obtain ⟨blocks, sound⟩ := inventory.kept
  rw [inventory.memory] at held
  have reached : reach (contents heap) h 0 data.length = .ok bytes := by
    simp only [reach, held, Nat.zero_add, if_pos inside]
  have agrees := write_agrees config geometry heap blocks h 0 data sound
  simp only [WriteAgrees, reached] at agrees
  obtain ⟨answered, same⟩ := agrees
  refine ⟨_, attempt_ran _ heap _ answered, ?_⟩
  obtain ⟨blocks', passage⟩ := arena_only_passage config none heap blocks _ (write_arena_only h 0 data) sound
  obtain ⟨arena, only, _⟩ := write_arena_only h 0 data heap
  have counted : Counted acc.calls ((Heap.write h 0 data).attempt heap).2.metrics := by
    rw [only]
    exact inventory.counted
  have live : ((Heap.write h 0 data).attempt heap).2.handles.live = acc.live := by
    rw [only]
    exact inventory.live.symm
  have stock := inventory_next config heap _ acc none blocks blocks' acc.calls inventory passage counted
  rwa [same, ← inventory.memory, live] at stock

def Stocked (config : PoolConfig) (pool : Pool) (acc : Account) : Prop :=
  ∃ heap, pool.heap = some heap ∧ Inventory config heap acc

theorem on_heap_ran {α : Type} (absent value : α) (step : Step Heap α) (pool : Pool) (heap next : Heap)
    (opened : pool.heap = some heap) (ran : step heap = .ok value next) :
    ∃ pool', Pool.onHeap absent step pool = .ok value pool' ∧ pool'.heap = some next := by
  obtain ⟨answered, left⟩ := on_heap_open absent step pool heap opened
  rw [attempt_ok step heap next value ran] at answered left
  exact ⟨_, attempt_ran _ pool value answered, left⟩

theorem on_heap_absent {α : Type} (absent : α) (step : Step Heap α) (pool : Pool) (closed : pool.heap = none) :
    ∃ pool', Pool.onHeap absent step pool = .ok absent pool' ∧ pool'.heap = none := by
  obtain ⟨answered, left⟩ := on_heap_closed absent step pool closed
  exact ⟨_, attempt_ran _ pool absent answered, left⟩

theorem on_heap_stopped {α : Type} (absent : α) (step : Step Heap α) (pool : Pool) (heap next : Heap) (reason : Abort)
    (opened : pool.heap = some heap) (stopped : step heap = .error reason next) :
    ∃ pool', Pool.onHeap absent step pool = .error reason pool' := by
  obtain ⟨answered, _⟩ := on_heap_open absent step pool heap opened
  rw [attempt_error step heap next reason stopped] at answered
  exact ⟨_, attempt_stopped _ pool reason answered⟩

theorem upcoming_heap (pool pool' : Pool) (same : pool'.heap = pool.heap) : upcoming pool' = upcoming pool := by
  cases opened : pool.heap with
  | none =>
      rw [opened] at same
      exact (on_heap_closed none (Heap.alloc Node.encodedLength) pool' same).1.trans
        (on_heap_closed none (Heap.alloc Node.encodedLength) pool opened).1.symm
  | some heap =>
      rw [opened] at same
      exact (on_heap_open none (Heap.alloc Node.encodedLength) pool' heap same).1.trans
        (on_heap_open none (Heap.alloc Node.encodedLength) pool heap opened).1.symm

theorem room_heap (pool pool' : Pool) (same : pool'.heap = pool.heap) (room : RoomForHandles pool) : RoomForHandles pool' :=
  fun heap opened => room heap (same.symm.trans opened)

theorem pool_store (config : PoolConfig) (geometry : Geometry config) :
    NodeStore False RoomForHandles Pool.heap (Stocked config) where
  foresees := fun pool pool' _ _ same => upcoming_heap pool pool' same
  keepsRoom := room_heap
  reads := by
    rintro pool acc h bytes ⟨heap, opened, inventory⟩ held inside
    obtain ⟨found, ran, same⟩ := heap_reads config geometry heap acc h bytes Node.encodedLength inventory held inside
    obtain ⟨pool', ran', left⟩ := on_heap_ran _ _ _ pool heap heap opened ran
    exact ⟨found, pool', ran', ⟨heap, left, inventory⟩, left.trans opened.symm, same⟩
  writes := by
    rintro pool acc h bytes data ⟨heap, opened, inventory⟩ held inside
    obtain ⟨next, ran, stock⟩ := heap_writes config geometry heap acc h bytes data inventory held inside
    obtain ⟨pool', ran', left⟩ := on_heap_ran _ _ _ pool heap next opened ran
    exact .inl ⟨pool', ran', next, left, stock⟩
  allocates := by
    rintro pool acc ⟨heap, opened, inventory⟩ room
    rcases heap_allocates config geometry heap acc Node.encodedLength inventory (room heap opened) with
      ⟨stopped, full⟩ | ⟨next, ran, stock⟩ | ⟨h, bytes, next, ran, vacant, fresh, enough, stock⟩
    · obtain ⟨pool', stopped'⟩ := on_heap_stopped none _ pool heap heap _ opened stopped
      exact .inl ⟨pool', stopped', full⟩
    · obtain ⟨pool', ran', left⟩ := on_heap_ran none _ _ pool heap next opened ran
      exact .inr (.inl ⟨pool', ran', next, left, stock⟩)
    · obtain ⟨pool', ran', left⟩ := on_heap_ran none _ _ pool heap next opened ran
      exact .inr (.inr ⟨h, bytes, pool', ran', vacant, fresh, enough, next, left, stock⟩)
  frees := by
    rintro pool acc h bytes ⟨heap, opened, inventory⟩ held
    rcases heap_frees config geometry heap acc h bytes inventory held with
      ⟨stopped, full⟩ | ⟨live, next, ran, counted, stock⟩
    · obtain ⟨pool', stopped'⟩ := on_heap_stopped () _ pool heap heap _ opened stopped
      exact .inl ⟨pool', stopped', full⟩
    · obtain ⟨pool', ran', left⟩ := on_heap_ran () _ _ pool heap next opened ran
      exact .inr ⟨live, pool', ran', counted, next, left, stock⟩
  notes := fun _ _ _ stock => ⟨stock, rfl⟩

-- A pool that was closed is a store that holds nothing and serves nobody.
def Shut (pool : Pool) (acc : Account) : Prop := pool.heap = none ∧ acc.memory = (fun _ => none) ∧ acc.live = 0

theorem shut_store : NodeStore False RoomForHandles Pool.heap Shut where
  foresees := fun pool pool' _ _ same => upcoming_heap pool pool' same
  keepsRoom := room_heap
  reads := by
    rintro pool acc h bytes ⟨_, nothing, _⟩ held
    rw [nothing] at held
    cases held
  writes := by
    rintro pool acc h bytes data ⟨_, nothing, _⟩ held
    rw [nothing] at held
    cases held
  allocates := by
    rintro pool acc ⟨closed, nothing⟩ _
    obtain ⟨answered, still⟩ := on_heap_closed none (Heap.alloc Node.encodedLength) pool closed
    exact .inr (.inl ⟨_, attempt_ran _ pool none answered, still, nothing⟩)
  frees := by
    rintro pool acc h bytes ⟨_, nothing, _⟩ held
    rw [nothing] at held
    cases held
  notes := fun _ _ _ shut => ⟨shut, rfl⟩

theorem init_stocked (config : PoolConfig) (valid : config.Valid) (counter : PoolCounter) :
    ∃ pool next, Pool.init config counter = .ok (.ok pool) next ∧ Stocked config pool ⟨fun _ => none, 0, [], 0⟩ := by
  obtain ⟨pool, next, heap, made, opened, _, _, handles, metrics, sound⟩ := init_pool config valid counter
  refine ⟨pool, next, made, heap, opened, ⟨_, sound⟩, ⟨[], handles ▸ empty_ledger pool.id, nofun⟩, ?_, ?_, ?_⟩
  · exact (unissued_contents heap pool.id handles).symm
  · rw [handles]
    rfl
  · rw [metrics]
    exact ⟨Nat.le_refl _, Nat.le_refl _, Nat.le_refl _⟩

end BlockPool
