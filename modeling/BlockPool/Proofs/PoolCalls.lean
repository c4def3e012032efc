import BlockPool.Pool
import BlockPool.Proofs.HeapResize

set_option autoImplicit false

namespace BlockPool

open Heap

-- What a client may ask of a pool, closures included.
inductive PoolCall (α : Type) where
  | alloc (size : Nat)
  | free (h : Option Handle)
  | resize (h : Option Handle) (size : Nat)
  | read (h : Handle) (offset len : Nat)
  | write (h : Handle) (offset : Nat) (data : List UInt8)
  | withPayload (h : Handle) (look : (len : Nat) → Vector UInt8 len → α)
  | editPayload (h : Handle) (edit : PayloadEdit α)
  | usableSize (h : Handle)
  | deinit

namespace PoolCall

variable {α : Type}

def Answer : PoolCall α → Type
  | .alloc _ => Option Handle
  | .free _ => Unit
  | .resize _ _ => Option Handle
  | .read _ _ len => Except AccessError (Vector UInt8 len)
  | .write _ _ _ => Except AccessError Unit
  | .withPayload _ _ => Except AccessError α
  | .editPayload _ _ => Except AccessError α
  | .usableSize _ => Option Nat
  | .deinit => Unit

def perform : (call : PoolCall α) → Step Pool call.Answer
  | .alloc size => Pool.alloc size
  | .free h => Pool.free h
  | .resize h size => Pool.resize h size
  | .read h offset len => Pool.read h offset len
  | .write h offset data => Pool.write h offset data
  | .withPayload h look => Pool.withPayload h look
  | .editPayload h edit => Pool.editPayload h edit
  | .usableSize h => Pool.usableSize h
  | .deinit => Pool.deinit

def absent : (call : PoolCall α) → call.Answer
  | .alloc _ => none
  | .free _ => ()
  | .resize _ _ => none
  | .read _ _ _ => .error .uninitialized
  | .write _ _ _ => .error .uninitialized
  | .withPayload _ _ => .error .uninitialized
  | .editPayload _ _ => .error .uninitialized
  | .usableSize _ => none
  | .deinit => ()

-- What a call does with the heap of an open pool; to give that up is not a matter of the heap.
def work : (call : PoolCall α) → Step Heap call.Answer
  | .alloc size => Heap.alloc size
  | .free h => Heap.free h
  | .resize h size => Heap.resize h size
  | .read h offset len => Heap.read h offset len
  | .write h offset data => Heap.write h offset data
  | .withPayload h look => Heap.withPayload h look
  | .editPayload h edit => Heap.editPayload h edit
  | .usableSize h => Step.query fun heap => heap.usableSize h
  | .deinit => pure ()

theorem perform_works (call : PoolCall α) (going : call ≠ .deinit) : call.perform = Pool.onHeap call.absent call.work := by
  cases call with
  | deinit => exact absurd rfl going
  | _ => rfl

def after (call : PoolCall α) (pool : Pool) : Pool := (call.perform.attempt pool).2

end PoolCall

def afterCalls {α : Type} (calls : List (PoolCall α)) (pool : Pool) : Pool :=
  calls.foldl (fun pool call => call.after pool) pool

theorem on_heap_open {α : Type} (absent : α) (step : Step Heap α) (pool : Pool) (heap : Heap) (opened : pool.heap = some heap) :
    ((Pool.onHeap absent step).attempt pool).1 = (step.attempt heap).1 ∧
      ((Pool.onHeap absent step).attempt pool).2.heap = some (step.attempt heap).2 := by
  obtain ⟨id, config, _, poisoned, journal⟩ := pool
  cases opened
  cases ran : step heap with
  | ok value heap' =>
      exact ⟨by simp [Step.attempt, Pool.onHeap, Pool.locked, ran],
        by simp [Step.attempt, Pool.onHeap, Pool.locked, ran]⟩
  | error reason heap' =>
      exact ⟨by simp [Step.attempt, Pool.onHeap, Pool.locked, ran],
        by simp [Step.attempt, Pool.onHeap, Pool.locked, ran]⟩

-- A view is answered from the heap, whether or not the lock is found poisoned.
theorem view_answers {α : Type} (absent value : α) (question : Heap → Except Abort α) (pool : Pool) (heap : Heap)
    (opened : pool.heap = some heap) (answer : question heap = .ok value) :
    ((Pool.onHeap absent (Step.query question)).attempt pool).1 = .ok value := by
  rw [(on_heap_open absent _ pool heap opened).1]
  simp only [Step.attempt, Step.query, answer]

theorem metrics_shown (pool : Pool) (heap : Heap) (opened : pool.heap = some heap) :
    (Pool.metrics.attempt pool).1 = .ok (some heap.metrics) :=
  view_answers none _ (fun heap => .ok (some heap.metrics)) pool heap opened rfl

theorem live_shown (pool : Pool) (heap : Heap) (opened : pool.heap = some heap) :
    (Pool.liveAllocations.attempt pool).1 = .ok heap.handles.live :=
  view_answers 0 _ (fun heap => .ok heap.handles.live) pool heap opened rfl

theorem on_heap_closed {α : Type} (absent : α) (step : Step Heap α) (pool : Pool) (closed : pool.heap = none) :
    ((Pool.onHeap absent step).attempt pool).1 = .ok absent ∧ ((Pool.onHeap absent step).attempt pool).2.heap = none := by
  obtain ⟨id, config, _, poisoned, journal⟩ := pool
  cases closed
  exact ⟨rfl, rfl⟩

theorem deinit_closes (pool : Pool) : (Pool.deinit.attempt pool).1 = .ok () ∧ (Pool.deinit.attempt pool).2.heap = none := by
  obtain ⟨id, config, heap, poisoned, journal⟩ := pool
  cases heap with
  | none => exact ⟨rfl, rfl⟩
  | some heap => exact ⟨rfl, rfl⟩

def ArenaOnly {α : Type} (step : Step Heap α) : Prop :=
  ∀ heap, ∃ arena, (step.attempt heap).2 = { heap with arena } ∧ arena.capacity = heap.arena.capacity

theorem arena_only_pure {α : Type} (value : α) : ArenaOnly (pure value) := fun heap => ⟨heap.arena, rfl, rfl⟩

theorem arena_only_throw {α : Type} (reason : Abort) :
    ArenaOnly (throw reason : Step Heap α) := fun heap => ⟨heap.arena, rfl, rfl⟩

theorem arena_only_get : ArenaOnly (get : Step Heap Heap) := fun heap => ⟨heap.arena, rfl, rfl⟩

theorem arena_only_query {α : Type} (question : Heap → Except Abort α) : ArenaOnly (Step.query question) := by
  intro heap
  refine ⟨heap.arena, ?_, rfl⟩
  cases answer : question heap with
  | ok value => simp only [Step.attempt, Step.query, answer]
  | error reason => simp only [Step.attempt, Step.query, answer]

theorem arena_only_bind {α β : Type} (step : Step Heap α) (next : α → Step Heap β) (first : ArenaOnly step)
    (rest : ∀ value, ArenaOnly (next value)) : ArenaOnly (step >>= next) := by
  intro heap
  obtain ⟨arena, same, capacity⟩ := first heap
  cases ran : step heap with
  | ok value middle =>
      rw [attempt_ok step heap middle value ran] at same
      obtain ⟨final, same', capacity'⟩ := rest value middle
      refine ⟨final, ?_, ?_⟩
      · rw [Step.attempt, step_bind_ok step next heap middle value ran]
        exact same'.trans (by rw [show middle = { heap with arena } from same])
      · rw [capacity', show middle = { heap with arena } from same, capacity]
  | error reason middle =>
      rw [attempt_error step heap middle reason ran] at same
      refine ⟨arena, ?_, capacity⟩
      rw [Step.attempt, step_bind_error step next heap middle reason ran]
      exact same

theorem arena_only_write (start : Nat) (data : List UInt8) : ArenaOnly (onArena (Arena.write start data)) := by
  intro heap
  obtain ⟨config, ⟨bytes⟩, registry, handles, metrics⟩ := heap
  by_cases fits : start + data.length ≤ bytes.size
  · refine ⟨⟨Arena.overwrite bytes start data⟩, ?_, overwrite_size bytes start data⟩
    simp only [Step.attempt, onArena, Arena.write, if_pos fits]
  · refine ⟨⟨bytes⟩, ?_, rfl⟩
    simp only [Step.attempt, onArena, Arena.write, if_neg fits]

theorem read_arena_only (h : Handle) (offset len : Nat) : ArenaOnly (Heap.read h offset len) := by
  refine arena_only_bind _ _ (arena_only_query _) (fun found => ?_)
  cases found with
  | error e => exact arena_only_pure _
  | ok start => exact arena_only_bind _ _ (arena_only_query _) (fun _ => arena_only_pure _)

theorem write_arena_only (h : Handle) (offset : Nat) (data : List UInt8) : ArenaOnly (Heap.write h offset data) := by
  refine arena_only_bind _ _ (arena_only_query _) (fun found => ?_)
  cases found with
  | error e => exact arena_only_pure _
  | ok start => exact arena_only_bind _ _ (arena_only_write _ _) (fun _ => arena_only_pure _)

theorem with_payload_arena_only {α : Type} (h : Handle) (look : (len : Nat) → Vector UInt8 len → α) :
    ArenaOnly (Heap.withPayload h look) := by
  refine arena_only_bind _ _ arena_only_get (fun seen => ?_)
  cases seen.resolve h with
  | none => exact arena_only_pure _
  | some id =>
      refine arena_only_bind _ _ (arena_only_query _) (fun place => ?_)
      exact arena_only_bind _ _ (arena_only_query _) (fun _ => arena_only_pure _)

theorem edit_payload_arena_only {α : Type} (h : Handle) (edit : PayloadEdit α) : ArenaOnly (Heap.editPayload h edit) := by
  refine arena_only_bind _ _ arena_only_get (fun seen => ?_)
  cases seen.resolve h with
  | none => exact arena_only_pure _
  | some id =>
      refine arena_only_bind _ _ (arena_only_query _) (fun place => ?_)
      refine arena_only_bind _ _ (arena_only_query _) (fun bytes => ?_)
      cases edit place.2 bytes with
      | ok value changed => exact arena_only_bind _ _ (arena_only_write _ _) (fun _ => arena_only_pure _)
      | error reason changed => exact arena_only_bind _ _ (arena_only_write _ _) (fun _ => arena_only_throw _)

def Kept (config : PoolConfig) (heap : Heap) : Prop := ∃ blocks, Sound config heap blocks

theorem arena_only_kept {α : Type} (config : PoolConfig) (step : Step Heap α) (only : ArenaOnly step) (heap : Heap)
    (kept : Kept config heap) : Kept config (step.attempt heap).2 := by
  obtain ⟨blocks, sound⟩ := kept
  obtain ⟨arena, same, capacity⟩ := only heap
  rw [same]
  exact ⟨blocks, sound_arena config heap blocks arena sound capacity⟩

theorem alloc_kept (config : PoolConfig) (geometry : Geometry config) (size : Nat) (heap : Heap) (kept : Kept config heap) :
    Kept config ((Heap.alloc size).attempt heap).2 := by
  obtain ⟨blocks, sound⟩ := kept
  rcases alloc_block_cases config geometry heap blocks size sound with
    ⟨_, stopped⟩ | ⟨_, refused, after⟩ | ⟨before, id, whole, after, created, h, next, rfl, served⟩
  · rw [attempt_error _ heap heap .overflow (alloc_stopped heap size .overflow stopped)]
    exact ⟨blocks, sound⟩
  · rw [attempt_ok _ heap _ _ (alloc_ran heap _ size _ refused)]
    exact ⟨blocks, after⟩
  · rw [attempt_ok _ heap _ _ (alloc_ran heap next size _ served.ran)]
    exact ⟨_, served.sound⟩

theorem free_kept (config : PoolConfig) (geometry : Geometry config) (h : Option Handle) (heap : Heap) (kept : Kept config heap) :
    Kept config ((Heap.free h).attempt heap).2 := by
  obtain ⟨blocks, sound⟩ := kept
  rcases free_cases config geometry heap blocks h sound with
    ⟨_, stopped⟩ | ⟨_, ignored, after⟩ | ⟨handle, _, _, _, _, _, _, _, _, _, next, rfl, _, freed⟩
  · rw [attempt_error _ heap heap .overflow stopped]
    exact ⟨blocks, sound⟩
  · rw [attempt_ok _ heap _ _ ignored]
    exact ⟨blocks, after⟩
  · rw [attempt_ok _ heap next _ freed.ran]
    exact ⟨_, freed.sound⟩

theorem move_kept (config : PoolConfig) (geometry : Geometry config) (h : Handle) (size : Nat) (heap : Heap)
    (blocks : List LinkedSpan) (place : Place) (sound : Sound config heap blocks)
    (member : place ∈ places config.headerOverhead 0 blocks) (known : heap.resolve h = some place.id)
    (grows : place.size < size)
    (slack : heap.metrics.resizeInPlace + heap.metrics.resizeMoved + heap.metrics.resizeFailures <
      heap.metrics.resizeCalls) :
    Kept config ((Heap.move h place.start place.size size).attempt heap).2 := by
  cases move_cases config geometry heap blocks h place size sound member known grows slack with
  | uncounted _ full goes =>
      rw [goes]
      exact ⟨blocks, sound⟩
  | refused _ unserved goes after =>
      rw [goes]
      exact ⟨blocks, after⟩
  | unreleased _ _ _ _ _ _ _ served full goes filled =>
      rw [goes]
      exact ⟨_, filled⟩
  | moved _ _ _ _ _ _ _ _ _ _ _ _ _ _ _ _ served filled frees goes after =>
      rw [goes]
      exact ⟨_, after⟩

theorem resize_kept (config : PoolConfig) (geometry : Geometry config) (h : Option Handle) (size : Nat) (heap : Heap)
    (kept : Kept config heap) : Kept config ((Heap.resize h size).attempt heap).2 := by
  obtain ⟨blocks, sound⟩ := kept
  rcases resize_cases config geometry heap blocks h size sound with ⟨_, stopped⟩ | ⟨counted, outcome⟩
  · rw [stopped]
    exact ⟨blocks, sound⟩
  · cases outcome with
    | allocates goes =>
        rw [goes]
        exact alloc_kept config geometry size (resizing heap) ⟨blocks, counted⟩
    | frees h zero goes =>
        rw [goes]
        exact free_kept config geometry (some h) (resizing heap) ⟨blocks, counted⟩
    | ignores h nonzero unknown goes =>
        rw [goes]
        exact ⟨blocks, counted⟩
    | stays h place nonzero member known fits goes sound' =>
        rw [goes]
        exact ⟨blocks, sound'⟩
    | moves h place nonzero member known grows slack goes =>
        rw [goes]
        exact move_kept config geometry h size (resizing heap) blocks place counted member known grows slack

theorem work_kept {α : Type} (config : PoolConfig) (geometry : Geometry config) (call : PoolCall α) (heap : Heap)
    (kept : Kept config heap) : Kept config (call.work.attempt heap).2 := by
  cases call with
  | alloc size => exact alloc_kept config geometry size heap kept
  | free h => exact free_kept config geometry h heap kept
  | resize h size => exact resize_kept config geometry h size heap kept
  | read h offset len => exact arena_only_kept config _ (read_arena_only h offset len) heap kept
  | write h offset data => exact arena_only_kept config _ (write_arena_only h offset data) heap kept
  | withPayload h look => exact arena_only_kept config _ (with_payload_arena_only h look) heap kept
  | editPayload h edit => exact arena_only_kept config _ (edit_payload_arena_only h edit) heap kept
  | usableSize h => exact arena_only_kept config _ (arena_only_query _) heap kept
  | deinit => exact kept

theorem call_kept {α : Type} (config : PoolConfig) (geometry : Geometry config) (call : PoolCall α)
    (going : call ≠ .deinit) (pool : Pool) (kept : ∃ heap, pool.heap = some heap ∧ Kept config heap) :
    ∃ heap, (call.after pool).heap = some heap ∧ Kept config heap := by
  obtain ⟨heap, opened, kept⟩ := kept
  obtain ⟨_, left⟩ := on_heap_open call.absent call.work pool heap opened
  rw [PoolCall.after, PoolCall.perform_works call going]
  exact ⟨_, left, work_kept config geometry call heap kept⟩

theorem calls_kept {α : Type} (config : PoolConfig) (geometry : Geometry config) (calls : List (PoolCall α))
    (going : ∀ call ∈ calls, call ≠ .deinit) (pool : Pool) (kept : ∃ heap, pool.heap = some heap ∧ Kept config heap) :
    ∃ heap, (afterCalls calls pool).heap = some heap ∧ Kept config heap := by
  induction calls generalizing pool with
  | nil => exact kept
  | cons call rest ih =>
      refine ih (fun other member => going other (List.mem_cons_of_mem _ member)) (call.after pool) ?_
      exact call_kept config geometry call (going call List.mem_cons_self) pool kept

theorem init_pool (config : PoolConfig) (valid : config.Valid) (counter : PoolCounter) :
    ∃ pool next heap, Pool.init config counter = .ok (.ok pool) next ∧ pool.heap = some heap ∧
      pool.id = ⟨counter.upcoming⟩ ∧ heap.arena = .zeroed config.capacity ∧ heap.handles = .empty pool.id ∧
      heap.metrics = {} ∧
      Sound config heap [(0, ⟨config.capacity - config.headerOverhead, true⟩)] := by
  have geometry := valid_geometry config valid
  obtain ⟨heap, fresh, arena, handles, metrics, sound⟩ := fresh_sound config geometry ⟨counter.upcoming⟩
  have counted := max_blocks_exact config geometry
  refine ⟨⟨⟨counter.upcoming⟩, config, some heap, false, #[.initialized ⟨counter.upcoming⟩ config
      (config.capacity / (config.headerOverhead + config.alignment) + 1)]⟩,
    ⟨counter.upcoming + 1⟩, heap, ?_, rfl, rfl, arena, handles, metrics, sound⟩
  · unfold Pool.init
    have accepted : (Step.ofExcept config.validate.run : Step PoolCounter _) counter = .ok (.ok ()) counter := by
      rw [show config.validate.run = .ok (.ok ()) from valid]
      rfl
    refine Eq.trans (step_bind_ok _ _ _ _ _ accepted) ?_
    simp only
    refine Eq.trans (step_bind_ok _ _ _ ⟨counter.upcoming + 1⟩ ⟨counter.upcoming⟩ rfl) ?_
    rw [fresh, step_lift_bind, counted, step_lift_bind]
    rfl

end BlockPool
