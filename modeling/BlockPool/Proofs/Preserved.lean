import BlockPool.Proofs.IssuedHandles
import BlockPool.Proofs.ReachedPools

set_option autoImplicit false

namespace BlockPool

open Heap

abbrev PoolLaw : Type := List LinkedSpan → HandleTable → Nat → Prop

structure Preserved (config : PoolConfig) (law : PoolLaw) : Prop where
  served :
    ∀ (heap next : Heap) (size whole : Nat) (before after : List LinkedSpan) (id created : BlockId) (h : Handle) (returned : Nat),
    Sound config heap (before ++ (id, ⟨whole, true⟩) :: after) →
    Served config heap size before after id created whole h next →
      law (before ++ (id, ⟨whole, true⟩) :: after) heap.handles returned →
        law (config.takenBlocks size whole before after id created) next.handles returned
  freed : ∀ (heap next : Heap) (h : Handle) (before after ahead behind : List LinkedSpan) (id survivor : BlockId)
      (size whole merges returned : Nat),
    Sound config heap (before ++ (id, ⟨size, false⟩) :: after) →
      Freed config heap h before after ahead behind id survivor size whole merges next →
        law (before ++ (id, ⟨size, false⟩) :: after) heap.handles returned →
          law (ahead ++ (survivor, ⟨whole, true⟩) :: behind) next.handles (returned + 1)

-- The frees that were not ignored are the blocks that were given back.
def Obeys (config : PoolConfig) (law : PoolLaw) (heap : Heap) : Prop :=
  ∃ blocks returned, Sound config heap blocks ∧ heap.metrics.freeCalls = heap.metrics.ignoredFrees + returned ∧
    law blocks heap.handles returned

theorem refused_balance (m : PoolMetrics) (size returned : Nat) (balance : m.freeCalls = m.ignoredFrees + returned) :
    (m.refused size).freeCalls = (m.refused size).ignoredFrees + returned := by
  unfold PoolMetrics.refused
  split <;> exact balance

section Law

variable (config : PoolConfig) (geometry : Geometry config) (law : PoolLaw) (preserved : Preserved config law)

include preserved

theorem served_obeys (heap next : Heap) (size whole returned : Nat) (before after : List LinkedSpan)
    (id created : BlockId) (h : Handle) (sound : Sound config heap (before ++ (id, ⟨whole, true⟩) :: after))
    (served : Served config heap size before after id created whole h next)
    (balance : heap.metrics.freeCalls = heap.metrics.ignoredFrees + returned)
    (holds : law (before ++ (id, ⟨whole, true⟩) :: after) heap.handles returned) :
    next.metrics.freeCalls = next.metrics.ignoredFrees + returned ∧
      law (config.takenBlocks size whole before after id created) next.handles returned := by
  refine ⟨?_, preserved.served heap next size whole before after id created h returned sound served holds⟩
  rw [served.metrics]
  exact balance

theorem freed_obeys (heap next : Heap) (h : Handle) (before after ahead behind : List LinkedSpan) (id survivor : BlockId)
    (size whole merges returned : Nat) (sound : Sound config heap (before ++ (id, ⟨size, false⟩) :: after))
    (freed : Freed config heap h before after ahead behind id survivor size whole merges next)
    (balance : heap.metrics.freeCalls = heap.metrics.ignoredFrees + returned)
    (holds : law (before ++ (id, ⟨size, false⟩) :: after) heap.handles returned) :
    next.metrics.freeCalls = next.metrics.ignoredFrees + (returned + 1) ∧
      law (ahead ++ (survivor, ⟨whole, true⟩) :: behind) next.handles (returned + 1) := by
  refine ⟨?_, preserved.freed heap next h before after ahead behind id survivor size whole merges returned sound freed holds⟩
  rw [freed.metrics]
  exact congrArg Nat.succ balance

include geometry

theorem alloc_obeys (heap : Heap) (size : Nat) (obeys : Obeys config law heap) :
    Obeys config law ((Heap.alloc size).attempt heap).2 := by
  obtain ⟨blocks, returned, sound, balance, holds⟩ := obeys
  rcases alloc_block_cases config geometry heap blocks size sound with
    ⟨_, stopped⟩ | ⟨_, refused, kept⟩ | ⟨before, id, whole, after, created, h, next, rfl, served⟩
  · rw [attempt_error _ heap heap .overflow (alloc_stopped heap size .overflow stopped)]
    exact ⟨blocks, returned, sound, balance, holds⟩
  · rw [attempt_ok _ heap _ _ (alloc_ran heap _ size _ refused)]
    exact ⟨blocks, returned, kept, refused_balance heap.metrics size returned balance, holds⟩
  · rw [attempt_ok _ heap next _ (alloc_ran heap next size _ served.ran)]
    exact ⟨_, returned, served.sound,
      served_obeys config law preserved heap next size whole returned before after id created h sound served balance holds⟩

theorem free_obeys (heap : Heap) (h : Option Handle) (obeys : Obeys config law heap) :
    Obeys config law ((Heap.free h).attempt heap).2 := by
  obtain ⟨blocks, returned, sound, balance, holds⟩ := obeys
  rcases free_cases config geometry heap blocks h sound with
    ⟨_, stopped⟩ | ⟨_, ignored, kept⟩ | ⟨handle, before, after, ahead, behind, id, survivor, size, whole,
      merges, next, rfl, rfl, freed⟩
  · rw [attempt_error _ heap heap .overflow stopped]
    exact ⟨blocks, returned, sound, balance, holds⟩
  · rw [attempt_ok _ heap _ _ ignored]
    refine ⟨blocks, returned, kept, ?_, holds⟩
    simp only [PoolMetrics.ignoring]
    omega
  · rw [attempt_ok _ heap next _ freed.ran]
    exact ⟨_, returned + 1, freed.sound,
      freed_obeys config law preserved heap next handle before after ahead behind id survivor size whole merges
      returned sound freed balance
        holds⟩

theorem move_obeys (heap : Heap) (blocks : List LinkedSpan) (h : Handle) (place : Place) (size returned : Nat)
    (sound : Sound config heap blocks) (member : place ∈ places config.headerOverhead 0 blocks)
    (known : heap.resolve h = some place.id) (grows : place.size < size)
    (slack : heap.metrics.resizeInPlace + heap.metrics.resizeMoved + heap.metrics.resizeFailures <
      heap.metrics.resizeCalls) (balance : heap.metrics.freeCalls = heap.metrics.ignoredFrees + returned)
    (holds : law blocks heap.handles returned) :
    Obeys config law ((Heap.move h place.start place.size size).attempt heap).2 := by
  cases move_cases config geometry heap blocks h place size sound member known grows slack with
  | uncounted _ full goes =>
      rw [goes]
      exact ⟨blocks, returned, sound, balance, holds⟩
  | refused _ unserved goes kept =>
      rw [goes]
      exact ⟨blocks, returned, kept, refused_balance heap.metrics size returned balance, holds⟩
  | unreleased before after id created whole n next served full goes filled =>
      rw [goes]
      exact ⟨_, returned, filled,
        served_obeys config law preserved heap next size whole returned before after id created n sound served balance holds⟩
  | moved before after before' after' ahead behind id created survivor whole size' whole' merges n next freed served
      filled frees goes kept =>
      obtain ⟨balance', holds'⟩ :=
        served_obeys config law preserved heap next size whole returned before after id created n sound served balance holds
      have copied := copied_sound config next _ place (config.takenPlace size whole before id) served.sound
      rw [sound_blocks_same config _ _ _ copied filled] at holds'
      rw [goes]
      exact ⟨_, returned + 1, kept,
        freed_obeys config law preserved _ freed h before' after' ahead behind place.id survivor size' whole' merges
        returned filled frees
          balance' holds'⟩

theorem resize_obeys (heap : Heap) (h : Option Handle) (size : Nat) (obeys : Obeys config law heap) :
    Obeys config law ((Heap.resize h size).attempt heap).2 := by
  obtain ⟨blocks, returned, sound, balance, holds⟩ := obeys
  rcases resize_cases config geometry heap blocks h size sound with ⟨_, stopped⟩ | ⟨counted, outcome⟩
  · rw [stopped]
    exact ⟨blocks, returned, sound, balance, holds⟩
  · have resized : Obeys config law (resizing heap) := ⟨blocks, returned, counted, balance, holds⟩
    cases outcome with
    | allocates goes =>
        rw [goes]
        exact alloc_obeys config geometry law preserved (resizing heap) size resized
    | frees h zero goes =>
        rw [goes]
        exact free_obeys config geometry law preserved (resizing heap) (some h) resized
    | ignores h nonzero unknown goes =>
        rw [goes]
        exact resized
    | stays h place nonzero member known fits goes kept =>
        rw [goes]
        exact ⟨blocks, returned, kept, balance, holds⟩
    | moves h place nonzero member known grows slack goes =>
        rw [goes]
        exact move_obeys config geometry law preserved (resizing heap) blocks h place size returned counted member
          known grows slack balance
          holds

omit geometry preserved in
theorem arena_only_obeys {α : Type} (step : Step Heap α) (only : ArenaOnly step) (heap : Heap) (obeys : Obeys config law heap) :
    Obeys config law (step.attempt heap).2 := by
  obtain ⟨blocks, returned, sound, balance, holds⟩ := obeys
  obtain ⟨arena, same, capacity⟩ := only heap
  rw [same]
  exact ⟨blocks, returned, sound_arena config heap blocks arena sound capacity, balance, holds⟩

theorem work_obeys {α : Type} (call : PoolCall α) (heap : Heap) (obeys : Obeys config law heap) :
    Obeys config law (call.work.attempt heap).2 := by
  cases call with
  | alloc size => exact alloc_obeys config geometry law preserved heap size obeys
  | free h => exact free_obeys config geometry law preserved heap h obeys
  | resize h size => exact resize_obeys config geometry law preserved heap h size obeys
  | read h offset len => exact arena_only_obeys config law _ (read_arena_only h offset len) heap obeys
  | write h offset data => exact arena_only_obeys config law _ (write_arena_only h offset data) heap obeys
  | withPayload h look => exact arena_only_obeys config law _ (with_payload_arena_only h look) heap obeys
  | editPayload h edit => exact arena_only_obeys config law _ (edit_payload_arena_only h edit) heap obeys
  | usableSize h => exact arena_only_obeys config law _ (arena_only_query _) heap obeys
  | deinit => exact obeys

theorem request_obeys {α : Type} (request : PoolRequest α) (heap : Heap) (obeys : Obeys config law heap) :
    Obeys config law (request.work.attempt heap).2 := by
  cases request with
  | act call => exact work_obeys config geometry law preserved call heap obeys
  | isInitialized => exact obeys
  | liveAllocations => exact obeys
  | _ => exact arena_only_obeys config law _ (arena_only_query _) heap obeys

theorem requests_obey {α : Type} (requests : List (PoolRequest α)) (pool : Pool)
    (obeys : ∀ heap, pool.heap = some heap → Obeys config law heap) (heap : Heap)
    (opened : (afterRequests requests pool).heap = some heap) : Obeys config law heap := by
  induction requests generalizing pool with
  | nil => exact obeys heap opened
  | cons request rest ih =>
      refine ih (request.after pool) (fun next left => ?_) opened
      obtain ⟨before, opened', _, rfl⟩ := request_left request pool next left
      exact request_obeys config geometry law preserved request before (obeys before opened')

omit geometry in
theorem init_obeys {α : Type} (valid : config.Valid) (counter : PoolCounter)
    (start : law [(0, ⟨config.capacity - config.headerOverhead, true⟩)] (.empty ⟨counter.upcoming⟩) 0) :
    ∃ pool next, Pool.init config counter = .ok (.ok pool) next ∧ pool.id = ⟨counter.upcoming⟩ ∧
      ∀ (requests : List (PoolRequest α)) (heap : Heap), (afterRequests requests pool).heap = some heap →
        Obeys config law heap := by
  obtain ⟨pool, next, heap, made, opened, named, _, handles, metrics, sound⟩ := init_pool config valid counter
  have fresh : Obeys config law heap := ⟨_, 0, sound, by rw [metrics], by rw [handles, named]; exact start⟩
  refine ⟨pool, next, made, named, fun requests => requests_obey config (valid_geometry config valid) law
    preserved requests pool ?_⟩
  intro heap' opened'
  cases opened.symm.trans opened'
  exact fresh

end Law

end BlockPool
