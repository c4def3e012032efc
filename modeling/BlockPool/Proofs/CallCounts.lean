import BlockPool.Proofs.PoolCalls

set_option autoImplicit false

namespace BlockPool

open Heap

-- No counter of calls is ahead of the calls that were made.
structure Counted (made : Nat) (m : PoolMetrics) : Prop where
  allocs : m.allocCalls ≤ made
  frees : m.freeCalls ≤ made
  resizes : m.resizeCalls ≤ made

structure Advanced (allocs frees resizes : Nat) (m m' : PoolMetrics) : Prop where
  allocs : m'.allocCalls ≤ m.allocCalls + allocs
  frees : m'.freeCalls ≤ m.freeCalls + frees
  resizes : m'.resizeCalls ≤ m.resizeCalls + resizes

theorem still_advanced (allocs frees resizes : Nat) (m : PoolMetrics) : Advanced allocs frees resizes m m :=
  ⟨Nat.le_add_right _ _, Nat.le_add_right _ _, Nat.le_add_right _ _⟩

theorem advanced_more (allocs frees resizes : Nat) (m m' : PoolMetrics) (advanced : Advanced allocs frees resizes m m')
    (single : allocs ≤ 1 ∧ frees ≤ 1 ∧ resizes ≤ 1) : Advanced 1 1 1 m m' := by
  obtain ⟨moreAllocs, moreFrees, moreResizes⟩ := advanced
  constructor <;> omega

theorem advanced_counted (made : Nat) (m m' : PoolMetrics) (counted : Counted made m) (advanced : Advanced 1 1 1 m m') :
    Counted (made + 1) m' := by
  obtain ⟨allocated, freed, resized⟩ := counted
  obtain ⟨moreAllocs, moreFrees, moreResizes⟩ := advanced
  constructor <;> omega

theorem refused_advanced (m : PoolMetrics) (size : Nat) : Advanced 1 0 0 m (m.refused size) := by
  unfold PoolMetrics.refused
  split <;> exact ⟨Nat.le_refl _, Nat.le_refl _, Nat.le_refl _⟩

theorem alloc_advanced (config : PoolConfig) (geometry : Geometry config) (heap : Heap) (blocks : List LinkedSpan) (size : Nat)
    (sound : Sound config heap blocks) : Advanced 1 0 0 heap.metrics ((Heap.alloc size).attempt heap).2.metrics := by
  rcases alloc_block_cases config geometry heap blocks size sound with
    ⟨_, stopped⟩ | ⟨_, refused, _⟩ | ⟨_, _, _, _, _, _, next, _, served⟩
  · rw [attempt_error _ heap heap .overflow (alloc_stopped heap size .overflow stopped)]
    exact still_advanced 1 0 0 heap.metrics
  · rw [attempt_ok _ heap _ _ (alloc_ran heap _ size _ refused)]
    exact refused_advanced heap.metrics size
  · rw [attempt_ok _ heap _ _ (alloc_ran heap next size _ served.ran), served.metrics]
    exact ⟨Nat.le_refl _, Nat.le_refl _, Nat.le_refl _⟩

theorem free_advanced (config : PoolConfig) (geometry : Geometry config) (heap : Heap) (blocks : List LinkedSpan)
    (h : Option Handle) (sound : Sound config heap blocks) :
    Advanced 0 1 0 heap.metrics ((Heap.free h).attempt heap).2.metrics := by
  rcases free_cases config geometry heap blocks h sound with
    ⟨_, stopped⟩ | ⟨_, ignored, _⟩ | ⟨_, _, _, _, _, _, _, _, _, _, next, rfl, _, freed⟩
  · rw [attempt_error _ heap heap .overflow stopped]
    exact still_advanced 0 1 0 heap.metrics
  · rw [attempt_ok _ heap _ _ ignored]
    exact ⟨Nat.le_refl _, Nat.le_refl _, Nat.le_refl _⟩
  · rw [attempt_ok _ heap next _ freed.ran, freed.metrics]
    exact ⟨Nat.le_refl _, Nat.le_refl _, Nat.le_refl _⟩

theorem move_advanced (config : PoolConfig) (geometry : Geometry config) (heap : Heap) (blocks : List LinkedSpan) (h : Handle)
    (place : Place) (size : Nat) (sound : Sound config heap blocks) (member : place ∈ places config.headerOverhead 0 blocks)
    (known : heap.resolve h = some place.id) (grows : place.size < size)
    (slack : heap.metrics.resizeInPlace + heap.metrics.resizeMoved + heap.metrics.resizeFailures < heap.metrics.resizeCalls) :
    Advanced 1 1 0 heap.metrics ((Heap.move h place.start place.size size).attempt heap).2.metrics := by
  cases move_cases config geometry heap blocks h place size sound member known grows slack with
  | uncounted _ full goes =>
      rw [goes]
      exact still_advanced 1 1 0 heap.metrics
  | refused _ unserved goes after =>
      rw [goes]
      obtain ⟨allocs, frees, resizes⟩ := refused_advanced heap.metrics size
      exact ⟨allocs, Nat.le_succ_of_le frees, resizes⟩
  | unreleased _ _ _ _ _ _ _ served full goes filled =>
      rw [goes]
      simp only [copied, served.metrics]
      exact ⟨Nat.le_refl _, Nat.le_succ _, Nat.le_refl _⟩
  | moved _ _ _ _ _ _ _ _ _ _ _ _ _ _ _ _ served filled frees goes after =>
      rw [goes]
      simp only [frees.metrics, copied, served.metrics]
      exact ⟨Nat.le_refl _, Nat.le_refl _, Nat.le_refl _⟩

theorem resize_advanced (config : PoolConfig) (geometry : Geometry config) (heap : Heap) (blocks : List LinkedSpan)
    (h : Option Handle) (size : Nat) (sound : Sound config heap blocks) :
    Advanced 1 1 1 heap.metrics ((Heap.resize h size).attempt heap).2.metrics := by
  rcases resize_cases config geometry heap blocks h size sound with ⟨_, stopped⟩ | ⟨counted, outcome⟩
  · rw [stopped]
    exact still_advanced 1 1 1 heap.metrics
  · cases outcome with
    | allocates goes =>
        rw [goes]
        obtain ⟨allocs, frees, resizes⟩ := alloc_advanced config geometry (resizing heap) blocks size counted
        exact ⟨allocs, Nat.le_succ_of_le frees, resizes⟩
    | frees h zero goes =>
        rw [goes]
        obtain ⟨allocs, frees, resizes⟩ := free_advanced config geometry (resizing heap) blocks (some h) counted
        exact ⟨Nat.le_succ_of_le allocs, frees, resizes⟩
    | ignores h nonzero unknown goes =>
        rw [goes]
        exact ⟨Nat.le_succ _, Nat.le_succ _, Nat.le_refl _⟩
    | stays h place nonzero member known fits goes sound' =>
        rw [goes]
        exact ⟨Nat.le_succ _, Nat.le_succ _, Nat.le_refl _⟩
    | moves h place nonzero member known grows slack goes =>
        rw [goes]
        obtain ⟨allocs, frees, resizes⟩ :=
          move_advanced config geometry (resizing heap) blocks h place size counted member known grows slack
        exact ⟨allocs, frees, resizes⟩

theorem arena_only_advanced {α : Type} (step : Step Heap α) (only : ArenaOnly step) (heap : Heap) :
    Advanced 1 1 1 heap.metrics (step.attempt heap).2.metrics := by
  obtain ⟨arena, same, _⟩ := only heap
  rw [same]
  exact still_advanced 1 1 1 heap.metrics

theorem work_advanced {α : Type} (config : PoolConfig) (geometry : Geometry config) (heap : Heap) (blocks : List LinkedSpan)
    (call : PoolCall α) (sound : Sound config heap blocks) : Advanced 1 1 1 heap.metrics (call.work.attempt heap).2.metrics := by
  cases call with
  | alloc size => exact advanced_more 1 0 0 _ _ (alloc_advanced config geometry heap blocks size sound) (by decide)
  | free h => exact advanced_more 0 1 0 _ _ (free_advanced config geometry heap blocks h sound) (by decide)
  | resize h size => exact resize_advanced config geometry heap blocks h size sound
  | read h offset len => exact arena_only_advanced _ (read_arena_only h offset len) heap
  | write h offset data => exact arena_only_advanced _ (write_arena_only h offset data) heap
  | withPayload h look => exact arena_only_advanced _ (with_payload_arena_only h look) heap
  | editPayload h edit => exact arena_only_advanced _ (edit_payload_arena_only h edit) heap
  | usableSize h => exact arena_only_advanced _ (arena_only_query _) heap
  | deinit => exact still_advanced 1 1 1 heap.metrics

end BlockPool
