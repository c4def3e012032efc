import BlockPool.Proofs.HeapAgreement

set_option autoImplicit false

namespace BlockPool

open Heap

def PoolCall.slots {α : Type} : PoolCall α → Nat
  | .alloc _ => 1
  | .resize _ _ => 1
  | _ => 0

theorem insert_slots (t next : HandleTable) (block : BlockId) (h : Handle) (orderly : Orderly t) (few : t.live + 1 < Word.bound)
    (ran : HandleTable.insert block t = .ok h next) : next.slots.size ≤ t.slots.size + 1 := by
  cases insert_cases t block orderly few with
  | inl recycled =>
      obtain ⟨_, _, _, _, _, ran'⟩ := recycled
      cases ran.symm.trans ran'
      rw [Array.size_setIfInBounds]
      exact Nat.le_succ _
  | inr grown =>
      cases ran.symm.trans grown.2
      rw [Array.size_push]

theorem vacate_slots (t : HandleTable) (h : Handle) : (vacate t h).slots.size = t.slots.size := Array.size_setIfInBounds

section Calls

variable (config : PoolConfig) (geometry : Geometry config) (heap : Heap) (blocks : List LinkedSpan)

include geometry

theorem served_slots (next : Heap) (size whole : Nat) (before after : List LinkedSpan) (id created : BlockId) (h : Handle)
    (sound : Sound config heap (before ++ (id, ⟨whole, true⟩) :: after))
    (served : Served config heap size before after id created whole h next) :
    next.handles.slots.size ≤ heap.handles.slots.size + 1 :=
  insert_slots heap.handles next.handles id h sound.handles (sound_live config geometry heap _ sound) served.issued

theorem alloc_slots (size : Nat) (sound : Sound config heap blocks) :
    ((Heap.alloc size).attempt heap).2.handles.slots.size ≤ heap.handles.slots.size + 1 := by
  obtain ⟨_, stopped⟩ | ⟨_, refused, _⟩ | ⟨before, id, whole, after, created, h, next, rfl, served⟩ :=
    alloc_block_cases config geometry heap blocks size sound
  · rw [attempt_error _ heap heap .overflow (alloc_stopped heap size .overflow stopped)]
    exact Nat.le_succ _
  · rw [attempt_ok _ heap _ _ (alloc_ran heap _ size _ refused)]
    exact Nat.le_succ _
  · rw [attempt_ok _ heap _ _ (alloc_ran heap next size _ served.ran)]
    exact served_slots config geometry heap next size whole before after id created h sound served

theorem free_slots (h : Option Handle) (sound : Sound config heap blocks) :
    ((Heap.free h).attempt heap).2.handles.slots.size = heap.handles.slots.size := by
  obtain ⟨_, stopped⟩ | ⟨_, ignored, _⟩ | ⟨handle, _, _, _, _, _, _, _, _, _, next, rfl, _, freed⟩ :=
    free_cases config geometry heap blocks h sound
  · rw [attempt_error _ heap heap .overflow stopped]
  · rw [attempt_ok _ heap _ _ ignored]
  · rw [attempt_ok _ heap next _ freed.ran, freed.handles]
    exact vacate_slots heap.handles handle

theorem move_slots (h : Handle) (place : Place) (size : Nat) (sound : Sound config heap blocks)
    (member : place ∈ places config.headerOverhead 0 blocks) (known : heap.resolve h = some place.id) (grows : place.size < size)
    (slack : heap.metrics.resizeInPlace + heap.metrics.resizeMoved + heap.metrics.resizeFailures < heap.metrics.resizeCalls) :
    ((Heap.move h place.start place.size size).attempt heap).2.handles.slots.size ≤ heap.handles.slots.size + 1 := by
  cases move_cases config geometry heap blocks h place size sound member known grows slack with
  | uncounted _ full goes =>
      rw [goes]
      exact Nat.le_succ _
  | refused _ unserved goes after =>
      rw [goes]
      exact Nat.le_succ _
  | unreleased before after id created whole n next served full goes filled =>
      rw [goes]
      exact served_slots config geometry heap next size whole before after id created n sound served
  | moved before after _ _ _ _ id created _ whole _ _ _ n next freed served filled frees goes _ =>
      rw [goes]
      have made := served_slots config geometry heap next size whole before after id created n sound served
      have kept : freed.handles.slots.size = next.handles.slots.size := by
        rw [frees.handles]
        exact vacate_slots next.handles h
      simp only [kept]
      exact made

theorem resize_slots (h : Option Handle) (size : Nat) (sound : Sound config heap blocks) :
    ((Heap.resize h size).attempt heap).2.handles.slots.size ≤ heap.handles.slots.size + 1 := by
  obtain ⟨_, stopped⟩ | ⟨counted, outcome⟩ := resize_cases config geometry heap blocks h size sound
  · rw [stopped]
    exact Nat.le_succ _
  · cases outcome with
    | allocates goes =>
        rw [goes]
        exact alloc_slots config geometry (resizing heap) blocks size counted
    | frees h zero goes =>
        rw [goes]
        exact (free_slots config geometry (resizing heap) blocks (some h) counted).le.trans (Nat.le_succ _)
    | ignores h nonzero unknown goes =>
        rw [goes]
        exact Nat.le_succ _
    | stays h place nonzero member known fits goes sound' =>
        rw [goes]
        exact Nat.le_succ _
    | moves h place nonzero member known grows slack goes =>
        rw [goes]
        exact move_slots config geometry (resizing heap) blocks h place size counted member known grows slack

omit geometry in
theorem arena_only_slots {α : Type} (step : Step Heap α) (only : ArenaOnly step) :
    (step.attempt heap).2.handles.slots.size = heap.handles.slots.size := by
  obtain ⟨arena, same, _⟩ := only heap
  rw [same]

theorem work_slots {α : Type} (call : PoolCall α) (sound : Sound config heap blocks) :
    (call.work.attempt heap).2.handles.slots.size ≤ heap.handles.slots.size + call.slots := by
  cases call with
  | alloc size => exact alloc_slots config geometry heap blocks size sound
  | free h => exact (free_slots config geometry heap blocks h sound).le
  | resize h size => exact resize_slots config geometry heap blocks h size sound
  | read h offset len => exact (arena_only_slots heap _ (read_arena_only h offset len)).le
  | write h offset data => exact (arena_only_slots heap _ (write_arena_only h offset data)).le
  | withPayload h look => exact (arena_only_slots heap _ (with_payload_arena_only h look)).le
  | editPayload h edit => exact (arena_only_slots heap _ (edit_payload_arena_only h edit)).le
  | usableSize h => exact (arena_only_slots heap _ (arena_only_query _)).le
  | deinit => exact Nat.le_refl _

end Calls

end BlockPool
