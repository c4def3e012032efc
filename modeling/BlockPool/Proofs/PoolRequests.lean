import BlockPool.Proofs.PoolCalls

set_option autoImplicit false

namespace BlockPool

open Heap

-- Everything a client may ask of a pool but its counters: the calls, and the views of what they did.
inductive PoolRequest (α : Type) where
  | act (call : PoolCall α)
  | locate (h : Handle)
  | usage
  | blocks
  | checkInvariants
  | liveAllocations
  | isInitialized

namespace PoolRequest

variable {α : Type}

def Answer : PoolRequest α → Type
  | .act call => call.Answer
  | .locate _ => Option BlockInfo
  | .usage => Option PoolUsage
  | .blocks => List BlockInfo
  | .checkInvariants => Except Violation Unit
  | .liveAllocations => Nat
  | .isInitialized => Bool

def perform : (request : PoolRequest α) → Step Pool request.Answer
  | .act call => call.perform
  | .locate h => Pool.locate h
  | .usage => Pool.usage
  | .blocks => Pool.blocks
  | .checkInvariants => Pool.checkInvariants
  | .liveAllocations => Pool.liveAllocations
  | .isInitialized => Pool.isInitialized

def absent : (request : PoolRequest α) → request.Answer
  | .act call => call.absent
  | .locate _ => none
  | .usage => none
  | .blocks => []
  | .checkInvariants => .ok ()
  | .liveAllocations => (0 : Nat)
  | .isInitialized => false

def work : (request : PoolRequest α) → Step Heap request.Answer
  | .act call => call.work
  | .locate h => Step.query fun heap => heap.locate h
  | .usage => Step.query fun heap => heap.registry.usage.map some
  | .blocks => Step.query fun heap => heap.registry.blocks
  | .checkInvariants => Step.query fun heap => heap.check.run
  | .liveAllocations => Step.query fun heap => .ok heap.handles.live
  | .isInitialized => pure true

theorem perform_request (request : PoolRequest α) (going : request ≠ .act .deinit) :
    request.perform = Pool.onHeap request.absent request.work := by
  cases request with
  | act call => exact PoolCall.perform_works call (fun closing => going (congrArg _ closing))
  | isInitialized =>
      funext pool
      obtain ⟨id, config, heap, poisoned, journal⟩ := pool
      cases heap <;> rfl
  | _ => rfl

def after (request : PoolRequest α) (pool : Pool) : Pool := (request.perform.attempt pool).2

end PoolRequest

def afterRequests {α : Type} (requests : List (PoolRequest α)) (pool : Pool) : Pool :=
  requests.foldl (fun pool request => request.after pool) pool

theorem request_closed {α : Type} (request : PoolRequest α) (pool : Pool) (closed : pool.heap = none) :
    (request.perform.attempt pool).1 = .ok request.absent ∧ (request.after pool).heap = none := by
  by_cases closing : request = .act .deinit
  · subst closing
    exact deinit_closes pool
  · rw [PoolRequest.after, PoolRequest.perform_request request closing]
    exact on_heap_closed request.absent request.work pool closed

theorem deinit_request_closes {α : Type} (pool : Pool) : ((PoolRequest.act (.deinit : PoolCall α)).after pool).heap = none :=
  (deinit_closes pool).2

theorem request_open {α : Type} (request : PoolRequest α) (going : request ≠ .act .deinit) (pool : Pool) (heap : Heap)
    (opened : pool.heap = some heap) :
    (request.perform.attempt pool).1 = (request.work.attempt heap).1 ∧
      (request.after pool).heap = some (request.work.attempt heap).2 := by
  rw [PoolRequest.after, PoolRequest.perform_request request going]
  exact on_heap_open request.absent request.work pool heap opened

theorem request_left {α : Type} (request : PoolRequest α) (pool : Pool) (next : Heap)
    (left : (request.after pool).heap = some next) :
    ∃ heap, pool.heap = some heap ∧ request ≠ .act .deinit ∧ next = (request.work.attempt heap).2 := by
  cases opened : pool.heap with
  | none =>
      rw [(request_closed request pool opened).2] at left
      cases left
  | some heap =>
      by_cases closing : request = .act .deinit
      · subst closing
        rw [deinit_request_closes] at left
        cases left
      · rw [(request_open request closing pool heap opened).2] at left
        cases left
        exact ⟨heap, rfl, closing, rfl⟩

theorem query_same {α : Type} (question : Heap → Except Abort α) (heap : Heap) :
    ((Step.query question).attempt heap).2 = heap := by
  cases answer : question heap with
  | ok value => simp only [Step.attempt, Step.query, answer]
  | error reason => simp only [Step.attempt, Step.query, answer]

theorem query_answer {α : Type} (question : Heap → Except Abort α) (heap : Heap) :
    ((Step.query question).attempt heap).1 = question heap := by
  cases answer : question heap with
  | ok value => simp only [Step.attempt, Step.query, answer]
  | error reason => simp only [Step.attempt, Step.query, answer]

theorem request_work_kept {α : Type} (config : PoolConfig) (geometry : Geometry config) (request : PoolRequest α) (heap : Heap)
    (kept : Kept config heap) : Kept config (request.work.attempt heap).2 := by
  cases request with
  | act call => exact work_kept config geometry call heap kept
  | isInitialized => exact kept
  | liveAllocations => exact kept
  | _ => exact arena_only_kept config _ (arena_only_query _) heap kept

-- A pool that was opened with `config` and may have been closed.
def Maintained (config : PoolConfig) (pool : Pool) : Prop := ∀ heap, pool.heap = some heap → Kept config heap

theorem sound_maintained (config : PoolConfig) (pool : Pool) (heap : Heap) (blocks : List LinkedSpan)
    (opened : pool.heap = some heap) (sound : Sound config heap blocks) : Maintained config pool := by
  intro heap' opened'
  cases opened.symm.trans opened'
  exact ⟨blocks, sound⟩

theorem request_kept {α : Type} (config : PoolConfig) (geometry : Geometry config) (request : PoolRequest α) (pool : Pool)
    (kept : Maintained config pool) : Maintained config (request.after pool) := by
  intro next left
  obtain ⟨heap, opened, _, rfl⟩ := request_left request pool next left
  exact request_work_kept config geometry request heap (kept heap opened)

theorem requests_kept {α : Type} (config : PoolConfig) (geometry : Geometry config) (requests : List (PoolRequest α))
    (pool : Pool) (kept : Maintained config pool) : Maintained config (afterRequests requests pool) := by
  induction requests generalizing pool with
  | nil => exact kept
  | cons request rest ih => exact ih (request.after pool) (request_kept config geometry request pool kept)

end BlockPool
