import BlockPool.Proofs.HeapAgreement
import BlockPool.Proofs.PoolRequests

set_option autoImplicit false

namespace BlockPool

-- A request that stops because a counter is full, which takes as many requests before it.
def Exhausted (made : Nat) (reason : Abort) : Prop := reason = .overflow ∧ Word.greatest ≤ made

theorem full_exhausted (made count : Nat) (counted : count ≤ made) (full : Word.bound ≤ count + 1) : Exhausted made .overflow :=
  ⟨rfl, full_counter made count counted full⟩

theorem request_counted {α : Type} (config : PoolConfig) (geometry : Geometry config) (heap : Heap) (blocks : List LinkedSpan)
    (request : PoolRequest α) (made : Nat) (sound : Sound config heap blocks) (counted : Counted made heap.metrics) :
    Counted (made + 1) (request.work.attempt heap).2.metrics := by
  have advanced : Advanced 1 1 1 heap.metrics (request.work.attempt heap).2.metrics := by
    cases request with
    | act call => exact work_advanced config geometry heap blocks call sound
    | isInitialized => exact still_advanced 1 1 1 heap.metrics
    | liveAllocations => exact still_advanced 1 1 1 heap.metrics
    | _ => exact arena_only_advanced _ (arena_only_query _) heap
  exact advanced_counted made _ _ counted advanced

def Reached (config : PoolConfig) (made : Nat) (pool : Pool) : Prop :=
  ∀ heap, pool.heap = some heap → Kept config heap ∧ Counted made heap.metrics

theorem request_reached {α : Type} (config : PoolConfig) (geometry : Geometry config) (request : PoolRequest α)
    (made : Nat) (pool : Pool) (reached : Reached config made pool) : Reached config (made + 1) (request.after pool) := by
  intro next left
  obtain ⟨heap, opened, _, rfl⟩ := request_left request pool next left
  obtain ⟨kept, counted⟩ := reached heap opened
  obtain ⟨blocks, sound⟩ := kept
  exact ⟨request_work_kept config geometry request heap ⟨blocks, sound⟩,
    request_counted config geometry heap blocks request made sound counted⟩

theorem requests_reached {α : Type} (config : PoolConfig) (geometry : Geometry config) (requests : List (PoolRequest α))
    (made : Nat) (pool : Pool) (reached : Reached config made pool) :
    Reached config (made + requests.length) (afterRequests requests pool) := by
  induction requests generalizing made pool with
  | nil => exact reached
  | cons request rest ih =>
      rw [List.length_cons, Nat.add_comm rest.length, ← Nat.add_assoc]
      exact ih (made + 1) (request.after pool) (request_reached config geometry request made pool reached)

theorem init_reaches {α : Type} (config : PoolConfig) (valid : config.Valid) (counter : PoolCounter) :
    ∃ pool next, Pool.init config counter = .ok (.ok pool) next ∧
      ∀ requests : List (PoolRequest α), Reached config requests.length (afterRequests requests pool) := by
  have geometry := valid_geometry config valid
  obtain ⟨pool, next, heap, made, opened, _, _, _, metrics, sound⟩ := init_pool config valid counter
  have start : Reached config 0 pool := by
    intro heap' opened'
    cases opened.symm.trans opened'
    rw [metrics]
    exact ⟨⟨_, sound⟩, Nat.le_refl _, Nat.le_refl _, Nat.le_refl _⟩
  refine ⟨pool, next, made, fun requests => ?_⟩
  have reached := requests_reached config geometry requests 0 pool start
  rwa [Nat.zero_add] at reached

end BlockPool
