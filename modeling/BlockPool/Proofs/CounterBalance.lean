import BlockPool.Proofs.PoolViews

set_option autoImplicit false

namespace BlockPool

-- In integers, so that no difference stops at zero.
structure Reconciled (m : PoolMetrics) (live blockCount : Nat) : Prop where
  live : (live : Int) = (m.allocCalls - m.allocFailures - m.zeroSizeRequests) - (m.freeCalls - m.ignoredFrees)
  blockCount : (blockCount : Int) = 1 + m.splits - m.merges
  resizes : m.resizeInPlace + m.resizeMoved + m.resizeFailures ≤ m.resizeCalls
  failures : m.resizeFailures ≤ m.allocFailures
  moved : (m.resizeMoved : Int) ≤ m.freeCalls - m.ignoredFrees

theorem tallied_reconciled (m : PoolMetrics) (live blockCount : Nat) (tallied : Tallied m live blockCount) :
    Reconciled m live blockCount := by
  have allocs := tallied.allocs
  have blocks := tallied.blockCount
  have moved := tallied.moved
  refine ⟨?_, ?_, tallied.resizes, tallied.failures, ?_⟩ <;> omega

def Balanced (pool : Pool) : Prop :=
  ∃ metrics live usage infos, (Pool.metrics.attempt pool).1 = .ok (some metrics) ∧
    (Pool.liveAllocations.attempt pool).1 = .ok live ∧ (Pool.usage.attempt pool).1 = .ok (some usage) ∧
    (Pool.blocks.attempt pool).1 = .ok infos ∧ usage.blockCount = infos.length ∧ Reconciled metrics live usage.blockCount

theorem sound_balanced (config : PoolConfig) (geometry : Geometry config) (pool : Pool) (heap : Heap) (blocks : List LinkedSpan)
    (opened : pool.heap = some heap) (sound : Sound config heap blocks) : Balanced pool := by
  have counted : (usageOf config (spansOf blocks)).blockCount = (spansOf blocks).length := Nat.zero_add _
  have length : (spansOf blocks).length = blocks.length := List.length_map _
  have reconciled := tallied_reconciled heap.metrics heap.handles.live blocks.length sound.tallied
  rw [← length, ← counted] at reconciled
  refine ⟨heap.metrics, heap.handles.live, usageOf config (spansOf blocks),
    describeSpans config.headerOverhead 0 (spansOf blocks),
    metrics_shown pool heap opened, live_shown pool heap opened, usage_shown config geometry pool heap blocks opened sound,
    blocks_shown config geometry pool heap blocks opened sound, ?_, reconciled⟩
  rw [counted, described_length]

theorem counters_reconcile {α : Type} (config : PoolConfig) (valid : config.Valid) (counter : PoolCounter) :
    ∃ pool next, Pool.init config counter = .ok (.ok pool) next ∧
      ∀ calls : List (PoolCall α), (∀ call ∈ calls, call ≠ .deinit) → Balanced (afterCalls calls pool) := by
  have geometry := valid_geometry config valid
  obtain ⟨pool, next, heap, made, opened, _, _, _, _, sound⟩ := init_pool config valid counter
  refine ⟨pool, next, made, fun calls going => ?_⟩
  obtain ⟨heap', opened', blocks, sound'⟩ := calls_kept config geometry calls going pool ⟨heap, opened, _, sound⟩
  exact sound_balanced config geometry _ heap' blocks opened' sound'

theorem counters_reconcile_churned :
    (PoolConfig.mk 160 16 8 .bestFit true).Valid ∧
      ∃ pool next, Pool.init (PoolConfig.mk 160 16 8 .bestFit true) ⟨3⟩ = .ok (.ok pool) next ∧
        Balanced (afterCalls ([.alloc 8, .alloc 24, .resize (some ⟨⟨3⟩, 1, 0⟩) 200, .free (some ⟨⟨3⟩, 0, 0⟩),
          .resize (some ⟨⟨3⟩, 0, 0⟩) 0, .alloc 0, .free (some ⟨⟨3⟩, 1, 0⟩)] : List (PoolCall Unit)) pool) := by
  have valid : (PoolConfig.mk 160 16 8 .bestFit true).Valid := by rfl
  obtain ⟨pool, next, made, balanced⟩ := @counters_reconcile Unit (PoolConfig.mk 160 16 8 .bestFit true) valid ⟨3⟩
  exact ⟨valid, pool, next, made, balanced _ (by simp)⟩

end BlockPool
