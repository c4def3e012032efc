import BlockPool.Proofs.HeapViews
import BlockPool.Proofs.PoolStore

set_option autoImplicit false

namespace BlockPool

theorem stocked_reads_same (config : PoolConfig) (geometry : Geometry config) (pool pool' : Pool) (acc acc' : Account)
    (h : Handle) (offset len : Nat) (stocked : Stocked config pool acc) (stocked' : Stocked config pool' acc')
    (same : acc'.memory h = acc.memory h) :
    ((Pool.read h offset len).attempt pool').1 = ((Pool.read h offset len).attempt pool).1 := by
  obtain ⟨heap, opened, inventory⟩ := stocked
  obtain ⟨next, opened', inventory'⟩ := stocked'
  obtain ⟨blocks, sound⟩ := inventory.kept
  obtain ⟨blocks', sound'⟩ := inventory'.kept
  rw [inventory'.memory, inventory.memory] at same
  obtain ⟨answer, ran, ran'⟩ :=
    read_same config config geometry geometry heap next blocks blocks' h offset len sound sound' same
  rw [Pool.read, Pool.onPayload, (on_heap_open _ _ pool' next opened').1, (on_heap_open _ _ pool heap opened).1,
    attempt_ok _ next next answer ran', attempt_ok _ heap heap answer ran]

theorem usage_shown (config : PoolConfig) (geometry : Geometry config) (pool : Pool) (heap : Heap) (blocks : List LinkedSpan)
    (opened : pool.heap = some heap) (sound : Sound config heap blocks) :
    (Pool.usage.attempt pool).1 = .ok (some (usageOf config (spansOf blocks))) := by
  have usage := settled_usage config geometry heap.registry blocks sound.registry
  exact view_answers none _ (fun heap => heap.registry.usage.map some) pool heap opened (by rw [usage]; rfl)

theorem blocks_shown (config : PoolConfig) (geometry : Geometry config) (pool : Pool) (heap : Heap) (blocks : List LinkedSpan)
    (opened : pool.heap = some heap) (sound : Sound config heap blocks) :
    (Pool.blocks.attempt pool).1 = .ok (describeSpans config.headerOverhead 0 (spansOf blocks)) :=
  view_answers [] _ (fun heap => heap.registry.blocks) pool heap opened
    (charted_blocks config geometry heap.registry blocks sound.registry.charted)

theorem placeless_free (overhead offset : Nat) (blocks : List LinkedSpan) (nowhere : places overhead offset blocks = []) :
    ∀ span ∈ spansOf blocks, span.free = true := by
  induction blocks generalizing offset with
  | nil => exact fun span member => absurd member List.not_mem_nil
  | cons block rest ih =>
      obtain ⟨id, size, free⟩ := block
      cases free with
      | false => cases nowhere
      | true =>
          intro span member
          cases List.mem_cons.mp member with
          | inl first => rw [first]
          | inr later => exact ih _ nowhere span later

-- Free blocks do not touch, so there is room for one only.
theorem tiling_vacant (config : PoolConfig) (geometry : Geometry config) (spans : List Span) (tiling : Tiling config spans)
    (vacant : ∀ span ∈ spans, span.free = true) : spans = [⟨config.capacity - config.headerOverhead, true⟩] := by
  have covers := tiling.covers
  have roomy := geometry.roomy
  match spans with
  | [] =>
      rw [extent_nil] at covers
      omega
  | [⟨size, free⟩] =>
      have first : free = true := vacant _ List.mem_cons_self
      simp only [extent_cons, extent_nil] at covers
      rw [first, show size = config.capacity - config.headerOverhead by omega]
  | first :: second :: rest =>
      have apart := (List.isChain_cons_cons.mp tiling.joined).1.2
      rw [vacant first List.mem_cons_self, vacant second (List.mem_cons_of_mem _ List.mem_cons_self)] at apart
      cases apart

def PoolConfig.vacantBlock (config : PoolConfig) : BlockInfo :=
  ⟨0, config.headerOverhead, config.capacity - config.headerOverhead, true⟩

theorem vacant_blocks (config : PoolConfig) (geometry : Geometry config) (pool : Pool) (heap : Heap) (blocks : List LinkedSpan)
    (opened : pool.heap = some heap) (sound : Sound config heap blocks) (nobody : heap.handles.live = 0) :
    (Pool.blocks.attempt pool).1 = .ok [config.vacantBlock] := by
  have nowhere : places config.headerOverhead 0 blocks = [] := by
    rw [sound.handles.counted, sound.owned.length_eq, List.length_map] at nobody
    exact List.eq_nil_of_length_eq_zero nobody
  have single := tiling_vacant config geometry (spansOf blocks) sound.registry.tiling (placeless_free _ 0 blocks nowhere)
  rw [blocks_shown config geometry pool heap blocks opened sound, single]
  simp only [describeSpans, Nat.zero_add, PoolConfig.vacantBlock]

theorem held_handles (config : PoolConfig) (geometry : Geometry config) (pool : Pool) (acc : Account)
    (stocked : Stocked config pool acc) :
    ∃ handles : List Handle, handles.Nodup ∧ (∀ h, h ∈ handles ↔ ∃ bytes, acc.memory h = some bytes) ∧
      acc.live = handles.length := by
  obtain ⟨heap, opened, inventory⟩ := stocked
  obtain ⟨blocks, sound⟩ := inventory.kept
  obtain ⟨history, ledger, _⟩ := inventory.recorded
  obtain ⟨resolving, distinct, resolves, counted⟩ := ledger.accountable.counted
  refine ⟨resolving, distinct, fun h => ?_, inventory.live.trans counted⟩
  rw [resolves, inventory.memory]
  obtain ⟨unknown, nothing⟩ | ⟨place, _, known, held, _⟩ := contents_cases config geometry heap blocks h sound
  · simp [show heap.handles.get? h = none from unknown, nothing]
  · simp [show heap.handles.get? h = some place.id from known, held]

theorem live_length (config : PoolConfig) (geometry : Geometry config) (pool : Pool) (acc : Account)
    (stocked : Stocked config pool acc) (handles : List Handle) (distinct : handles.Nodup)
    (complete : ∀ h, h ∈ handles ↔ ∃ bytes, acc.memory h = some bytes) :
    acc.live = handles.length := by
  obtain ⟨held, distinct', complete', counted⟩ := held_handles config geometry pool acc stocked
  have same (h : Handle) : h ∈ held ↔ h ∈ handles := (complete' h).trans (complete h).symm
  rw [counted, ((List.perm_ext_iff_of_nodup distinct' distinct).mpr same).length_eq]

theorem emptied_blocks (config : PoolConfig) (geometry : Geometry config) (pool : Pool) (acc : Account)
    (stocked : Stocked config pool acc) (nothing : ∀ h, acc.memory h = none) :
    (Pool.blocks.attempt pool).1 = .ok [config.vacantBlock] := by
  have none : acc.live = 0 := live_length config geometry pool acc stocked [] List.nodup_nil fun h => by simp [nothing h]
  obtain ⟨heap, opened, inventory⟩ := stocked
  obtain ⟨blocks, sound⟩ := inventory.kept
  exact vacant_blocks config geometry pool heap blocks opened sound (inventory.live.symm.trans none)

end BlockPool
