import BlockPool.Proofs.HeapViews
import BlockPool.Proofs.PoolCalls

set_option autoImplicit false

namespace BlockPool

structure Partition (config : PoolConfig) (infos : List BlockInfo) : Prop where
  starts : infos.head?.map BlockInfo.offset = some 0
  consecutive : infos.IsChain fun a b => b.offset = a.offset + config.headerOverhead + a.size
  ends : infos.getLast?.map (fun info => info.offset + config.headerOverhead + info.size) = some config.capacity
  sizes : ∀ info ∈ infos, 1 ≤ info.size
  apart : infos.IsChain fun a b => (a.free && b.free) = false
  payloads : ∀ info ∈ infos, info.payloadOffset = info.offset + config.headerOverhead ∧
    config.alignment ∣ info.payloadOffset

-- What a client of a pool can see that everything is in order by.
structure Consistent (config : PoolConfig) (pool : Pool) : Prop where
  checked : ∃ next, Pool.checkInvariants pool = .ok (.ok ()) next
  blocks : ∃ infos next, Pool.blocks pool = .ok infos next ∧ Partition config infos
  usage : ∃ usage live next next', Pool.usage pool = .ok (some usage) next ∧ Pool.liveAllocations pool = .ok live next' ∧
    usage.capacity = config.capacity ∧ usage.usedBytes + usage.freeBytes + usage.headerBytes = config.capacity ∧
    usage.allocatedBlockCount = live ∧ usage.largestFreeBlock ≤ usage.freeBytes
  -- each occupied slot names a used block, each used block is named by one of them
  handles : ∃ heap, pool.heap = some heap ∧ heap.handles.liveBlocks.Nodup ∧
    ∀ id, id ∈ heap.handles.liveBlocks ↔ ∃ h, (id, h) ∈ heap.registry.chain.blocks ∧ h.free = false

theorem described_consecutive (overhead offset : Nat) (spans : List Span) :
    (describeSpans overhead offset spans).IsChain fun a b => b.offset = a.offset + overhead + a.size := by
  induction spans generalizing offset with
  | nil => exact List.isChain_nil
  | cons span rest ih =>
      refine List.isChain_cons.mpr ⟨fun next member => ?_, ih _⟩
      cases rest with
      | nil => cases member
      | cons second others =>
          cases member
          simp only [Nat.add_assoc]

theorem described_ends (overhead offset : Nat) (span : Span) (rest : List Span) :
    (describeSpans overhead offset (span :: rest)).getLast?.map (fun info => info.offset + overhead + info.size) =
      some (offset + extent overhead (span :: rest)) := by
  induction rest generalizing offset span with
  | nil => simp [describeSpans, Nat.add_assoc]
  | cons second others ih =>
      have later := ih (offset + (overhead + span.size)) second
      rw [describeSpans, describeSpans, List.getLast?_cons_cons]
      rw [describeSpans] at later
      rw [later, extent_cons overhead span, Nat.add_assoc offset]

theorem described_apart (config : PoolConfig) (offset : Nat) (spans : List Span) (joined : spans.IsChain (Follows config)) :
    (describeSpans config.headerOverhead offset spans).IsChain fun a b => (a.free && b.free) = false := by
  induction spans generalizing offset with
  | nil => exact List.isChain_nil
  | cons span rest ih =>
      obtain ⟨next, tail⟩ := List.isChain_cons.mp joined
      refine List.isChain_cons.mpr ⟨fun info member => ?_, ih _ tail⟩
      cases rest with
      | nil => cases member
      | cons second others =>
          cases member
          exact (next second rfl).2

theorem described_sizes (overhead offset : Nat) (spans : List Span) (positive : ∀ span ∈ spans, 0 < span.size) :
    ∀ info ∈ describeSpans overhead offset spans, 1 ≤ info.size := by
  induction spans generalizing offset with
  | nil => exact fun info member => absurd member List.not_mem_nil
  | cons span rest ih =>
      intro info member
      rcases List.mem_cons.mp member with rfl | later
      · exact positive span List.mem_cons_self
      · exact ih _ (fun other inside => positive other (List.mem_cons_of_mem _ inside)) info later

-- Every size but the last is a multiple of the alignment, so every offset is one.
theorem described_payloads (config : PoolConfig) (geometry : Geometry config) (offset : Nat) (spans : List Span)
    (joined : spans.IsChain (Follows config)) (aligned : config.alignment ∣ offset) :
    ∀ info ∈ describeSpans config.headerOverhead offset spans,
      info.payloadOffset = info.offset + config.headerOverhead ∧ config.alignment ∣ info.payloadOffset := by
  induction spans generalizing offset with
  | nil => exact fun info member => absurd member List.not_mem_nil
  | cons span rest ih =>
      obtain ⟨next, tail⟩ := List.isChain_cons.mp joined
      intro info member
      rcases List.mem_cons.mp member with rfl | later
      · exact ⟨rfl, Nat.dvd_add aligned geometry.headerAligned⟩
      · cases rest with
        | nil => cases later
        | cons second others =>
            have whole := (next second rfl).1
            exact ih _ tail (Nat.dvd_add aligned (Nat.dvd_add geometry.headerAligned whole)) info later

theorem described_partition (config : PoolConfig) (geometry : Geometry config) (spans : List Span) (tiling : Tiling config spans) :
    Partition config (describeSpans config.headerOverhead 0 spans) := by
  cases spans with
  | nil =>
      have covers := tiling.covers
      have roomy := geometry.roomy
      simp only [extent_nil] at covers
      omega
  | cons span rest =>
      refine ⟨rfl, described_consecutive _ 0 _, ?_, described_sizes _ 0 _ tiling.positive,
        described_apart config 0 _ tiling.joined,
        described_payloads config geometry 0 _ tiling.joined (Nat.dvd_zero _)⟩
      rw [described_ends, tiling.covers, Nat.zero_add]

theorem usage_adds_up (config : PoolConfig) (spans : List Span) (tiling : Tiling config spans) :
    (usageOf config spans).capacity = config.capacity ∧
      (usageOf config spans).usedBytes + (usageOf config spans).freeBytes + (usageOf config spans).headerBytes = config.capacity ∧
      (usageOf config spans).largestFreeBlock ≤ (usageOf config spans).freeBytes := by
  refine ⟨rfl, ?_, ?_⟩
  · rw [← tiling.covers, extent_sizes]
    simp only [usageOf, totalled, Nat.zero_add]
  · simp only [usageOf, totalled]
    exact largest_at_most_sum _ _

theorem used_on_chain (config : PoolConfig) (r : Registry) (blocks : List LinkedSpan) (charted : Charted config r blocks)
    (id : BlockId) :
    id ∈ (places config.headerOverhead 0 blocks).map Place.id ↔ ∃ h, (id, h) ∈ r.chain.blocks ∧ h.free = false := by
  rw [charted_chain config r blocks charted]
  constructor
  · intro member
    obtain ⟨place, inside, rfl⟩ := List.mem_map.mp member
    obtain ⟨before, after, rfl, _⟩ := place_block _ _ _ _ inside
    rw [entries_append, entries]
    exact ⟨_, List.mem_append_right _ List.mem_cons_self, rfl⟩
  · rintro ⟨h, member, busy⟩
    have inside : (id, (⟨h.size, h.free⟩ : Span)) ∈ blocks := by
      rw [← entries_blocks config.headerOverhead none none 0 blocks]
      exact List.mem_map_of_mem (f := linkedSpan) member
    rw [busy] at inside
    obtain ⟨before, after, rfl⟩ := List.append_of_mem inside
    exact List.mem_map_of_mem (f := Place.id) (block_place config.headerOverhead before after id h.size)

theorem sound_consistent (config : PoolConfig) (geometry : Geometry config) (pool : Pool) (heap : Heap) (blocks : List LinkedSpan)
    (opened : pool.heap = some heap) (sound : Sound config heap blocks) : Consistent config pool := by
  have charted := sound.registry.charted
  have used := used_sizes_length config.headerOverhead 0 blocks
  have usage := settled_usage config geometry heap.registry blocks sound.registry
  obtain ⟨capacity, total, largest⟩ := usage_adds_up config (spansOf blocks) sound.registry.tiling
  have view {α : Type} (absent value : α) (question : Heap → Except Abort α) (answer : question heap = .ok value) :
      ∃ next, Pool.onHeap absent (Step.query question) pool = .ok value next :=
    ⟨_, attempt_ran _ pool value (view_answers absent value question pool heap opened answer)⟩
  refine ⟨?_, ?_, ?_, heap, opened, ?_, ?_⟩
  · exact view _ _ _ (sound_check config geometry heap blocks sound)
  · obtain ⟨next, shown⟩ :=
      view [] _ (fun heap => heap.registry.blocks) (charted_blocks config geometry heap.registry blocks charted)
    exact ⟨_, next, shown, described_partition config geometry _ sound.registry.tiling⟩
  · obtain ⟨next, shown⟩ := view none _ (fun heap => heap.registry.usage.map some) (by rw [usage]; rfl)
    obtain ⟨next', counted⟩ := view 0 heap.handles.live (fun heap => .ok heap.handles.live) rfl
    refine ⟨_, _, next, next', shown, counted, capacity, total, ?_, largest⟩
    rw [sound.handles.counted, sound.owned.length_eq, List.length_map, ← used]
    exact Nat.zero_add _
  · exact sound.owned.nodup_iff.mpr (charted_places_distinct config heap.registry blocks charted)
  · intro id
    rw [sound.owned.mem_iff]
    exact used_on_chain config heap.registry blocks charted id

theorem pool_stays_consistent {α : Type} (config : PoolConfig) (valid : config.Valid) (counter : PoolCounter) :
    ∃ pool next, Pool.init config counter = .ok (.ok pool) next ∧
      ∀ calls : List (PoolCall α), (∀ call ∈ calls, call ≠ .deinit) → Consistent config (afterCalls calls pool) := by
  have geometry := valid_geometry config valid
  obtain ⟨pool, next, heap, made, opened, _, _, _, _, sound⟩ := init_pool config valid counter
  refine ⟨pool, next, made, fun calls going => ?_⟩
  obtain ⟨heap', opened', blocks, sound'⟩ := calls_kept config geometry calls going pool ⟨heap, opened, _, sound⟩
  exact sound_consistent config geometry _ heap' blocks opened' sound'

theorem pool_stays_consistent_unaligned :
    (PoolConfig.mk 101 0 8 .firstFit false).Valid ∧
      ∃ pool next, Pool.init (PoolConfig.mk 101 0 8 .firstFit false) ⟨7⟩ = .ok (.ok pool) next ∧
        Consistent (PoolConfig.mk 101 0 8 .firstFit false)
          (afterCalls ([.alloc 5, .alloc 90, .resize (some ⟨⟨7⟩, 0, 0⟩) 6, .free (some ⟨⟨7⟩, 1, 0⟩)] :
            List (PoolCall Unit)) pool) := by
  have valid : (PoolConfig.mk 101 0 8 .firstFit false).Valid := by rfl
  obtain ⟨pool, next, made, consistent⟩ := @pool_stays_consistent Unit (PoolConfig.mk 101 0 8 .firstFit false) valid ⟨7⟩
  exact ⟨valid, pool, next, made, consistent _ (by simp)⟩

end BlockPool
