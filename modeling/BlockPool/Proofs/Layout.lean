import BlockPool.Proofs.LiveAllocations
import BlockPool.Proofs.PoolViews

set_option autoImplicit false

namespace BlockPool

theorem extent_empty (overhead : Nat) (blocks : List LinkedSpan) (positive : ∀ span ∈ spansOf blocks, 0 < span.size)
    (empty : extent overhead (spansOf blocks) = 0) : blocks = [] := by
  cases blocks with
  | nil => rfl
  | cons block rest =>
      have first := positive block.2 List.mem_cons_self
      rw [spans_of_cons, extent_cons] at empty
      omega

theorem free_reach (config : PoolConfig) (offset size other : Nat) (rest others : List LinkedSpan)
    (joined : (⟨size, true⟩ :: spansOf rest).IsChain (Follows config))
    (covers : config.headerOverhead + size + extent config.headerOverhead (spansOf rest) =
      config.headerOverhead + other + extent config.headerOverhead (spansOf others))
    (same : places config.headerOverhead (offset + (config.headerOverhead + size)) rest =
      places config.headerOverhead (offset + (config.headerOverhead + other)) others) : other ≤ size := by
  cases rest with
  | nil =>
      rw [spans_of_nil, extent_nil] at covers
      omega
  | cons block behind =>
      obtain ⟨id, more, free⟩ := block
      have used : free = false := (List.isChain_cons_cons.mp joined).1.2
      rw [used, places_used] at same
      have inside := places_inside _ _ others _ (same ▸ List.mem_cons_self)
      simp only at inside
      omega

theorem free_ahead (config : PoolConfig) (offset size : Nat) (rest : List LinkedSpan) (place : Place) (positive : 0 < size)
    (starts : place.start = offset + config.headerOverhead) :
    place ∉ places config.headerOverhead (offset + (config.headerOverhead + size)) rest := by
  intro member
  have inside := places_inside _ _ rest place member
  omega

-- Of the free blocks there is one in each gap, so a list of blocks is known by its places.
theorem spans_determined (config : PoolConfig) (offset : Nat) (a b : List LinkedSpan)
    (positive : ∀ span ∈ spansOf a, 0 < span.size) (positive' : ∀ span ∈ spansOf b, 0 < span.size)
    (joined : (spansOf a).IsChain (Follows config)) (joined' : (spansOf b).IsChain (Follows config))
    (covers : extent config.headerOverhead (spansOf a) = extent config.headerOverhead (spansOf b))
    (same : places config.headerOverhead offset a = places config.headerOverhead offset b) : spansOf a = spansOf b := by
  induction a generalizing offset b with
  | nil => rw [extent_empty config.headerOverhead b positive' (covers.symm.trans (extent_nil _))]
  | cons block rest ih =>
      cases b with
      | nil => cases extent_empty config.headerOverhead (block :: rest) positive (covers.trans (extent_nil _))
      | cons block' rest' =>
          obtain ⟨id, size, free⟩ := block
          obtain ⟨id', size', free'⟩ := block'
          have first := positive _ List.mem_cons_self
          have first' := positive' _ List.mem_cons_self
          have tail (equal : size = size') (behind : places config.headerOverhead (offset + (config.headerOverhead + size)) rest =
              places config.headerOverhead (offset + (config.headerOverhead + size)) rest') : spansOf rest = spansOf rest' := by
            refine ih _ rest' (fun span member => positive span (List.mem_cons_of_mem _ member))
              (fun span member => positive' span (List.mem_cons_of_mem _ member)) joined.tail joined'.tail ?_ behind
            simp only [spans_of_cons, extent_cons] at covers
            omega
          simp only [spans_of_cons] at covers joined joined' ⊢
          simp only [extent_cons] at covers
          cases free with
          | true =>
              cases free' with
              | true =>
                  rw [places_free, places_free] at same
                  have equal : size = size' := Nat.le_antisymm
                    (free_reach config offset size' size rest' rest joined' covers.symm same.symm)
                    (free_reach config offset size size' rest rest' joined covers same)
                  subst equal
                  rw [tail rfl same]
              | false =>
                  rw [places_free, places_used] at same
                  have member := same ▸ List.mem_cons_self
                  exact absurd member (free_ahead config offset size rest _ first rfl)
          | false =>
              cases free' with
              | true =>
                  rw [places_free, places_used] at same
                  have member := same ▸ List.mem_cons_self
                  exact absurd member (free_ahead config offset size' rest' _ first' rfl)
              | false =>
                  rw [places_used, places_used] at same
                  obtain ⟨here, behind⟩ := List.cons.inj same
                  have equal : size = size' := congrArg Place.size here
                  subst equal
                  rw [tail rfl behind]

structure SameLayout (a b : Pool) : Prop where
  blocks : ∃ infos, (Pool.blocks.attempt a).1 = .ok infos ∧ (Pool.blocks.attempt b).1 = .ok infos
  usage : ∃ usage, (Pool.usage.attempt a).1 = .ok (some usage) ∧ (Pool.usage.attempt b).1 = .ok (some usage)

theorem sound_spans (config : PoolConfig) (heap next : Heap) (blocks blocks' : List LinkedSpan) (sound : Sound config heap blocks)
    (sound' : Sound config next blocks') (same : places config.headerOverhead 0 blocks = places config.headerOverhead 0 blocks') :
    spansOf blocks = spansOf blocks' := by
  have tiling := sound.registry.tiling
  have tiling' := sound'.registry.tiling
  exact spans_determined config 0 blocks blocks' tiling.positive tiling'.positive tiling.joined tiling'.joined
    (tiling.covers.trans tiling'.covers.symm) same

theorem sound_layout (config : PoolConfig) (geometry : Geometry config) (a b : Pool) (heap next : Heap)
    (blocks blocks' : List LinkedSpan) (opened : a.heap = some heap) (opened' : b.heap = some next)
    (sound : Sound config heap blocks) (sound' : Sound config next blocks') (same : spansOf blocks = spansOf blocks') :
    SameLayout a b := by
  have shown' := blocks_shown config geometry b next blocks' opened' sound'
  have usage' := usage_shown config geometry b next blocks' opened' sound'
  rw [← same] at shown' usage'
  exact ⟨⟨_, blocks_shown config geometry a heap blocks opened sound, shown'⟩,
    ⟨_, usage_shown config geometry a heap blocks opened sound, usage'⟩⟩

end BlockPool
