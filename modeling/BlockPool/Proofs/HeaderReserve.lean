import BlockPool.Proofs.ReachedPools
import BlockPool.Proofs.RegistryRefinement

set_option autoImplicit false

namespace BlockPool

structure Reserved (limit : Nat) (r : Registry) : Prop where
  shown : ∃ infos, r.blocks = .ok infos ∧ infos.length = r.chain.blocks.length
  blocks : r.chain.blocks.length ≤ limit
  -- the headers on the chain, and those that wait to be used again
  whole : r.headers.size = r.chain.blocks.length + r.vacant.length
  headers : r.headers.size ≤ limit
  -- ids have 32 bits, which is enough for a new one and for those in use
  named : ∀ header, ∃ next, Registry.push header r = .ok r.headers.size next
  linked : ∀ block ∈ r.chain.blocks, block.1 < UInt32.size
  waiting : ∀ id ∈ r.vacant, id < UInt32.size

theorem push_named (r : Registry) (header : Header) (few : r.headers.size < UInt32.size) :
    ∃ next, Registry.push header r = .ok r.headers.size next := by
  obtain ⟨headers, vacant, capacity, overhead, fit⟩ := r
  refine ⟨⟨headers.push header, vacant, capacity, overhead, fit⟩, ?_⟩
  simp only [Registry.push, Nat.mod_eq_of_lt few]

theorem settled_reserved (config : PoolConfig) (geometry : Geometry config) (r : Registry) (blocks : List LinkedSpan)
    (settled : Settled config r blocks) : Reserved (config.capacity / (config.headerOverhead + config.alignment) + 1) r := by
  have charted := settled.charted
  have few := settled_few config geometry r blocks settled
  have length := charted_chain_length config r blocks charted
  have count := charted_count config r blocks charted
  have room := settled.room
  have known (id : BlockId) (member : id ∈ idsOf blocks ++ r.vacant) : id < UInt32.size :=
    Nat.lt_trans ((charted_bound config r blocks charted id).mp member) few
  constructor
  case shown =>
    refine ⟨_, charted_blocks config geometry r blocks charted, ?_⟩
    rw [described_length, spans_of_length, length]
  case blocks => omega
  case whole => omega
  case headers => exact room
  case named => exact fun header => push_named r header few
  case linked =>
    intro block member
    apply known
    rw [← charted_chain_ids config r blocks charted]
    exact List.mem_append_left _ (List.mem_map_of_mem member)
  case waiting => exact fun id member => known id (List.mem_append_right _ member)

-- A header is made only when none is waiting, so there are never more of them than the arena can have blocks.
theorem header_pool_keeps_to_its_reserve {α : Type} (config : PoolConfig) (valid : config.Valid) (counter : PoolCounter) :
    ∃ limit pool next, config.maxBlocks = .ok limit ∧
      limit = config.capacity / (config.headerOverhead + config.alignment) + 1 ∧
      Pool.init config counter = .ok (.ok pool) next ∧
      ∀ (requests : List (PoolRequest α)) (heap : Heap), (afterRequests requests pool).heap = some heap →
        Reserved limit heap.registry := by
  have geometry := valid_geometry config valid
  obtain ⟨pool, next, made, reached⟩ := @init_reaches α config valid counter
  refine ⟨_, pool, next, max_blocks_exact config geometry, rfl, made, fun requests heap opened => ?_⟩
  obtain ⟨⟨blocks, sound⟩, _⟩ := reached requests heap opened
  exact settled_reserved config geometry heap.registry blocks sound.registry

theorem header_pool_keeps_to_its_reserve_full :
    (PoolConfig.mk 89 16 8 .firstFit false).Valid ∧
      ∃ limit pool next heap, (PoolConfig.mk 89 16 8 .firstFit false).maxBlocks = .ok limit ∧
        limit = 89 / (16 + 8) + 1 ∧
        Pool.init (PoolConfig.mk 89 16 8 .firstFit false) ⟨3⟩ = .ok (.ok pool) next ∧
        (afterRequests ([.act (.alloc 8), .act (.alloc 1), .act (.alloc 3), .act (.free (some ⟨⟨3⟩, 1, 0⟩)),
          .act (.free (some ⟨⟨3⟩, 2, 0⟩)), .act (.alloc 8)] : List (PoolRequest Unit)) pool).heap = some heap ∧
        Reserved limit heap.registry := by
  have valid : (PoolConfig.mk 89 16 8 .firstFit false).Valid := by rfl
  obtain ⟨limit, pool, next, counted, bound, made, reserved⟩ :=
    @header_pool_keeps_to_its_reserve Unit (PoolConfig.mk 89 16 8 .firstFit false) valid ⟨3⟩
  cases made
  exact ⟨valid, limit, _, _, _, counted, bound, rfl, rfl, reserved [.act (.alloc 8), .act (.alloc 1), .act (.alloc 3),
    .act (.free (some ⟨⟨3⟩, 1, 0⟩)), .act (.free (some ⟨⟨3⟩, 2, 0⟩)), .act (.alloc 8)] _ rfl⟩

end BlockPool
