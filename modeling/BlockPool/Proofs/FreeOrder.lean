import BlockPool.Proofs.Layout
import BlockPool.Proofs.ListRelease

set_option autoImplicit false

namespace BlockPool

open Heap

structure GivenBack (config : PoolConfig) (pool after : Pool) (handles : List Handle) : Prop where
  live : ∀ k, Live after k ↔ Live pool k ∧ k ∉ handles
  remaining : ∀ k, k ∉ handles → ∀ info bytes, Shown after k info bytes ↔ Shown pool k info bytes
  vacant : (∀ k, Live pool k → k ∈ handles) → (Pool.blocks.attempt after).1 = .ok [config.vacantBlock]

structure SameViews (a b : Pool) : Prop where
  layout : SameLayout a b
  counted : ∃ metrics, (Pool.metrics.attempt a).1 = .ok (some metrics) ∧ (Pool.metrics.attempt b).1 = .ok (some metrics)
  shown : ∀ k info bytes, Shown a k info bytes ↔ Shown b k info bytes

-- A heap that has lost the blocks of these handles. In which order they went is not told.
structure Drained (config : PoolConfig) (heap : Heap) (blocks : List LinkedSpan) (handles : List Handle) (next : Heap)
    (blocks' : List LinkedSpan) : Prop where
  sound : Sound config next blocks'
  left : places config.headerOverhead 0 blocks' =
    (places config.headerOverhead 0 blocks).filter fun place => place.id ∉ handles.filterMap heap.resolve
  gone : ∀ h ∈ handles, next.resolve h = none
  kept : ∀ k, k ∉ handles → SameThrough heap next k
  counted : ∃ merges, next.metrics = { heap.metrics with freeCalls := heap.metrics.freeCalls + handles.length, merges }

theorem drained_nothing (config : PoolConfig) (heap : Heap) (blocks : List LinkedSpan) (sound : Sound config heap blocks) :
    Drained config heap blocks [] heap blocks := by
  refine ⟨sound, ?_, nofun, fun k _ => ⟨rfl, rfl, rfl⟩, heap.metrics.merges, rfl⟩
  simp

theorem drained_cons (config : PoolConfig) (geometry : Geometry config) (heap middle next : Heap) (h : Handle) (rest : List Handle)
    (before after ahead behind blocks' : List LinkedSpan) (id survivor : BlockId) (size whole merges : Nat) (new : h ∉ rest)
    (sound : Sound config heap (before ++ (id, ⟨size, false⟩) :: after))
    (freed : Freed config heap h before after ahead behind id survivor size whole merges middle)
    (drained : Drained config middle (ahead ++ (survivor, ⟨whole, true⟩) :: behind) rest next blocks') :
    Drained config heap (before ++ (id, ⟨size, false⟩) :: after) (h :: rest) next blocks' := by
  have through (k : Handle) (different : k ≠ h) :=
    freed_through config geometry heap middle h k before after ahead behind id survivor size
    whole merges sound freed different
  have resolved : heap.resolve h = some id := freed.resolved
  have unmoved : rest.filterMap middle.resolve = rest.filterMap heap.resolve :=
    List.filterMap_congr fun k member => (through k fun same => new (same ▸ member)).resolves
  constructor
  case sound => exact drained.sound
  case left =>
    rw [drained.left, freed_places config heap middle h before after ahead behind id survivor size whole merges sound freed,
      List.filter_filter, unmoved, List.filterMap_cons, resolved]
    refine List.filter_congr fun place _ => ?_
    simp only [List.mem_cons, not_or, Bool.decide_and, Bool.and_comm]
  case gone =>
    intro k member
    by_cases same : k = h
    · rw [same, (drained.kept h new).resolves]
      exact freed_unknown config heap middle h before after ahead behind id survivor size whole merges freed
    · exact drained.gone k ((List.mem_cons.mp member).resolve_left same)
  case kept =>
    intro k other
    obtain ⟨different, outside⟩ := not_or.mp fun here => other (List.mem_cons.mpr here)
    exact same_through_trans heap middle next k (through k different) (drained.kept k outside)
  case counted =>
    obtain ⟨later, counted⟩ := drained.counted
    refine ⟨later, ?_⟩
    rw [counted, freed.metrics, List.length_cons, PoolMetrics.released, Nat.add_assoc, Nat.add_comm 1]

theorem surrenders_drain (config : PoolConfig) (geometry : Geometry config) (handles : List Handle) (pool : Pool) (heap : Heap)
    (blocks : List LinkedSpan) (opened : pool.heap = some heap) (sound : Sound config heap blocks) (distinct : handles.Nodup)
    (live : ∀ h ∈ handles, ∃ id, heap.resolve h = some id) (room : heap.metrics.freeCalls + handles.length < Word.bound) :
    ∃ next blocks', (afterCalls (surrenders handles) pool).heap = some next ∧
      Drained config heap blocks handles next blocks' := by
  induction handles generalizing pool heap blocks with
  | nil => exact ⟨heap, blocks, opened, drained_nothing config heap blocks sound⟩
  | cons h rest ih =>
      obtain ⟨new, distinct'⟩ := List.nodup_cons.mp distinct
      obtain ⟨id, known⟩ := live h List.mem_cons_self
      rw [List.length_cons] at room
      obtain ⟨before, after, ahead, behind, survivor, size, whole, merges, middle, rfl, freed⟩ :=
        free_live config geometry heap blocks h id sound (by omega) known
      have left := (on_heap_open () (Heap.free (some h)) pool heap opened).2
      rw [attempt_ok _ heap middle () freed.ran] at left
      obtain ⟨next, blocks', opened', drained⟩ :=
        ih ((PoolCall.free (some h) : PoolCall Unit).after pool) middle _ left freed.sound distinct'
        (fun k member => by
          have same := freed_through config geometry heap middle h k before after ahead behind id survivor size
            whole merges sound freed
            fun equal => new (equal ▸ member)
          rw [same.resolves]
          exact live k (List.mem_cons_of_mem _ member))
        (by
          simp only [freed.metrics, PoolMetrics.released]
          omega)
      exact ⟨next, blocks', opened', drained_cons config geometry heap middle next h rest before after ahead behind
        blocks' id survivor size
        whole merges new sound freed drained⟩

theorem drained_live (config : PoolConfig) (heap next : Heap) (blocks blocks' : List LinkedSpan) (handles : List Handle)
    (k : Handle) (drained : Drained config heap blocks handles next blocks') :
    (∃ id, next.resolve k = some id) ↔ (∃ id, heap.resolve k = some id) ∧ k ∉ handles := by
  by_cases inside : k ∈ handles
  · rw [drained.gone k inside]
    simp [inside]
  · rw [(drained.kept k inside).resolves]
    simp [inside]

theorem drained_back (config : PoolConfig) (geometry : Geometry config) (pool after : Pool) (heap next : Heap)
    (blocks blocks' : List LinkedSpan) (handles : List Handle) (opened : pool.heap = some heap) (opened' : after.heap = some next)
    (sound : Sound config heap blocks) (room : heap.handles.slots.size < UInt32.size)
    (drained : Drained config heap blocks handles next blocks') : GivenBack config pool after handles := by
  constructor
  case live =>
    intro k
    rw [live_iff after next k opened', live_iff pool heap k opened]
    exact drained_live config heap next blocks blocks' handles k drained
  case remaining =>
    intro k outside info bytes
    exact same_through_shown config geometry pool after heap next blocks blocks' k info bytes opened opened' sound drained.sound
      (drained.kept k outside)
  case vacant =>
    intro all
    have nowhere : places config.headerOverhead 0 blocks' = [] := by
      rw [drained.left, List.filter_eq_nil_iff]
      intro place member
      obtain ⟨h, known⟩ := place_handle config heap blocks place sound room member
      have given := all h ((live_iff pool heap h opened).mpr ⟨place.id, known⟩)
      simpa using List.mem_filterMap.mpr ⟨h, given, known⟩
    have nobody : next.handles.live = 0 := by
      rw [drained.sound.handles.counted, drained.sound.owned.length_eq, nowhere, List.map_nil, List.length_nil]
    exact vacant_blocks config geometry after next blocks' opened' drained.sound nobody

-- Which blocks are left is a matter of which handles were given back, and the free blocks are what they leave.
theorem drained_spans (config : PoolConfig) (heap a b : Heap) (blocks blocksA blocksB : List LinkedSpan)
    (handles order : List Handle) (same : order.Perm handles) (first : Drained config heap blocks handles a blocksA)
    (second : Drained config heap blocks order b blocksB) :
    spansOf blocksA = spansOf blocksB := by
  refine sound_spans config a b blocksA blocksB first.sound second.sound ?_
  rw [first.left, second.left]
  refine List.filter_congr fun place _ => ?_
  simp only [(same.filterMap heap.resolve).mem_iff]

theorem drained_metrics (config : PoolConfig) (heap a b : Heap) (blocks blocksA blocksB : List LinkedSpan)
    (handles order : List Handle) (same : order.Perm handles) (first : Drained config heap blocks handles a blocksA)
    (second : Drained config heap blocks order b blocksB) :
    a.metrics = b.metrics := by
  have length := congrArg List.length (drained_spans config heap a b blocks blocksA blocksB handles order same first second)
  obtain ⟨mergesA, countedA⟩ := first.counted
  obtain ⟨mergesB, countedB⟩ := second.counted
  -- the blocks there are say how many merges there were
  have balanceA := first.sound.tallied.blockCount
  have balanceB := second.sound.tallied.blockCount
  rw [countedA] at balanceA
  rw [countedB] at balanceB
  rw [spans_of_length, spans_of_length] at length
  simp only at balanceA balanceB
  have merges : mergesA = mergesB := by omega
  rw [countedA, countedB, merges, same.length_eq]

theorem drained_views (config : PoolConfig) (geometry : Geometry config) (pool pool' : Pool) (heap a b : Heap)
    (blocks blocksA blocksB : List LinkedSpan) (handles order : List Handle) (openedA : pool.heap = some a)
    (openedB : pool'.heap = some b) (same : order.Perm handles) (first : Drained config heap blocks handles a blocksA)
    (second : Drained config heap blocks order b blocksB) : SameViews pool pool' := by
  have spans := drained_spans config heap a b blocks blocksA blocksB handles order same first second
  have metrics := drained_metrics config heap a b blocks blocksA blocksB handles order same first second
  constructor
  case layout => exact sound_layout config geometry pool pool' a b blocksA blocksB openedA openedB first.sound second.sound spans
  case counted =>
    refine ⟨a.metrics, metrics_shown pool a openedA, ?_⟩
    rw [metrics]
    exact metrics_shown pool' b openedB
  case shown =>
    intro k info bytes
    have through : SameThrough b a k := by
      by_cases inside : k ∈ handles
      · exact same_through_unknown b a k (second.gone k (same.mem_iff.mpr inside)) (first.gone k inside)
      · have kept := second.kept k fun given => inside (same.mem_iff.mp given)
        exact same_through_trans b heap a k (same_through_symm heap b k kept) (first.kept k inside)
    exact same_through_shown config geometry pool' pool b a blocksB blocksA k info bytes openedB openedA
      second.sound first.sound through

theorem frees_commute {α : Type} (config : PoolConfig) (valid : config.Valid) (counter : PoolCounter) :
    ∃ pool next, Pool.init config counter = .ok (.ok pool) next ∧
      ∀ (requests : List (PoolRequest α)) (heap : Heap) (handles : List Handle),
        (afterRequests requests pool).heap = some heap → RoomForHandles (afterRequests requests pool) →
          handles.Nodup → (∀ h ∈ handles, Live (afterRequests requests pool) h) →
            heap.metrics.freeCalls + handles.length < Word.bound →
              GivenBack config (afterRequests requests pool)
                (afterCalls (surrenders handles) (afterRequests requests pool)) handles ∧
                ∀ order : List Handle, order.Perm handles →
                  SameViews (afterCalls (surrenders handles) (afterRequests requests pool))
                    (afterCalls (surrenders order) (afterRequests requests pool)) := by
  have geometry := valid_geometry config valid
  obtain ⟨pool, next, made, reached⟩ := @init_reaches α config valid counter
  refine ⟨pool, next, made, fun requests heap handles opened room distinct live count => ?_⟩
  obtain ⟨⟨blocks, sound⟩, _⟩ := reached requests heap opened
  have resolving (h : Handle) (member : h ∈ handles) := (live_iff _ heap h opened).mp (live h member)
  obtain ⟨left, blocks', opened', drained⟩ :=
    surrenders_drain config geometry handles _ heap blocks opened sound distinct resolving count
  refine ⟨drained_back config geometry _ _ heap left blocks blocks' handles opened opened' sound (room heap opened) drained, ?_⟩
  intro order same
  obtain ⟨other, blocks'', opened'', drained'⟩ := surrenders_drain config geometry order _ heap blocks opened sound
    (same.nodup_iff.mpr distinct) (fun h member => resolving h (same.mem_iff.mp member)) (by rw [same.length_eq]; exact count)
  exact drained_views config geometry _ _ heap left other blocks blocks' blocks'' handles order opened' opened''
    same drained drained'

-- Two neighbours and a last block are given back in two orders. The block between them stays.
theorem frees_commute_neighbours :
    (PoolConfig.mk 200 16 8 .firstFit false).Valid ∧
      ∃ pool next reached, Pool.init (PoolConfig.mk 200 16 8 .firstFit false) ⟨3⟩ = .ok (.ok pool) next ∧
        afterRequests ([.act (.alloc 8), .act (.alloc 16), .act (.alloc 8), .act (.alloc 8)] : List (PoolRequest Unit))
          pool = reached ∧
        GivenBack (PoolConfig.mk 200 16 8 .firstFit false) reached
          (afterCalls (surrenders [⟨⟨3⟩, 0, 0⟩, ⟨⟨3⟩, 1, 0⟩, ⟨⟨3⟩, 3, 0⟩]) reached)
            [⟨⟨3⟩, 0, 0⟩, ⟨⟨3⟩, 1, 0⟩, ⟨⟨3⟩, 3, 0⟩] ∧
        SameViews (afterCalls (surrenders [⟨⟨3⟩, 0, 0⟩, ⟨⟨3⟩, 1, 0⟩, ⟨⟨3⟩, 3, 0⟩]) reached)
          (afterCalls (surrenders [⟨⟨3⟩, 1, 0⟩, ⟨⟨3⟩, 3, 0⟩, ⟨⟨3⟩, 0, 0⟩]) reached) := by
  have valid : (PoolConfig.mk 200 16 8 .firstFit false).Valid := by rfl
  obtain ⟨pool, next, made, commute⟩ := @frees_commute Unit (PoolConfig.mk 200 16 8 .firstFit false) valid ⟨3⟩
  generalize sofar : ([.act (.alloc 8), .act (.alloc 16), .act (.alloc 8), .act (.alloc 8)] : List (PoolRequest Unit)) = requests
  have room : RoomForHandles (afterRequests requests pool) := by
    cases made
    cases sofar
    intro heap opened
    cases opened
    decide
  have live : ∀ h ∈ [⟨⟨3⟩, 0, 0⟩, ⟨⟨3⟩, 1, 0⟩, ⟨⟨3⟩, 3, 0⟩], Live (afterRequests requests pool) h := by
    cases made
    cases sofar
    simp only [List.forall_mem_cons]
    exact ⟨⟨_, _, rfl, rfl⟩, ⟨_, _, rfl, rfl⟩, ⟨_, _, rfl, rfl⟩, nofun⟩
  obtain ⟨heap, opened, count⟩ : ∃ heap, (afterRequests requests pool).heap = some heap ∧
      heap.metrics.freeCalls + 3 < Word.bound := by
    cases made
    cases sofar
    exact ⟨_, rfl, by decide⟩
  obtain ⟨back, any⟩ := commute requests heap _ opened room (by decide) live count
  exact ⟨valid, pool, next, _, made, rfl, back, any _ (by decide)⟩

end BlockPool
