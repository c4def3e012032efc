import BlockPool.Proofs.AllocUndone
import BlockPool.Proofs.LargestRequest
import BlockPool.Proofs.Preserved
import BlockPool.Proofs.SlotTurns

set_option autoImplicit false

namespace BlockPool

open Heap

theorem roomy_places (overhead unit offset : Nat) (blocks : List LinkedSpan)
    (roomy : ∀ place ∈ places overhead offset blocks, unit ≤ place.size) :
    (places overhead offset blocks).length * (overhead + unit) ≤ extent overhead (spansOf blocks) := by
  induction blocks generalizing offset with
  | nil => exact Nat.le_of_eq (Nat.zero_mul _)
  | cons block rest ih =>
      obtain ⟨id, size, free⟩ := block
      rw [spans_of_cons, extent_cons]
      cases free with
      | true =>
          rw [places_free] at roomy ⊢
          exact Nat.le_add_left_of_le (ih _ roomy)
      | false =>
          rw [places_used] at roomy ⊢
          have later := ih _ fun place member => roomy place (List.mem_cons_of_mem _ member)
          have here : unit ≤ size := roomy _ List.mem_cons_self
          rw [List.length_cons, Nat.succ_mul]
          simp only
          omega

-- The slots that are not retired, and the blocks they are for.
structure SlotLaw (config : PoolConfig) (blocks : List LinkedSpan) (t : HandleTable) (returned : Nat) : Prop where
  revolved : Revolved t returned
  roomy : ∀ place ∈ places config.headerOverhead 0 blocks, config.alignment ≤ place.size
  serving : t.live + t.vacated.length ≤ config.capacity / (config.headerOverhead + config.alignment)

theorem places_few (config : PoolConfig) (geometry : Geometry config) (heap : Heap) (blocks : List LinkedSpan)
    (sound : Sound config heap blocks)
    (roomy : ∀ place ∈ places config.headerOverhead 0 blocks, config.alignment ≤ place.size) :
    heap.handles.live ≤ config.capacity / (config.headerOverhead + config.alignment) := by
  have alignment := alignment_positive config geometry
  have extents := roomy_places config.headerOverhead config.alignment 0 blocks roomy
  have owned := sound.owned.length_eq
  rw [List.length_map, ← sound.handles.counted] at owned
  rw [sound.registry.tiling.covers, ← owned] at extents
  exact (Nat.le_div_iff_mul_le (by omega)).mpr extents

theorem insert_serving (t next : HandleTable) (block : BlockId) (h : Handle) (orderly : Orderly t) (few : t.live + 1 < Word.bound)
    (ran : HandleTable.insert block t = .ok h next) :
    next.live + next.vacated.length = t.live + t.vacated.length ∨ next.vacated = [] := by
  rcases insert_cases t block orderly few with ⟨index, rest, generation, vacated, _, ran'⟩ | ⟨_, ran'⟩
  · cases ran.symm.trans ran'
    refine .inl ?_
    simp only [vacated, List.length_cons]
    omega
  · cases ran.symm.trans ran'
    exact .inr rfl

theorem vacate_serving (t : HandleTable) (h : Handle) (counted : 1 ≤ t.live) :
    (vacate t h).live + (vacate t h).vacated.length ≤ t.live + t.vacated.length := by
  simp only [vacate]
  split
  · rw [List.length_cons]
    omega
  · omega

theorem slots_preserved (config : PoolConfig) (geometry : Geometry config) : Preserved config (SlotLaw config) where
  served := by
    intro heap next size whole before after id created h returned sound served ⟨revolved, roomy, serving⟩
    have live := sound_live config geometry heap _ sound
    have taken : ∀ place ∈ places config.headerOverhead 0 (config.takenBlocks size whole before after id created),
        config.alignment ≤ place.size := by
      intro place member
      rcases (places_cut_iff config.headerOverhead (config.roundUp size) whole before after id created place).mp
        member with rfl | before
      · have positive : 0 < config.roundUp size := Nat.lt_of_lt_of_le served.positive (round_up_holds config geometry size)
        exact (Nat.le_of_dvd positive (round_up_aligned config size)).trans
          (taken_size_bounds config.headerOverhead _ whole served.enough).1
      · exact roomy place before
    refine ⟨insert_revolved heap.handles next.handles id h returned sound.handles live served.issued revolved, taken, ?_⟩
    rcases insert_serving heap.handles next.handles id h sound.handles live served.issued with same | none
    · exact same ▸ serving
    · rw [none]
      exact places_few config geometry next _ served.sound taken
  freed := by
    intro heap next h before after ahead behind id survivor size whole merges returned sound freed ⟨revolved, roomy, serving⟩
    have counted := resolving_counted heap.handles h id freed.resolved sound.handles
    rw [freed.handles]
    refine ⟨vacate_revolved heap.handles h id returned sound.handles freed.resolved revolved, fun place member => ?_,
      (vacate_serving heap.handles h counted).trans serving⟩
    rw [freed_places config heap next h before after ahead behind id survivor size whole merges sound freed] at member
    exact roomy place (List.mem_filter.mp member).1

theorem fresh_slot_law (config : PoolConfig) (id : PoolId) :
    SlotLaw config [(0, ⟨config.capacity - config.headerOverhead, true⟩)] (.empty id) 0 :=
  ⟨empty_revolved id, fun _ member => absurd member List.not_mem_nil, Nat.zero_le _⟩

structure TableRoom (limit made returned : Nat) (heap : Heap) : Prop where
  balance : heap.metrics.freeCalls = heap.metrics.ignoredFrees + returned
  vacated : heap.handles.live + heap.handles.vacated.length < limit
  slots : heap.handles.slots.size < limit + returned / UInt32.size
  issued : returned + heap.handles.live ≤ UInt32.size * heap.handles.slots.size
  within : made < 2 * UInt32.size → heap.handles.slots.size ≤ limit

theorem obeyed_room (config : PoolConfig) (made : Nat) (heap : Heap) (obeys : Obeys config (SlotLaw config) heap)
    (counted : Counted made heap.metrics) :
    ∃ returned, TableRoom (config.capacity / (config.headerOverhead + config.alignment) + 1) made returned heap := by
  obtain ⟨blocks, returned, sound, balance, revolved, _, serving⟩ := obeys
  have retired := revolved_retired heap.handles returned revolved
  have whole := revolved.whole
  have slots : heap.handles.slots.size <
      config.capacity / (config.headerOverhead + config.alignment) + 1 + returned / UInt32.size := by omega
  refine ⟨returned, balance, Nat.lt_succ_of_le serving, slots, revolved_issued heap.handles returned sound.handles
    revolved, fun few => ?_⟩
  have calls := counted.frees
  have once : returned / UInt32.size < 2 := (Nat.div_lt_iff_lt_mul (by decide)).mpr (by omega)
  omega

theorem init_room {α : Type} (config : PoolConfig) (valid : config.Valid) (counter : PoolCounter) :
    ∃ pool next, Pool.init config counter = .ok (.ok pool) next ∧
      ∀ (requests : List (PoolRequest α)) (heap : Heap), (afterRequests requests pool).heap = some heap →
        ∃ returned, TableRoom (config.capacity / (config.headerOverhead + config.alignment) + 1)
          requests.length returned heap := by
  have preserved := slots_preserved config (valid_geometry config valid)
  obtain ⟨pool, next, made, _, obeys⟩ := @init_obeys config _ preserved α valid counter (fresh_slot_law config _)
  obtain ⟨pool', next', made', reached⟩ := @init_reaches α config valid counter
  cases made.symm.trans made'
  exact ⟨pool, next, made, fun requests heap opened =>
    obeyed_room config requests.length heap (obeys requests heap opened) (reached requests heap opened).2⟩

-- For each 2 ^ 32 blocks that are given back the table may grow by one slot more than was set aside for it. Those of the
-- slots that can be issued from again, and those in use, stay within the room.
theorem table_grows_with_retirement {α : Type} (config : PoolConfig) (valid : config.Valid) (counter : PoolCounter) :
    ∃ limit pool next, config.maxBlocks = .ok limit ∧ Pool.init config counter = .ok (.ok pool) next ∧
      ∀ (requests : List (PoolRequest α)) (heap : Heap), (afterRequests requests pool).heap = some heap →
        ∃ returned, TableRoom limit requests.length returned heap := by
  obtain ⟨pool, next, made, room⟩ := @init_room α config valid counter
  exact ⟨_, pool, next, max_blocks_exact config (valid_geometry config valid), made, room⟩

theorem table_grows_with_retirement_reissued :
    (PoolConfig.mk 24 16 8 .firstFit false).Valid ∧
      ∃ limit pool next heap returned, (PoolConfig.mk 24 16 8 .firstFit false).maxBlocks = .ok limit ∧ limit = 2 ∧
        Pool.init (PoolConfig.mk 24 16 8 .firstFit false) ⟨3⟩ = .ok (.ok pool) next ∧
        (afterRequests ([.act (.alloc 8), .act (.free (some ⟨⟨3⟩, 0, 0⟩)), .act (.alloc 5)] :
          List (PoolRequest Unit)) pool).heap = some heap ∧
        TableRoom limit 3 returned heap := by
  have valid : (PoolConfig.mk 24 16 8 .firstFit false).Valid := by rfl
  obtain ⟨limit, pool, next, counted, made, room⟩ :=
    @table_grows_with_retirement Unit (PoolConfig.mk 24 16 8 .firstFit false) valid ⟨3⟩
  cases made
  cases counted
  obtain ⟨returned, room⟩ := room [.act (.alloc 8), .act (.free (some ⟨⟨3⟩, 0, 0⟩)), .act (.alloc 5)] _ rfl
  exact ⟨valid, _, _, _, _, returned, rfl, rfl, rfl, rfl, room⟩

-- A heap in which `rounds` blocks have been handed out, one at a time, each after the one before it was given back.
structure Cycled (config : PoolConfig) (spans : List Span) (rounds : Nat) (heap : Heap) : Prop where
  laid : ∃ blocks, Sound config heap blocks ∧ spansOf blocks = spans
  allocs : heap.metrics.allocCalls = rounds
  frees : heap.metrics.freeCalls = rounds
  heeded : heap.metrics.ignoredFrees = 0

def PoolRequest.Allocates {α : Type} : PoolRequest α → Prop
  | .act (.alloc _) => True
  | .act (.free _) => True
  | .act (.resize _ _) => True
  | _ => False

section Cycles

variable (config : PoolConfig) (geometry : Geometry config) (size rounds : Nat) (spans : List Span)

include geometry

theorem cycle_serves {α : Type} (pool : Pool) (heap : Heap) (opened : pool.heap = some heap)
    (cycled : Cycled config spans rounds heap)
    (fits : ∀ blocks, spansOf blocks = spans → ¬ Unserved config size blocks) (few : rounds + 1 < Word.bound) :
    ∃ before id whole after created h next, spansOf (before ++ (id, ⟨whole, true⟩) :: after) = spans ∧
      Sound config heap (before ++ (id, ⟨whole, true⟩) :: after) ∧
      Served config heap size before after id created whole h next ∧
      ((PoolRequest.act (.alloc size) : PoolRequest α).after pool).heap = some next := by
  obtain ⟨⟨blocks, sound, same⟩, allocs, _, _⟩ := cycled
  rcases alloc_block_cases config geometry heap blocks size sound with
    ⟨full, _⟩ | ⟨unserved, _, _⟩ | ⟨before, id, whole, after, created, h, next, rfl, served⟩
  · omega
  · exact absurd unserved (fits blocks same)
  · have ran : (Heap.alloc size).attempt heap = (.ok (some h), next) :=
      attempt_ok _ heap next _ (alloc_ran heap next size _ served.ran)
    obtain ⟨_, left⟩ := request_open (PoolRequest.act (.alloc size) : PoolRequest α) (by simp) pool heap opened
    exact ⟨before, id, whole, after, created, h, next, same, sound, served,
      left.trans (congrArg (fun result => some result.2) ran)⟩

theorem cycle_returns {α : Type} (pool : Pool) (heap next : Heap) (whole : Nat) (before after : List LinkedSpan)
    (id created : BlockId) (h : Handle) (opened : pool.heap = some next) (cycled : Cycled config spans rounds heap)
    (same : spansOf (before ++ (id, ⟨whole, true⟩) :: after) = spans)
    (sound : Sound config heap (before ++ (id, ⟨whole, true⟩) :: after))
    (served : Served config heap size before after id created whole h next) (room : heap.handles.slots.size < UInt32.size)
    (few : rounds + 1 < Word.bound) :
    ∃ freed, ((PoolRequest.act (.free (some h)) : PoolRequest α).after pool).heap = some freed ∧
      Cycled config spans (rounds + 1) freed := by
  obtain ⟨_, allocs, frees, heeded⟩ := cycled
  have counted : next.metrics.allocCalls = rounds + 1 ∧ next.metrics.freeCalls = rounds ∧ next.metrics.ignoredFrees = 0 := by
    rw [served.metrics]
    exact ⟨congrArg Nat.succ allocs, frees, heeded⟩
  obtain ⟨allocs', frees', heeded'⟩ := counted
  have resolved := served_resolves config geometry heap next size whole before after id created h sound served room
  rcases free_cases config geometry next _ (some h) served.sound with
    ⟨full, _⟩ | ⟨unknown, _, _⟩ | ⟨_, before', after', ahead, behind, _, survivor, less, grown, merges, freed,
      named, shape, gives⟩
  · omega
  · cases unknown.symm.trans resolved
  · cases named
    cases resolved.symm.trans gives.resolved
    have ran : (Heap.free (some h)).attempt next = (.ok (), freed) := attempt_ok _ next freed _ gives.ran
    obtain ⟨_, left⟩ := request_open (PoolRequest.act (.free (some h)) : PoolRequest α) (by simp) pool next opened
    have back :=
      undone_spans config heap next freed size whole less grown merges before after before' after' ahead behind id created
      survivor h sound served shape gives
    refine ⟨freed, left.trans (congrArg (fun result => some result.2) ran), ⟨_, gives.sound, back.trans same⟩, ?_, ?_, ?_⟩
    · rw [gives.metrics]
      exact allocs'
    · rw [gives.metrics]
      exact congrArg Nat.succ frees'
    · rw [gives.metrics]
      exact heeded'

theorem cycles_run {α : Type} (limit : Nat) (pool : Pool) (heap : Heap) (opened : pool.heap = some heap)
    (start : Cycled config spans 0 heap) (fits : ∀ blocks, spansOf blocks = spans → ¬ Unserved config size blocks)
    (room : ∀ (requests : List (PoolRequest α)) (heap : Heap), (afterRequests requests pool).heap = some heap →
      ∃ returned, TableRoom limit requests.length returned heap) (few : rounds < Word.bound)
    (slots : limit + rounds / UInt32.size ≤ UInt32.size) :
    ∃ (requests : List (PoolRequest α)) (heap : Heap), (∀ request ∈ requests, request.Allocates) ∧
      (afterRequests requests pool).heap = some heap ∧ Cycled config spans rounds heap := by
  induction rounds with
  | zero => exact ⟨[], heap, fun _ member => absurd member List.not_mem_nil, opened, start⟩
  | succ rounds ih =>
      have fewer : rounds / UInt32.size ≤ (rounds + 1) / UInt32.size := Nat.div_le_div_right (Nat.le_succ rounds)
      obtain ⟨requests, heap, allocates, opened, cycled⟩ := ih (by omega) (by omega)
      have bounded : heap.handles.slots.size < UInt32.size := by
        obtain ⟨returned, balance, _, bound, _⟩ := room requests heap opened
        obtain rfl : returned = rounds := by rw [cycled.frees, cycled.heeded, Nat.zero_add] at balance; exact balance.symm
        omega
      obtain ⟨before, id, whole, after, created, h, next, same, sound, served, left⟩ :=
        cycle_serves config geometry size rounds spans _ heap opened cycled fits few
      obtain ⟨freed, left', cycled'⟩ :=
        cycle_returns config geometry size rounds spans _ heap next whole before after id created h left cycled same
          sound served bounded few
      refine ⟨requests ++ [.act (.alloc size), .act (.free (some h))], freed, fun request member => ?_, ?_, cycled'⟩
      · rcases List.mem_append.mp member with earlier | now
        · exact allocates request earlier
        · rcases List.mem_pair.mp now with rfl | rfl <;> trivial
      · rw [afterRequests, List.foldl_append]
        exact left'

end Cycles

-- Room for one block, two slots set aside. Both have been through all generations when the third is made.
theorem reserved_slots_run_out :
    ¬ ∀ (config : PoolConfig) (counter : PoolCounter) (limit : Nat) (pool : Pool) (next : PoolCounter)
      (requests : List (PoolRequest Unit))
      (heap : Heap), config.Valid → config.maxBlocks = .ok limit → Pool.init config counter = .ok (.ok pool) next →
        (∀ request ∈ requests, request.Allocates) → (afterRequests requests pool).heap = some heap →
        heap.handles.slots.size ≤ limit := by
  intro reserved
  have valid : (PoolConfig.mk 24 16 8 .firstFit false).Valid := by rfl
  have geometry := valid_geometry _ valid
  obtain ⟨pool, next, heap, made, opened, _, _, _, metrics, sound⟩ :=
    init_pool (PoolConfig.mk 24 16 8 .firstFit false) valid ⟨1⟩
  obtain ⟨pool', next', made', room⟩ := @init_room Unit (PoolConfig.mk 24 16 8 .firstFit false) valid ⟨1⟩
  cases made.symm.trans made'
  have start : Cycled (PoolConfig.mk 24 16 8 .firstFit false) [⟨8, true⟩] 0 heap := by
    refine ⟨⟨_, sound, rfl⟩, ?_, ?_, ?_⟩ <;> rw [metrics]
  have fits (blocks : List LinkedSpan) (same : spansOf blocks = [⟨8, true⟩]) :
      ¬ Unserved (PoolConfig.mk 24 16 8 .firstFit false) 8 blocks := by
    rw [Unserved, same]
    decide
  obtain ⟨requests, heap, allocates, opened, cycled⟩ :=
    cycles_run _ geometry 8 (2 * UInt32.size) _ _ pool heap opened start fits room (by decide) (by decide)
  obtain ⟨before, id, whole, after, created, h, served, _, sound, serves, left⟩ :=
    cycle_serves _ geometry 8 (2 * UInt32.size) _ (α := Unit) _ heap opened cycled fits (by decide)
  have again : (afterRequests (requests ++ [.act (.alloc 8)]) pool).heap = some served := by
    rw [afterRequests, List.foldl_append]
    exact left
  have asks : ∀ request ∈ requests ++ [(.act (.alloc 8) : PoolRequest Unit)], request.Allocates := by
    intro request member
    rcases List.mem_append.mp member with earlier | now
    · exact allocates request earlier
    · rw [List.mem_singleton.mp now]
      trivial
  have within := reserved _ _ 2 pool next _ served valid rfl made asks again
  obtain ⟨returned, balance, _, _, issued, _⟩ := room _ served again
  obtain ⟨_, _, issues, live⟩ := insert_succeeds heap.handles id sound.handles (sound_live _ geometry heap _ sound)
  cases issues.symm.trans serves.issued
  rw [serves.metrics] at balance
  simp only [PoolMetrics.served, cycled.frees, cycled.heeded, Nat.zero_add] at balance
  rw [← balance, live] at issued
  simp only [UInt32.size] at issued
  omega

end BlockPool
