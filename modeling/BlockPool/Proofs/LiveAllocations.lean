import BlockPool.Proofs.ReachedPools
import BlockPool.Proofs.Refusals

set_option autoImplicit false

namespace BlockPool

open Heap

-- What a pool tells of a live handle: the block it stands for, how large that is, and the bytes in it.
structure Shown (pool : Pool) (h : Handle) (info : BlockInfo) (bytes : List UInt8) : Prop where
  located : ((Pool.locate h).attempt pool).1 = .ok (some info)
  sized : ((Pool.usableSize h).attempt pool).1 = .ok (some info.size)
  lent : ((Pool.withPayload h fun _ payload => payload.toList).attempt pool).1 = .ok (.ok bytes)

theorem lend_bytes (bytes : List UInt8) : (lend bytes).toList = bytes := rfl

theorem shown_iff (config : PoolConfig) (geometry : Geometry config) (pool : Pool) (heap : Heap)
    (blocks : List LinkedSpan) (h : Handle) (info : BlockInfo) (bytes : List UInt8) (opened : pool.heap = some heap)
    (sound : Sound config heap blocks) :
    Shown pool h info bytes ↔ heap.locate h = .ok (some info) ∧ contents heap h = some bytes := by
  have located : ((Pool.locate h).attempt pool).1 = heap.locate h :=
    (on_heap_open none _ pool heap opened).1.trans (query_answer (fun heap => heap.locate h) heap)
  have sized : ((Pool.usableSize h).attempt pool).1 = .ok ((contents heap h).map List.length) := by
    refine (on_heap_open none _ pool heap opened).1.trans ?_
    exact congrArg Prod.fst (attempt_ok _ heap heap _ (usable_size_agrees config geometry heap blocks h sound))
  have lent := (look_agrees config geometry heap blocks h (fun _ payload => payload.toList) sound).2
  rw [← (on_heap_open (.error .uninitialized) _ pool heap opened).1] at lent
  rcases contents_cases config geometry heap blocks h sound with
    ⟨unknown, nothing⟩ | ⟨place, member, known, held, length, _⟩
  · rw [nothing]
    constructor
    · intro shown
      rw [nothing, Option.map_none] at sized
      cases sized.symm.trans shown.sized
    · rintro ⟨_, held⟩
      cases held
  · have found := locate_place config geometry heap blocks h place sound member known
    simp only [held, lend_bytes] at lent
    rw [held, Option.map_some, length] at sized
    constructor
    · intro shown
      refine ⟨located.symm.trans shown.located, ?_⟩
      cases lent.symm.trans shown.lent
      exact held
    · rintro ⟨told, same⟩
      cases found.symm.trans told
      cases held.symm.trans same
      exact ⟨located.trans found, sized, lent⟩

theorem live_iff (pool : Pool) (heap : Heap) (h : Handle) (opened : pool.heap = some heap) :
    Live pool h ↔ ∃ id, heap.resolve h = some id := by
  constructor
  · rintro ⟨heap', id, opened', known⟩
    cases opened.symm.trans opened'
    exact ⟨id, known⟩
  · rintro ⟨id, known⟩
    exact ⟨heap, id, opened, known⟩

-- As long as each slot has a name, each used block has a handle.
theorem place_handle (config : PoolConfig) (heap : Heap) (blocks : List LinkedSpan) (place : Place)
    (sound : Sound config heap blocks) (room : heap.handles.slots.size < UInt32.size)
    (member : place ∈ places config.headerOverhead 0 blocks) :
    ∃ h, heap.resolve h = some place.id := by
  have live := sound.owned.mem_iff.mpr (List.mem_map_of_mem (f := Place.id) member)
  obtain ⟨⟨generation, block⟩, inside, occupied⟩ := List.mem_filterMap.mp live
  obtain ⟨index, read⟩ := List.mem_iff_getElem?.mp inside
  rw [Array.getElem?_toList] at read
  have bound : index < heap.handles.slots.size := (Array.getElem?_eq_some_iff.mp read).1
  have named : index.toUInt32.toNat = index := UInt32.toNat_ofNat_of_lt' (Nat.lt_trans bound room)
  refine ⟨⟨heap.handles.pool, index.toUInt32, generation⟩, (get_some_iff heap.handles _ place.id).mpr ⟨rfl, ?_⟩⟩
  simp only [named, read]
  rw [show block = some place.id from occupied]

structure SameThrough (heap next : Heap) (k : Handle) : Prop where
  resolves : next.resolve k = heap.resolve k
  locates : next.locate k = heap.locate k
  contains : contents next k = contents heap k

theorem same_through_trans (a b c : Heap) (k : Handle) (first : SameThrough a b k) (second : SameThrough b c k) :
    SameThrough a c k :=
  ⟨second.resolves.trans first.resolves, second.locates.trans first.locates, second.contains.trans first.contains⟩

theorem same_through_symm (a b : Heap) (k : Handle) (same : SameThrough a b k) : SameThrough b a k :=
  ⟨same.resolves.symm, same.locates.symm, same.contains.symm⟩

theorem same_through_unknown (heap next : Heap) (k : Handle) (unknown : heap.resolve k = none) (unknown' : next.resolve k = none) :
    SameThrough heap next k := by
  refine ⟨unknown'.trans unknown.symm, ?_, (contents_none next k unknown').trans (contents_none heap k unknown).symm⟩
  simp only [Heap.locate, unknown, unknown']

theorem same_through_shown (config : PoolConfig) (geometry : Geometry config) (pool pool' : Pool) (heap next : Heap)
    (blocks blocks' : List LinkedSpan) (k : Handle) (info : BlockInfo) (bytes : List UInt8) (opened : pool.heap = some heap)
    (opened' : pool'.heap = some next) (sound : Sound config heap blocks) (sound' : Sound config next blocks')
    (same : SameThrough heap next k) : Shown pool' k info bytes ↔ Shown pool k info bytes := by
  rw [shown_iff config geometry pool heap blocks k info bytes opened sound,
    shown_iff config geometry pool' next blocks' k info bytes opened' sound', same.locates, same.contains]

theorem locate_kept (config : PoolConfig) (geometry : Geometry config) (heap next : Heap)
    (blocks blocks' : List LinkedSpan) (k : Handle) (sound : Sound config heap blocks)
    (sound' : Sound config next blocks') (resolves : next.resolve k = heap.resolve k)
    (stays : ∀ place ∈ places config.headerOverhead 0 blocks, heap.resolve k = some place.id →
      place ∈ places config.headerOverhead 0 blocks') :
    next.locate k = heap.locate k := by
  cases known : heap.resolve k with
  | none => simp only [Heap.locate, resolves, known]
  | some id =>
      obtain ⟨place, member, rfl⟩ := sound_resolves config heap blocks k id sound known
      rw [locate_place config geometry heap blocks k place sound member known,
        locate_place config geometry next blocks' k place sound' (stays place member known) (resolves.trans known)]

theorem served_through (config : PoolConfig) (geometry : Geometry config) (heap next : Heap) (size whole : Nat)
    (before after : List LinkedSpan) (id created : BlockId) (h k : Handle)
    (sound : Sound config heap (before ++ (id, ⟨whole, true⟩) :: after))
    (served : Served config heap size before after id created whole h next) (room : heap.handles.slots.size < UInt32.size)
    (different : k ≠ h) : SameThrough heap next k := by
  obtain ⟨_, answers⟩ := served_answers config geometry heap next size whole before after id created h sound served room
  obtain ⟨_, bytes, _, _, issued⟩ :=
    served_contents config geometry heap next size whole before after id created h sound served room
  have resolves : next.resolve k = heap.resolve k := (answers k).trans (if_neg different)
  refine ⟨resolves, ?_, ?_⟩
  · exact locate_kept config geometry heap next _ _ k sound served.sound resolves fun place member _ =>
      taken_kept config size whole before after id created place member
  · rw [issued, put_other _ _ _ _ different]

theorem freed_through (config : PoolConfig) (geometry : Geometry config) (heap next : Heap) (h k : Handle)
    (before after ahead behind : List LinkedSpan) (id survivor : BlockId) (size whole merges : Nat)
    (sound : Sound config heap (before ++ (id, ⟨size, false⟩) :: after))
    (freed : Freed config heap h before after ahead behind id survivor size whole merges next) (different : k ≠ h) :
    SameThrough heap next k := by
  have resolves := freed_answers config heap next h before after ahead behind id survivor size whole merges freed k
  rw [if_neg different] at resolves
  refine ⟨resolves, ?_, ?_⟩
  · refine locate_kept config geometry heap next _ _ k sound freed.sound resolves fun place member known => ?_
    rw [freed_places config heap next h before after ahead behind id survivor size whole merges sound freed]
    have other := sound_distinct config heap _ sound k h different _ _ known freed.resolved
    exact List.mem_filter.mpr ⟨member, decide_eq_true other⟩
  · rw [freed_contents config geometry heap next h before after ahead behind id survivor size whole merges sound freed,
      put_other _ _ _ _ different]

theorem freed_unknown (config : PoolConfig) (heap next : Heap) (h : Handle) (before after ahead behind : List LinkedSpan)
    (id survivor : BlockId) (size whole merges : Nat)
    (freed : Freed config heap h before after ahead behind id survivor size whole merges next) : next.resolve h = none := by
  rw [freed_answers config heap next h before after ahead behind id survivor size whole merges freed h, if_pos rfl]

theorem served_located (config : PoolConfig) (geometry : Geometry config) (heap next : Heap) (size whole : Nat)
    (before after : List LinkedSpan) (id created : BlockId) (h : Handle)
    (served : Served config heap size before after id created whole h next) (issued : next.resolve h = some id) :
    next.locate h = .ok (some ((config.takenPlace size whole before id).info config.headerOverhead)) :=
  locate_place config geometry next _ h _ served.sound (taken_member config size whole before after id created) issued

end BlockPool
