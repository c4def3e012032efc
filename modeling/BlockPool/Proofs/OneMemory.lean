import BlockPool.Proofs.ShadowSteps

set_option autoImplicit false

namespace BlockPool

open ShadowHeap

-- What handles stand for in a state: the bytes of a memory by their positions, and the start and the size of the range behind a
-- handle. It is so in sound states.
structure MemoryMap (σ : Type) where
  bytes : σ → Nat → UInt8
  range : σ → Handle → Option (Nat × Nat)
  sound : σ → Prop

namespace MemoryMap

variable {σ : Type} (map : MemoryMap σ)

def position (a : σ) (h : Handle) (index : Nat) : Option Nat := (map.range a h).map fun range => range.1 + index

structure Same (a b : σ) : Prop where
  sound : map.sound b
  bytes : map.bytes b = map.bytes a
  range : map.range b = map.range a

end MemoryMap

def accessed (range : Option (Nat × Nat)) (offset len : Nat) : Option Nat :=
  range.bind fun (start, size) => if offset + len ≤ size then some (start + offset) else none

def overwritten (bytes : Nat → UInt8) (start : Nat) (data : List UInt8) (position : Nat) : UInt8 :=
  if position < start then bytes position else data[position - start]?.getD (bytes position)

-- Reads and writes access exactly the bytes of the range that a handle names, and nothing happens if these are not enough.
structure OneMemory {σ : Type} [BlockAllocator σ] (map : MemoryMap σ) : Prop where
  readsInside : ∀ a h offset len start, map.sound a → accessed (map.range a h) offset len = some start →
    ∃ found b, BlockAllocator.read h offset len a = .ok (.ok found) b ∧ map.Same a b ∧
      found.toList = (List.range len).map fun i => map.bytes a (start + i)
  readsOutside : ∀ a h offset len, map.sound a → accessed (map.range a h) offset len = none →
    ∃ e b, BlockAllocator.read h offset len a = .ok (.error e) b ∧ map.Same a b
  writesInside : ∀ a h offset data start, map.sound a → accessed (map.range a h) offset data.length = some start →
    ∃ b, BlockAllocator.write h offset data a = .ok (.ok ()) b ∧ map.sound b ∧
      map.bytes b = overwritten (map.bytes a) start data ∧
      map.range b = map.range a
  writesOutside : ∀ a h offset data, map.sound a → accessed (map.range a h) offset data.length = none →
    ∃ e b, BlockAllocator.write h offset data a = .ok (.error e) b ∧ map.Same a b

def Heap.range (heap : Heap) (h : Handle) : Option (Nat × Nat) :=
  (heap.resolve h).bind fun id => (heap.registry.payload id).toOption

def Heap.byte (heap : Heap) (position : Nat) : UInt8 := heap.arena.bytes[position]?.getD 0

def poolMap (config : PoolConfig) : MemoryMap Pool where
  bytes pool position := (pool.heap.map fun heap => heap.byte position).getD 0
  range pool h := pool.heap.bind fun heap => heap.range h
  sound pool := ∀ heap, pool.heap = some heap → Kept config heap

section Pools

variable (config : PoolConfig) (geometry : Geometry config)

theorem segment_bytes (heap : Heap) (start len : Nat) (inside : start + len ≤ heap.arena.capacity) :
    segment heap.arena.bytes start len = (List.range len).map fun i => heap.byte (start + i) := by
  apply List.ext_getElem?
  intro i
  rw [segment_get, List.getElem?_map]
  by_cases early : i < len
  · have there : start + i < heap.arena.bytes.size := Nat.lt_of_lt_of_le (Nat.add_lt_add_left early start) inside
    rw [if_pos early, List.getElem?_range early, Option.map_some, Heap.byte, Array.getElem?_eq_getElem there, Option.getD_some]
  · rw [if_neg early, List.getElem?_eq_none (by simpa using early), Option.map_none]

theorem written_bytes (heap : Heap) (start : Nat) (data : List UInt8) (fits : start + data.length ≤ heap.arena.capacity) :
    (written heap start data).byte = overwritten heap.byte start data := by
  funext position
  rw [Heap.byte, written, overwrite_get _ _ _ _ fits, overwritten]
  by_cases before : position < start
  · rw [if_neg (by omega), if_pos before, Heap.byte]
  · rw [if_neg before]
    by_cases inside : position < start + data.length
    · rw [if_pos ⟨Nat.le_of_not_lt before, inside⟩, List.getElem?_eq_getElem (by omega), Option.getD_some, Option.getD_some]
    · rw [if_neg (by omega), List.getElem?_eq_none (by omega), Option.getD_none, Heap.byte]

include geometry

theorem range_place (heap : Heap) (blocks : List LinkedSpan) (h : Handle) (place : Place) (sound : Sound config heap blocks)
    (member : place ∈ places config.headerOverhead 0 blocks) (known : heap.resolve h = some place.id) :
    heap.range h = some (place.start, place.size) := by
  have payload := charted_payload config geometry heap.registry blocks sound.registry.charted place member
  rw [Heap.range, known, Option.bind_some, payload]
  rfl

theorem heap_accessed (heap : Heap) (blocks : List LinkedSpan) (h : Handle) (offset len : Nat) (sound : Sound config heap blocks) :
    (accessed (heap.range h) offset len = none ∧ ∃ e, heap.payloadRange h offset len = .ok (.error e)) ∨
      ∃ start, accessed (heap.range h) offset len = some start ∧ heap.payloadRange h offset len = .ok (.ok start) ∧
        start + len ≤ heap.arena.capacity := by
  rcases payload_range_cases config geometry heap blocks h offset len sound with
    ⟨e, missed, ranged⟩ | ⟨place, member, known, fits, inside, _, ranged⟩
  · refine .inl ⟨?_, e, ranged⟩
    rcases contents_cases config geometry heap blocks h sound with ⟨unknown, _⟩ | ⟨place, member, known, held, length, _⟩
    · rw [Heap.range, unknown]
      rfl
    · have outside : ¬ offset + len ≤ place.size := by
        intro fits
        simp only [reach, held, length, if_pos fits] at missed
        cases missed
      rw [range_place config geometry heap blocks h place sound member known]
      exact if_neg outside
  · refine .inr ⟨place.start + offset, ?_, ranged, by omega⟩
    rw [range_place config geometry heap blocks h place sound member known]
    exact if_pos fits

theorem pool_reaches (pool : Pool) (h : Handle) (offset len start : Nat) (sound : (poolMap config).sound pool)
    (there : accessed ((poolMap config).range pool h) offset len = some start) :
    ∃ heap, pool.heap = some heap ∧ heap.payloadRange h offset len = .ok (.ok start) ∧
      start + len ≤ heap.arena.capacity := by
  cases opened : pool.heap with
  | none =>
      simp only [poolMap, opened, Option.bind_none, accessed] at there
      cases there
  | some heap =>
      obtain ⟨blocks, sound'⟩ := sound heap opened
      simp only [poolMap, opened, Option.bind_some] at there
      rcases heap_accessed config geometry heap blocks h offset len sound' with ⟨outside, _⟩ | ⟨other, inside, ranged, fits⟩
      · rw [outside] at there
        cases there
      · rw [inside] at there
        cases there
        exact ⟨heap, rfl, ranged, fits⟩

theorem pool_misses (pool : Pool) (heap : Heap) (h : Handle) (offset len : Nat) (sound : (poolMap config).sound pool)
    (opened : pool.heap = some heap) (missed : accessed ((poolMap config).range pool h) offset len = none) :
    ∃ e, heap.payloadRange h offset len = .ok (.error e) := by
  obtain ⟨blocks, sound'⟩ := sound heap opened
  simp only [poolMap, opened, Option.bind_some] at missed
  rcases heap_accessed config geometry heap blocks h offset len sound' with ⟨_, ranged⟩ | ⟨_, inside, _⟩
  · exact ranged
  · rw [inside] at missed
    cases missed

omit geometry in
theorem same_memory (pool pool' : Pool) (sound : (poolMap config).sound pool) (same : pool'.heap = pool.heap) :
    (poolMap config).Same pool pool' := by
  refine ⟨?_, ?_, ?_⟩
  · simpa only [poolMap, same] using sound
  · simp only [poolMap, same]
  · simp only [poolMap, same]

omit geometry in
theorem pool_refuses {α : Type} (pool : Pool) (step : Step Heap (Except AccessError α)) (sound : (poolMap config).sound pool)
    (refused : ∀ heap, pool.heap = some heap → ∃ e, step heap = .ok (.error e) heap) :
    ∃ e pool', Pool.onPayload step pool = .ok (.error e) pool' ∧ (poolMap config).Same pool pool' := by
  cases opened : pool.heap with
  | none =>
      obtain ⟨pool', ran, left⟩ := on_heap_absent (.error .uninitialized) step pool opened
      exact ⟨_, pool', ran, same_memory config pool pool' sound (left.trans opened.symm)⟩
  | some heap =>
      obtain ⟨e, refuses⟩ := refused heap opened
      obtain ⟨pool', ran, left⟩ := on_heap_ran (.error .uninitialized) _ step pool heap heap opened refuses
      exact ⟨e, pool', ran, same_memory config pool pool' sound (left.trans opened.symm)⟩

theorem pool_one_memory : OneMemory (poolMap config) := by
  refine ⟨fun pool h offset len start sound there => ?_, fun pool h offset len sound missed => ?_,
    fun pool h offset data start sound there => ?_, fun pool h offset data sound missed => ?_⟩
  · obtain ⟨heap, opened, ranged, fits⟩ := pool_reaches config geometry pool h offset len start sound there
    obtain ⟨found, sliced, same⟩ := slice_run heap.arena start len fits
    have reads : Heap.read h offset len heap = .ok (.ok found) heap :=
      (query_bind _ _ heap _ ranged).trans (query_bind (fun heap : Heap => heap.arena.slice start len) _ heap _ sliced)
    obtain ⟨pool', ran, left⟩ := on_heap_ran (.error .uninitialized) _ _ pool heap heap opened reads
    refine ⟨found, pool', ran, same_memory config pool pool' sound (left.trans opened.symm), ?_⟩
    rw [same, segment_bytes heap start len fits]
    simp only [poolMap, opened, Option.map_some, Option.getD_some]
  · refine pool_refuses config pool (Heap.read h offset len) sound fun heap opened => ?_
    obtain ⟨e, nowhere⟩ := pool_misses config geometry pool heap h offset len sound opened missed
    exact ⟨e, (query_bind _ _ heap _ nowhere).trans rfl⟩
  · obtain ⟨heap, opened, ranged, fits⟩ := pool_reaches config geometry pool h offset data.length start sound there
    have wrote := on_arena_ok heap _ () _ (write_run heap.arena start data fits)
    have writes : Heap.write h offset data heap = .ok (.ok ()) (written heap start data) :=
      (query_bind _ _ heap _ ranged).trans (step_bind_ok _ _ _ _ _ wrote)
    obtain ⟨pool', ran, left⟩ := on_heap_ran (.error .uninitialized) _ _ pool heap _ opened writes
    refine ⟨pool', ran, fun next opened' => ?_, ?_, ?_⟩
    · obtain ⟨blocks, sound'⟩ := sound heap opened
      cases left.symm.trans opened'
      exact ⟨blocks, written_sound config heap blocks start data sound'⟩
    · simp only [poolMap, left, opened, Option.map_some, Option.getD_some, written_bytes heap start data fits]
    · simp only [poolMap, left, opened, Option.bind_some]
      rfl
  · refine pool_refuses config pool (Heap.write h offset data) sound fun heap opened => ?_
    obtain ⟨e, nowhere⟩ := pool_misses config geometry pool heap h offset data.length sound opened missed
    exact ⟨e, (query_bind _ _ heap _ nowhere).trans rfl⟩

end Pools

end BlockPool
