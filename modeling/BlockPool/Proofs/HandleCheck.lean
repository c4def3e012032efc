import BlockPool.Proofs.ChainCheck
import BlockPool.Proofs.ReachedPools
import Mathlib.Data.List.Perm.Subperm

set_option autoImplicit false

namespace BlockPool

open Registry

def HandleTable.Names (t : HandleTable) (index : Nat) (id : BlockId) : Prop :=
  ∃ generation, t.slots[index]? = some ⟨generation, some id⟩

def usedIds (blocks : List (BlockId × Header)) : List BlockId := (blocks.filter fun block => !block.2.free).map Prod.fst

-- The occupied slots stand for the used blocks of the chain, one for one.
structure OneToOne (heap : Heap) : Prop where
  used : ∀ index id, heap.handles.Names index id → id ∈ usedIds heap.registry.chain.blocks
  named : ∀ id ∈ usedIds heap.registry.chain.blocks, ∃! index, heap.handles.Names index id

structure Vouched (heap : Heap) : Prop where
  apart : ∀ i j id, heap.handles.Names i id → heap.handles.Names j id → i = j
  busy : ∀ index id, heap.handles.Names index id → ∃ h, heap.registry.headers[id]? = some h ∧ h.free = false
  counted : (usedIds heap.registry.chain.blocks).length = heap.handles.live

-- What it takes on trust: that the counter is the number of occupied slots, and that a header marked used is on the chain.
structure Grounded (heap : Heap) : Prop where
  live : heap.handles.live = heap.handles.liveBlocks.length
  linked : ∀ index id, heap.handles.Names index id → id ∈ heap.registry.chain.blocks.map Prod.fst

theorem names_live (t : HandleTable) (id : BlockId) : id ∈ t.liveBlocks ↔ ∃ index, t.Names index id := by
  simp only [HandleTable.liveBlocks, HandleTable.Names, List.mem_filterMap, Array.mem_toList_iff, Array.mem_iff_getElem?]
  constructor
  · rintro ⟨⟨generation, _⟩, ⟨index, read⟩, rfl⟩
    exact ⟨index, generation, read⟩
  · rintro ⟨index, generation, read⟩
    exact ⟨_, ⟨index, read⟩, rfl⟩

theorem names_apart (t : HandleTable) (distinct : t.liveBlocks.Nodup) (i j : Nat) (id : BlockId)
    (first : t.Names i id) (second : t.Names j id) : i = j := by
  obtain ⟨_, read⟩ := first
  obtain ⟨_, read'⟩ := second
  exact occupied_once t.slots.toList distinct i j _ _ id (Array.getElem?_toList.trans read)
    (Array.getElem?_toList.trans read') rfl rfl

theorem used_id (blocks : List (BlockId × Header)) (id : BlockId) :
    id ∈ usedIds blocks ↔ ∃ h, (id, h) ∈ blocks ∧ h.free = false := by
  simp only [usedIds, List.mem_map, List.mem_filter, Bool.not_eq_true']
  constructor
  · rintro ⟨⟨_, h⟩, ⟨member, busy⟩, rfl⟩
    exact ⟨h, member, busy⟩
  · rintro ⟨h, member, busy⟩
    exact ⟨(id, h), ⟨member, busy⟩, rfl⟩

theorem walk_unique (headers : Array Header) (cursor : Option BlockId) (a b : List (BlockId × Header))
    (left : Walk headers cursor a) (right : Walk headers cursor b) : a = b := by
  induction left generalizing b with
  | ends =>
      cases right
      rfl
  | meets id h rest read walk ih =>
      cases right with
      | meets _ other rest' read' walk' =>
          cases read.symm.trans read'
          rw [ih rest' walk']

theorem walk_suffix (headers : Array Header) (cursor : Option BlockId) (before after : List (BlockId × Header))
    (block : BlockId × Header) (walk : Walk headers cursor (before ++ block :: after)) :
    Walk headers (some block.1) (block :: after) := by
  induction before generalizing cursor with
  | nil =>
      cases walk with
      | meets id h _ read walk => exact .meets id h after read walk
  | cons first rest ih =>
      cases walk with
      | meets id h _ read walk => exact ih h.next walk

-- From a block met before, the walk would go on for ever.
theorem walk_distinct (headers : Array Header) (cursor : Option BlockId) (blocks : List (BlockId × Header))
    (walk : Walk headers cursor blocks) : (blocks.map Prod.fst).Nodup := by
  induction walk with
  | ends => exact List.nodup_nil
  | meets id h rest read walk ih =>
      refine List.nodup_cons.mpr ⟨fun again => ?_, ih⟩
      obtain ⟨block, member, rfl⟩ := List.mem_map.mp again
      obtain ⟨before, after, rfl⟩ := List.append_of_mem member
      have later := walk_suffix headers _ before after block walk
      have same := congrArg List.length (walk_unique headers _ _ _ later (.meets block.1 h _ read walk))
      simp only [List.length_cons, List.length_append] at same
      omega

theorem count_used (overhead : Nat) (u next : PoolUsage) (block : BlockId × Header)
    (counted : PoolUsage.count overhead u block = .ok next) :
    next.allocatedBlockCount = u.allocatedBlockCount + (usedIds [block]).length := by
  unfold PoolUsage.count at counted
  obtain ⟨blockCount, _, counted⟩ := except_bind_ok _ _ _ counted
  obtain ⟨headerBytes, _, counted⟩ := except_bind_ok _ _ _ counted
  simp only at counted
  cases free : block.2.free with
  | true =>
      rw [free, if_pos rfl] at counted
      obtain ⟨freeBlockCount, _, counted⟩ := except_bind_ok _ _ _ counted
      obtain ⟨freeBytes, _, counted⟩ := except_bind_ok _ _ _ counted
      cases counted
      simp [usedIds, free]
  | false =>
      rw [free, if_neg Bool.false_ne_true] at counted
      obtain ⟨allocatedBlockCount, added, counted⟩ := except_bind_ok _ _ _ counted
      obtain ⟨usedBytes, _, counted⟩ := except_bind_ok _ _ _ counted
      cases counted
      simpa [usedIds, free] using (word_add_some _ _ _ added).2

theorem used_ids_cons (block : BlockId × Header) (rest : List (BlockId × Header)) :
    usedIds (block :: rest) = usedIds [block] ++ usedIds rest := by
  rw [usedIds, ← List.singleton_append, List.filter_append, List.map_append]
  rfl

theorem counts_used (overhead : Nat) (blocks : List (BlockId × Header)) (u final : PoolUsage)
    (counted : blocks.foldlM (PoolUsage.count overhead) u = .ok final) :
    final.allocatedBlockCount = u.allocatedBlockCount + (usedIds blocks).length := by
  induction blocks generalizing u with
  | nil =>
      cases counted
      rfl
  | cons block rest ih =>
      rw [List.foldlM_cons] at counted
      obtain ⟨next, here, later⟩ := except_bind_ok _ _ _ counted
      rw [ih next later, count_used overhead u next block here, used_ids_cons block rest, List.length_append, Nat.add_assoc]

theorem usage_counts (r : Registry) (usage : PoolUsage) (told : r.usage = .ok usage) :
    usage.allocatedBlockCount = (usedIds r.chain.blocks).length := by
  obtain ⟨blocks, walked, counted⟩ := except_bind_ok _ _ _ told
  obtain ⟨_, _, whole⟩ := except_bind_ok _ _ _ walked
  cases whole
  rw [counts_used _ _ _ _ counted, Nat.zero_add]

theorem inspect_handle_passed (heap : Heap) (seen next : List BlockId) (id : BlockId)
    (passed : (heap.inspectHandle seen id).run = .ok (.ok next)) :
    next = id :: seen ∧ id ∉ seen ∧ ∃ h, heap.registry.headers[id]? = some h ∧ h.free = false := by
  unfold Heap.inspectHandle at passed
  obtain ⟨h, lifted, rest⟩ := check_bind_passed _ _ _ passed
  have read := check_lift_passed _ _ lifted
  unfold Registry.header at read
  cases found : heap.registry.headers[id]? with
  | none =>
      rw [found] at read
      cases read
  | some other =>
      rw [found] at read
      cases read
      obtain ⟨busy, rest⟩ := check_guard_passed _ _ _ _ rest ⟨_, rfl⟩
      obtain ⟨unseen, rest⟩ := check_guard_passed _ _ _ _ rest ⟨_, rfl⟩
      cases rest
      exact ⟨rfl, fun member => unseen (List.contains_iff_mem.mpr member), h, rfl, eq_false_of_ne_true busy⟩

theorem handles_passed (heap : Heap) (ids seen final : List BlockId) (distinct : seen.Nodup)
    (passed : (ids.foldlM heap.inspectHandle seen).run = .ok (.ok final)) :
    (ids ++ seen).Nodup ∧ ∀ id ∈ ids, ∃ h, heap.registry.headers[id]? = some h ∧ h.free = false := by
  induction ids generalizing seen with
  | nil => exact ⟨distinct, fun id absent => absurd absent List.not_mem_nil⟩
  | cons id rest ih =>
      rw [List.foldlM_cons] at passed
      obtain ⟨next, here, later⟩ := check_bind_passed _ _ _ passed
      obtain ⟨rfl, unseen, used⟩ := inspect_handle_passed heap seen next id here
      obtain ⟨apart, others⟩ := ih (id :: seen) (List.nodup_cons.mpr ⟨unseen, distinct⟩) later
      exact ⟨List.perm_middle.nodup_iff.mp apart, List.forall_mem_cons.mpr ⟨used, others⟩⟩

theorem check_parts (heap : Heap) (passed : heap.check.run = .ok (.ok ())) :
    heap.registry.check.run = .ok (.ok ()) ∧ (usedIds heap.registry.chain.blocks).length = heap.handles.live ∧
      heap.handles.liveBlocks.Nodup ∧ ∀ id ∈ heap.handles.liveBlocks, ∃ h, heap.registry.headers[id]? = some h ∧
        h.free = false := by
  unfold Heap.check at passed
  obtain ⟨_, registry, passed⟩ := check_bind_passed _ _ _ passed
  obtain ⟨usage, lifted, passed⟩ := check_bind_passed _ _ _ passed
  have counts := usage_counts heap.registry usage (check_lift_passed _ _ lifted)
  obtain ⟨_, passed⟩ := check_guard_passed _ _ _ _ passed ⟨_, rfl⟩
  obtain ⟨matching, passed⟩ := check_guard_passed _ _ _ _ passed ⟨_, rfl⟩
  obtain ⟨final, walked, _⟩ := check_bind_passed _ _ _ passed
  obtain ⟨distinct, used⟩ := handles_passed heap _ [] final List.nodup_nil walked
  rw [List.append_nil] at distinct
  exact ⟨registry, counts.symm.trans (not_not.mp matching), distinct, used⟩

theorem one_to_one_perm (heap : Heap) (distinct : (usedIds heap.registry.chain.blocks).Nodup)
    (apart : heap.handles.liveBlocks.Nodup) :
    OneToOne heap ↔ heap.handles.liveBlocks.Perm (usedIds heap.registry.chain.blocks) := by
  rw [List.perm_ext_iff_of_nodup apart distinct]
  constructor
  · intro matched id
    rw [names_live]
    constructor
    · rintro ⟨index, named⟩
      exact matched.used index id named
    · exact fun used => (matched.named id used).exists
  · intro same
    refine ⟨fun index id named => (same id).mp ((names_live _ id).mpr ⟨index, named⟩), fun id used => ?_⟩
    obtain ⟨index, named⟩ := (names_live _ id).mp ((same id).mpr used)
    exact ⟨index, named, fun other again => names_apart heap.handles apart other index id again named⟩

-- The counter of the live handles, and handles off the chain, are the two things the check does not look at.
theorem check_vouches (heap : Heap) (passed : heap.check.run = .ok (.ok ())) :
    Vouched heap ∧ (OneToOne heap ↔ Grounded heap) := by
  obtain ⟨registry, counted, apart, busy⟩ := check_parts heap passed
  obtain ⟨blocks, coherent, _⟩ := (check_passes_iff heap.registry).mp registry
  have chain : heap.registry.chain.blocks = blocks := by rw [coherent_chain heap.registry blocks coherent]
  have ids := walk_distinct _ _ blocks coherent.walk
  have reads := walk_reads _ _ blocks coherent.walk
  rw [← chain] at ids reads
  have distinct : (usedIds heap.registry.chain.blocks).Nodup := (List.filter_sublist.map Prod.fst).nodup ids
  refine ⟨⟨names_apart heap.handles apart, fun index id named => busy id ((names_live _ id).mpr ⟨index, named⟩),
    counted⟩, ?_⟩
  rw [one_to_one_perm heap distinct apart]
  constructor
  · intro matched
    refine ⟨counted.symm.trans matched.length_eq.symm, fun index id named => ?_⟩
    obtain ⟨h, member, _⟩ := (used_id _ id).mp (matched.mem_iff.mp ((names_live _ id).mpr ⟨index, named⟩))
    exact List.mem_map_of_mem member
  · rintro ⟨live, linked⟩
    -- a block on the chain is the header its id names, so a named one is used
    have within : heap.handles.liveBlocks ⊆ usedIds heap.registry.chain.blocks := by
      intro id member
      obtain ⟨index, named⟩ := (names_live _ id).mp member
      obtain ⟨⟨_, h⟩, met, rfl⟩ := List.mem_map.mp (linked index id named)
      obtain ⟨other, read, used⟩ := busy _ member
      cases (reads _ met).symm.trans read
      exact (used_id _ _).mpr ⟨h, met, used⟩
    exact (apart.subperm within).perm_of_length_le (by omega)

theorem used_entries (overhead : Nat) (prev after : Option BlockId) (offset : Nat) (blocks : List LinkedSpan) :
    usedIds (entries overhead prev offset blocks after) = (places overhead offset blocks).map Place.id := by
  induction blocks generalizing prev offset with
  | nil => rfl
  | cons block rest ih =>
      obtain ⟨id, size, free⟩ := block
      rw [entries, used_ids_cons, ih]
      cases free <;> rfl

theorem reached_one_to_one {α : Type} (config : PoolConfig) (valid : config.Valid) (counter : PoolCounter) :
    ∃ pool next, Pool.init config counter = .ok (.ok pool) next ∧
      ∀ (requests : List (PoolRequest α)) (heap : Heap), (afterRequests requests pool).heap = some heap →
        heap.check.run = .ok (.ok ()) ∧ OneToOne heap := by
  have geometry := valid_geometry config valid
  obtain ⟨pool, next, made, reached⟩ := @init_reaches α config valid counter
  refine ⟨pool, next, made, fun requests heap opened => ?_⟩
  obtain ⟨⟨blocks, sound⟩, _⟩ := reached requests heap opened
  have charted := sound.registry.charted
  have used : usedIds heap.registry.chain.blocks = (places config.headerOverhead 0 blocks).map Place.id := by
    rw [charted_chain config heap.registry blocks charted, used_entries]
  have distinct := charted_places_distinct config heap.registry blocks charted
  refine ⟨sound_check config geometry heap blocks sound, ?_⟩
  exact (one_to_one_perm heap (used ▸ distinct) (sound.owned.nodup_iff.mpr distinct)).mpr (used ▸ sound.owned)

-- 64 or 128 bytes with a used block of eight ahead of a free one, and one slot that counts as live.
def shortHeap (capacity : Nat) (vacant : List BlockId) (rest : List Header) (named : Option BlockId) : Heap where
  config := ⟨capacity, 16, 8, .bestFit, false⟩
  arena := .zeroed capacity
  registry := ⟨⟨⟨0, 8, false, none, some 1⟩ :: ⟨24, capacity - 40, true, some 0, none⟩ :: rest⟩, vacant,
    capacity, 16, .bestFit⟩
  handles := ⟨⟨1⟩, #[⟨0, named⟩], [], 1⟩
  metrics := {}

theorem check_vouches_first_block :
    (shortHeap 64 [] [] (some 0)).check.run = .ok (.ok ()) ∧ Vouched (shortHeap 64 [] [] (some 0)) ∧
    OneToOne (shortHeap 64 [] [] (some 0)) := by
  have passed : (shortHeap 64 [] [] (some 0)).check.run = .ok (.ok ()) := by rfl
  have grounded : Grounded (shortHeap 64 [] [] (some 0)) := by
    refine ⟨rfl, fun index id named => ?_⟩
    have live : id ∈ (shortHeap 64 [] [] (some 0)).handles.liveBlocks := (names_live _ id).mpr ⟨index, named⟩
    cases List.mem_singleton.mp live
    decide
  exact ⟨passed, (check_vouches _ passed).1, (check_vouches _ passed).2.mpr grounded⟩

-- Any heap, as long as ids name headers and sums stay in range.
structure Inside (heap : Heap) : Prop where
  registry : Addressed heap.registry
  prevs : ∀ h ∈ heap.registry.headers, ∀ prev ∈ h.prev, prev < heap.registry.headers.size
  vacant : ∀ id ∈ heap.registry.vacant, id < heap.registry.headers.size
  named : ∀ id ∈ heap.handles.liveBlocks, id < heap.registry.headers.size

-- Once the used block has no slot, and once the slot stands for a header off the chain that is marked used.
theorem check_misses_handles :
    (Inside (shortHeap 64 [] [] none) ∧ (shortHeap 64 [] [] none).check.run = .ok (.ok ()) ∧
      ¬ OneToOne (shortHeap 64 [] [] none)) ∧
      Inside (shortHeap 128 [2] [⟨48, 64, false, none, none⟩] (some 2)) ∧
      (shortHeap 128 [2] [⟨48, 64, false, none, none⟩] (some 2)).check.run = .ok (.ok ()) ∧
      ¬ OneToOne (shortHeap 128 [2] [⟨48, 64, false, none, none⟩] (some 2)) := by
  refine ⟨⟨⟨⟨by decide, ?_, ?_⟩, ?_, by decide, by decide⟩, by rfl, fun matched => ?unnamed⟩,
    ⟨⟨by decide, ?_, ?_⟩, ?_, by decide, by decide⟩, by rfl, fun matched => ?unlinked⟩
  case unnamed =>
    obtain ⟨index, named, _⟩ := matched.named 0 (by decide)
    have live := (names_live _ 0).mpr ⟨index, named⟩
    exact absurd live List.not_mem_nil
  case unlinked =>
    have used := matched.used 0 2 ⟨0, rfl⟩
    exact absurd used (by decide)
  all_goals simp [shortHeap, Word.bound, UInt64.size]

end BlockPool
