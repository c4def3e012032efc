import BlockPool.Proofs.HeapSteps
import BlockPool.Proofs.RegistryRefinement
import BlockPool.Registry.Check

set_option autoImplicit false

namespace BlockPool

open Registry

theorem inspect_ok (r : Registry) (patrol : Patrol) (id : BlockId) (h : Header) (room : patrol.linked + 1 ≤ r.headers.size)
    (offset : h.offset = patrol.expected) (prev : h.prev = patrol.last.map Prod.fst)
    (apart : ∀ last ∈ patrol.last, (last.2.free && h.free) = false)
    (word : h.offset + r.headerOverhead + h.size < Word.bound) :
    r.inspect patrol (id, h) =
      pure ⟨patrol.linked + 1, h.offset + r.headerOverhead + h.size, some (id, h)⟩ := by
  have payload : Word.add h.offset r.headerOverhead = .ok (h.offset + r.headerOverhead) := word_add_ok _ _ (by omega)
  have stop : Word.add (h.offset + r.headerOverhead) h.size = .ok (h.offset + r.headerOverhead + h.size) := word_add_ok _ _ word
  obtain ⟨linked, expected, last⟩ := patrol
  simp only at room offset prev apart
  unfold Registry.inspect
  simp only [if_neg (Nat.not_lt.mpr room), offset, prev, ne_eq, not_true_eq_false, if_false]
  cases last with
  | none =>
      simp only
      rw [← offset, payload, check_lift_bind, stop, check_lift_bind]
  | some last =>
      have single := apart last rfl
      obtain ⟨other, ahead⟩ := last
      simp only at single ⊢
      rw [single, ← offset, payload]
      simp only [Bool.false_eq_true, if_false]
      rw [check_lift_bind, stop, check_lift_bind]

theorem inspect_entries (config : PoolConfig) (r : Registry) (overhead : r.headerOverhead = config.headerOverhead)
    (offset : Nat) (blocks : List LinkedSpan) (patrol : Patrol) (room : patrol.linked + blocks.length ≤ r.headers.size)
    (expected : patrol.expected = offset) (joined : (spansOf blocks).IsChain (Follows config))
    (ahead : ∀ last ∈ patrol.last, ∀ block ∈ blocks.head?, (last.2.free && block.2.free) = false)
    (word : offset + extent config.headerOverhead (spansOf blocks) < Word.bound) :
    ∃ final, (entries config.headerOverhead (patrol.last.map Prod.fst) offset blocks none).foldlM r.inspect
      patrol = pure final ∧
      final.linked = patrol.linked + blocks.length ∧
      final.expected = offset + extent config.headerOverhead (spansOf blocks) := by
  induction blocks generalizing offset patrol with
  | nil => exact ⟨patrol, rfl, rfl, expected⟩
  | cons block rest ih =>
      obtain ⟨id, span⟩ := block
      obtain ⟨next, tail⟩ := List.isChain_cons.mp joined
      simp only [List.length_cons, spans_of_cons, extent_cons] at room word
      have seen := inspect_ok r patrol id ⟨offset, span.size, span.free, patrol.last.map Prod.fst, firstId rest none⟩ (by omega)
        expected.symm rfl (fun last member => ahead last member _ rfl) (by simp only [overhead]; omega)
      simp only [overhead] at seen
      have apart : ∀ block ∈ rest.head?, (span.free && block.2.free) = false := by
        intro block inside
        cases rest with
        | nil => cases inside
        | cons second others =>
            cases inside
            exact (next block.2 rfl).2
      obtain ⟨final, walked, linked, reached⟩ := ih (offset + config.headerOverhead + span.size)
        ⟨patrol.linked + 1, offset + config.headerOverhead + span.size,
          some (id, ⟨offset, span.size, span.free, patrol.last.map Prod.fst, firstId rest none⟩)⟩
        (by simp only; omega) rfl tail (fun last member => Option.mem_some_iff.mp member ▸ apart) (by omega)
      simp only at linked
      refine ⟨final, ?_, ?_, ?_⟩
      · rw [entries, List.foldlM_cons, seen, ← Nat.add_assoc]
        exact walked
      · rw [linked, List.length_cons]
        omega
      · rw [reached]
        simp only [spans_of_cons, extent_cons]
        omega

theorem registry_check_ok (config : PoolConfig) (geometry : Geometry config) (r : Registry) (blocks : List LinkedSpan)
    (settled : Settled config r blocks) : r.check = pure () := by
  have charted := settled.charted
  have count := charted_count config r blocks charted
  have word := capacity_word config geometry
  obtain ⟨final, walked, linked, expected⟩ := inspect_entries config r charted.overhead 0 blocks {} (by simp only; omega) rfl
    settled.tiling.joined (fun last member => absurd member (by simp)) (by rw [charted.covers, Nat.zero_add]; exact word)
  rw [Nat.zero_add, charted.covers] at expected
  simp only [Nat.zero_add] at linked
  unfold Registry.check
  rw [charted_chain config r blocks charted]
  simp only
  rw [show entries config.headerOverhead none 0 blocks none =
    entries config.headerOverhead (Option.map Prod.fst (Patrol.last {})) 0 blocks none from rfl, walked]
  simp [Chain.finish, expected, charted.capacity, linked, count]

def freeSizes (spans : List Span) : List Nat := (spans.filter fun span => span.free).map Span.size

def usedSizes (spans : List Span) : List Nat := (spans.filter fun span => !span.free).map Span.size

theorem extent_sizes (overhead : Nat) (spans : List Span) :
    extent overhead spans = (usedSizes spans).sum + (freeSizes spans).sum + spans.length * overhead := by
  induction spans with
  | nil => simp [usedSizes, freeSizes]
  | cons span rest ih =>
      obtain ⟨size, free⟩ := span
      rw [extent_cons, ih, List.length_cons, Nat.succ_mul]
      cases free with
      | true =>
          simp only [usedSizes, freeSizes, List.filter_cons, Bool.not_true, Bool.false_eq_true, if_false, if_true, List.map_cons,
            List.sum_cons]
          omega
      | false =>
          simp only [usedSizes, freeSizes, List.filter_cons, Bool.not_false, Bool.false_eq_true, if_false, if_true, List.map_cons,
            List.sum_cons]
          omega

theorem used_sizes_length (overhead offset : Nat) (blocks : List LinkedSpan) :
    (usedSizes (spansOf blocks)).length = (places overhead offset blocks).length := by
  induction blocks generalizing offset with
  | nil => rfl
  | cons block rest ih =>
      obtain ⟨id, size, free⟩ := block
      cases free with
      | true => simpa [usedSizes] using ih (offset + (overhead + size))
      | false => simpa [usedSizes] using ih (offset + (overhead + size))

theorem largest_at_most_sum (sizes : List Nat) (start : Nat) : sizes.foldl max start ≤ start + sizes.sum := by
  induction sizes generalizing start with
  | nil => simp
  | cons size rest ih =>
      have later := ih (max start size)
      rw [List.foldl_cons, List.sum_cons]
      omega

def totalled (overhead : Nat) (u : PoolUsage) (spans : List Span) : PoolUsage where
  capacity := u.capacity
  blockCount := u.blockCount + spans.length
  freeBlockCount := u.freeBlockCount + (freeSizes spans).length
  allocatedBlockCount := u.allocatedBlockCount + (usedSizes spans).length
  usedBytes := u.usedBytes + (usedSizes spans).sum
  freeBytes := u.freeBytes + (freeSizes spans).sum
  headerBytes := u.headerBytes + spans.length * overhead
  largestFreeBlock := (freeSizes spans).foldl max u.largestFreeBlock

theorem totalled_append (overhead : Nat) (u : PoolUsage) (a b : List Span) :
    totalled overhead (totalled overhead u a) b = totalled overhead u (a ++ b) := by
  simp only [totalled, freeSizes, usedSizes, List.filter_append, List.map_append, List.length_append, List.sum_append,
    List.foldl_append, Nat.add_mul, Nat.add_assoc]

theorem totalled_bytes (overhead : Nat) (u : PoolUsage) (spans : List Span) :
    (totalled overhead u spans).usedBytes + (totalled overhead u spans).freeBytes + (totalled overhead u spans).headerBytes =
      u.usedBytes + u.freeBytes + u.headerBytes + extent overhead spans := by
  rw [extent_sizes]
  simp only [totalled]
  omega

theorem count_run (overhead : Nat) (u : PoolUsage) (id : BlockId) (h : Header) (blockCount : u.blockCount + 1 < Word.bound)
    (kinds : u.freeBlockCount + u.allocatedBlockCount ≤ u.blockCount)
    (bytes : u.usedBytes + u.freeBytes + u.headerBytes + (overhead + h.size) < Word.bound) :
    PoolUsage.count overhead u (id, h) = .ok (totalled overhead u [⟨h.size, h.free⟩]) := by
  unfold PoolUsage.count
  rw [word_add_ok u.blockCount 1 (by omega), word_add_ok u.headerBytes overhead (by omega)]
  cases free : h.free with
  | true =>
      simp only [bind, Except.bind, if_true]
      rw [word_add_ok u.freeBlockCount 1 (by omega)]
      simp only
      rw [word_add_ok u.freeBytes h.size (by omega)]
      simp [totalled, freeSizes, usedSizes, pure, Except.pure]
  | false =>
      simp only [bind, Except.bind, Bool.false_eq_true, if_false]
      rw [word_add_ok u.allocatedBlockCount 1 (by omega)]
      simp only
      rw [word_add_ok u.usedBytes h.size (by omega)]
      simp [totalled, freeSizes, usedSizes, pure, Except.pure]

theorem totalled_kinds (overhead : Nat) (u : PoolUsage) (spans : List Span)
    (kinds : u.freeBlockCount + u.allocatedBlockCount ≤ u.blockCount) :
    (totalled overhead u spans).freeBlockCount + (totalled overhead u spans).allocatedBlockCount ≤
      (totalled overhead u spans).blockCount := by
  have counted : (freeSizes spans).length + (usedSizes spans).length = spans.length := by
    simp only [freeSizes, usedSizes, List.length_map]
    exact List.length_eq_length_filter_add _ |>.symm
  simp only [totalled]
  omega

theorem count_entries (overhead : Nat) (prev after : Option BlockId) (offset : Nat) (blocks : List LinkedSpan) (u : PoolUsage)
    (blockCount : u.blockCount + blocks.length < Word.bound)
    (kinds : u.freeBlockCount + u.allocatedBlockCount ≤ u.blockCount)
    (bytes : u.usedBytes + u.freeBytes + u.headerBytes + extent overhead (spansOf blocks) < Word.bound) :
    (entries overhead prev offset blocks after).foldlM (PoolUsage.count overhead) u =
      .ok (totalled overhead u (spansOf blocks)) := by
  induction blocks generalizing prev offset u with
  | nil => simp [entries, totalled, freeSizes, usedSizes, pure, Except.pure]
  | cons block rest ih =>
      obtain ⟨id, span⟩ := block
      simp only [List.length_cons, spans_of_cons, extent_cons] at blockCount bytes
      have counted := count_run overhead u id ⟨offset, span.size, span.free, prev, firstId rest after⟩ (by omega) kinds
        (by simp only; omega)
      have total := totalled_bytes overhead u [span]
      rw [extent_cons, extent_nil] at total
      rw [entries, List.foldlM_cons, counted]
      refine (ih (some id) _ _ ?_ (totalled_kinds overhead u [span] kinds) ?_).trans ?_
      · simp only [totalled, List.length_singleton]
        omega
      · rw [total]
        omega
      · rw [totalled_append]
        rfl

def usageOf (config : PoolConfig) (spans : List Span) : PoolUsage :=
  totalled config.headerOverhead { capacity := config.capacity } spans

theorem charted_usage (config : PoolConfig) (geometry : Geometry config) (r : Registry) (blocks : List LinkedSpan)
    (charted : Charted config r blocks) (few : r.headers.size < UInt32.size) : r.usage = .ok (usageOf config (spansOf blocks)) := by
  have word := capacity_word config geometry
  have count := charted_count config r blocks charted
  have whole : r.chain.whole = .ok (entries config.headerOverhead none 0 blocks none) := by
    rw [charted_chain config r blocks charted]
    rfl
  unfold Registry.usage usageOf
  rw [whole, charted.capacity, charted.overhead]
  apply count_entries
  · simp only [UInt32.size, Word.bound, UInt64.size] at few ⊢
    omega
  · exact Nat.le_refl _
  · rw [charted.covers]
    simpa using word

theorem settled_usage (config : PoolConfig) (geometry : Geometry config) (r : Registry) (blocks : List LinkedSpan)
    (settled : Settled config r blocks) : r.usage = .ok (usageOf config (spansOf blocks)) :=
  charted_usage config geometry r blocks settled.charted (settled_few config geometry r blocks settled)

theorem live_used (config : PoolConfig) (heap : Heap) (blocks : List LinkedSpan) (sound : Sound config heap blocks) :
    heap.handles.live = (usedSizes (spansOf blocks)).length := by
  rw [sound.handles.counted, sound.owned.length_eq, List.length_map, ← used_sizes_length]

theorem locate_place (config : PoolConfig) (geometry : Geometry config) (heap : Heap) (blocks : List LinkedSpan) (h : Handle)
    (place : Place) (sound : Sound config heap blocks) (member : place ∈ places config.headerOverhead 0 blocks)
    (known : heap.resolve h = some place.id) :
    heap.locate h = .ok (some ⟨place.start - config.headerOverhead, place.start, place.size, false⟩) := by
  have payload := charted_payload config geometry heap.registry blocks sound.registry.charted place member
  obtain ⟨before, after, rfl, start⟩ := place_block _ _ _ _ member
  have header := charted_header config heap.registry before after place.id _ sound.registry.charted
  rw [Nat.zero_add] at start
  rw [start, Nat.add_sub_cancel, ← start]
  simp only [Heap.locate, known, payload, header, bind, Except.bind, pure, Except.pure]

theorem inspect_handles (heap : Heap) (ids seen : List BlockId) (distinct : (ids ++ seen).Nodup)
    (used : ∀ id ∈ ids, ∃ h, heap.registry.header id = .ok h ∧ h.free = false) :
    ∃ final, ids.foldlM heap.inspectHandle seen = pure final := by
  induction ids generalizing seen with
  | nil => exact ⟨seen, rfl⟩
  | cons id rest ih =>
      obtain ⟨h, read, busy⟩ := used id List.mem_cons_self
      obtain ⟨absent, tail⟩ := List.nodup_cons.mp distinct
      have unseen : seen.contains id = false := by
        rw [List.contains_eq_mem]
        exact decide_eq_false (fun member => absent (List.mem_append_right _ member))
      have inspected : heap.inspectHandle seen id = pure (id :: seen) := by
        unfold Heap.inspectHandle
        rw [read, check_lift_bind, busy, unseen]
        rfl
      obtain ⟨final, walked⟩ := ih (id :: seen) (List.perm_middle.nodup_iff.mpr distinct)
        (fun other member => used other (List.mem_cons_of_mem _ member))
      refine ⟨final, ?_⟩
      rw [List.foldlM_cons, inspected]
      exact walked

theorem sound_check (config : PoolConfig) (geometry : Geometry config) (heap : Heap) (blocks : List LinkedSpan)
    (sound : Sound config heap blocks) : heap.check.run = .ok (.ok ()) := by
  have charted := sound.registry.charted
  have distinct : heap.handles.liveBlocks.Nodup :=
    sound.owned.nodup_iff.mpr (charted_places_distinct config heap.registry blocks charted)
  have live : (usageOf config (spansOf blocks)).allocatedBlockCount = heap.handles.live :=
    (Nat.zero_add _).trans (live_used config heap blocks sound).symm
  obtain ⟨final, walked⟩ := inspect_handles heap heap.handles.liveBlocks [] (by simpa using distinct) (by
    intro id member
    obtain ⟨place, inside, rfl⟩ := List.mem_map.mp (sound.owned.mem_iff.mp member)
    obtain ⟨before, after, rfl, _⟩ := place_block _ _ _ _ inside
    exact ⟨_, charted_header config heap.registry before after place.id _ charted, rfl⟩)
  unfold Heap.check
  rw [registry_check_ok config geometry heap.registry blocks sound.registry,
    settled_usage config geometry heap.registry blocks sound.registry]
  have capacity : heap.arena.capacity = (usageOf config (spansOf blocks)).capacity := sound.arena
  simp only [pure_bind]
  rw [check_lift_bind, if_neg (not_not_intro capacity), if_neg (not_not_intro live), walked]
  rfl

end BlockPool
