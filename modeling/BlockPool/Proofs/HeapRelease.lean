import BlockPool.Proofs.HeapSteps

set_option autoImplicit false

namespace BlockPool

open Heap

theorem absorb_span_length (overhead size : Nat) (neighbours : List Span) :
    neighbours.length = (absorbSpan overhead size neighbours).2.1 + (absorbSpan overhead size neighbours).2.2.length := by
  rcases absorb_span_cases overhead size neighbours with ⟨more, rest, rfl, absorbed⟩ | ⟨_, absorbed⟩
  · rw [absorbed, List.length_cons, Nat.add_comm]
  · rw [absorbed, Nat.zero_add]

theorem release_span_length (overhead size : Nat) (before after : List Span) (merged : SpanMerge)
    (released : releaseSpan overhead before.length (before ++ ⟨size, false⟩ :: after) = some merged) :
    (before ++ (⟨size, false⟩ : Span) :: after).length = merged.spans.length + merged.merges := by
  rw [release_span_used] at released
  cases released
  have behind := absorb_span_length overhead size after
  have ahead := absorb_span_length overhead (absorbSpan overhead size after).1 before.reverse
  rw [List.length_reverse] at ahead
  simp only [List.length_append, List.length_cons, List.length_reverse]
  omega

-- All that freeing does with the block `id` between `before` and `after`.
structure Freed (config : PoolConfig) (heap : Heap) (h : Handle) (before after ahead behind : List LinkedSpan)
    (id survivor : BlockId) (size whole merges : Nat) (next : Heap) : Prop where
  resolved : heap.resolve h = some id
  ran : Heap.free (some h) heap = .ok () next
  handles : next.handles = vacate heap.handles h
  arena : next.arena = heap.arena
  metrics : next.metrics = heap.metrics.released merges
  released : releaseSpan config.headerOverhead before.length (spansOf (before ++ (id, ⟨size, false⟩) :: after)) =
    some ⟨ahead.length, merges, spansOf (ahead ++ (survivor, ⟨whole, true⟩) :: behind)⟩
  aheadShape : (before = ahead ∧ survivor = id) ∨ ∃ less, before = ahead ++ [(survivor, ⟨less, true⟩)]
  behindShape : after = behind ∨ ∃ taken more, after = (taken, ⟨more, true⟩) :: behind
  sound : Sound config next (ahead ++ (survivor, ⟨whole, true⟩) :: behind)

theorem free_full (heap : Heap) (h : Option Handle) (full : Word.bound ≤ heap.metrics.freeCalls + 1) :
    Heap.free h heap = .error .overflow heap := by
  unfold Heap.free
  exact step_bind_error _ _ _ _ _ (tally_full heap (·.freeCalls) (fun m n => { m with freeCalls := n }) 1 full)

theorem surrender_none (heap : Heap) (h : Option Handle) (unknown : h.bind heap.resolve = none) :
    surrender h heap = .ok none heap := by
  cases h with
  | none => rfl
  | some h => exact on_handles_ok heap _ none heap.handles (remove_none heap.handles h unknown)

theorem free_ignored (config : PoolConfig) (heap : Heap) (blocks : List LinkedSpan) (h : Option Handle)
    (sound : Sound config heap blocks) (room : heap.metrics.freeCalls + 1 < Word.bound) (unknown : h.bind heap.resolve = none) :
    Heap.free h heap = .ok () { heap with metrics := heap.metrics.ignoring } := by
  have ignored : heap.metrics.ignoredFrees + 1 < Word.bound := by
    have fewer := sound.tallied.ignored
    omega
  unfold Heap.free
  refine Eq.trans (step_bind_ok _ _ _ _ _ (tally_ok heap (·.freeCalls) (fun m n => { m with freeCalls := n }) 1 room)) ?_
  refine Eq.trans (step_bind_ok _ _ _ _ _ (surrender_none _ h unknown)) ?_
  exact tally_ok _ (·.ignoredFrees) (fun m n => { m with ignoredFrees := n }) 1 ignored

theorem freed_owned (config : PoolConfig) (before after ahead behind : List LinkedSpan) (id survivor : BlockId)
    (size whole : Nat) (live : List BlockId)
    (aheadShape : (before = ahead ∧ survivor = id) ∨ ∃ less, before = ahead ++ [(survivor, ⟨less, true⟩)])
    (behindShape : after = behind ∨ ∃ taken more, after = (taken, ⟨more, true⟩) :: behind)
    (covers : extent config.headerOverhead (spansOf (before ++ (id, ⟨size, false⟩) :: after)) =
      extent config.headerOverhead (spansOf (ahead ++ (survivor, ⟨whole, true⟩) :: behind)))
    (owned : (id :: live).Perm
      ((places config.headerOverhead 0 (before ++ (id, ⟨size, false⟩) :: after)).map Place.id)) :
    live.Perm ((places config.headerOverhead 0 (ahead ++ (survivor, ⟨whole, true⟩) :: behind)).map Place.id) := by
  obtain ⟨earlier, later, old, new⟩ :=
    places_merge config before ahead after behind id survivor size whole aheadShape behindShape covers
  rw [old] at owned
  rw [new]
  simp only [List.map_append, List.map_cons] at owned ⊢
  exact (owned.trans List.perm_middle).cons_inv

theorem freed_places (config : PoolConfig) (heap next : Heap) (h : Handle) (before after ahead behind : List LinkedSpan)
    (id survivor : BlockId) (size whole merges : Nat) (sound : Sound config heap (before ++ (id, ⟨size, false⟩) :: after))
    (freed : Freed config heap h before after ahead behind id survivor size whole merges next) :
    places config.headerOverhead 0 (ahead ++ (survivor, ⟨whole, true⟩) :: behind) =
      (places config.headerOverhead 0 (before ++ (id, ⟨size, false⟩) :: after)).filter fun place => place.id ≠ id := by
  have distinct := charted_places_distinct config heap.registry _ sound.registry.charted
  obtain ⟨earlier, later, old, new⟩ := places_merge config before ahead after behind id survivor size whole freed.aheadShape
    freed.behindShape (by rw [sound.registry.charted.covers, freed.sound.registry.charted.covers])
  rw [old, List.map_append, List.map_cons] at distinct
  have absent := (List.nodup_cons.mp (List.perm_middle.nodup_iff.mp distinct)).1
  have others (part : List Place) (inside : ∀ place ∈ part, place ∈ earlier ++ later) :
      (part.filter fun place => place.id ≠ id) = part := by
    refine List.filter_eq_self.mpr fun place member => decide_eq_true fun same => absent ?_
    rw [← List.map_append]
    exact List.mem_map.mpr ⟨place, inside place member, same⟩
  rw [new, old, List.filter_append, List.filter_cons_of_neg (by simp)]
  rw [others earlier fun place member => List.mem_append_left _ member,
    others later fun place member => List.mem_append_right _ member]

theorem freed_answers (config : PoolConfig) (heap next : Heap) (h : Handle) (before after ahead behind : List LinkedSpan)
    (id survivor : BlockId) (size whole merges : Nat)
    (freed : Freed config heap h before after ahead behind id survivor size whole merges next) (k : Handle) :
    next.resolve k = if k = h then none else heap.resolve k := by
  rw [Heap.resolve, freed.handles]
  exact vacate_get heap.handles h k id freed.resolved

-- No invariant is asked for: a release that is answered never stops at what is expected of it.
theorem survivor_expected (heap : Heap) (r : Registry) (id : BlockId) (coalesce : Coalesce)
    (ran : Registry.release id r = .ok (some coalesce) heap.registry) : heap.expectFree coalesce.survivor = .ok () := by
  obtain ⟨h, read, free⟩ := release_leaves_free r heap.registry id coalesce ran
  simp only [Heap.expectFree, Registry.header, read]
  exact if_pos free

theorem free_live (config : PoolConfig) (geometry : Geometry config) (heap : Heap) (blocks : List LinkedSpan) (h : Handle)
    (id : BlockId) (sound : Sound config heap blocks) (room : heap.metrics.freeCalls + 1 < Word.bound)
    (known : heap.resolve h = some id) :
    ∃ before after ahead behind survivor size whole merges next, blocks = before ++ (id, ⟨size, false⟩) :: after ∧
      Freed config heap h before after ahead behind id survivor size whole merges next := by
  obtain ⟨place, member, rfl⟩ := sound_resolves config heap blocks h id sound known
  obtain ⟨before, after, rfl, _⟩ := place_block _ _ _ _ member
  obtain ⟨ahead, survivor, whole, behind, merges, registry, ran, settled, released, aheadShape, behindShape⟩ :=
    release_settled config geometry heap.registry before after place.id place.size sound.registry
  obtain ⟨orderly, owned⟩ := vacate_orderly heap.handles h place.id known sound.handles
  have length := release_span_length config.headerOverhead place.size (spansOf before) (spansOf after)
    ⟨ahead.length, merges, spansOf (ahead ++ (survivor, ⟨whole, true⟩) :: behind)⟩
    (by rw [spans_of_length, ← released, spans_of_append, spans_of_cons])
  rw [← spans_of_cons (place.id, ⟨place.size, false⟩), ← spans_of_append, spans_of_length, spans_of_length] at length
  have positive : 1 ≤ heap.handles.live := by
    rw [sound.handles.counted, owned.length_eq]
    exact Nat.le_add_left 1 _
  -- a merge takes away a block that a split made
  have counted : heap.metrics.merges + merges < Word.bound := by
    have balance := sound.tallied.blockCount
    have splits := sound.tallied.splits
    have calls := sound.tallied.calls.1
    simp only [List.length_append, List.length_cons] at length balance
    omega
  have covers : extent config.headerOverhead (spansOf (before ++ (place.id, ⟨place.size, false⟩) :: after)) =
      extent config.headerOverhead (spansOf (ahead ++ (survivor, ⟨whole, true⟩) :: behind)) := by
    rw [sound.registry.charted.covers, settled.charted.covers]
  refine ⟨before, after, ahead, behind, survivor, place.size, whole, merges,
    ⟨heap.config, heap.arena, registry, vacate heap.handles h, heap.metrics.released merges⟩, rfl,
    known, ?_, rfl, rfl, rfl, released, aheadShape, behindShape, sound.configured, sound.arena, settled, orderly, ?_, ?_⟩
  · have removed := on_handles_ok { heap with metrics := { heap.metrics with freeCalls := heap.metrics.freeCalls + 1 } } _ _ _
      (remove_some heap.handles h place.id known positive)
    unfold Heap.free
    refine Eq.trans (step_bind_ok _ _ _ _ _ (tally_ok heap (·.freeCalls) (fun m n => { m with freeCalls := n }) 1 room)) ?_
    refine Eq.trans (step_bind_ok _ _ _ _ _ removed) ?_
    refine Eq.trans (step_bind_ok _ _ _ _ _ (on_registry_ok _ _ _ registry ran)) ?_
    refine Eq.trans (query_bind _ _ _ () (survivor_expected _ heap.registry place.id ⟨survivor, merges⟩ ran)) ?_
    exact tally_ok _ (·.merges) (fun m n => { m with merges := n }) merges counted
  · exact freed_owned config before after ahead behind place.id survivor place.size whole _ aheadShape behindShape covers
      (owned.symm.trans sound.owned)
  · have tallied := sound.tallied
    rw [length] at tallied
    have before' : heap.handles.live = (vacate heap.handles h).live + 1 := (Nat.sub_add_cancel positive).symm
    exact released_tallied heap.metrics _ _ merges (before' ▸ tallied) room

theorem free_cases (config : PoolConfig) (geometry : Geometry config) (heap : Heap) (blocks : List LinkedSpan) (h : Option Handle)
    (sound : Sound config heap blocks) :
    (Word.bound ≤ heap.metrics.freeCalls + 1 ∧ Heap.free h heap = .error .overflow heap) ∨
    (h.bind heap.resolve = none ∧ Heap.free h heap = .ok () { heap with metrics := heap.metrics.ignoring } ∧
      Sound config { heap with metrics := heap.metrics.ignoring } blocks) ∨
    ∃ handle before after ahead behind id survivor size whole merges next, h = some handle ∧
      blocks = before ++ (id, ⟨size, false⟩) :: after ∧
      Freed config heap handle before after ahead behind id survivor size whole merges next := by
  by_cases full : Word.bound ≤ heap.metrics.freeCalls + 1
  · exact .inl ⟨full, free_full heap h full⟩
  · have room : heap.metrics.freeCalls + 1 < Word.bound := Nat.lt_of_not_le full
    cases known : h.bind heap.resolve with
    | none =>
        refine .inr (.inl ⟨rfl, free_ignored config heap blocks h sound room known, ?_⟩)
        exact sound_metrics config heap blocks _ sound (ignoring_tallied _ _ _ sound.tallied room)
    | some id =>
        obtain ⟨handle, rfl, resolved⟩ := Option.bind_eq_some_iff.mp known
        obtain ⟨before, after, ahead, behind, survivor, size, whole, merges, next, shape, freed⟩ :=
          free_live config geometry heap blocks handle id sound room resolved
        exact .inr (.inr ⟨handle, before, after, ahead, behind, id, survivor, size, whole, merges, next, rfl, shape, freed⟩)

end BlockPool
