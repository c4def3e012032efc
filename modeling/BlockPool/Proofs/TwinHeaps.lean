import BlockPool.Proofs.NodeSlots
import BlockPool.Proofs.SlotGrowth

set_option autoImplicit false

namespace BlockPool

open Heap

-- A heap that is filled by `n` nodes, in which all blocks that were handed out are nodes.
def NodeHeap (n : Nat) (heap : Heap) : Prop :=
  ∃ config blocks, Geometry config ∧ RoomForNodes config n ∧ Sound config heap blocks ∧ Slotted config (spansOf blocks)

-- What the next handles of a table depend on; which blocks they name does not matter.
def HandleTable.generations (t : HandleTable) : List UInt32 := t.slots.toList.map Slot.generation

structure SameIssue (t t' : HandleTable) : Prop where
  pool : t'.pool = t.pool
  generations : t'.generations = t.generations
  vacated : t'.vacated = t.vacated
  live : t'.live = t.live

-- Two heaps of nodes that nobody can tell apart by the calls that lists make, however differently the nodes lie in them.
structure Twins (n : Nat) (roomy : Prop) (a b : Heap) : Prop where
  nodes : NodeHeap n a
  nodes' : NodeHeap n b
  issue : SameIssue a.handles b.handles
  contents : contents b = contents a
  allocs : b.metrics.allocCalls = a.metrics.allocCalls
  frees : b.metrics.freeCalls = a.metrics.freeCalls
  room : roomy → a.handles.slots.size < UInt32.size

-- A step that ends for two states in the same outcome. If it is not stopped, it leaves the states related once more.
def Matched {σ α : Type} (before after : σ → σ → Prop) (step : Step σ α) : Prop :=
  ∀ s t, before s t →
    (∃ value s' t', step s = .ok value s' ∧ step t = .ok value t' ∧ after s' t') ∨
    ∃ reason s' t', step s = .error reason s' ∧ step t = .error reason t'

theorem same_issue_size (t t' : HandleTable) (same : SameIssue t t') : t'.slots.size = t.slots.size := by
  have length := congrArg List.length same.generations
  simpa only [HandleTable.generations, List.length_map, Array.length_toList] using length

theorem generation_set (slots : Array Slot) (index : Nat) (slot : Slot) :
    (slots.setIfInBounds index slot).toList.map Slot.generation = (slots.toList.map Slot.generation).set index slot.generation := by
  rw [Array.toList_setIfInBounds, List.map_set]

theorem generation_read (t : HandleTable) (index : Nat) (slot : Slot) (read : t.slots[index]? = some slot) :
    t.generations[index]? = some slot.generation := by
  rw [HandleTable.generations, List.getElem?_map, Array.getElem?_toList, read, Option.map_some]

theorem insert_same (t t' : HandleTable) (block block' : BlockId) (h h' : Handle) (next next' : HandleTable) (orderly : Orderly t)
    (orderly' : Orderly t') (few : t.live + 1 < Word.bound) (same : SameIssue t t') (ran : HandleTable.insert block t = .ok h next)
    (ran' : HandleTable.insert block' t' = .ok h' next') : h' = h ∧ SameIssue next next' := by
  have few' : t'.live + 1 < Word.bound := by rwa [same.live]
  have size := same_issue_size t t' same
  cases insert_cases t block orderly few with
  | inl recycled =>
      obtain ⟨index, rest, generation, vacated, read, issued⟩ := recycled
      rw [issued] at ran
      cases ran
      obtain ⟨index', rest', generation', vacated', read', issued'⟩ | ⟨none, _⟩ := insert_cases t' block' orderly' few'
      · rw [issued'] at ran'
        cases ran'
        rw [same.vacated, vacated] at vacated'
        cases vacated'
        have old := generation_read t' _ _ read'
        rw [same.generations, generation_read t _ _ read] at old
        cases old
        have generations := same.generations
        simp only [HandleTable.generations] at generations
        exact ⟨by rw [same.pool], same.pool, by simp only [HandleTable.generations, generation_set, generations],
          rfl, by rw [same.live]⟩
      · rw [same.vacated, vacated] at none
        cases none
  | inr grown =>
      obtain ⟨vacated, issued⟩ := grown
      rw [issued] at ran
      cases ran
      obtain ⟨index', rest', generation', vacated', _⟩ | ⟨_, issued'⟩ := insert_cases t' block' orderly' few'
      · rw [same.vacated, vacated] at vacated'
        cases vacated'
      · rw [issued'] at ran'
        cases ran'
        have generations := same.generations
        simp only [HandleTable.generations] at generations
        exact ⟨by rw [same.pool, size], same.pool, by simp [HandleTable.generations, generations], rfl, by rw [same.live]⟩

theorem vacate_same (t t' : HandleTable) (h : Handle) (same : SameIssue t t') : SameIssue (vacate t h) (vacate t' h) := by
  have generations := same.generations
  simp only [HandleTable.generations] at generations
  exact ⟨same.pool, by simp only [HandleTable.generations, vacate, generation_set,
    generations], by simp only [vacate, same.vacated],
    by simp only [vacate, same.live]⟩

def blankNode : List UInt8 := List.replicate Node.encodedLength 0

theorem node_heap_live (n : Nat) (heap : Heap) (nodes : NodeHeap n heap) : heap.handles.live ≤ n := by
  obtain ⟨config, blocks, _, fits, sound, slotted⟩ := nodes
  exact live_at_most config n fits heap blocks sound slotted

inductive NodeAllocated (n : Nat) (heap : Heap) : EStateM.Result Abort Heap (Option Handle) → Prop where
  | uncounted (full : Word.bound ≤ heap.metrics.allocCalls + 1) : NodeAllocated n heap (.error .overflow heap)
  | refused (next : Heap) (room : heap.metrics.allocCalls + 1 < Word.bound) (full : n ≤ heap.handles.live)
      (nodes : NodeHeap n next)
      (handles : next.handles = heap.handles) (same : contents next = contents heap)
      (allocs : next.metrics.allocCalls = heap.metrics.allocCalls + 1) (frees : next.metrics.freeCalls = heap.metrics.freeCalls) :
      NodeAllocated n heap (.ok none next)
  | granted (h : Handle) (id : BlockId) (next : Heap) (room : heap.metrics.allocCalls + 1 < Word.bound)
      (free : heap.handles.live < n)
      (nodes : NodeHeap n next) (issued : HandleTable.insert id heap.handles = .ok h next.handles)
      (fresh : contents next = (contents heap).put h (some blankNode))
      (allocs : next.metrics.allocCalls = heap.metrics.allocCalls + 1) (frees : next.metrics.freeCalls = heap.metrics.freeCalls) :
      NodeAllocated n heap (.ok (some h) next)

theorem node_alloc_cases (n : Nat) (heap : Heap) (nodes : NodeHeap n heap) (room : heap.handles.slots.size < UInt32.size) :
    NodeAllocated n heap (Heap.alloc Node.encodedLength heap) := by
  obtain ⟨config, blocks, geometry, fits, sound, slotted⟩ := nodes
  have unserved := node_unserved config n fits heap blocks sound slotted
  by_cases full : Word.bound ≤ heap.metrics.allocCalls + 1
  · rw [alloc_stopped heap Node.encodedLength .overflow (alloc_block_full heap _ full)]
    exact .uncounted full
  · have counts : heap.metrics.allocCalls + 1 < Word.bound := Nat.lt_of_not_le full
    by_cases filled : n ≤ heap.handles.live
    · rw [alloc_ran heap _ _ none (alloc_block_unserved config geometry heap blocks _ sound counts (unserved.mpr filled))]
      have kept := sound_metrics config heap blocks _ sound (refused_tallied _ _ _ Node.encodedLength sound.tallied counts)
      exact .refused _ counts filled ⟨config, blocks, geometry, fits, kept, slotted⟩ rfl rfl rfl rfl
    · obtain ⟨before, id, whole, after, created, h, next, rfl, served⟩ :=
        alloc_block_served config geometry heap blocks Node.encodedLength sound counts fun refused => filled (unserved.mp refused)
      rw [alloc_ran heap next _ _ served.ran]
      have positive : 0 < whole := sound.registry.tiling.positive ⟨whole, true⟩ (by simp)
      have slotted' := taken_slotted config n fits whole before after id created slotted positive
      obtain ⟨_, bytes, _, cleared, same⟩ :=
        served_contents config geometry heap next _ whole before after id created h sound served room
      have length := node_length config geometry next _ h bytes served.sound slotted' (by rw [same, put_same])
      have blank : bytes = blankNode := List.eq_replicate_iff.mpr ⟨length, cleared fits.zeroed⟩
      rw [blank] at same
      exact .granted h id next counts (Nat.lt_of_not_le filled) ⟨config, _, geometry, fits, served.sound, slotted'⟩
        served.issued same
        (by rw [served.metrics]; rfl) (by rw [served.metrics]; rfl)

inductive NodeFreed (n : Nat) (heap : Heap) (h : Handle) : EStateM.Result Abort Heap Unit → Prop where
  | uncounted (full : Word.bound ≤ heap.metrics.freeCalls + 1) : NodeFreed n heap h (.error .overflow heap)
  | ignored (next : Heap) (room : heap.metrics.freeCalls + 1 < Word.bound) (unknown : contents heap h = none)
      (nodes : NodeHeap n next)
      (handles : next.handles = heap.handles) (same : contents next = contents heap)
      (allocs : next.metrics.allocCalls = heap.metrics.allocCalls) (frees : next.metrics.freeCalls = heap.metrics.freeCalls + 1) :
      NodeFreed n heap h (.ok () next)
  | released (next : Heap) (bytes : List UInt8) (room : heap.metrics.freeCalls + 1 < Word.bound)
      (held : contents heap h = some bytes)
      (nodes : NodeHeap n next) (handles : next.handles = vacate heap.handles h) (gone : contents next = (contents heap).put h none)
      (allocs : next.metrics.allocCalls = heap.metrics.allocCalls) (frees : next.metrics.freeCalls = heap.metrics.freeCalls + 1) :
      NodeFreed n heap h (.ok () next)

theorem node_free_cases (n : Nat) (heap : Heap) (h : Handle) (nodes : NodeHeap n heap) :
    NodeFreed n heap h (Heap.free (some h) heap) := by
  obtain ⟨config, blocks, geometry, fits, sound, slotted⟩ := nodes
  by_cases full : Word.bound ≤ heap.metrics.freeCalls + 1
  · rw [free_full heap (some h) full]
    exact .uncounted full
  · have room : heap.metrics.freeCalls + 1 < Word.bound := Nat.lt_of_not_le full
    cases known : heap.resolve h with
    | none =>
        rw [free_ignored config heap blocks (some h) sound room known]
        have kept := sound_metrics config heap blocks _ sound (ignoring_tallied _ _ _ sound.tallied room)
        exact .ignored _ room (contents_none heap h known) ⟨config, blocks, geometry, fits, kept, slotted⟩ rfl rfl rfl rfl
    | some id =>
        obtain ⟨before, after, ahead, behind, survivor, size, whole, merges, next, rfl, freed⟩ :=
          free_live config geometry heap blocks h id sound room known
        obtain ⟨place, member, rfl⟩ := sound_resolves config heap _ h id sound known
        have held := contents_some config geometry heap _ h place sound member known
        have covered := sound.registry.tiling.covers.trans freed.sound.registry.tiling.covers.symm
        have slotted' := merged_slotted config before after ahead behind _ survivor size whole freed.aheadShape
          freed.behindShape covered slotted
        have gone := freed_contents config geometry heap next h before after ahead behind _ survivor size whole merges sound freed
        rw [freed.ran]
        exact .released next _ room held ⟨config, _, geometry, fits, freed.sound, slotted'⟩ freed.handles gone
          (by rw [freed.metrics]; rfl) (by rw [freed.metrics]; rfl)

theorem node_writes (n : Nat) (heap : Heap) (h : Handle) (offset : Nat) (data : List UInt8) (nodes : NodeHeap n heap) :
    ∃ answer next, Heap.write h offset data heap = .ok answer next ∧ NodeHeap n next ∧ next.handles = heap.handles ∧
      next.metrics = heap.metrics ∧ WriteAgrees (contents heap) h offset data (.ok answer) (contents next) := by
  obtain ⟨config, blocks, geometry, fits, sound, slotted⟩ := nodes
  have agrees := write_agrees config geometry heap blocks h offset data sound
  obtain ⟨arena, only, capacity⟩ := write_arena_only h offset data heap
  cases ran : Heap.write h offset data heap with
  | error reason next =>
      rw [attempt_error _ heap next reason ran] at agrees
      rw [WriteAgrees] at agrees
      cases reached : reach (contents heap) h offset data.length with
      | error e => simp [reached] at agrees
      | ok bytes => simp [reached] at agrees
  | ok answer next =>
      rw [attempt_ok _ heap next answer ran] at agrees only
      obtain rfl : next = { heap with arena } := only
      exact ⟨answer, _, rfl, ⟨config, blocks, geometry, fits, sound_arena config heap blocks arena sound capacity,
        slotted⟩, rfl, rfl, agrees⟩

theorem node_issued (n : Nat) (a b a' b' : Heap) (h h' : Handle) (id id' : BlockId) (nodes : NodeHeap n a) (nodes' : NodeHeap n b)
    (issue : SameIssue a.handles b.handles) (issued : HandleTable.insert id a.handles = .ok h a'.handles)
    (issued' : HandleTable.insert id' b.handles = .ok h' b'.handles) : h' = h ∧ SameIssue a'.handles b'.handles := by
  obtain ⟨config, blocks, geometry, _, sound, _⟩ := nodes
  obtain ⟨_, _, _, _, sound', _⟩ := nodes'
  exact insert_same a.handles b.handles id id' h h' _ _ sound.handles sound'.handles
    (sound_live config geometry a blocks sound) issue
    issued issued'

theorem write_determined (memory memory' memory'' : Memory) (h : Handle) (offset : Nat) (data : List UInt8)
    (outcome outcome' : Except Abort (Except AccessError Unit)) (agrees : WriteAgrees memory h offset data outcome memory')
    (agrees' : WriteAgrees memory h offset data outcome' memory'') : outcome' = outcome ∧ memory'' = memory' := by
  rw [WriteAgrees] at agrees agrees'
  cases reached : reach memory h offset data.length with
  | error e =>
      simp only [reached] at agrees agrees'
      exact ⟨agrees'.1.trans agrees.1.symm, agrees'.2.trans agrees.2.symm⟩
  | ok bytes =>
      simp only [reached] at agrees agrees'
      exact ⟨agrees'.1.trans agrees.1.symm, agrees'.2.trans agrees.2.symm⟩

section Twins

variable (n : Nat) (roomy : Prop)

theorem alloc_matched : Matched (Twins n True) (Twins n False) (Heap.alloc Node.encodedLength) := by
  intro a b twins
  have size := same_issue_size a.handles b.handles twins.issue
  have first := node_alloc_cases n a twins.nodes (twins.room trivial)
  have second := node_alloc_cases n b twins.nodes' (size ▸ twins.room trivial)
  -- the counters and the number of live nodes decide, and these are the same
  have counts := twins.allocs
  have live := twins.issue.live
  generalize Heap.alloc Node.encodedLength a = ran at first ⊢
  generalize Heap.alloc Node.encodedLength b = ran' at second ⊢
  cases first with
  | uncounted full =>
      cases second with
      | uncounted => exact .inr ⟨.overflow, a, b, rfl, rfl⟩
      | refused _ open' => omega
      | granted _ _ _ open' => omega
  | refused a' room full nodes handles same allocs frees =>
      cases second with
      | uncounted full' => omega
      | granted _ _ _ _ free' => omega
      | refused b' _ _ nodes' handles' same' allocs' frees' =>
          exact .inl ⟨none, a', b', rfl, rfl, {
            nodes
            nodes'
            issue := by rw [handles, handles']; exact twins.issue
            contents := by rw [same', same, twins.contents]
            allocs := by rw [allocs', allocs, counts]
            frees := by rw [frees', frees, twins.frees]
            room := False.elim }⟩
  | granted h id a' room free nodes issued fresh allocs frees =>
      cases second with
      | uncounted full' => omega
      | refused _ _ full' => omega
      | granted h' id' b' _ _ nodes' issued' fresh' allocs' frees' =>
          obtain ⟨rfl, issue⟩ := node_issued n a b a' b' h h' id id' twins.nodes twins.nodes' twins.issue issued issued'
          exact .inl ⟨some h', a', b', rfl, rfl, {
            nodes
            nodes'
            issue
            contents := by rw [fresh', fresh, twins.contents]
            allocs := by rw [allocs', allocs, counts]
            frees := by rw [frees', frees, twins.frees]
            room := False.elim }⟩

theorem free_matched (h : Handle) : Matched (Twins n roomy) (Twins n roomy) (Heap.free (some h)) := by
  intro a b twins
  have first := node_free_cases n a h twins.nodes
  have second := node_free_cases n b h twins.nodes'
  have counts := twins.frees
  have same := congrFun twins.contents h
  generalize Heap.free (some h) a = ran at first ⊢
  generalize Heap.free (some h) b = ran' at second ⊢
  cases first with
  | uncounted full =>
      cases second with
      | uncounted => exact .inr ⟨.overflow, a, b, rfl, rfl⟩
      | ignored _ open' => omega
      | released _ _ open' => omega
  | ignored a' room unknown nodes handles left allocs frees =>
      cases second with
      | uncounted full' => omega
      | released _ _ _ held' =>
          rw [same, unknown] at held'
          cases held'
      | ignored b' _ _ nodes' handles' left' allocs' frees' =>
          exact .inl ⟨(), a', b', rfl, rfl, {
            nodes
            nodes'
            issue := by rw [handles, handles']; exact twins.issue
            contents := by rw [left', left, twins.contents]
            allocs := by rw [allocs', allocs, twins.allocs]
            frees := by rw [frees', frees, counts]
            room := by rw [handles]; exact twins.room }⟩
  | released a' bytes room held nodes handles gone allocs frees =>
      cases second with
      | uncounted full' => omega
      | ignored _ _ unknown' =>
          rw [same, held] at unknown'
          cases unknown'
      | released b' bytes' _ _ nodes' handles' gone' allocs' frees' =>
          exact .inl ⟨(), a', b', rfl, rfl, {
            nodes
            nodes'
            issue := by rw [handles, handles']; exact vacate_same a.handles b.handles h twins.issue
            contents := by rw [gone', gone, twins.contents]
            allocs := by rw [allocs', allocs, twins.allocs]
            frees := by rw [frees', frees, counts]
            room := by rw [handles, vacate_slots]; exact twins.room }⟩

theorem read_matched (h : Handle) (offset len : Nat) : Matched (Twins n roomy) (Twins n roomy) (Heap.read h offset len) := by
  intro a b twins
  obtain ⟨config, blocks, geometry, _, sound, _⟩ := twins.nodes
  obtain ⟨config', blocks', geometry', _, sound', _⟩ := twins.nodes'
  obtain ⟨answer, ran, ran'⟩ := read_same config config' geometry geometry' a b blocks blocks' h offset len sound sound'
    (congrFun twins.contents h)
  exact .inl ⟨answer, a, b, ran, ran', twins⟩

theorem write_matched (h : Handle) (offset : Nat) (data : List UInt8) :
    Matched (Twins n roomy) (Twins n roomy) (Heap.write h offset data) := by
  intro a b twins
  obtain ⟨answer, a', ran, nodes, handles, metrics, agrees⟩ := node_writes n a h offset data twins.nodes
  obtain ⟨answer', b', ran', nodes', handles', metrics', agrees'⟩ := node_writes n b h offset data twins.nodes'
  rw [twins.contents] at agrees'
  obtain ⟨answered, same⟩ := write_determined (contents a) _ _ h offset data _ _ agrees agrees'
  cases answered
  exact .inl ⟨answer, a', b', ran, ran', {
    nodes
    nodes'
    issue := by rw [handles, handles']; exact twins.issue
    contents := same
    allocs := by rw [metrics', metrics, twins.allocs]
    frees := by rw [metrics', metrics, twins.frees]
    room := by rw [handles]; exact twins.room }⟩

end Twins

end BlockPool
