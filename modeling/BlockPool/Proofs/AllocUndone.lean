import BlockPool.Proofs.Layout

set_option autoImplicit false

namespace BlockPool

open Heap

def ServedAgain (made : Nat) (served again : Pool) (h : Handle) : Except Abort (Option Handle) → Prop
  | .error reason => Exhausted made reason
  | .ok answer => ∃ k info, answer = some k ∧ k ≠ h ∧ ((Pool.locate h).attempt served).1 = .ok (some info) ∧
      ((Pool.locate k).attempt again).1 = .ok (some info)

-- What becomes of a pool where `h` was handed out, when `h` is freed at once. `made` requests were made before.
def Undoes (made size : Nat) (pool served freed : Pool) (h : Handle) : Except Abort Unit → Prop
  | .error reason => Exhausted made reason
  | .ok _ => SameLayout pool freed ∧ (∀ k info bytes, Shown freed k info bytes ↔ Shown pool k info bytes) ∧
      ServedAgain (made + 1) served ((Pool.alloc size).attempt freed).2 h ((Pool.alloc size).attempt freed).1

theorem insert_same_slots (t next : HandleTable) (block : BlockId) (h : Handle) (orderly : Orderly t)
    (few : t.live + 1 < Word.bound) (ran : HandleTable.insert block t = .ok h next) (old : h.generation ≠ 0) :
    next.slots.size = t.slots.size := by
  rcases insert_cases t block orderly few with ⟨_, _, _, _, _, ran'⟩ | ⟨_, ran'⟩
  · rw [ran'] at ran
    cases ran
    exact Array.size_setIfInBounds
  · rw [ran'] at ran
    cases ran
    exact absurd rfl old

-- The slot that was vacated last is issued from next, unless its generation has come round; then it is another slot.
theorem reissue_differs (t t' t'' : HandleTable) (block other : BlockId) (h k : Handle) (orderly : Orderly t)
    (few : t.live + 1 < Word.bound) (room : t.slots.size < UInt32.size) (issued : HandleTable.insert block t = .ok h t')
    (again : HandleTable.insert other (vacate t' h) = .ok k t'') : k ≠ h ∧ t''.get? k = some other := by
  obtain ⟨_, answers⟩ := insert_get t block orderly few room h t' issued
  obtain ⟨orderly', _, owned⟩ := insert_orderly t block orderly few h t' issued
  have known : t'.get? h = some block := (answers h).trans (if_pos rfl)
  obtain ⟨vacated, _⟩ := vacate_orderly t' h block known orderly'
  have emptied := vacate_slot t' h block known
  have live : (vacate t' h).live + 1 < Word.bound := by
    have counted := orderly'.counted
    rw [owned.length_eq, List.length_cons, ← orderly.counted] at counted
    simp only [vacate]
    omega
  rcases insert_cases (vacate t' h) other vacated live with ⟨index, rest, generation, _, read, ran⟩ | ⟨nothing, ran⟩
  · rw [ran] at again
    cases again
    have inside : index.toNat < (vacate t' h).slots.size := (Array.getElem?_eq_some_iff.mp read).1
    refine ⟨fun same => ?_, (get_some_iff _ _ other).mpr ⟨rfl, Array.getElem?_setIfInBounds_self_of_lt inside⟩⟩
    rw [show index = h.slot from congrArg Handle.slot same, emptied] at read
    have raised : h.generation + 1 = generation := congrArg Slot.generation (Option.some.inj read)
    rw [show generation = h.generation from congrArg Handle.generation same] at raised
    simp at raised
  · -- the slot of `h` is not waiting, so its generation has come round
    have wraps : h.generation + 1 = 0 := by
      by_contra going
      simp [vacate, going] at nothing
    have old : h.generation ≠ 0 := by
      intro zero
      rw [zero] at wraps
      cases wraps
    have size : (vacate t' h).slots.size = t.slots.size :=
      Array.size_setIfInBounds.trans (insert_same_slots t t' block h orderly few issued old)
    have bound : h.slot.toNat < t.slots.size := size ▸ (Array.getElem?_eq_some_iff.mp emptied).1
    obtain ⟨_, answers'⟩ := insert_get (vacate t' h) other vacated live (by rw [size]; exact room) k t'' again
    rw [ran] at again
    refine ⟨fun equal => ?_, (answers' k).trans (if_pos rfl)⟩
    cases again
    rw [← equal, size] at bound
    have index : t.slots.size.toUInt32.toNat = t.slots.size := UInt32.toNat_ofNat_of_lt' room
    simp only [index, Nat.lt_irrefl] at bound

section

variable (config : PoolConfig) (geometry : Geometry config) (heap next : Heap) (size whole : Nat) (before after : List LinkedSpan)
  (id created : BlockId) (h : Handle) (served : Served config heap size before after id created whole h next)

include served

theorem served_fits : ¬ Unserved config size (before ++ (id, ⟨whole, true⟩) :: after) := by
  have fits : (Span.mk whole true).fits (config.roundUp size) = true := by simp [Span.fits, served.enough]
  rintro (zero | large | unfit)
  · exact Nat.ne_of_gt served.positive zero
  · exact Nat.not_lt.mpr large served.word
  · have here := unfit ⟨whole, true⟩ (by simp)
    rw [fits] at here
    cases here

theorem untaken_places :
    (places config.headerOverhead 0 (config.takenBlocks size whole before after id created)).filter (fun place => place.id ≠ id) =
      places config.headerOverhead 0 (before ++ (id, ⟨whole, true⟩) :: after) := by
  have apart (part : List Place)
      (inside : ∀ place ∈ part,
        place ∈ places config.headerOverhead 0 (before ++ (id, ⟨whole, true⟩) :: after)) :
      (part.filter fun place => place.id ≠ id) = part := by
    refine List.filter_eq_self.mpr fun place member => decide_eq_true ?_
    exact served_apart config heap next size whole before after id created h served place (inside place member)
  rw [places_single_free] at apart ⊢
  rw [PoolConfig.takenBlocks, places_cut, List.filter_append, List.filter_cons_of_neg (by simp)]
  rw [apart _ fun place member => List.mem_append_left _ member, apart _ fun place member => List.mem_append_right _ member]

theorem served_same_place (heap' next' : Heap) (whole' : Nat) (before' after' : List LinkedSpan) (id' created' : BlockId)
    (k : Handle) (served' : Served config heap' size before' after' id' created' whole' k next')
    (same : spansOf (before' ++ (id', ⟨whole', true⟩) :: after') =
      spansOf (before ++ (id, ⟨whole, true⟩) :: after)) :
    (config.takenPlace size whole' before' id').info config.headerOverhead =
      (config.takenPlace size whole before id).info config.headerOverhead := by
  have fits : (Span.mk whole true).fits (config.roundUp size) = true := by simp [Span.fits, served.enough]
  have fits' : (Span.mk whole' true).fits (config.roundUp size) = true := by simp [Span.fits, served'.enough]
  have picked := pick_span_preferred config.fit (config.roundUp size) (spansOf before) (spansOf after) _ fits served.preferred
  have picked' := pick_span_preferred config.fit (config.roundUp size) (spansOf before') (spansOf after') _ fits' served'.preferred
  simp only [spans_of_append, spans_of_cons] at same
  rw [same, picked] at picked'
  obtain ⟨ahead, rest⟩ := List.append_inj same (Option.some.inj picked').symm
  have chosen : whole' = whole := congrArg Span.size (List.cons.inj rest).1
  simp only [PoolConfig.takenPlace, Place.info, ahead, chosen]

end

section

variable (config : PoolConfig) (geometry : Geometry config) (heap next freed : Heap) (size whole less grown merges made : Nat)
  (before after before' after' ahead behind : List LinkedSpan) (id created survivor : BlockId) (h : Handle)
  (sound : Sound config heap (before ++ (id, ⟨whole, true⟩) :: after)) (room : heap.handles.slots.size < UInt32.size)
  (served : Served config heap size before after id created whole h next)
  (shape : config.takenBlocks size whole before after id created = before' ++ (id, ⟨less, false⟩) :: after')
  (frees : Freed config next h before' after' ahead behind id survivor less grown merges freed)

include sound served shape frees

theorem undone_spans :
    spansOf (ahead ++ (survivor, ⟨grown, true⟩) :: behind) = spansOf (before ++ (id, ⟨whole, true⟩) :: after) := by
  refine sound_spans config freed heap _ _ frees.sound sound ?_
  rw [freed_places config next freed h before' after' ahead behind id survivor less grown merges
    (shape ▸ served.sound) frees, ← shape]
  exact untaken_places config heap next size whole before after id created h served

include geometry room

theorem undone_through (k : Handle) : SameThrough heap freed k := by
  by_cases same : k = h
  · have unknown := (served_answers config geometry heap next size whole before after id created h sound served room).1
    have gone := freed_unknown config next freed h before' after' ahead behind id survivor less grown merges frees
    exact same_through_unknown heap freed k (same ▸ unknown) (same ▸ gone)
  · exact same_through_trans heap next freed k
      (served_through config geometry heap next size whole before after id created h k sound served room same)
      (freed_through config geometry next freed h k before' after' ahead behind id survivor less grown merges
        (shape ▸ served.sound) frees same)

theorem undone_serves (pool pool' : Pool) (opened : pool.heap = some next) (opened' : pool'.heap = some freed)
    (counted : heap.metrics.allocCalls ≤ made) :
    ServedAgain (made + 1) pool ((Pool.alloc size).attempt pool').2 h ((Pool.alloc size).attempt pool').1 := by
  have resolved := served_resolves config geometry heap next size whole before after id created h sound served room
  have located := served_located config geometry heap next size whole before after id created h served resolved
  have spans := undone_spans config heap next freed size whole less grown merges before after before' after' ahead
    behind id created survivor
    h sound served shape frees
  obtain ⟨answered, left⟩ := on_heap_open none (Heap.alloc size) pool' freed opened'
  rw [Pool.alloc, answered]
  rcases alloc_block_cases config geometry freed _ size frees.sound with
    ⟨full, stopped⟩ | ⟨unserved, _, _⟩ | ⟨front, id', whole', rear, created', k, again, blocks, served'⟩
  · rw [attempt_error _ freed freed _ (alloc_stopped freed size .overflow stopped)]
    rw [frees.metrics, PoolMetrics.released, served.metrics, PoolMetrics.served] at full
    exact full_exhausted (made + 1) _ (Nat.succ_le_succ counted) full
  · -- the block that was handed out is there again
    rw [Unserved, spans] at unserved
    exact absurd unserved (served_fits config heap next size whole before after id created h served)
  · have issued := served'.issued
    rw [frees.handles] at issued
    obtain ⟨differs, resolves⟩ := reissue_differs heap.handles next.handles again.handles id id' h k sound.handles
      (sound_live config geometry heap _ sound) room served.issued issued
    have located' := served_located config geometry freed again size whole' front rear id' created' k served' resolves
    rw [served_same_place config heap next size whole before after id created h served freed again whole' front rear
      id' created' k served'
      (blocks ▸ spans)] at located'
    rw [attempt_ok _ freed again _ (alloc_ran freed again size _ served'.ran)] at left ⊢
    exact ⟨k, _, rfl, differs, view_answers none _ (fun heap => heap.locate h) pool next opened located,
      view_answers none _ (fun heap => heap.locate k) _ again left located'⟩

end

theorem alloc_undone (config : PoolConfig) (geometry : Geometry config) (made size : Nat) (pool : Pool) (heap : Heap)
    (blocks : List LinkedSpan) (h : Handle) (opened : pool.heap = some heap) (sound : Sound config heap blocks)
    (room : heap.handles.slots.size < UInt32.size) (counted : Counted made heap.metrics)
    (answered : ((Pool.alloc size).attempt pool).1 = .ok (some h)) :
    Undoes made size pool ((Pool.alloc size).attempt pool).2 ((Pool.free (some h)).attempt ((Pool.alloc size).attempt pool).2).2 h
      ((Pool.free (some h)).attempt ((Pool.alloc size).attempt pool).2).1 := by
  obtain ⟨told, opened'⟩ := on_heap_open none (Heap.alloc size) pool heap opened
  rw [Pool.alloc, told] at answered
  rcases alloc_block_cases config geometry heap blocks size sound with
    ⟨_, stopped⟩ | ⟨_, refused, _⟩ | ⟨before, id, whole, after, created, issued, next, rfl, served⟩
  · rw [attempt_error _ heap heap _ (alloc_stopped heap size .overflow stopped)] at answered
    cases answered
  · rw [attempt_ok _ heap _ _ (alloc_ran heap _ size _ refused)] at answered
    cases answered
  · rw [attempt_ok _ heap next _ (alloc_ran heap next size _ served.ran)] at answered opened'
    obtain rfl : h = issued := (Option.some.inj (Except.ok.inj answered)).symm
    obtain ⟨told', left⟩ := on_heap_open () (Heap.free (some h)) ((Pool.alloc size).attempt pool).2 next opened'
    have resolved := served_resolves config geometry heap next size whole before after id created h sound served room
    rw [Pool.free, told']
    rcases free_cases config geometry next _ (some h) served.sound with
      ⟨full, stopped⟩ | ⟨unknown, _, _⟩ | ⟨_, before', after', ahead, behind, _, survivor, less, grown, merges,
        freed, same, shape, frees⟩
    · rw [attempt_error _ next next _ stopped]
      rw [served.metrics, PoolMetrics.served] at full
      exact full_exhausted made _ counted.frees full
    · cases unknown.symm.trans resolved
    · cases same
      cases resolved.symm.trans frees.resolved
      rw [attempt_ok _ next freed _ frees.ran] at left ⊢
      refine ⟨?_, fun k info bytes => ?_, ?_⟩
      · exact sound_layout config geometry pool _ heap freed _ _ opened left sound frees.sound
          (undone_spans config heap next freed size whole less grown merges before after before' after' ahead behind
            id created survivor h
            sound served shape frees).symm
      · exact same_through_shown config geometry pool _ heap freed _ _ k info bytes opened left sound frees.sound
          (undone_through config geometry heap next freed size whole less grown merges before after before' after'
            ahead behind id created
            survivor h sound room served shape frees k)
      · exact undone_serves config geometry heap next freed size whole less grown merges made before after before'
          after' ahead behind id
          created survivor h sound room served shape frees _ _ opened' left counted.allocs

theorem free_undoes_alloc {α : Type} (config : PoolConfig) (valid : config.Valid) (counter : PoolCounter) :
    ∃ pool next, Pool.init config counter = .ok (.ok pool) next ∧
      ∀ (requests : List (PoolRequest α)) (size : Nat) (h : Handle), RoomForHandles (afterRequests requests pool) →
        ((Pool.alloc size).attempt (afterRequests requests pool)).1 = .ok (some h) →
          Undoes requests.length size (afterRequests requests pool) ((Pool.alloc size).attempt (afterRequests requests pool)).2
            ((Pool.free (some h)).attempt ((Pool.alloc size).attempt (afterRequests requests pool)).2).2 h
            ((Pool.free (some h)).attempt ((Pool.alloc size).attempt (afterRequests requests pool)).2).1 := by
  have geometry := valid_geometry config valid
  obtain ⟨pool, next, made, reached⟩ := @init_reaches α config valid counter
  refine ⟨pool, next, made, fun requests size h room answered => ?_⟩
  cases opened : (afterRequests requests pool).heap with
  | none =>
      rw [Pool.alloc, (on_heap_closed none (Heap.alloc size) _ opened).1] at answered
      cases answered
  | some heap =>
      obtain ⟨⟨blocks, sound⟩, counted⟩ := reached requests heap opened
      exact alloc_undone config geometry requests.length size _ heap blocks h opened sound (room heap opened) counted answered

-- Two blocks that merged are split again ahead of a used one; the header of the remainder had been retired.
theorem free_undoes_alloc_between :
    (PoolConfig.mk 200 16 8 .firstFit false).Valid ∧
      ∃ pool next reached, Pool.init (PoolConfig.mk 200 16 8 .firstFit false) ⟨3⟩ = .ok (.ok pool) next ∧
        afterRequests ([.act (.alloc 8), .act (.alloc 8), .act (.alloc 8), .act (.free (some ⟨⟨3⟩, 0, 0⟩)),
          .act (.free (some ⟨⟨3⟩, 1, 0⟩))] : List (PoolRequest Unit)) pool = reached ∧
        Undoes 5 5 reached ((Pool.alloc 5).attempt reached).2
          ((Pool.free (some ⟨⟨3⟩, 1, 1⟩)).attempt ((Pool.alloc 5).attempt reached).2).2 ⟨⟨3⟩, 1, 1⟩
          ((Pool.free (some ⟨⟨3⟩, 1, 1⟩)).attempt ((Pool.alloc 5).attempt reached).2).1 := by
  have valid : (PoolConfig.mk 200 16 8 .firstFit false).Valid := by rfl
  obtain ⟨pool, next, made, undoes⟩ := @free_undoes_alloc Unit (PoolConfig.mk 200 16 8 .firstFit false) valid ⟨3⟩
  generalize sofar : ([.act (.alloc 8), .act (.alloc 8), .act (.alloc 8), .act (.free (some ⟨⟨3⟩, 0, 0⟩)),
    .act (.free (some ⟨⟨3⟩, 1, 0⟩))] : List (PoolRequest Unit)) = requests
  have room : RoomForHandles (afterRequests requests pool) := by
    cases made
    cases sofar
    intro heap opened
    cases opened
    decide
  have answered : ((Pool.alloc 5).attempt (afterRequests requests pool)).1 = .ok (some ⟨⟨3⟩, 1, 1⟩) := by
    cases made
    cases sofar
    decide +kernel
  have count : requests.length = 5 := by rw [← sofar]; rfl
  have undone := undoes requests 5 _ room answered
  rw [count] at undone
  exact ⟨valid, pool, next, _, made, rfl, undone⟩

end BlockPool
