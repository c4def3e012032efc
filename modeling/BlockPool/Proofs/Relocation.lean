import BlockPool.Proofs.LiveAllocations

set_option autoImplicit false

namespace BlockPool

open Heap

-- A payload that has moved from the block of `h` to the one an allocation in its place would have been served from.
structure Relocated (config : PoolConfig) (pool after : Pool) (h n : Handle) (size : Nat) (bytes : List UInt8) : Prop where
  fresh : ¬ Live pool n
  spent : ¬ Live after h
  counted : ∃ live, (Pool.liveAllocations.attempt pool).1 = .ok live ∧ (Pool.liveAllocations.attempt after).1 = .ok live
  -- the new block begins with the old bytes
  target : ∃ target rest, ((Pool.locate n).attempt ((Pool.alloc size).attempt pool).2).1 = .ok (some target) ∧
    Shown after n target (bytes ++ rest) ∧ size ≤ target.size ∧ (config.zeroOnAlloc = true → ∀ b ∈ rest, b = 0)
  others : ∀ k, k ≠ h → k ≠ n → ∀ info content, Shown after k info content ↔ Shown pool k info content

def ResizeOutcome (config : PoolConfig) (made : Nat) (pool after : Pool) (h : Handle) (info : BlockInfo)
    (bytes : List UInt8) (size : Nat) :
    Except Abort (Option Handle) → Prop
  | .error reason => Exhausted made reason
  | .ok answer =>
    if size ≤ info.size then answer = some h ∧ SameButCounts pool after
    else
      ((Pool.alloc size).attempt pool).1 = .ok answer ∧
        match answer with
        | none => SameButCounts pool after
        | some n => Relocated config pool after h n size bytes

-- That other calls were counted since makes no difference to an allocation.
theorem alloc_uncounted (config : PoolConfig) (geometry : Geometry config) (heap : Heap) (blocks : List LinkedSpan)
    (metrics : PoolMetrics) (size : Nat) (answer : Option Handle) (next : Heap) (sound : Sound config heap blocks)
    (same : metrics.allocCalls = heap.metrics.allocCalls) (ran : Heap.alloc size { heap with metrics } = .ok answer next) :
    ∃ counted, Heap.alloc size heap = .ok answer { next with metrics := counted } := by
  have alike := alloc_blind size heap metrics
  rw [attempt_ok _ _ next answer ran] at alike
  by_cases room : heap.metrics.allocCalls + 1 < Word.bound
  · obtain ⟨first, answered⟩ := alloc_answers config geometry heap blocks size sound room
    rcases alike with ⟨agrees, counted, left⟩ | ⟨_, stopped | stopped⟩
    · have ran' := attempt_ran _ heap answer agrees.symm
      rw [show next = { ((Heap.alloc size).attempt heap).2 with metrics := counted } from left]
      exact ⟨((Heap.alloc size).attempt heap).2.metrics, ran'⟩
    · rw [answered] at stopped
      cases stopped
    · cases stopped
  · have stopped := alloc_block_full { heap with metrics } size (by rw [same]; exact Nat.le_of_not_lt room)
    rw [alloc_stopped _ size .overflow stopped] at ran
    cases ran

theorem served_live (config : PoolConfig) (geometry : Geometry config) (heap next : Heap) (size whole : Nat)
    (before after : List LinkedSpan) (id created : BlockId) (h : Handle)
    (sound : Sound config heap (before ++ (id, ⟨whole, true⟩) :: after))
    (served : Served config heap size before after id created whole h next) : next.handles.live = heap.handles.live + 1 := by
  obtain ⟨orderly, _, owned⟩ :=
    insert_orderly heap.handles id sound.handles (sound_live config geometry heap _ sound) h next.handles
    served.issued
  rw [orderly.counted, owned.length_eq, List.length_cons, sound.handles.counted]

section

variable (config : PoolConfig) (geometry : Geometry config) (heap next freed : Heap) (size whole : Nat) (place : Place)
  (before after : List LinkedSpan) (id created : BlockId) (h n : Handle)
  (sound : Sound config heap (before ++ (id, ⟨whole, true⟩) :: after))
  (served : Served config heap size before after id created whole n next) (room : heap.handles.slots.size < UInt32.size)
  (member : place ∈ places config.headerOverhead 0 (before ++ (id, ⟨whole, true⟩) :: after))
  (known : heap.resolve h = some place.id) (grows : place.size < size)

include geometry sound served room member known grows

theorem copied_through (k : Handle) (different : k ≠ n) :
    SameThrough heap (copied next place (config.takenPlace size whole before id)) k := by
  have same := served_through config geometry heap next size whole before after id created n k sound served room different
  have held := contents_some config geometry heap _ h place sound member known
  obtain ⟨_, rest, _, _, filled⟩ :=
    copied_contents config geometry heap next size whole place before after id created h n sound served
    room member known grows _ held
  refine ⟨same.resolves, same.locates, ?_⟩
  rw [filled, put_other _ _ _ _ different]

-- Before and after the move the heap may have counted other things.
theorem move_relocates (pool pool' : Pool) (earlier later : PoolMetrics) (before' after' ahead behind : List LinkedSpan)
    (survivor : BlockId) (size' whole' merges : Nat) (opened : pool.heap = some { heap with metrics := earlier })
    (opened' : pool'.heap = some { freed with metrics := later }) (same : heap.metrics.allocCalls = earlier.allocCalls)
    (sound' : Sound config { heap with metrics := earlier } (before ++ (id, ⟨whole, true⟩) :: after))
    (filled : Sound config (copied next place (config.takenPlace size whole before id))
      (before' ++ (place.id, ⟨size', false⟩) :: after'))
    (frees : Freed config (copied next place (config.takenPlace size whole before id)) h before' after' ahead behind
      place.id survivor size' whole' merges freed)
    (kept : Sound config { freed with metrics := later } (ahead ++ (survivor, ⟨whole', true⟩) :: behind)) :
    ((Pool.alloc size).attempt pool).1 = .ok (some n) ∧
      Relocated config pool pool' h n size (segment heap.arena.bytes place.start place.size) := by
  have held := contents_some config geometry heap _ h place sound member known
  have unknown := (served_answers config geometry heap next size whole before after id created n sound served room).1
  have issued := served_resolves config geometry heap next size whole before after id created n sound served room
  have different : n ≠ h := by
    rintro rfl
    cases unknown.symm.trans known
  obtain ⟨_, rest, enough, cleared, moved⟩ :=
    copied_contents config geometry heap next size whole place before after id created h n
    sound served room member known grows _ held
  have through (k : Handle) (other : k ≠ h) :=
    freed_through config geometry _ freed h k before' after' ahead behind place.id survivor
    size' whole' merges filled frees other
  have located := served_located config geometry heap next size whole before after id created n served issued
  obtain ⟨counted, ran⟩ :=
    alloc_uncounted config geometry { heap with metrics := earlier } _ heap.metrics size (some n) next sound' same
    (alloc_ran heap next size _ served.ran)
  obtain ⟨answered, placed⟩ := on_heap_open none (Heap.alloc size) pool _ opened
  rw [attempt_ok _ _ _ _ ran] at answered placed
  refine ⟨answered, ?_⟩
  constructor
  case fresh =>
    intro live
    obtain ⟨other, found⟩ := (live_iff pool _ n opened).mp live
    cases unknown.symm.trans found
  case spent =>
    intro live
    obtain ⟨other, found⟩ := (live_iff pool' _ h opened').mp live
    cases (freed_unknown config _ freed h before' after' ahead behind place.id survivor size' whole' merges frees).symm.trans found
  case counted =>
    have more := served_live config geometry heap next size whole before after id created n sound served
    have less : freed.handles.live = heap.handles.live := by
      rw [frees.handles]
      exact Nat.sub_eq_of_eq_add more
    refine ⟨_, live_shown pool _ opened, ?_⟩
    exact (live_shown pool' _ opened').trans (congrArg Except.ok less)
  case target =>
    refine ⟨(config.takenPlace size whole before id).info config.headerOverhead, rest, ?_, ?_, ?_, cleared⟩
    · exact view_answers none _ (fun heap => heap.locate n) _ _ placed located
    · refine (shown_iff config geometry pool' _ _ n _ _ opened' kept).mpr ⟨(through n different).locates.trans located, ?_⟩
      refine (through n different).contains.trans ?_
      rw [moved, put_same]
    · exact served_taken config geometry heap next size whole before after id created n served
  case others =>
    intro k other fresh info content
    have same := same_through_trans _ _ _ k
      (copied_through config geometry heap next size whole place before after id created h n sound
      served room member known grows k fresh) (through k other)
    exact same_through_shown config geometry pool pool' _ _ _ _ k info content opened opened' sound' kept
      ⟨same.resolves, same.locates, same.contains⟩

end

theorem live_resizes (config : PoolConfig) (geometry : Geometry config) (made : Nat) (pool : Pool) (heap : Heap)
    (blocks : List LinkedSpan) (h : Handle) (place : Place) (size : Nat) (opened : pool.heap = some heap)
    (sound : Sound config heap blocks) (room : heap.handles.slots.size < UInt32.size)
    (counted : Counted made heap.metrics) (member : place ∈ places config.headerOverhead 0 blocks)
    (known : heap.resolve h = some place.id) (positive : 0 < size) :
    ResizeOutcome config made pool ((Pool.resize (some h) size).attempt pool).2 h (place.info config.headerOverhead)
      (segment heap.arena.bytes place.start place.size) size ((Pool.resize (some h) size).attempt pool).1 := by
  have distinct := charted_places_distinct config heap.registry blocks sound.registry.charted
  have single (other : Place) (inside : other ∈ places config.headerOverhead 0 blocks) (found : heap.resolve h = some other.id) :
      other = place := List.inj_on_of_nodup_map distinct inside member (Option.some.inj (found.symm.trans known))
  obtain ⟨answered, left⟩ := on_heap_open none (Heap.resize (some h) size) pool heap opened
  rw [Pool.resize, answered]
  rcases resize_cases config geometry heap blocks (some h) size sound with ⟨full, stopped⟩ | ⟨sound', outcome⟩
  · rw [stopped]
    exact full_exhausted made _ counted.resizes full
  · cases outcome with
    | frees _ zero _ => exact absurd zero (Nat.ne_of_gt positive)
    | ignores _ _ unknown _ => cases unknown.symm.trans known
    | stays _ other _ inside found fits goes _ =>
        cases single other inside found
        rw [goes] at left ⊢
        simp only [ResizeOutcome, Place.info, if_pos fits]
        exact ⟨trivial, .inr ⟨heap, _, opened, left⟩⟩
    | moves _ other _ inside found grows slack goes =>
        cases single other inside found
        have larger : ¬ size ≤ (place.info config.headerOverhead).size := Nat.not_le.mpr grows
        rw [goes] at left ⊢
        cases move_cases config geometry (resizing heap) blocks h place size sound' member known grows slack with
        | uncounted _ full ran =>
            rw [ran]
            exact full_exhausted made _ counted.allocs full
        | refused _ unserved ran _ =>
            have uncounted : heap.metrics.allocCalls + 1 < Word.bound := by
              refine Nat.lt_of_not_le fun full => ?_
              rw [attempt_error _ _ _ _ (move_full (resizing heap) h place.start place.size size full)] at ran
              cases ran
            have refused := alloc_ran heap _ size _ (alloc_block_unserved config geometry heap blocks size sound uncounted unserved)
            have nothing := (on_heap_open none (Heap.alloc size) pool heap opened).1
            rw [attempt_ok _ heap _ _ refused] at nothing
            rw [ran] at left ⊢
            rw [ResizeOutcome, if_neg larger]
            exact ⟨nothing, .inr ⟨heap, _, opened, left⟩⟩
        | unreleased _ _ _ _ _ _ _ _ full ran _ =>
            rw [ran]
            exact full_exhausted made _ counted.frees full
        | moved before after before' after' ahead behind id created survivor whole size' whole' merges n next freed
            served filled frees ran
            kept =>
            rw [ran] at left ⊢
            rw [ResizeOutcome, if_neg larger]
            exact move_relocates config geometry (resizing heap) next freed size whole place before after id created
              h n sound' served room
              member known grows pool _ heap.metrics _ before' after' ahead behind survivor size' whole' merges opened
              left rfl sound filled
              frees kept

theorem resize_moves_as_allocated {α : Type} (config : PoolConfig) (valid : config.Valid) (counter : PoolCounter) :
    ∃ pool next, Pool.init config counter = .ok (.ok pool) next ∧
      ∀ (requests : List (PoolRequest α)) (h : Handle), RoomForHandles (afterRequests requests pool) →
        Live (afterRequests requests pool) h →
        ∃ info bytes, Shown (afterRequests requests pool) h info bytes ∧ bytes.length = info.size ∧
          ∀ size, 0 < size →
            ResizeOutcome config requests.length (afterRequests requests pool)
              ((Pool.resize (some h) size).attempt (afterRequests requests pool)).2 h info bytes size
              ((Pool.resize (some h) size).attempt (afterRequests requests pool)).1 := by
  have geometry := valid_geometry config valid
  obtain ⟨pool, next, made, reached⟩ := @init_reaches α config valid counter
  refine ⟨pool, next, made, fun requests h room live => ?_⟩
  obtain ⟨heap, id, opened, known⟩ := live
  obtain ⟨⟨blocks, sound⟩, counted⟩ := reached requests heap opened
  obtain ⟨place, member, rfl⟩ := sound_resolves config heap blocks h id sound known
  have held := contents_some config geometry heap blocks h place sound member known
  have located := locate_place config geometry heap blocks h place sound member known
  refine ⟨place.info config.headerOverhead, _, ?_, payload_length config heap blocks place sound member,
    fun size positive => ?_⟩
  · exact (shown_iff config geometry _ heap blocks h _ _ opened sound).mpr ⟨located, held⟩
  · exact live_resizes config geometry requests.length _ heap blocks h place size opened sound (room heap opened) counted
      member known positive

theorem resize_moves_as_allocated_behind :
    (PoolConfig.mk 80 8 8 .bestFit true).Valid ∧
      ∃ pool next reached info bytes, Pool.init (PoolConfig.mk 80 8 8 .bestFit true) ⟨3⟩ = .ok (.ok pool) next ∧
        afterRequests ([.act (.alloc 8), .act (.alloc 3), .act (.write ⟨⟨3⟩, 0, 0⟩ 2 [7, 9])] :
          List (PoolRequest Unit)) pool = reached ∧
        Shown reached ⟨⟨3⟩, 0, 0⟩ info bytes ∧
        ((Pool.resize (some ⟨⟨3⟩, 0, 0⟩) 12).attempt reached).1 = .ok (some ⟨⟨3⟩, 2, 0⟩) ∧
        ResizeOutcome (PoolConfig.mk 80 8 8 .bestFit true) 3 reached ((Pool.resize (some ⟨⟨3⟩, 0, 0⟩) 12).attempt reached).2
          ⟨⟨3⟩, 0, 0⟩ info bytes 12 ((Pool.resize (some ⟨⟨3⟩, 0, 0⟩) 12).attempt reached).1 := by
  have valid : (PoolConfig.mk 80 8 8 .bestFit true).Valid := by rfl
  obtain ⟨pool, next, made, moves⟩ := @resize_moves_as_allocated Unit (PoolConfig.mk 80 8 8 .bestFit true) valid ⟨3⟩
  generalize sofar :
    ([.act (.alloc 8), .act (.alloc 3), .act (.write ⟨⟨3⟩, 0, 0⟩ 2 [7, 9])] : List (PoolRequest Unit)) = requests
  have room : RoomForHandles (afterRequests requests pool) := by
    cases made
    cases sofar
    intro heap opened
    cases opened
    decide
  have live : Live (afterRequests requests pool) ⟨⟨3⟩, 0, 0⟩ := by
    cases made
    cases sofar
    exact ⟨_, _, rfl, rfl⟩
  have answered : ((Pool.resize (some ⟨⟨3⟩, 0, 0⟩) 12).attempt (afterRequests requests pool)).1 =
      .ok (some ⟨⟨3⟩, 2, 0⟩) := by
    cases made
    cases sofar
    decide +kernel
  obtain ⟨info, bytes, shown, _, outcomes⟩ := moves requests _ room live
  have count : requests.length = 3 := by rw [← sofar]; rfl
  have outcome := outcomes 12 (by decide)
  rw [count] at outcome
  exact ⟨valid, pool, next, _, info, bytes, made, rfl, shown, answered, outcome⟩

end BlockPool
