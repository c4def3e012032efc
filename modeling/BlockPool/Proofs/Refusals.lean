import BlockPool.Proofs.CounterBlindness
import BlockPool.Proofs.SingleRelease

set_option autoImplicit false

namespace BlockPool

open Heap

def Live (pool : Pool) (h : Handle) : Prop := ∃ heap id, pool.heap = some heap ∧ heap.handles.get? h = some id

def PoolRequest.handle {α : Type} : PoolRequest α → Option Handle
  | .act (.free h) => h
  | .act (.resize h _) => h
  | .act (.read h _ _) => some h
  | .act (.write h _ _) => some h
  | .act (.withPayload h _) => some h
  | .act (.editPayload h _) => some h
  | .act (.usableSize h) => some h
  | .locate h => some h
  | _ => none

inductive Refused {α : Type} (pool : Pool) : PoolRequest α → Prop where
  | unserved (size : Nat) (nothing : ((Pool.alloc size).attempt pool).1 = .ok none) : Refused pool (.act (.alloc size))
  -- a live handle that is resized to zero is given back, and that is no refusal
  | unresized (h : Option Handle) (size : Nat) (nothing : ((Pool.resize h size).attempt pool).1 = .ok none)
      (unfreed : ∀ k, h = some k → size = 0 → ¬ Live pool k) : Refused pool (.act (.resize h size))
  | nobody : Refused pool (.act (.free none))
  | dead (request : PoolRequest α) (h : Handle) (named : request.handle = some h) (unknown : ¬ Live pool h) : Refused pool request
  | unreadable (h : Handle) (offset len size : Nat) (shown : ((Pool.usableSize h).attempt pool).1 = .ok (some size))
      (outside : size < offset + len) : Refused pool (.act (.read h offset len))
  | unwritable (h : Handle) (offset size : Nat) (data : List UInt8) (shown : ((Pool.usableSize h).attempt pool).1 = .ok (some size))
      (outside : size < offset + data.length) : Refused pool (.act (.write h offset data))

-- A refused access answers why, whatever closure came with it.
def Declines {α : Type} : (request : PoolRequest α) → Except Abort request.Answer → Prop
  | .act (.read _ _ _), outcome => ∃ e, outcome = .ok (.error e)
  | .act (.write _ _ _), outcome => ∃ e, outcome = .ok (.error e)
  | .act (.withPayload _ _), outcome => ∃ e, outcome = .ok (.error e)
  | .act (.editPayload _ _), outcome => ∃ e, outcome = .ok (.error e)
  | .act (.usableSize _), outcome => outcome = .ok none
  | .locate _, outcome => outcome = .ok none
  | _, _ => True

structure Untouched {α : Type} (pool : Pool) (request : PoolRequest α) : Prop where
  heap : SameButCounts pool (request.after pool)
  declined : Declines request (request.perform.attempt pool).1
  -- later requests answer as they would have without this one, and so hand out the same handles
  later : ∀ requests : List (PoolRequest α), Echoes pool (request.after pool) requests
  ignored : ∀ h heap, request = .act (.free h) → pool.heap = some heap → heap.metrics.freeCalls + 1 < Word.bound →
    (request.after pool).heap = some { heap with metrics :=
      { heap.metrics with freeCalls := heap.metrics.freeCalls + 1, ignoredFrees := heap.metrics.ignoredFrees + 1 } }

def OnlyCounts {α : Type} (step : Step Heap α) (heap : Heap) : Prop := ∃ metrics, (step.attempt heap).2 = { heap with metrics }

theorem alloc_refused (config : PoolConfig) (geometry : Geometry config) (heap : Heap) (blocks : List LinkedSpan)
    (size : Nat) (sound : Sound config heap blocks) (nothing : ((Heap.alloc size).attempt heap).1 = .ok none) :
    OnlyCounts (Heap.alloc size) heap := by
  rcases alloc_block_cases config geometry heap blocks size sound with
    ⟨_, stopped⟩ | ⟨_, refused, _⟩ | ⟨_, _, _, _, _, h, next, _, served⟩
  · exact ⟨heap.metrics, congrArg Prod.snd (attempt_error _ heap heap _ (alloc_stopped heap size .overflow stopped))⟩
  · exact ⟨_, congrArg Prod.snd (attempt_ok _ heap _ _ (alloc_ran heap _ size _ refused))⟩
  · rw [attempt_ok _ heap next _ (alloc_ran heap next size _ served.ran)] at nothing
    cases nothing

theorem free_refused (config : PoolConfig) (heap : Heap) (blocks : List LinkedSpan) (h : Option Handle)
    (sound : Sound config heap blocks) (unknown : h.bind heap.resolve = none) : OnlyCounts (Heap.free h) heap := by
  by_cases room : heap.metrics.freeCalls + 1 < Word.bound
  · exact ⟨_, congrArg Prod.snd (attempt_ok _ heap _ _ (free_ignored config heap blocks h sound room unknown))⟩
  · exact ⟨heap.metrics, congrArg Prod.snd (attempt_error _ heap heap _ (free_full heap h (Nat.le_of_not_lt room)))⟩

theorem move_refused (config : PoolConfig) (geometry : Geometry config) (heap : Heap) (blocks : List LinkedSpan) (h : Handle)
    (place : Place) (size : Nat) (sound : Sound config heap blocks) (member : place ∈ places config.headerOverhead 0 blocks)
    (known : heap.resolve h = some place.id) (grows : place.size < size)
    (slack : heap.metrics.resizeInPlace + heap.metrics.resizeMoved + heap.metrics.resizeFailures < heap.metrics.resizeCalls)
    (nothing : ((Heap.move h place.start place.size size).attempt heap).1 = .ok none) :
    OnlyCounts (Heap.move h place.start place.size size) heap := by
  cases move_cases config geometry heap blocks h place size sound member known grows slack with
  | uncounted _ _ goes => exact ⟨heap.metrics, congrArg Prod.snd goes⟩
  | refused _ _ goes _ => exact ⟨_, congrArg Prod.snd goes⟩
  | unreleased _ _ _ _ _ _ _ _ _ goes _ =>
      rw [goes] at nothing
      cases nothing
  | moved _ _ _ _ _ _ _ _ _ _ _ _ _ _ _ _ _ _ _ goes _ =>
      rw [goes] at nothing
      cases nothing

theorem resize_refused (config : PoolConfig) (geometry : Geometry config) (heap : Heap) (blocks : List LinkedSpan)
    (h : Option Handle) (size : Nat) (sound : Sound config heap blocks)
    (nothing : ((Heap.resize h size).attempt heap).1 = .ok none)
    (unfreed : ∀ k, h = some k → size = 0 → heap.resolve k = none) : OnlyCounts (Heap.resize h size) heap := by
  rcases resize_cases config geometry heap blocks h size sound with ⟨_, stopped⟩ | ⟨counted, outcome⟩
  · exact ⟨heap.metrics, congrArg Prod.snd stopped⟩
  · cases outcome with
    | allocates goes =>
        rw [goes] at nothing
        obtain ⟨metrics, left⟩ := alloc_refused config geometry (resizing heap) blocks size counted nothing
        exact ⟨metrics, (congrArg Prod.snd goes).trans left⟩
    | frees h zero goes =>
        obtain ⟨metrics, left⟩ := free_refused config (resizing heap) blocks (some h) counted (unfreed h rfl zero)
        exact ⟨metrics, (congrArg Prod.snd goes).trans left⟩
    | ignores h nonzero unknown goes => exact ⟨_, congrArg Prod.snd goes⟩
    | stays h place nonzero member known fits goes _ =>
        rw [goes] at nothing
        cases nothing
    | moves h place nonzero member known grows slack goes =>
        rw [goes] at nothing
        obtain ⟨metrics, left⟩ :=
          move_refused config geometry (resizing heap) blocks h place size counted member known grows slack nothing
        exact ⟨metrics, (congrArg Prod.snd goes).trans left⟩

theorem resize_unheld (config : PoolConfig) (geometry : Geometry config) (heap : Heap) (blocks : List LinkedSpan)
    (h : Handle) (size : Nat) (sound : Sound config heap blocks) (unknown : heap.resolve h = none) :
    OnlyCounts (Heap.resize (some h) size) heap := by
  rcases resize_cases config geometry heap blocks (some h) size sound with ⟨_, stopped⟩ | ⟨counted, outcome⟩
  · exact ⟨heap.metrics, congrArg Prod.snd stopped⟩
  · cases outcome with
    | frees _ zero goes =>
        obtain ⟨metrics, left⟩ := free_refused config (resizing heap) blocks (some h) counted unknown
        exact ⟨metrics, (congrArg Prod.snd goes).trans left⟩
    | ignores _ nonzero _ goes => exact ⟨_, congrArg Prod.snd goes⟩
    | stays _ place nonzero member known fits goes _ =>
        rw [unknown] at known
        cases known
    | moves _ place nonzero member known grows slack goes =>
        rw [unknown] at known
        cases known

theorem read_unreached (heap : Heap) (h : Handle) (offset len : Nat) (e : AccessError)
    (missed : heap.payloadRange h offset len = .ok (.error e)) : (Heap.read h offset len).attempt heap = (.ok (.error e), heap) :=
  attempt_ok _ heap _ _ (Eq.trans (query_bind _ _ heap _ missed) rfl)

theorem write_unreached (heap : Heap) (h : Handle) (offset : Nat) (data : List UInt8) (e : AccessError)
    (missed : heap.payloadRange h offset data.length = .ok (.error e)) :
    (Heap.write h offset data).attempt heap = (.ok (.error e), heap) :=
  attempt_ok _ heap _ _ (Eq.trans (query_bind _ _ heap _ missed) rfl)

theorem range_unknown (heap : Heap) (h : Handle) (offset len : Nat) (unknown : heap.resolve h = none) :
    heap.payloadRange h offset len = .ok (.error (.staleHandle h)) := by
  simp only [Heap.payloadRange, unknown]

-- Also if offset and length add up to more than a word holds.
theorem range_outside (config : PoolConfig) (geometry : Geometry config) (heap : Heap) (blocks : List LinkedSpan) (h : Handle)
    (offset len size : Nat) (sound : Sound config heap blocks) (shown : heap.usableSize h = .ok (some size))
    (outside : size < offset + len) : ∃ e, heap.payloadRange h offset len = .ok (.error e) := by
  rcases payload_range_cases config geometry heap blocks h offset len sound with
    ⟨e, _, missed⟩ | ⟨place, member, known, fits, _⟩
  · exact ⟨e, missed⟩
  · obtain ⟨before, after, rfl, _⟩ := place_block _ _ _ _ member
    have read := charted_header config heap.registry before after place.id _ sound.registry.charted
    simp only [Heap.usableSize, known, read] at shown
    cases shown
    exact absurd outside (Nat.not_lt.mpr fits)

theorem look_unknown {α : Type} (heap : Heap) (h : Handle) (look : (len : Nat) → Vector UInt8 len → α)
    (unknown : heap.resolve h = none) :
    (Heap.withPayload h look).attempt heap = (.ok (.error (.staleHandle h)), heap) := by
  apply attempt_ok
  simp only [Heap.withPayload, step_get_bind, unknown, step_pure]

theorem edit_unknown {α : Type} (heap : Heap) (h : Handle) (edit : PayloadEdit α) (unknown : heap.resolve h = none) :
    (Heap.editPayload h edit).attempt heap = (.ok (.error (.staleHandle h)), heap) := by
  apply attempt_ok
  simp only [Heap.editPayload, step_get_bind, unknown, step_pure]

theorem dead_unknown (pool : Pool) (heap : Heap) (h : Handle) (opened : pool.heap = some heap) (unknown : ¬ Live pool h) :
    heap.resolve h = none := by
  cases known : heap.resolve h with
  | none => rfl
  | some id => exact absurd ⟨heap, id, opened, known⟩ unknown

theorem shown_size (pool : Pool) (heap : Heap) (h : Handle) (size : Nat) (opened : pool.heap = some heap)
    (shown : ((Pool.usableSize h).attempt pool).1 = .ok (some size)) : heap.usableSize h = .ok (some size) := by
  obtain ⟨answer, _⟩ := on_heap_open none (Step.query fun heap => heap.usableSize h) pool heap opened
  rw [query_answer] at answer
  exact answer.symm.trans shown

theorem dead_work {α : Type} (config : PoolConfig) (geometry : Geometry config) (heap : Heap) (blocks : List LinkedSpan)
    (request : PoolRequest α) (h : Handle) (sound : Sound config heap blocks) (named : request.handle = some h)
    (unknown : heap.resolve h = none) : OnlyCounts request.work heap ∧ Declines request (request.work.attempt heap).1 := by
  cases request with
  | act call =>
      cases call with
      | free k =>
          cases named
          exact ⟨free_refused config heap blocks (some h) sound unknown, trivial⟩
      | resize k size =>
          cases named
          exact ⟨resize_unheld config geometry heap blocks h size sound unknown, trivial⟩
      | read k offset len =>
          cases named
          have ran := read_unreached heap h offset len _ (range_unknown heap h offset len unknown)
          exact ⟨⟨heap.metrics, congrArg Prod.snd ran⟩, _, congrArg Prod.fst ran⟩
      | write k offset data =>
          cases named
          have ran := write_unreached heap h offset data _ (range_unknown heap h offset data.length unknown)
          exact ⟨⟨heap.metrics, congrArg Prod.snd ran⟩, _, congrArg Prod.fst ran⟩
      | withPayload k look =>
          cases named
          have ran := look_unknown heap h look unknown
          exact ⟨⟨heap.metrics, congrArg Prod.snd ran⟩, _, congrArg Prod.fst ran⟩
      | editPayload k edit =>
          cases named
          have ran := edit_unknown heap h edit unknown
          exact ⟨⟨heap.metrics, congrArg Prod.snd ran⟩, _, congrArg Prod.fst ran⟩
      | usableSize k =>
          cases named
          refine ⟨⟨heap.metrics, query_same _ heap⟩, (query_answer (fun heap : Heap => heap.usableSize h) heap).trans ?_⟩
          simp only [Heap.usableSize, unknown]
          rfl
      | alloc size => cases named
      | deinit => cases named
  | locate k =>
      cases named
      refine ⟨⟨heap.metrics, query_same _ heap⟩, (query_answer (fun heap : Heap => heap.locate h) heap).trans ?_⟩
      simp only [Heap.locate, unknown]
      rfl
  | _ => cases named

theorem refused_goes_on {α : Type} (pool : Pool) (request : PoolRequest α) (refused : Refused pool request) :
    request ≠ .act .deinit := by
  rintro rfl
  cases refused with
  | dead _ h named _ => cases named

theorem refused_work {α : Type} (config : PoolConfig) (geometry : Geometry config) (pool : Pool) (heap : Heap)
    (blocks : List LinkedSpan) (request : PoolRequest α) (opened : pool.heap = some heap)
    (sound : Sound config heap blocks) (refused : Refused pool request) :
    OnlyCounts request.work heap ∧ Declines request (request.work.attempt heap).1 := by
  cases refused with
  | unserved size nothing =>
      have answer := (on_heap_open none (Heap.alloc size) pool heap opened).1
      exact ⟨alloc_refused config geometry heap blocks size sound (answer.symm.trans nothing), trivial⟩
  | unresized h size nothing unfreed =>
      have answer := (on_heap_open none (Heap.resize h size) pool heap opened).1
      refine ⟨resize_refused config geometry heap blocks h size sound (answer.symm.trans nothing) ?_, trivial⟩
      exact fun k same zero => dead_unknown pool heap k opened (unfreed k same zero)
  | nobody => exact ⟨free_refused config heap blocks none sound rfl, trivial⟩
  | dead request h named unknown =>
      exact dead_work config geometry heap blocks request h sound named (dead_unknown pool heap h opened unknown)
  | unreadable h offset len size shown outside =>
      obtain ⟨e, missed⟩ := range_outside config geometry heap blocks h offset len size sound
        (shown_size pool heap h size opened shown) outside
      have ran := read_unreached heap h offset len e missed
      exact ⟨⟨heap.metrics, congrArg Prod.snd ran⟩, e, congrArg Prod.fst ran⟩
  | unwritable h offset size data shown outside =>
      obtain ⟨e, missed⟩ := range_outside config geometry heap blocks h offset data.length size sound
        (shown_size pool heap h size opened shown) outside
      have ran := write_unreached heap h offset data e missed
      exact ⟨⟨heap.metrics, congrArg Prod.snd ran⟩, e, congrArg Prod.fst ran⟩

theorem absent_declines {α : Type} (request : PoolRequest α) : Declines request (.ok request.absent) := by
  cases request with
  | act call =>
      cases call with
      | read h offset len => exact ⟨_, rfl⟩
      | write h offset data => exact ⟨_, rfl⟩
      | withPayload h look => exact ⟨_, rfl⟩
      | editPayload h edit => exact ⟨_, rfl⟩
      | usableSize h => rfl
      | _ => trivial
  | locate h => rfl
  | _ => trivial

theorem refused_ignored {α : Type} (config : PoolConfig) (pool : Pool) (heap : Heap) (blocks : List LinkedSpan) (h : Option Handle)
    (opened : pool.heap = some heap) (sound : Sound config heap blocks) (refused : Refused pool (.act (.free h) : PoolRequest α))
    (room : heap.metrics.freeCalls + 1 < Word.bound) :
    ((PoolRequest.act (.free h) : PoolRequest α).after pool).heap = some { heap with metrics := heap.metrics.ignoring } := by
  have unknown : h.bind heap.resolve = none := by
    cases refused with
    | nobody => rfl
    | dead _ k named unknown =>
        cases (show h = some k from named)
        exact dead_unknown pool heap k opened unknown
  obtain ⟨_, left⟩ := on_heap_open () (Heap.free h) pool heap opened
  rw [attempt_ok _ heap _ _ (free_ignored config heap blocks h sound room unknown)] at left
  exact left

theorem refused_untouched {α : Type} (config : PoolConfig) (geometry : Geometry config) (pool : Pool) (request : PoolRequest α)
    (maintained : Maintained config pool) (refused : Refused pool request) : Untouched pool request := by
  have going := refused_goes_on pool request refused
  have next := request_kept config geometry request pool maintained
  cases opened : pool.heap with
  | none =>
      obtain ⟨answer, closed⟩ := request_closed request pool opened
      have same : SameButCounts pool (request.after pool) := .inl ⟨opened, closed⟩
      refine ⟨same, ?_, fun later => pools_echo config geometry later _ _ same maintained next, ?_⟩
      · rw [answer]
        exact absent_declines request
      · intro h heap _ impossible
        rw [opened] at impossible
        cases impossible
  | some heap =>
      obtain ⟨blocks, sound⟩ := maintained heap opened
      obtain ⟨answer, left⟩ := request_open request going pool heap opened
      obtain ⟨⟨metrics, counted⟩, declined⟩ := refused_work config geometry pool heap blocks request opened sound refused
      rw [counted] at left
      have same : SameButCounts pool (request.after pool) := .inr ⟨heap, metrics, opened, left⟩
      refine ⟨same, ?_, fun later => pools_echo config geometry later _ _ same maintained next, ?_⟩
      · rw [answer]
        exact declined
      · intro h heap' free opened' room
        subst free
        rw [opened] at opened'
        cases opened'
        exact refused_ignored config pool heap blocks h opened sound refused room

theorem requests_recorded {α : Type} (config : PoolConfig) (geometry : Geometry config)
    (before after : List (PoolRequest α)) (pool : Pool) (room : RoomAlong pool (before ++ after))
    (maintained : Maintained config pool) (recorded : ∀ heap, pool.heap = some heap → Recorded heap.handles) :
    RoomAlong (afterRequests before pool) after ∧ ∀ heap, (afterRequests before pool).heap = some heap →
      Recorded heap.handles := by
  induction before generalizing pool with
  | nil => exact ⟨room, recorded⟩
  | cons request rest ih =>
      obtain ⟨here, along⟩ := room
      refine ih (request.after pool) along (request_kept config geometry request pool maintained) ?_
      intro next left
      obtain ⟨heap, opened, _, rfl⟩ := request_left request pool next left
      obtain ⟨blocks, sound⟩ := maintained heap opened
      obtain ⟨blocks', passage⟩ := request_passage config geometry heap blocks request sound (here heap opened)
      exact continues_recorded _ _ passage.continues (recorded heap opened)

theorem refusals_change_nothing {α : Type} (config : PoolConfig) (valid : config.Valid) (counter : PoolCounter) :
    ∃ pool next, Pool.init config counter = .ok (.ok pool) next ∧
      (∀ (requests : List (PoolRequest α)) (request : PoolRequest α), Refused (afterRequests requests pool) request →
        Untouched (afterRequests requests pool) request) ∧
      ∀ (before : List (PoolRequest α)) (request : PoolRequest α) (h : Handle) (rest : List (PoolRequest α)),
        RoomAlong pool (before ++ request :: rest) → HandsOut request (afterRequests before pool) h →
          ∃ info, ((Pool.locate h).attempt (request.after (afterRequests before pool))).1 = .ok (some info) ∧
            (releasedFor h (request.after (afterRequests before pool)) rest = [] ∨
              releasedFor h (request.after (afterRequests before pool)) rest = [info]) := by
  have geometry := valid_geometry config valid
  obtain ⟨pool, next, heap, made, opened, _, _, handles, _, sound⟩ := init_pool config valid counter
  have maintained := sound_maintained config pool heap _ opened sound
  have recorded : ∀ heap, pool.heap = some heap → Recorded heap.handles := by
    intro heap' opened'
    rw [opened] at opened'
    cases opened'
    rw [handles]
    exact ⟨[], empty_ledger pool.id⟩
  refine ⟨pool, next, made, fun requests request refused => ?_, fun before request h rest room handed => ?_⟩
  · exact refused_untouched config geometry _ request (requests_kept config geometry requests pool maintained) refused
  · obtain ⟨⟨here, along⟩, recorded'⟩ :=
      requests_recorded config geometry before (request :: rest) pool room maintained recorded
    have kept := requests_kept config geometry before pool maintained
    obtain ⟨place, keeps, located⟩ := handed_out_keeps config geometry request _ h here kept recorded' handed
    exact ⟨_, located, kept_releases_once config geometry rest _ h place along
      (request_kept config geometry request _ kept) keeps⟩

theorem refusals_change_nothing_unaligned :
    (PoolConfig.mk 101 0 8 .firstFit false).Valid ∧
      ∃ pool next, Pool.init (PoolConfig.mk 101 0 8 .firstFit false) ⟨7⟩ = .ok (.ok pool) next ∧
        Untouched (afterRequests ([.act (.alloc 5)] : List (PoolRequest Unit)) pool)
          (.act (.resize (some ⟨⟨7⟩, 0, 0⟩) Word.greatest) : PoolRequest Unit) ∧
        ∃ info,
          ((Pool.locate ⟨⟨7⟩, 0, 0⟩).attempt ((PoolRequest.act (.alloc 5) : PoolRequest Unit).after pool)).1 =
            .ok (some info) ∧
          (releasedFor ⟨⟨7⟩, 0, 0⟩ ((PoolRequest.act (.alloc 5) : PoolRequest Unit).after pool)
              ([.act (.free (some ⟨⟨7⟩, 0, 0⟩)), .act (.alloc 5), .act (.free (some ⟨⟨7⟩, 0, 0⟩))] :
                List (PoolRequest Unit)) = [] ∨
            releasedFor ⟨⟨7⟩, 0, 0⟩ ((PoolRequest.act (.alloc 5) : PoolRequest Unit).after pool)
              ([.act (.free (some ⟨⟨7⟩, 0, 0⟩)), .act (.alloc 5), .act (.free (some ⟨⟨7⟩, 0, 0⟩))] :
                List (PoolRequest Unit)) = [info]) := by
  have valid : (PoolConfig.mk 101 0 8 .firstFit false).Valid := by rfl
  obtain ⟨pool, next, made, refusals, releases⟩ :=
    @refusals_change_nothing Unit (PoolConfig.mk 101 0 8 .firstFit false) valid ⟨7⟩
  refine ⟨valid, pool, next, made, refusals _ _ (.unresized _ _ ?_ ?_), releases [] _ _ _ ?_ ?_⟩
  · cases made
    rfl
  · exact fun _ _ zero => absurd zero (by decide)
  · cases made
    refine ⟨?_, ?_, ?_, ?_, ?_⟩ <;>
    · intro heap opened
      cases opened
      decide
  · cases made
    exact ⟨_, rfl, rfl⟩

end BlockPool
