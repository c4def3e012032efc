import BlockPool.Proofs.HeapAgreement
import BlockPool.Proofs.HeapViews
import BlockPool.Proofs.PoolRequests

set_option autoImplicit false

namespace BlockPool

open Heap

-- One more call of each kind can be counted. All other counters stay behind these three.
structure CountersOpen (m : PoolMetrics) : Prop where
  allocs : m.allocCalls + 1 < Word.bound
  frees : m.freeCalls + 1 < Word.bound
  resizes : m.resizeCalls + 1 < Word.bound

def Answers {α : Type} (step : Step Heap α) (heap : Heap) : Prop := ∃ answer, (step.attempt heap).1 = .ok answer

theorem alloc_answers (config : PoolConfig) (geometry : Geometry config) (heap : Heap) (blocks : List LinkedSpan) (size : Nat)
    (sound : Sound config heap blocks) (room : heap.metrics.allocCalls + 1 < Word.bound) : Answers (Heap.alloc size) heap := by
  rcases alloc_block_cases config geometry heap blocks size sound with
    ⟨full, _⟩ | ⟨_, refused, _⟩ | ⟨_, _, _, _, _, _, next, _, served⟩
  · exact absurd room (Nat.not_lt.mpr full)
  · exact ⟨_, congrArg Prod.fst (attempt_ok _ heap _ _ (alloc_ran heap _ size _ refused))⟩
  · exact ⟨_, congrArg Prod.fst (attempt_ok _ heap _ _ (alloc_ran heap next size _ served.ran))⟩

theorem free_answers (config : PoolConfig) (geometry : Geometry config) (heap : Heap) (blocks : List LinkedSpan) (h : Option Handle)
    (sound : Sound config heap blocks) (room : heap.metrics.freeCalls + 1 < Word.bound) : Answers (Heap.free h) heap := by
  rcases free_cases config geometry heap blocks h sound with
    ⟨full, _⟩ | ⟨_, ignored, _⟩ | ⟨_, _, _, _, _, _, _, _, _, _, next, rfl, _, freed⟩
  · exact absurd room (Nat.not_lt.mpr full)
  · exact ⟨_, congrArg Prod.fst (attempt_ok _ heap _ _ ignored)⟩
  · exact ⟨_, congrArg Prod.fst (attempt_ok _ heap next _ freed.ran)⟩

-- A move counts one allocation and one release, so it is not stopped half-way.
theorem move_answers (config : PoolConfig) (geometry : Geometry config) (heap : Heap) (blocks : List LinkedSpan) (h : Handle)
    (place : Place) (size : Nat) (sound : Sound config heap blocks) (member : place ∈ places config.headerOverhead 0 blocks)
    (known : heap.resolve h = some place.id) (grows : place.size < size)
    (slack : heap.metrics.resizeInPlace + heap.metrics.resizeMoved + heap.metrics.resizeFailures < heap.metrics.resizeCalls)
    (allocs : heap.metrics.allocCalls + 1 < Word.bound) (frees : heap.metrics.freeCalls + 1 < Word.bound) :
    Answers (Heap.move h place.start place.size size) heap := by
  cases move_cases config geometry heap blocks h place size sound member known grows slack with
  | uncounted _ full goes => exact absurd allocs (Nat.not_lt.mpr full)
  | refused _ unserved goes after => exact ⟨_, congrArg Prod.fst goes⟩
  | unreleased _ _ _ _ _ _ _ served full goes filled => exact absurd frees (Nat.not_lt.mpr full)
  | moved _ _ _ _ _ _ _ _ _ _ _ _ _ _ _ _ served filled freed goes after => exact ⟨_, congrArg Prod.fst goes⟩

theorem resize_answers (config : PoolConfig) (geometry : Geometry config) (heap : Heap) (blocks : List LinkedSpan)
    (h : Option Handle) (size : Nat) (sound : Sound config heap blocks) (room : CountersOpen heap.metrics) :
    Answers (Heap.resize h size) heap := by
  rcases resize_cases config geometry heap blocks h size sound with ⟨full, _⟩ | ⟨counted, outcome⟩
  · exact absurd room.resizes (Nat.not_lt.mpr full)
  · cases outcome with
    | allocates goes =>
        obtain ⟨answer, answered⟩ := alloc_answers config geometry (resizing heap) blocks size counted room.allocs
        exact ⟨answer, (congrArg Prod.fst goes).trans answered⟩
    | frees h zero goes =>
        obtain ⟨answer, answered⟩ := free_answers config geometry (resizing heap) blocks (some h) counted room.frees
        rw [answered] at goes
        exact ⟨none, congrArg Prod.fst goes⟩
    | ignores h nonzero unknown goes => exact ⟨_, congrArg Prod.fst goes⟩
    | stays h place nonzero member known fits goes kept => exact ⟨_, congrArg Prod.fst goes⟩
    | moves h place nonzero member known grows slack goes =>
        obtain ⟨answer, answered⟩ :=
          move_answers config geometry (resizing heap) blocks h place size counted member known grows slack
          room.allocs room.frees
        exact ⟨answer, (congrArg Prod.fst goes).trans answered⟩

theorem read_answers (config : PoolConfig) (geometry : Geometry config) (heap : Heap) (blocks : List LinkedSpan) (h : Handle)
    (offset len : Nat) (sound : Sound config heap blocks) : Answers (Heap.read h offset len) heap := by
  obtain ⟨_, agrees⟩ := read_agrees config geometry heap blocks h offset len sound
  cases reached : reach (contents heap) h offset len with
  | error e =>
      rw [reached] at agrees
      exact ⟨_, agrees⟩
  | ok bytes =>
      rw [reached] at agrees
      obtain ⟨found, answered, _⟩ := agrees
      exact ⟨_, answered⟩

theorem write_answers (config : PoolConfig) (geometry : Geometry config) (heap : Heap) (blocks : List LinkedSpan) (h : Handle)
    (offset : Nat) (data : List UInt8) (sound : Sound config heap blocks) : Answers (Heap.write h offset data) heap := by
  have agrees := write_agrees config geometry heap blocks h offset data sound
  simp only [WriteAgrees] at agrees
  cases reached : reach (contents heap) h offset data.length with
  | error e =>
      rw [reached] at agrees
      exact ⟨_, agrees.1⟩
  | ok bytes =>
      rw [reached] at agrees
      exact ⟨_, agrees.1⟩

theorem look_answers {α : Type} (config : PoolConfig) (geometry : Geometry config) (heap : Heap)
    (blocks : List LinkedSpan) (h : Handle) (look : (len : Nat) → Vector UInt8 len → α)
    (sound : Sound config heap blocks) : Answers (Heap.withPayload h look) heap := by
  obtain ⟨_, agrees⟩ := look_agrees config geometry heap blocks h look sound
  cases held : contents heap h with
  | none =>
      rw [held] at agrees
      exact ⟨_, agrees⟩
  | some bytes =>
      rw [held] at agrees
      exact ⟨_, agrees⟩

def Gentle {α : Type} (edit : PayloadEdit α) : Prop := ∀ len bytes, ∃ value changed, edit len bytes = .ok value changed

theorem edit_answers {α : Type} (config : PoolConfig) (geometry : Geometry config) (heap : Heap)
    (blocks : List LinkedSpan) (h : Handle) (edit : PayloadEdit α) (gentle : Gentle edit)
    (sound : Sound config heap blocks) : Answers (Heap.editPayload h edit) heap := by
  have agrees := edit_agrees config geometry heap blocks h edit sound
  simp only [EditAgrees] at agrees
  cases held : contents heap h with
  | none =>
      rw [held] at agrees
      exact ⟨_, agrees.1⟩
  | some bytes =>
      obtain ⟨value, changed, ended⟩ := gentle bytes.length (lend bytes)
      simp only [held, ended] at agrees
      exact ⟨_, agrees.1⟩

theorem locate_answers (config : PoolConfig) (geometry : Geometry config) (heap : Heap) (blocks : List LinkedSpan) (h : Handle)
    (sound : Sound config heap blocks) : ∃ answer, heap.locate h = .ok answer := by
  cases known : heap.resolve h with
  | none => exact ⟨none, by simp only [Heap.locate, known]⟩
  | some id =>
      obtain ⟨place, member, rfl⟩ := sound_resolves config heap blocks h id sound known
      exact ⟨_, locate_place config geometry heap blocks h place sound member known⟩

def PoolRequest.Gentle {α : Type} : PoolRequest α → Prop
  | .act (.editPayload _ edit) => BlockPool.Gentle edit
  | _ => True

theorem work_answers {α : Type} (config : PoolConfig) (geometry : Geometry config) (heap : Heap) (blocks : List LinkedSpan)
    (request : PoolRequest α) (gentle : request.Gentle) (sound : Sound config heap blocks) (room : CountersOpen heap.metrics) :
    Answers request.work heap := by
  cases request with
  | act call =>
      cases call with
      | alloc size => exact alloc_answers config geometry heap blocks size sound room.allocs
      | free h => exact free_answers config geometry heap blocks h sound room.frees
      | resize h size => exact resize_answers config geometry heap blocks h size sound room
      | read h offset len => exact read_answers config geometry heap blocks h offset len sound
      | write h offset data => exact write_answers config geometry heap blocks h offset data sound
      | withPayload h look => exact look_answers config geometry heap blocks h look sound
      | editPayload h edit => exact edit_answers config geometry heap blocks h edit gentle sound
      | usableSize h =>
          exact ⟨_, congrArg Prod.fst (attempt_ok _ heap heap _ (usable_size_agrees config geometry heap blocks h sound))⟩
      | deinit => exact ⟨(), rfl⟩
  | locate h =>
      obtain ⟨answer, located⟩ := locate_answers config geometry heap blocks h sound
      exact ⟨answer, (query_answer _ heap).trans located⟩
  | usage =>
      refine ⟨some (usageOf config (spansOf blocks)),
        (query_answer (fun heap : Heap => heap.registry.usage.map some) heap).trans ?_⟩
      rw [settled_usage config geometry heap.registry blocks sound.registry]
      rfl
  | blocks =>
      exact ⟨_,
        (query_answer _ heap).trans (charted_blocks config geometry heap.registry blocks sound.registry.charted)⟩
  | checkInvariants => exact ⟨_, (query_answer _ heap).trans (sound_check config geometry heap blocks sound)⟩
  | liveAllocations => exact ⟨heap.handles.live, rfl⟩
  | isInitialized => exact ⟨true, rfl⟩

theorem request_answers {α : Type} (config : PoolConfig) (geometry : Geometry config) (pool : Pool) (request : PoolRequest α)
    (gentle : request.Gentle) (maintained : Maintained config pool)
    (room : ∀ heap, pool.heap = some heap → CountersOpen heap.metrics) :
    ∃ answer, (request.perform.attempt pool).1 = .ok answer := by
  cases opened : pool.heap with
  | none => exact ⟨_, (request_closed request pool opened).1⟩
  | some heap =>
      by_cases closing : request = .act .deinit
      · subst closing
        exact ⟨(), (deinit_closes pool).1⟩
      · obtain ⟨blocks, sound⟩ := maintained heap opened
        obtain ⟨answer, answered⟩ := work_answers config geometry heap blocks request gentle sound (room heap opened)
        exact ⟨answer, (request_open request closing pool heap opened).1.trans answered⟩

theorem no_request_aborts {α : Type} (config : PoolConfig) (valid : config.Valid) (counter : PoolCounter) :
    ∃ pool next, Pool.init config counter = .ok (.ok pool) next ∧
      ∀ (requests : List (PoolRequest α)) (request : PoolRequest α), request.Gentle →
        (∀ heap, (afterRequests requests pool).heap = some heap → CountersOpen heap.metrics) →
          ∃ answer, (request.perform.attempt (afterRequests requests pool)).1 = .ok answer := by
  have geometry := valid_geometry config valid
  obtain ⟨pool, next, heap, made, opened, _, _, _, _, sound⟩ := init_pool config valid counter
  have maintained := sound_maintained config pool heap _ opened sound
  refine ⟨pool, next, made, fun requests request gentle room => ?_⟩
  exact request_answers config geometry _ request gentle (requests_kept config geometry requests pool maintained) room

theorem no_request_aborts_unaligned :
    (PoolConfig.mk 101 0 8 .firstFit false).Valid ∧
      ∃ pool next, Pool.init (PoolConfig.mk 101 0 8 .firstFit false) ⟨7⟩ = .ok (.ok pool) next ∧
        ∃ answer, ((PoolRequest.act (.resize (some ⟨⟨7⟩, 0, 0⟩) Word.greatest) : PoolRequest Unit).perform.attempt
          (afterRequests ([.act (.alloc 5), .act (.alloc 90), .blocks, .act (.free (some ⟨⟨7⟩, 1, 0⟩))] :
            List (PoolRequest Unit)) pool)).1 = .ok answer := by
  have valid : (PoolConfig.mk 101 0 8 .firstFit false).Valid := by rfl
  obtain ⟨pool, next, made, answers⟩ := @no_request_aborts Unit (PoolConfig.mk 101 0 8 .firstFit false) valid ⟨7⟩
  refine ⟨valid, pool, next, made, answers _ _ trivial fun heap opened => ?_⟩
  cases made
  cases opened
  exact ⟨by decide, by decide, by decide⟩

end BlockPool
