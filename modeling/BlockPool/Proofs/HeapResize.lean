import BlockPool.Proofs.HeapRelease

set_option autoImplicit false

namespace BlockPool

open Heap

def resizing (heap : Heap) : Heap := { heap with metrics := { heap.metrics with resizeCalls := heap.metrics.resizeCalls + 1 } }

def inPlace (heap : Heap) : Heap :=
  { resizing heap with metrics := { (resizing heap).metrics with resizeInPlace := heap.metrics.resizeInPlace + 1 } }

theorem resizing_sound (config : PoolConfig) (heap : Heap) (blocks : List LinkedSpan) (sound : Sound config heap blocks)
    (room : heap.metrics.resizeCalls + 1 < Word.bound) : Sound config (resizing heap) blocks := by
  obtain ⟨⟨allocs, frees, _⟩, balance, ignored, splits, blockCount, resizes, failures, moved⟩ := sound.tallied
  refine sound_metrics config heap blocks _ sound
    ⟨⟨allocs, frees, room⟩, balance, ignored, splits, blockCount, Nat.le_succ_of_le resizes, failures, moved⟩

theorem resizing_run (heap : Heap) (room : heap.metrics.resizeCalls + 1 < Word.bound) :
    tally (fun m => do return { m with resizeCalls := ← Word.add m.resizeCalls 1 }) heap = .ok () (resizing heap) :=
  tally_ok heap (·.resizeCalls) (fun m n => { m with resizeCalls := n }) 1 room

theorem resize_full (heap : Heap) (h : Option Handle) (size : Nat) (full : Word.bound ≤ heap.metrics.resizeCalls + 1) :
    Heap.resize h size heap = .error .overflow heap := by
  unfold Heap.resize
  exact step_bind_error _ _ _ _ _ (tally_full heap (·.resizeCalls) (fun m n => { m with resizeCalls := n }) 1 full)

theorem resize_without_handle (heap : Heap) (size : Nat) (room : heap.metrics.resizeCalls + 1 < Word.bound) :
    Heap.resize none size heap = Heap.alloc size (resizing heap) := by
  unfold Heap.resize
  exact step_bind_ok _ _ _ _ _ (resizing_run heap room)

theorem resize_to_zero (heap : Heap) (h : Handle) (room : heap.metrics.resizeCalls + 1 < Word.bound) :
    Heap.resize (some h) 0 heap = (Heap.free (some h) >>= fun _ => pure none) (resizing heap) := by
  unfold Heap.resize
  exact step_bind_ok _ _ _ _ _ (resizing_run heap room)

theorem resize_unknown (heap : Heap) (h : Handle) (size : Nat) (room : heap.metrics.resizeCalls + 1 < Word.bound)
    (nonzero : size ≠ 0) (unknown : heap.resolve h = none) : Heap.resize (some h) size heap = .ok none (resizing heap) := by
  have still : (resizing heap).resolve h = none := unknown
  unfold Heap.resize
  refine Eq.trans (step_bind_ok _ _ _ _ _ (resizing_run heap room)) ?_
  simp only [if_neg nonzero, step_get_bind, still, step_pure]

theorem resize_known (config : PoolConfig) (geometry : Geometry config) (heap : Heap) (blocks : List LinkedSpan) (h : Handle)
    (place : Place) (size : Nat) (sound : Sound config heap blocks) (room : heap.metrics.resizeCalls + 1 < Word.bound)
    (nonzero : size ≠ 0) (member : place ∈ places config.headerOverhead 0 blocks) (known : heap.resolve h = some place.id) :
    Heap.resize (some h) size heap =
      if size ≤ place.size then
        .ok (some h) (inPlace heap)
      else Heap.move h place.start place.size size (resizing heap) := by
  have still : (resizing heap).resolve h = some place.id := known
  have read : (resizing heap).registry.payload place.id = .ok (place.start, place.size) :=
    charted_payload config geometry heap.registry blocks sound.registry.charted place member
  have slack : (resizing heap).metrics.resizeInPlace + 1 < Word.bound := by
    have resizes := sound.tallied.resizes
    simp only [resizing]
    omega
  unfold Heap.resize
  refine Eq.trans (step_bind_ok _ _ _ _ _ (resizing_run heap room)) ?_
  simp only [if_neg nonzero, step_get_bind, still]
  refine Eq.trans (query_bind _ _ _ _ read) ?_
  by_cases fits : size ≤ place.size
  · simp only [if_pos fits]
    exact step_bind_ok _ _ _ _ _ (tally_ok _ (·.resizeInPlace) (fun m n => { m with resizeInPlace := n }) 1 slack)
  · simp only [if_neg fits]

theorem in_place_sound (config : PoolConfig) (heap : Heap) (blocks : List LinkedSpan) (sound : Sound config heap blocks)
    (room : heap.metrics.resizeCalls + 1 < Word.bound) : Sound config (inPlace heap) blocks := by
  obtain ⟨⟨allocs, frees, _⟩, balance, ignored, splits, blockCount, resizes, failures, moved⟩ := sound.tallied
  refine sound_metrics config (resizing heap) blocks _ (resizing_sound config heap blocks sound room)
    ⟨⟨allocs, frees, room⟩, balance, ignored, splits, blockCount, ?_, failures, moved⟩
  simp only [resizing]
  omega

def copied (served : Heap) (place target : Place) : Heap :=
  { served with arena := ⟨Arena.overwrite served.arena.bytes target.start (segment served.arena.bytes place.start place.size)⟩ }

theorem copied_sound (config : PoolConfig) (served : Heap) (blocks : List LinkedSpan) (place target : Place)
    (sound : Sound config served blocks) : Sound config (copied served place target) blocks :=
  sound_arena config _ _ _ sound (overwrite_size _ _ _)

theorem served_taken (config : PoolConfig) (geometry : Geometry config) (heap next : Heap) (size whole : Nat)
    (before after : List LinkedSpan) (id created : BlockId) (h : Handle)
    (served : Served config heap size before after id created whole h next) :
    size ≤ (config.takenPlace size whole before id).size := by
  have holds := round_up_holds config geometry size
  have enough := served.enough
  simp only [PoolConfig.takenPlace, takenSize]
  split <;> omega

theorem copy_served (config : PoolConfig) (geometry : Geometry config) (heap next : Heap) (size whole : Nat) (place : Place)
    (before after : List LinkedSpan) (id created : BlockId) (h : Handle)
    (served : Served config heap size before after id created whole h next)
    (member : place ∈ places config.headerOverhead 0 (before ++ (id, ⟨whole, true⟩) :: after)) (grows : place.size < size) :
    onArena (Arena.copy place.start (config.takenPlace size whole before id).start place.size) next =
      .ok () (copied next place (config.takenPlace size whole before id)) := by
  have taken := served_taken config geometry heap next size whole before after id created h served
  have kept := taken_kept config size whole before after id created place member
  have source := place_in_arena config next.registry _ served.sound.registry.charted place kept
  have target := place_in_arena config next.registry _ served.sound.registry.charted _
    (taken_member config size whole before after id created)
  apply on_arena_ok
  apply copy_run
  · rw [served.sound.arena]
    omega
  · rw [served.sound.arena]
    omega

theorem served_payload (config : PoolConfig) (geometry : Geometry config) (heap next : Heap) (size whole : Nat)
    (before after : List LinkedSpan) (id created : BlockId) (h : Handle)
    (served : Served config heap size before after id created whole h next) :
    next.registry.payload id =
      .ok ((config.takenPlace size whole before id).start, (config.takenPlace size whole before id).size) :=
  charted_payload config geometry next.registry _ served.sound.registry.charted _
    (taken_member config size whole before after id created)

theorem served_keeps (config : PoolConfig) (geometry : Geometry config) (heap next : Heap) (size whole : Nat)
    (before after : List LinkedSpan) (id created other : BlockId) (h k : Handle)
    (sound : Sound config heap (before ++ (id, ⟨whole, true⟩) :: after))
    (served : Served config heap size before after id created whole h next) (known : heap.resolve k = some other) :
    next.resolve k = some other :=
  insert_keeps heap.handles id other sound.handles (sound_live config geometry heap _ sound) h k next.handles served.issued known

def PoolMetrics.refusedMove (m : PoolMetrics) (size : Nat) : PoolMetrics :=
  { m.refused size with resizeFailures := (m.refused size).resizeFailures + 1 }

def PoolMetrics.moved (m : PoolMetrics) : PoolMetrics := { m with resizeMoved := m.resizeMoved + 1 }

theorem move_unserved (config : PoolConfig) (geometry : Geometry config) (heap : Heap) (blocks : List LinkedSpan)
    (h : Handle) (start len size : Nat) (sound : Sound config heap blocks)
    (room : heap.metrics.allocCalls + 1 < Word.bound) (nonzero : size ≠ 0) (unserved : Unserved config size blocks)
    (slack : heap.metrics.resizeInPlace + heap.metrics.resizeMoved + heap.metrics.resizeFailures <
      heap.metrics.resizeCalls) :
    Heap.move h start len size heap = .ok none { heap with metrics := heap.metrics.refusedMove size } ∧
      Sound config { heap with metrics := heap.metrics.refusedMove size } blocks := by
  have refused := alloc_block_unserved config geometry heap blocks size sound room unserved
  obtain ⟨⟨allocs, frees, resizes⟩, balance, ignored, splits, blockCount, outcomes, failures, moved⟩ :=
    refused_tallied _ _ _ size sound.tallied room
  have same : (heap.metrics.refused size).resizeFailures = heap.metrics.resizeFailures ∧
      (heap.metrics.refused size).allocFailures = heap.metrics.allocFailures + 1 ∧
      (heap.metrics.refused size).resizeInPlace = heap.metrics.resizeInPlace ∧
      (heap.metrics.refused size).resizeMoved = heap.metrics.resizeMoved ∧
      (heap.metrics.refused size).resizeCalls = heap.metrics.resizeCalls := by
    unfold PoolMetrics.refused
    rw [if_neg nonzero]
    exact ⟨rfl, rfl, rfl, rfl, rfl⟩
  obtain ⟨sameFailures, moreFailures, sameInPlace, sameMoved, sameCalls⟩ := same
  have earlier := sound.tallied.failures
  have counted : (heap.metrics.refused size).resizeFailures + 1 < Word.bound := by omega
  refine ⟨?_, ?_⟩
  · unfold Heap.move
    refine Eq.trans (step_bind_ok _ _ _ _ _ refused) ?_
    exact step_bind_ok _ _ _ _ _ (tally_ok _ (·.resizeFailures) (fun m n => { m with resizeFailures := n }) 1 counted)
  · refine sound_metrics config heap blocks _ sound ⟨⟨allocs, frees, resizes⟩, balance, ignored, splits,
      blockCount, ?_, ?_, moved⟩
    · simp only [PoolMetrics.refusedMove]
      omega
    · simp only [PoolMetrics.refusedMove]
      omega

theorem move_served (config : PoolConfig) (geometry : Geometry config) (heap next : Heap) (h : Handle) (size whole : Nat)
    (place : Place) (before after : List LinkedSpan) (id created : BlockId) (n : Handle)
    (served : Served config heap size before after id created whole n next)
    (member : place ∈ places config.headerOverhead 0 (before ++ (id, ⟨whole, true⟩) :: after))
    (grows : place.size < size) :
    Heap.move h place.start place.size size heap =
      (do
        Heap.free (some h)
        tally fun m => return { m with resizeMoved := ← Word.add m.resizeMoved 1 }
        return some n : Step Heap (Option Handle))
        (copied next place (config.takenPlace size whole before id)) := by
  unfold Heap.move
  refine Eq.trans (step_bind_ok _ _ _ _ _ served.ran) ?_
  refine Eq.trans (query_bind _ _ _ _ (served_payload config geometry heap next size whole before after id created n served)) ?_
  exact step_bind_ok _ _ _ _ _
    (copy_served config geometry heap next size whole place before after id created n served member grows)

theorem move_released (config : PoolConfig) (heap freed : Heap) (h n : Handle) (blocks before after ahead behind : List LinkedSpan)
    (id survivor : BlockId) (size whole merges : Nat) (sound : Sound config heap blocks)
    (slack : heap.metrics.resizeInPlace + heap.metrics.resizeMoved + heap.metrics.resizeFailures < heap.metrics.resizeCalls)
    (frees : Freed config heap h before after ahead behind id survivor size whole merges freed) :
    (do
      Heap.free (some h)
      tally fun m => return { m with resizeMoved := ← Word.add m.resizeMoved 1 }
      return some n : Step Heap (Option Handle)) heap =
      .ok (some n) { freed with metrics := freed.metrics.moved } ∧
    Sound config { freed with metrics := freed.metrics.moved }
      (ahead ++ (survivor, ⟨whole, true⟩) :: behind) := by
  have metrics := frees.metrics
  obtain ⟨calls, balance, ignored, splits, blockCount, _, failures, moved⟩ := frees.sound.tallied
  have earlier := sound.tallied.moved
  have inBounds := sound.tallied.calls
  simp only [metrics, PoolMetrics.released] at calls balance ignored splits blockCount failures moved
  have counted : freed.metrics.resizeMoved + 1 < Word.bound := by
    simp only [metrics, PoolMetrics.released]
    omega
  refine ⟨?_, sound_metrics config freed _ _ frees.sound ⟨?_, ?_, ?_, ?_, ?_, ?_, ?_, ?_⟩⟩
  · refine Eq.trans (step_bind_ok _ _ _ _ _ frees.ran) ?_
    exact step_bind_ok _ _ _ _ _ (tally_ok freed (·.resizeMoved) (fun m n => { m with resizeMoved := n }) 1 counted)
  all_goals
    simp only [PoolMetrics.moved, metrics, PoolMetrics.released]
    omega

theorem move_full (heap : Heap) (h : Handle) (start len size : Nat) (full : Word.bound ≤ heap.metrics.allocCalls + 1) :
    Heap.move h start len size heap = .error .overflow heap := by
  unfold Heap.move
  exact step_bind_error _ _ _ _ _ (alloc_block_full heap size full)

-- What a move comes to. It may stop between the copy and the release of the old block.
inductive Moved (config : PoolConfig) (heap : Heap) (h : Handle) (place : Place) (size : Nat) : List LinkedSpan → Prop where
  | uncounted (blocks : List LinkedSpan) (full : Word.bound ≤ heap.metrics.allocCalls + 1)
      (goes : (Heap.move h place.start place.size size).attempt heap = (.error .overflow, heap)) :
        Moved config heap h place size blocks
  | refused (blocks : List LinkedSpan) (unserved : Unserved config size blocks)
      (goes : (Heap.move h place.start place.size size).attempt heap =
        (.ok none, { heap with metrics := heap.metrics.refusedMove size }))
      (sound : Sound config { heap with metrics := heap.metrics.refusedMove size } blocks) : Moved config heap h place size blocks
  | unreleased (before after : List LinkedSpan) (id created : BlockId) (whole : Nat) (n : Handle) (next : Heap)
      (served : Served config heap size before after id created whole n next) (full : Word.bound ≤ heap.metrics.freeCalls + 1)
      (goes : (Heap.move h place.start place.size size).attempt heap =
        (.error .overflow, copied next place (config.takenPlace size whole before id)))
      (sound : Sound config (copied next place (config.takenPlace size whole before id))
        (config.takenBlocks size whole before after id created)) :
      Moved config heap h place size (before ++ (id, ⟨whole, true⟩) :: after)
  | moved (before after before' after' ahead behind : List LinkedSpan) (id created survivor : BlockId)
      (whole size' whole' merges : Nat)
      (n : Handle) (next freed : Heap) (served : Served config heap size before after id created whole n next)
      (filled : Sound config (copied next place (config.takenPlace size whole before id))
        (before' ++ (place.id, ⟨size', false⟩) :: after'))
      (frees : Freed config (copied next place (config.takenPlace size whole before id)) h before' after' ahead
        behind place.id survivor
        size' whole' merges freed)
      (goes : (Heap.move h place.start place.size size).attempt heap =
        (.ok (some n), { freed with metrics := freed.metrics.moved }))
      (sound : Sound config { freed with metrics := freed.metrics.moved } (ahead ++ (survivor, ⟨whole', true⟩) :: behind)) :
      Moved config heap h place size (before ++ (id, ⟨whole, true⟩) :: after)

theorem move_cases (config : PoolConfig) (geometry : Geometry config) (heap : Heap) (blocks : List LinkedSpan) (h : Handle)
    (place : Place) (size : Nat) (sound : Sound config heap blocks) (member : place ∈ places config.headerOverhead 0 blocks)
    (known : heap.resolve h = some place.id) (grows : place.size < size)
    (slack : heap.metrics.resizeInPlace + heap.metrics.resizeMoved + heap.metrics.resizeFailures < heap.metrics.resizeCalls) :
    Moved config heap h place size blocks := by
  have nonzero : size ≠ 0 := by omega
  rcases alloc_block_cases config geometry heap blocks size sound with
    ⟨full, _⟩ | ⟨unserved, refused, _⟩ | ⟨before, id, whole, after, created, n, next, rfl, served⟩
  · exact .uncounted blocks full (attempt_error _ heap heap .overflow (move_full heap h place.start place.size size full))
  · by_cases full : Word.bound ≤ heap.metrics.allocCalls + 1
    · rw [alloc_block_full heap size full] at refused
      cases refused
    · obtain ⟨ran, kept⟩ :=
        move_unserved config geometry heap blocks h place.start place.size size sound (Nat.lt_of_not_le full) nonzero unserved slack
      exact .refused blocks unserved (attempt_ok _ heap _ _ ran) kept
  · have moves := move_served config geometry heap next h size whole place before after id created n served member grows
    have filled := copied_sound config next _ place (config.takenPlace size whole before id) served.sound
    have still : next.resolve h = some place.id :=
      served_keeps config geometry heap next size whole before after id created place.id n h sound served known
    rcases free_cases config geometry _ _ (some h) filled with
      ⟨full, stopped⟩ | ⟨unknown, _⟩ | ⟨_, before', after', ahead, behind, id', survivor, size', whole', merges,
        freed, same, shape, frees⟩
    · simp only [copied, served.metrics, PoolMetrics.served] at full
      have ran := moves.trans (step_bind_error _ _ _ _ _ stopped)
      exact .unreleased before after id created whole n next served full (attempt_error _ heap _ .overflow ran) filled
    · rw [Option.bind_some, copied, Heap.resolve] at unknown
      rw [Heap.resolve] at still
      rw [still] at unknown
      cases unknown
    · -- the handle still stands for the old block, which is the one given back
      cases same
      have sameId : place.id = id' := Option.some.inj (still.symm.trans frees.resolved)
      cases sameId
      obtain ⟨ran, kept⟩ := move_released config _ freed h n _ _ _ _ _ _ _ _ _ _ filled (by
        simp only [copied, served.metrics, PoolMetrics.served]
        exact slack) frees
      rw [shape] at filled
      exact .moved before after before' after' ahead behind id created survivor whole size' whole' merges n next
        freed served filled frees
        (attempt_ok _ heap _ _ (moves.trans ran)) kept

inductive Resized (config : PoolConfig) (heap : Heap) (blocks : List LinkedSpan) (size : Nat) : Option Handle → Prop where
  | allocates (goes : (Heap.resize none size).attempt heap = (Heap.alloc size).attempt (resizing heap)) :
      Resized config heap blocks size none
  | frees (h : Handle) (zero : size = 0)
      (goes : (Heap.resize (some h) size).attempt heap =
        (((Heap.free (some h)).attempt (resizing heap)).1.map fun _ => none, ((Heap.free (some h)).attempt (resizing heap)).2)) :
      Resized config heap blocks size (some h)
  | ignores (h : Handle) (nonzero : size ≠ 0) (unknown : heap.resolve h = none)
      (goes : (Heap.resize (some h) size).attempt heap = (.ok none, resizing heap)) : Resized config heap blocks size (some h)
  | stays (h : Handle) (place : Place) (nonzero : size ≠ 0) (member : place ∈ places config.headerOverhead 0 blocks)
      (known : heap.resolve h = some place.id) (fits : size ≤ place.size)
      (goes : (Heap.resize (some h) size).attempt heap = (.ok (some h), inPlace heap))
      (sound : Sound config (inPlace heap) blocks) : Resized config heap blocks size (some h)
  | moves (h : Handle) (place : Place) (nonzero : size ≠ 0) (member : place ∈ places config.headerOverhead 0 blocks)
      (known : heap.resolve h = some place.id) (grows : place.size < size)
      (slack : (resizing heap).metrics.resizeInPlace + (resizing heap).metrics.resizeMoved +
        (resizing heap).metrics.resizeFailures <
        (resizing heap).metrics.resizeCalls)
      (goes : (Heap.resize (some h) size).attempt heap = (Heap.move h place.start place.size size).attempt (resizing heap)) :
      Resized config heap blocks size (some h)

theorem resize_cases (config : PoolConfig) (geometry : Geometry config) (heap : Heap) (blocks : List LinkedSpan) (h : Option Handle)
    (size : Nat) (sound : Sound config heap blocks) :
    (Word.bound ≤ heap.metrics.resizeCalls + 1 ∧ (Heap.resize h size).attempt heap = (.error .overflow, heap)) ∨
    (Sound config (resizing heap) blocks ∧ Resized config heap blocks size h) := by
  by_cases full : Word.bound ≤ heap.metrics.resizeCalls + 1
  · exact .inl ⟨full, attempt_error _ heap heap .overflow (resize_full heap h size full)⟩
  · have room : heap.metrics.resizeCalls + 1 < Word.bound := Nat.lt_of_not_le full
    refine .inr ⟨resizing_sound config heap blocks sound room, ?_⟩
    cases h with
    | none =>
        refine .allocates ?_
        rw [Step.attempt, resize_without_handle heap size room]
        rfl
    | some h =>
        by_cases zero : size = 0
        · refine .frees h zero ?_
          rw [← attempt_answer (Heap.free (some h)) (none : Option Handle), zero, Step.attempt, resize_to_zero heap h room]
          rfl
        · cases known : heap.resolve h with
          | none => exact .ignores h zero known (attempt_ok _ heap _ _ (resize_unknown heap h size room zero known))
          | some id =>
              obtain ⟨place, member, rfl⟩ := sound_resolves config heap blocks h id sound known
              have runs := resize_known config geometry heap blocks h place size sound room zero member known
              by_cases fits : size ≤ place.size
              · rw [if_pos fits] at runs
                exact .stays h place zero member known fits (attempt_ok _ heap _ _ runs)
                  (in_place_sound config heap blocks sound room)
              · rw [if_neg fits] at runs
                refine .moves h place zero member known (Nat.lt_of_not_le fits) (Nat.lt_succ_of_le sound.tallied.resizes) ?_
                rw [Step.attempt, runs]
                rfl

end BlockPool
