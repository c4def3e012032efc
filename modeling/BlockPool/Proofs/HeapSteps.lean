import BlockPool.Heap
import BlockPool.Proofs.ArenaSteps
import BlockPool.Proofs.HandleSteps
import BlockPool.Proofs.Places

set_option autoImplicit false

namespace BlockPool

open Heap

theorem on_arena_ok {α : Type} (heap : Heap) (step : Step Arena α) (value : α) (arena : Arena)
    (ran : step heap.arena = .ok value arena) : onArena step heap = .ok value { heap with arena } := by
  cases heap
  simp only [onArena, ran]

theorem on_registry_ok {α : Type} (heap : Heap) (step : Step Registry α) (value : α) (registry : Registry)
    (ran : step heap.registry = .ok value registry) : onRegistry step heap = .ok value { heap with registry } := by
  cases heap
  simp only [onRegistry, ran]

theorem on_handles_ok {α : Type} (heap : Heap) (step : Step HandleTable α) (value : α) (handles : HandleTable)
    (ran : step heap.handles = .ok value handles) : onHandles step heap = .ok value { heap with handles } := by
  cases heap
  simp only [onHandles, ran]

theorem tally_ok (heap : Heap) (read : PoolMetrics → Nat) (store : PoolMetrics → Nat → PoolMetrics) (amount : Nat)
    (room : read heap.metrics + amount < Word.bound) :
    tally (fun m => do return store m (← Word.add (read m) amount)) heap =
      .ok () { heap with metrics := store heap.metrics (read heap.metrics + amount) } := by
  cases heap
  simp only [tally, word_add_ok _ _ room]
  rfl

theorem tally_full (heap : Heap) (read : PoolMetrics → Nat) (store : PoolMetrics → Nat → PoolMetrics) (amount : Nat)
    (full : Word.bound ≤ read heap.metrics + amount) :
    tally (fun m => do return store m (← Word.add (read m) amount)) heap = .error .overflow heap := by
  cases heap
  simp only [tally, Word.add, if_neg (Nat.not_lt.mpr full)]
  rfl

-- How the counters hang together, with the number of live handles and of blocks.
structure Tallied (m : PoolMetrics) (live blockCount : Nat) : Prop where
  calls : m.allocCalls < Word.bound ∧ m.freeCalls < Word.bound ∧ m.resizeCalls < Word.bound
  allocs : live + m.freeCalls + m.allocFailures + m.zeroSizeRequests = m.allocCalls + m.ignoredFrees
  ignored : m.ignoredFrees ≤ m.freeCalls
  splits : m.splits + m.allocFailures + m.zeroSizeRequests ≤ m.allocCalls
  blockCount : blockCount + m.merges = m.splits + 1
  resizes : m.resizeInPlace + m.resizeMoved + m.resizeFailures ≤ m.resizeCalls
  failures : m.resizeFailures ≤ m.allocFailures
  moved : m.resizeMoved + m.ignoredFrees ≤ m.freeCalls

def PoolMetrics.refused (m : PoolMetrics) (size : Nat) : PoolMetrics :=
  if size = 0 then { m with allocCalls := m.allocCalls + 1, zeroSizeRequests := m.zeroSizeRequests + 1 }
  else { m with allocCalls := m.allocCalls + 1, allocFailures := m.allocFailures + 1 }

def PoolMetrics.served (m : PoolMetrics) (split : Bool) : PoolMetrics :=
  { m with allocCalls := m.allocCalls + 1, splits := if split then m.splits + 1 else m.splits }

def PoolMetrics.ignoring (m : PoolMetrics) : PoolMetrics :=
  { m with freeCalls := m.freeCalls + 1, ignoredFrees := m.ignoredFrees + 1 }

def PoolMetrics.released (m : PoolMetrics) (merges : Nat) : PoolMetrics :=
  { m with freeCalls := m.freeCalls + 1, merges := m.merges + merges }

theorem fresh_tallied : Tallied {} 0 1 := by
  refine ⟨⟨?_, ?_, ?_⟩, rfl, Nat.le_refl _, Nat.le_refl _, rfl, Nat.le_refl _, Nat.le_refl _, Nat.le_refl _⟩ <;> decide

theorem refused_tallied (m : PoolMetrics) (live blockCount size : Nat) (tallied : Tallied m live blockCount)
    (room : m.allocCalls + 1 < Word.bound) : Tallied (m.refused size) live blockCount := by
  obtain ⟨⟨_, frees, resizes⟩, allocs, ignored, splits, balance, outcomes, failures, moved⟩ := tallied
  unfold PoolMetrics.refused
  split
  · exact ⟨⟨room, frees, resizes⟩, by simp only; omega, ignored, by simp only; omega, balance, outcomes, failures, moved⟩
  · exact ⟨⟨room, frees, resizes⟩, by simp only; omega, ignored, by simp only; omega, balance,
      outcomes, by simp only; omega, moved⟩

theorem served_tallied (m : PoolMetrics) (live blockCount : Nat) (split : Bool) (tallied : Tallied m live blockCount)
    (room : m.allocCalls + 1 < Word.bound) :
    Tallied (m.served split) (live + 1) (if split then blockCount + 1 else blockCount) := by
  obtain ⟨⟨_, frees, resizes⟩, allocs, ignored, splits, balance, outcomes, failures, moved⟩ := tallied
  refine ⟨⟨room, frees, resizes⟩, ?_, ignored, ?_, ?_, outcomes, failures, moved⟩
  · simp only [PoolMetrics.served]
    omega
  · cases split <;> simp only [PoolMetrics.served, if_true, Bool.false_eq_true, if_false] <;> omega
  · cases split <;> simp only [PoolMetrics.served, if_true, Bool.false_eq_true, if_false] <;> omega

theorem ignoring_tallied (m : PoolMetrics) (live blockCount : Nat) (tallied : Tallied m live blockCount)
    (room : m.freeCalls + 1 < Word.bound) : Tallied m.ignoring live blockCount := by
  obtain ⟨⟨calls, _, resizes⟩, allocs, ignored, splits, balance, outcomes, failures, moved⟩ := tallied
  refine ⟨⟨calls, room, resizes⟩, ?_, ?_, splits, balance, outcomes, failures, ?_⟩ <;>
    simp only [PoolMetrics.ignoring] <;> omega

theorem released_tallied (m : PoolMetrics) (live blockCount merges : Nat) (tallied : Tallied m (live + 1) (blockCount + merges))
    (room : m.freeCalls + 1 < Word.bound) : Tallied (m.released merges) live blockCount := by
  obtain ⟨⟨calls, _, resizes⟩, allocs, ignored, splits, balance, outcomes, failures, moved⟩ := tallied
  refine ⟨⟨calls, room, resizes⟩, ?_, ?_, splits, ?_, outcomes, failures, ?_⟩ <;> simp only [PoolMetrics.released] <;> omega

structure Sound (config : PoolConfig) (heap : Heap) (blocks : List LinkedSpan) : Prop where
  configured : heap.config = config
  arena : heap.arena.capacity = config.capacity
  registry : Settled config heap.registry blocks
  handles : Orderly heap.handles
  -- each used block has one handle
  owned : heap.handles.liveBlocks.Perm ((places config.headerOverhead 0 blocks).map Place.id)
  tallied : Tallied heap.metrics heap.handles.live blocks.length

theorem fresh_sound (config : PoolConfig) (geometry : Geometry config) (id : PoolId) :
    ∃ heap, Heap.fresh id config = .ok heap ∧ heap.arena = .zeroed config.capacity ∧ heap.handles = .empty id ∧
      heap.metrics = {} ∧
      Sound config heap [(0, ⟨config.capacity - config.headerOverhead, true⟩)] := by
  obtain ⟨r, made, settled⟩ := single_settled config geometry
  refine ⟨⟨config, .zeroed config.capacity, r, .empty id, {}⟩, ?_, rfl, rfl, rfl, rfl, ?_, settled,
    empty_orderly id, ?_, fresh_tallied⟩
  · rw [Heap.fresh, made]
    rfl
  · simp [Arena.capacity, Arena.zeroed]
  · exact List.Perm.refl _

theorem sound_metrics (config : PoolConfig) (heap : Heap) (blocks : List LinkedSpan) (metrics : PoolMetrics)
    (sound : Sound config heap blocks) (tallied : Tallied metrics heap.handles.live blocks.length) :
    Sound config { heap with metrics } blocks :=
  ⟨sound.configured, sound.arena, sound.registry, sound.handles, sound.owned, tallied⟩

theorem sound_arena (config : PoolConfig) (heap : Heap) (blocks : List LinkedSpan) (arena : Arena)
    (sound : Sound config heap blocks) (capacity : arena.capacity = heap.arena.capacity) :
    Sound config { heap with arena } blocks :=
  ⟨sound.configured, capacity.trans sound.arena, sound.registry, sound.handles, sound.owned, sound.tallied⟩

theorem sound_live (config : PoolConfig) (geometry : Geometry config) (heap : Heap) (blocks : List LinkedSpan)
    (sound : Sound config heap blocks) : heap.handles.live + 1 < Word.bound := by
  have owned := sound.owned.length_eq
  have used := (places_ids_subset config.headerOverhead 0 blocks).length_le
  have count := charted_count config heap.registry blocks sound.registry.charted
  have few := settled_few config geometry heap.registry blocks sound.registry
  rw [← sound.handles.counted] at owned
  rw [ids_of_length] at used
  simp only [UInt32.size, Word.bound, UInt64.size] at few ⊢
  omega

theorem sound_resolves (config : PoolConfig) (heap : Heap) (blocks : List LinkedSpan) (h : Handle) (id : BlockId)
    (sound : Sound config heap blocks) (known : heap.resolve h = some id) :
    ∃ place ∈ places config.headerOverhead 0 blocks, place.id = id := by
  obtain ⟨_, read⟩ := (get_some_iff heap.handles h id).mp known
  have live : id ∈ heap.handles.liveBlocks := by
    refine List.mem_filterMap.mpr ⟨⟨h.generation, some id⟩, ?_, rfl⟩
    exact Array.mem_toList_iff.mpr (Array.mem_of_getElem? read)
  obtain ⟨place, member, same⟩ := List.mem_map.mp (sound.owned.mem_iff.mp live)
  exact ⟨place, member, same⟩

def zeroed (config : PoolConfig) (arena : Arena) (place : Place) : Arena :=
  if config.zeroOnAlloc then ⟨Arena.overwrite arena.bytes place.start (List.replicate place.size 0)⟩ else arena

theorem zeroed_capacity (config : PoolConfig) (arena : Arena) (place : Place) :
    (zeroed config arena place).capacity = arena.capacity := by
  unfold zeroed
  split
  · exact overwrite_size _ _ _
  · rfl

def Unserved (config : PoolConfig) (size : Nat) (blocks : List LinkedSpan) : Prop :=
  size = 0 ∨ Word.bound ≤ size + (config.alignment - 1) ∨ ∀ span ∈ spansOf blocks, span.fits (config.roundUp size) = false

def PoolConfig.takenPlace (config : PoolConfig) (size whole : Nat) (before : List LinkedSpan) (id : BlockId) : Place :=
  ⟨id, extent config.headerOverhead (spansOf before) + config.headerOverhead,
    takenSize config.headerOverhead (config.roundUp size) whole⟩

def PoolConfig.takenBlocks (config : PoolConfig) (size whole : Nat) (before after : List LinkedSpan) (id created : BlockId) :
    List LinkedSpan :=
  before ++ (id, ⟨takenSize config.headerOverhead (config.roundUp size) whole, false⟩) ::
    (remainder config.headerOverhead (config.roundUp size) whole created ++ after)

theorem taken_member (config : PoolConfig) (size whole : Nat) (before after : List LinkedSpan) (id created : BlockId) :
    config.takenPlace size whole before id ∈ places config.headerOverhead 0
      (config.takenBlocks size whole before after id created) :=
  block_place config.headerOverhead before _ id _

theorem taken_kept (config : PoolConfig) (size whole : Nat) (before after : List LinkedSpan) (id created : BlockId) (place : Place)
    (member : place ∈ places config.headerOverhead 0 (before ++ (id, ⟨whole, true⟩) :: after)) :
    place ∈ places config.headerOverhead 0 (config.takenBlocks size whole before after id created) :=
  (places_cut_iff config.headerOverhead (config.roundUp size) whole before after id created place).mpr (.inr member)

-- All that an allocation does when it takes the block `id` between `before` and `after`.
structure Served (config : PoolConfig) (heap : Heap) (size : Nat) (before after : List LinkedSpan) (id created : BlockId)
    (whole : Nat) (h : Handle) (next : Heap) : Prop where
  positive : 0 < size
  word : size + (config.alignment - 1) < Word.bound
  enough : config.roundUp size ≤ whole
  preferred : Preferred config.fit (config.roundUp size) (spansOf before) ⟨whole, true⟩ (spansOf after)
  ran : allocBlock size heap = .ok (some (h, id)) next
  issued : HandleTable.insert id heap.handles = .ok h next.handles
  arena : next.arena = zeroed config heap.arena (config.takenPlace size whole before id)
  metrics : next.metrics = heap.metrics.served (decide (config.roundUp size + config.headerOverhead < whole))
  sound : Sound config next (config.takenBlocks size whole before after id created)

theorem refuse_run (heap : Heap) (room : heap.metrics.allocFailures + 1 < Word.bound) :
    refuseAlloc heap = .ok none { heap with metrics := { heap.metrics with allocFailures := heap.metrics.allocFailures + 1 } } := by
  unfold refuseAlloc
  rw [step_bind_ok _ _ _ _ _ (tally_ok heap (·.allocFailures) (fun m n => { m with allocFailures := n }) 1 room), step_pure]

theorem clear_zeroed {β : Type} (config : PoolConfig) (geometry : Geometry config) (heap : Heap)
    (blocks : List LinkedSpan) (place : Place) (rest : Unit → Step Heap β) (configured : heap.config = config)
    (arena : heap.arena.capacity = config.capacity) (charted : Charted config heap.registry blocks)
    (member : place ∈ places config.headerOverhead 0 blocks) :
    (if heap.config.zeroOnAlloc then do
        let (offset, len) ← Step.query fun heap => heap.registry.payload place.id
        let done ← onArena (Arena.clear offset len)
        rest done
      else rest () : Step Heap β) heap =
      rest () { heap with arena := zeroed config heap.arena place } := by
  have inside := place_in_arena config heap.registry blocks charted place member
  have read := charted_payload config geometry heap.registry blocks charted place member
  have wanted : heap.config.zeroOnAlloc = config.zeroOnAlloc := by rw [configured]
  unfold zeroed
  rw [wanted]
  cases config.zeroOnAlloc with
  | false => simp only [Bool.false_eq_true, if_false]
  | true =>
      simp only [if_true]
      rw [query_bind (fun heap : Heap => heap.registry.payload place.id) _ heap _ read]
      have cleared := clear_run heap.arena place.start place.size (by rw [arena]; omega)
      exact step_bind_ok _ _ _ _ _ (on_arena_ok heap _ () _ cleared)

theorem hand_out_run (config : PoolConfig) (geometry : Geometry config) (heap : Heap) (blocks : List LinkedSpan)
    (place : Place) (split : Bool) (h : Handle) (handles : HandleTable) (room : heap.metrics.splits + 1 < Word.bound)
    (configured : heap.config = config) (arena : heap.arena.capacity = config.capacity)
    (charted : Charted config heap.registry blocks) (member : place ∈ places config.headerOverhead 0 blocks)
    (issued : HandleTable.insert place.id heap.handles = .ok h handles) :
    handOut ⟨place.id, split⟩ heap = .ok (h, place.id)
      ⟨config, zeroed config heap.arena place, heap.registry, handles,
        { heap.metrics with splits := if split then heap.metrics.splits + 1 else heap.metrics.splits }⟩ := by
  have finish (heap' : Heap) (configured' : heap'.config = config) (arena' : heap'.arena = heap.arena)
      (registry' : heap'.registry = heap.registry) (handles' : heap'.handles = heap.handles) :
      (do
        let now ← get
        let issue : Unit → Step Heap (Handle × BlockId) := fun _ => do
          let handle ← onHandles (HandleTable.insert place.id)
          pure (handle, place.id)
        if now.config.zeroOnAlloc then do
          let (offset, len) ← Step.query fun heap => heap.registry.payload place.id
          let done ← onArena (Arena.clear offset len)
          issue done
        else issue () : Step Heap (Handle × BlockId)) heap' =
        .ok (h, place.id) ⟨config, zeroed config heap.arena place, heap.registry, handles, heap'.metrics⟩ := by
    rw [step_get_bind]
    simp only
    rw [clear_zeroed config geometry heap' blocks place _ configured' (arena' ▸ arena) (registry' ▸ charted) member]
    rw [step_bind_ok _ _ _ _ _ (on_handles_ok _ _ h handles (handles' ▸ issued)), step_pure, configured', arena', registry']
  unfold handOut
  cases split with
  | false => exact finish heap configured rfl rfl rfl
  | true =>
      simp only [if_true]
      rw [step_bind_ok _ _ _ _ _ (tally_ok heap (·.splits) (fun m n => { m with splits := n }) 1 room)]
      exact finish _ configured rfl rfl rfl

theorem configured_rounds (config : PoolConfig) (geometry : Geometry config) (heap : Heap) (size : Nat)
    (configured : heap.config = config) :
    heap.config.alignUp size =
      .ok (if size + (config.alignment - 1) < Word.bound then some (config.roundUp size) else none) := by
  rw [configured]
  exact align_up_rounds config geometry size

theorem alloc_block_full (heap : Heap) (size : Nat) (full : Word.bound ≤ heap.metrics.allocCalls + 1) :
    allocBlock size heap = .error .overflow heap := by
  unfold allocBlock
  exact step_bind_error _ _ _ _ _ (tally_full heap (·.allocCalls) (fun m n => { m with allocCalls := n }) 1 full)

theorem alloc_block_unserved (config : PoolConfig) (geometry : Geometry config) (heap : Heap) (blocks : List LinkedSpan)
    (size : Nat) (sound : Sound config heap blocks) (room : heap.metrics.allocCalls + 1 < Word.bound)
    (unserved : Unserved config size blocks) :
    allocBlock size heap = .ok none { heap with metrics := heap.metrics.refused size } := by
  have tallied := sound.tallied
  have failures : heap.metrics.allocFailures + 1 < Word.bound := by
    have splits := tallied.splits
    omega
  unfold allocBlock PoolMetrics.refused
  rw [step_bind_ok _ _ _ _ _ (tally_ok heap (·.allocCalls) (fun m n => { m with allocCalls := n }) 1 room)]
  by_cases zero : size = 0
  · have zeros : heap.metrics.zeroSizeRequests + 1 < Word.bound := by
      have splits := tallied.splits
      omega
    rw [if_pos zero, if_pos zero]
    exact step_bind_ok _ _ _ _ _ (tally_ok _ (·.zeroSizeRequests) (fun m n => { m with zeroSizeRequests := n }) 1 zeros)
  · rw [if_neg zero, if_neg zero]
    have rounded := configured_rounds config geometry heap size sound.configured
    by_cases word : size + (config.alignment - 1) < Word.bound
    · rw [if_pos word] at rounded
      refine Eq.trans (query_bind _ _ _ _ rounded) ?_
      have unfit : ∀ span ∈ spansOf blocks, span.fits (config.roundUp size) = false := by
        rcases unserved with isZero | large | unfit
        · exact absurd isZero zero
        · exact absurd word (Nat.not_lt.mpr large)
        · exact unfit
      have positive : 0 < config.roundUp size :=
        Nat.lt_of_lt_of_le (Nat.pos_of_ne_zero zero) (round_up_holds config geometry size)
      rcases allocate_settled config geometry heap.registry blocks _ positive (round_up_aligned config size) sound.registry with
        ⟨refused, _⟩ | ⟨before, id, whole, after, _, _, rfl, enough, _⟩
      · simp only
        refine Eq.trans (step_bind_ok _ _ _ _ _ (on_registry_ok _ _ none heap.registry refused)) ?_
        exact refuse_run _ failures
      · have fits := unfit ⟨whole, true⟩ (by simp)
        simp [Span.fits, enough] at fits
    · rw [if_neg word] at rounded
      refine Eq.trans (query_bind _ _ _ _ rounded) ?_
      exact refuse_run _ failures

theorem taken_length (config : PoolConfig) (size whole : Nat) (before after : List LinkedSpan) (id created : BlockId) :
    (config.takenBlocks size whole before after id created).length =
      if decide (config.roundUp size + config.headerOverhead < whole) then
        (before ++ (id, (⟨whole, true⟩ : Span)) :: after).length + 1
      else (before ++ (id, (⟨whole, true⟩ : Span)) :: after).length := by
  unfold PoolConfig.takenBlocks remainder
  by_cases splits : config.roundUp size + config.headerOverhead < whole
  · simp [splits]
    omega
  · simp [splits]

theorem taken_owned (config : PoolConfig) (size whole : Nat) (before after : List LinkedSpan) (id created : BlockId)
    (live : List BlockId)
    (owned : live.Perm ((places config.headerOverhead 0 (before ++ (id, ⟨whole, true⟩) :: after)).map Place.id)) :
    (id :: live).Perm ((places config.headerOverhead 0 (config.takenBlocks size whole before after id created)).map Place.id) := by
  rw [places_single_free] at owned
  rw [PoolConfig.takenBlocks, places_cut, List.map_append, List.map_cons]
  rw [List.map_append] at owned
  exact (owned.cons id).trans List.perm_middle.symm

theorem alloc_block_served (config : PoolConfig) (geometry : Geometry config) (heap : Heap) (blocks : List LinkedSpan) (size : Nat)
    (sound : Sound config heap blocks) (room : heap.metrics.allocCalls + 1 < Word.bound) (served : ¬ Unserved config size blocks) :
    ∃ before id whole after created h next, blocks = before ++ (id, ⟨whole, true⟩) :: after ∧
      Served config heap size before after id created whole h next := by
  simp only [Unserved, not_or] at served
  obtain ⟨nonzero, word, fit⟩ := served
  have word : size + (config.alignment - 1) < Word.bound := Nat.lt_of_not_le word
  have positive : 0 < config.roundUp size :=
    Nat.lt_of_lt_of_le (Nat.pos_of_ne_zero nonzero) (round_up_holds config geometry size)
  rcases allocate_settled config geometry heap.registry blocks _ positive (round_up_aligned config size) sound.registry with
    ⟨_, unfit⟩ | ⟨before, id, whole, after, created, registry, rfl, enough, preferred, ran, settled⟩
  · exact absurd unfit fit
  · -- every split was counted as an allocation before
    have splits : heap.metrics.splits + 1 < Word.bound := by
      have splits := sound.tallied.splits
      omega
    have live := sound_live config geometry heap _ sound
    obtain ⟨h, handles, issued, counted⟩ := insert_succeeds heap.handles id sound.handles live
    obtain ⟨orderly, _, owned⟩ := insert_orderly heap.handles id sound.handles live h handles issued
    have rounded := configured_rounds config geometry heap size sound.configured
    rw [if_pos word] at rounded
    have member := taken_member config size whole before after id created
    have handed := hand_out_run config geometry
      ⟨heap.config, heap.arena, registry, heap.handles, { heap.metrics with allocCalls := heap.metrics.allocCalls + 1 }⟩ _ _
      (decide (config.roundUp size + config.headerOverhead < whole)) h handles splits sound.configured sound.arena settled.charted
      member issued
    refine ⟨before, id, whole, after, created, h, ⟨config, _, registry, handles, _⟩, rfl,
      Nat.pos_of_ne_zero nonzero, word, enough, preferred, ?_, issued, rfl, rfl, rfl, ?_, settled, orderly, ?_, ?_⟩
    · unfold allocBlock
      rw [step_bind_ok _ _ _ _ _ (tally_ok heap (·.allocCalls) (fun m n => { m with allocCalls := n }) 1 room), if_neg nonzero]
      refine Eq.trans (query_bind _ _ _ _ rounded) ?_
      refine Eq.trans (step_bind_ok _ _ _ _ _ (on_registry_ok _ _ _ registry ran)) ?_
      exact step_bind_ok _ _ _ _ _ handed
    · exact (zeroed_capacity config heap.arena _).trans sound.arena
    · exact owned.trans (taken_owned config size whole before after id created _ sound.owned)
    · rw [counted, taken_length]
      exact served_tallied _ _ _ _ sound.tallied room

theorem alloc_block_cases (config : PoolConfig) (geometry : Geometry config) (heap : Heap) (blocks : List LinkedSpan) (size : Nat)
    (sound : Sound config heap blocks) :
    (Word.bound ≤ heap.metrics.allocCalls + 1 ∧ allocBlock size heap = .error .overflow heap) ∨
    (Unserved config size blocks ∧ allocBlock size heap = .ok none { heap with metrics := heap.metrics.refused size } ∧
      Sound config { heap with metrics := heap.metrics.refused size } blocks) ∨
    ∃ before id whole after created h next, blocks = before ++ (id, ⟨whole, true⟩) :: after ∧
      Served config heap size before after id created whole h next := by
  by_cases full : Word.bound ≤ heap.metrics.allocCalls + 1
  · exact .inl ⟨full, alloc_block_full heap size full⟩
  · have room : heap.metrics.allocCalls + 1 < Word.bound := Nat.lt_of_not_le full
    by_cases unserved : Unserved config size blocks
    · refine .inr (.inl ⟨unserved, alloc_block_unserved config geometry heap blocks size sound room unserved, ?_⟩)
      exact sound_metrics config heap blocks _ sound (refused_tallied _ _ _ size sound.tallied room)
    · exact .inr (.inr (alloc_block_served config geometry heap blocks size sound room unserved))

theorem alloc_ran (heap next : Heap) (size : Nat) (answer : Option (Handle × BlockId))
    (ran : allocBlock size heap = .ok answer next) :
    Heap.alloc size heap = .ok (answer.map Prod.fst) next := by
  unfold Heap.alloc
  exact step_bind_ok _ _ _ _ _ ran

theorem alloc_stopped (heap : Heap) (size : Nat) (reason : Abort) (stopped : allocBlock size heap = .error reason heap) :
    Heap.alloc size heap = .error reason heap := by
  unfold Heap.alloc
  exact step_bind_error _ _ _ _ _ stopped

end BlockPool
