import BlockPool.Proofs.LiveAllocations
import BlockPool.Proofs.PoolInvariant
import BlockPool.Proofs.PoolViews

set_option autoImplicit false

namespace BlockPool

open Heap

-- A request of at least one byte that is no larger, once it is rounded up, than the largest free block.
def Fitting (config : PoolConfig) (usage : PoolUsage) (size : Nat) : Prop :=
  1 ≤ size ∧ ∃ aligned, config.alignUp size = .ok (some aligned) ∧ aligned ≤ usage.largestFreeBlock

def FitsIn (config : PoolConfig) (pool : Pool) (size : Nat) : Prop :=
  ∃ usage, (Pool.usage.attempt pool).1 = .ok (some usage) ∧ Fitting config usage size

-- An allocation of a block `info` out of the free block `source`, which begins at the same place.
structure Carved (config : PoolConfig) (pool served : Pool) (size : Nat) (h : Handle) (aligned : Nat)
    (info source : BlockInfo) : Prop where
  rounded : config.alignUp size = .ok (some aligned)
  sized : ((Pool.usableSize h).attempt served).1 = .ok (some info.size)
  located : ((Pool.locate h).attempt served).1 = .ok (some info)
  enough : aligned ≤ info.size
  waste : info.size ≤ aligned + config.headerOverhead
  payload : config.alignment ∣ info.payloadOffset
  free : ∃ infos, (Pool.blocks.attempt pool).1 = .ok infos ∧ source ∈ infos ∧ source.free = true
  inside : info.offset = source.offset ∧ info.payloadOffset = source.payloadOffset ∧ info.size ≤ source.size

def Allocates (config : PoolConfig) (made : Nat) (pool served : Pool) (size : Nat) : Except Abort (Option Handle) → Prop
  | .error reason => Exhausted made reason
  | .ok answer => (answer.isSome = true ↔ FitsIn config pool size) ∧
      ∀ h, answer = some h → ∃ aligned info source, Carved config pool served size h aligned info source

def GrantedWhen (made size : Nat) (pool : Pool) (condition : Prop) : Prop :=
  match ((Pool.alloc size).attempt pool).1 with
  | .error reason => Exhausted made reason
  | .ok answer => answer.isSome = true ↔ condition

structure Gauged (config : PoolConfig) (made : Nat) (pool : Pool) (usage : PoolUsage) : Prop where
  beyond : ∀ size, usage.largestFreeBlock < size → GrantedWhen made size pool False
  largest : GrantedWhen made usage.largestFreeBlock pool
    (0 < usage.largestFreeBlock ∧ config.alignment ∣ usage.largestFreeBlock)
  -- the largest request is as many whole units of the alignment as the gauge holds
  served : ∀ size, GrantedWhen made size pool (1 ≤ size ∧ size ≤ config.roundDown usage.largestFreeBlock)
  whole : config.alignment ∣ config.capacity → config.alignment ∣ usage.largestFreeBlock

theorem granted_when_congr (made size : Nat) (pool : Pool) (condition other : Prop) (same : condition ↔ other)
    (granted : GrantedWhen made size pool condition) : GrantedWhen made size pool other := by
  rw [GrantedWhen] at granted ⊢
  cases answered : ((Pool.alloc size).attempt pool).1 with
  | error reason =>
      rw [answered] at granted
      exact granted
  | ok answer =>
      rw [answered] at granted
      exact granted.trans same

theorem largest_at_least (sizes : List Nat) (start least : Nat) :
    least ≤ sizes.foldl max start ↔ least ≤ start ∨ ∃ size ∈ sizes, least ≤ size := by
  induction sizes generalizing start with
  | nil => simp
  | cons size rest ih =>
      rw [List.foldl_cons, ih, le_max_iff, or_assoc]
      simp

theorem largest_aligned (unit start : Nat) (sizes : List Nat) (first : unit ∣ start)
    (aligned : ∀ size ∈ sizes, unit ∣ size) :
    unit ∣ sizes.foldl max start := by
  induction sizes generalizing start with
  | nil => exact first
  | cons size rest ih =>
      have here := aligned size List.mem_cons_self
      refine ih (max start size) ?_ fun other member => aligned other (List.mem_cons_of_mem _ member)
      rcases max_choice start size with same | same
      · exact same.symm ▸ first
      · exact same.symm ▸ here

theorem free_size_member (spans : List Span) (size : Nat) : size ∈ freeSizes spans ↔ (⟨size, true⟩ : Span) ∈ spans := by
  simp only [freeSizes, List.mem_map, List.mem_filter]
  constructor
  · rintro ⟨⟨_, free⟩, ⟨member, isFree⟩, rfl⟩
    rwa [show free = true from isFree] at member
  · exact fun member => ⟨_, ⟨member, rfl⟩, rfl⟩

-- The gauge goes over all blocks and the search stops where it can, but they agree on what fits.
theorem gauge_fits (config : PoolConfig) (spans : List Span) (size : Nat) (positive : 0 < size) :
    size ≤ (usageOf config spans).largestFreeBlock ↔ ∃ span ∈ spans, span.fits size = true := by
  have gauge : (usageOf config spans).largestFreeBlock = (freeSizes spans).foldl max 0 := rfl
  rw [gauge, largest_at_least]
  constructor
  · rintro (nothing | ⟨whole, member, enough⟩)
    · exact absurd nothing (Nat.not_le.mpr positive)
    · exact ⟨⟨whole, true⟩, (free_size_member spans whole).mp member, by simp [Span.fits, enough]⟩
  · rintro ⟨⟨whole, free⟩, member, fits⟩
    obtain ⟨isFree, enough⟩ := Bool.and_eq_true_iff.mp fits
    rw [show free = true from isFree] at member
    exact .inr ⟨whole, (free_size_member spans whole).mpr member, of_decide_eq_true enough⟩

theorem fitting_iff (config : PoolConfig) (geometry : Geometry config) (usage : PoolUsage) (size : Nat) :
    Fitting config usage size ↔
      1 ≤ size ∧ size + (config.alignment - 1) < Word.bound ∧ config.roundUp size ≤ usage.largestFreeBlock := by
  rw [Fitting, align_up_rounds config geometry size]
  by_cases word : size + (config.alignment - 1) < Word.bound
  · simp [word]
  · simp [word]

theorem unserved_unfitting (config : PoolConfig) (geometry : Geometry config) (size : Nat) (blocks : List LinkedSpan)
    (unserved : Unserved config size blocks) : ¬ Fitting config (usageOf config (spansOf blocks)) size := by
  rw [fitting_iff config geometry]
  rintro ⟨positive, word, enough⟩
  rcases unserved with zero | large | unfit
  · exact absurd zero (Nat.ne_of_gt positive)
  · exact absurd word (Nat.not_lt.mpr large)
  · have rounded : 0 < config.roundUp size := Nat.lt_of_lt_of_le positive (round_up_holds config geometry size)
    obtain ⟨span, member, fits⟩ := (gauge_fits config _ _ rounded).mp enough
    rw [unfit span member] at fits
    cases fits

-- No block is as large as the arena, so a size that fits has room above it for the rounding.
theorem fitting_whole (config : PoolConfig) (geometry : Geometry config) (spans : List Span) (size : Nat)
    (tiling : Tiling config spans) :
    Fitting config (usageOf config spans) size ↔
      1 ≤ size ∧ size ≤ config.roundDown (usageOf config spans).largestFreeBlock := by
  obtain ⟨_, total, largest⟩ := usage_adds_up config spans tiling
  have limited := geometry.limited
  rw [fitting_iff config geometry, round_up_fits config geometry]
  refine and_congr_right fun positive => and_iff_right_of_imp fun within => ?_
  have whole := round_down_within config (usageOf config spans).largestFreeBlock
  have unit : config.alignment ≤ config.roundDown (usageOf config spans).largestFreeBlock :=
    Nat.le_of_dvd (Nat.lt_of_lt_of_le positive within) (Nat.dvd_mul_left _ _)
  simp only [PoolConfig.capacityLimit, Word.bound, UInt64.size] at limited ⊢
  omega

theorem joined_aligned (config : PoolConfig) (geometry : Geometry config) (spans : List Span)
    (joined : spans.IsChain (Follows config)) (total : config.alignment ∣ extent config.headerOverhead spans) :
    ∀ span ∈ spans, config.alignment ∣ span.size := by
  induction spans with
  | nil => exact fun span member => absurd member List.not_mem_nil
  | cons span rest ih =>
      obtain ⟨next, tail⟩ := List.isChain_cons.mp joined
      rw [extent_cons, Nat.add_assoc, Nat.dvd_add_right geometry.headerAligned] at total
      have here : config.alignment ∣ span.size := by
        cases rest with
        | nil => exact total
        | cons second others => exact (next second rfl).1
      have later := ih tail ((Nat.dvd_add_right here).mp total)
      exact List.forall_mem_cons.mpr ⟨here, later⟩

theorem gauge_aligned (config : PoolConfig) (geometry : Geometry config) (spans : List Span) (tiling : Tiling config spans)
    (whole : config.alignment ∣ config.capacity) : config.alignment ∣ (usageOf config spans).largestFreeBlock := by
  have aligned := joined_aligned config geometry spans tiling.joined (tiling.covers ▸ whole)
  refine largest_aligned config.alignment 0 (freeSizes spans) (Nat.dvd_zero _) fun size member => ?_
  exact aligned ⟨size, true⟩ ((free_size_member spans size).mp member)

theorem described_member (overhead offset : Nat) (before after : List Span) (span : Span) :
    (⟨offset + extent overhead before, offset + extent overhead before + overhead, span.size, span.free⟩ : BlockInfo) ∈
      describeSpans overhead offset (before ++ span :: after) := by
  induction before generalizing offset with
  | nil => exact List.mem_cons_self
  | cons first rest ih =>
      have later := ih (offset + (overhead + first.size))
      rw [Nat.add_assoc offset, ← extent_cons] at later
      exact List.mem_cons_of_mem _ later

theorem taken_size_bounds (overhead size whole : Nat) (enough : size ≤ whole) :
    size ≤ takenSize overhead size whole ∧ takenSize overhead size whole ≤ size + overhead ∧
    takenSize overhead size whole ≤ whole := by
  unfold takenSize
  split <;> omega

theorem served_carved (config : PoolConfig) (geometry : Geometry config) (pool served : Pool) (heap next : Heap)
    (size whole : Nat) (before after : List LinkedSpan) (id created : BlockId) (h : Handle)
    (opened : pool.heap = some heap) (left : served.heap = some next)
    (sound : Sound config heap (before ++ (id, ⟨whole, true⟩) :: after))
    (room : heap.handles.slots.size < UInt32.size) (serves : Served config heap size before after id created whole h next) :
    ∃ aligned info source, Carved config pool served size h aligned info source := by
  have resolved := served_resolves config geometry heap next size whole before after id created h sound serves room
  have member := taken_member config size whole before after id created
  have located := served_located config geometry heap next size whole before after id created h serves resolved
  have held := contents_some config geometry next _ h _ serves.sound member resolved
  have shown := (shown_iff config geometry served next _ h _ _ left serves.sound).mpr ⟨located, held⟩
  have described := described_member config.headerOverhead 0 (spansOf before) (spansOf after) ⟨whole, true⟩
  rw [Nat.zero_add, ← spans_of_cons (id, ⟨whole, true⟩), ← spans_of_append] at described
  obtain ⟨enough, waste, within⟩ := taken_size_bounds config.headerOverhead (config.roundUp size) whole serves.enough
  refine ⟨config.roundUp size, _, _, ?rounded, shown.sized, shown.located, enough, waste, ?payload,
    ⟨_, ?_, described, rfl⟩, ?_, rfl, within⟩
  case rounded => rw [align_up_rounds config geometry size, if_pos serves.word]
  case payload =>
    exact (described_payloads config geometry 0 _ sound.registry.tiling.joined (Nat.dvd_zero _) _ described).2
  · exact blocks_shown config geometry pool heap _ opened sound
  · exact Nat.add_sub_cancel _ _

section

variable (config : PoolConfig) (geometry : Geometry config) (made size : Nat) (pool : Pool) (heap : Heap) (blocks : List LinkedSpan)
  (opened : pool.heap = some heap) (sound : Sound config heap blocks) (counted : Counted made heap.metrics)

include geometry opened sound

theorem fits_in_iff : FitsIn config pool size ↔ Fitting config (usageOf config (spansOf blocks)) size := by
  have shown := usage_shown config geometry pool heap blocks opened sound
  constructor
  · rintro ⟨usage, told, fits⟩
    cases shown.symm.trans told
    exact fits
  · exact fun fits => ⟨_, shown, fits⟩

theorem alloc_carves (room : heap.handles.slots.size < UInt32.size) (h : Handle)
    (answered : ((Pool.alloc size).attempt pool).1 = .ok (some h)) :
    ∃ aligned info source, Carved config pool ((Pool.alloc size).attempt pool).2 size h aligned info source := by
  obtain ⟨told, left⟩ := on_heap_open none (Heap.alloc size) pool heap opened
  rw [Pool.alloc, told] at answered
  rcases alloc_block_cases config geometry heap blocks size sound with
    ⟨_, stopped⟩ | ⟨_, refused, _⟩ | ⟨before, id, whole, after, created, issued, next, rfl, serves⟩
  · rw [attempt_error _ heap heap _ (alloc_stopped heap size .overflow stopped)] at answered
    cases answered
  · rw [attempt_ok _ heap _ _ (alloc_ran heap _ size _ refused)] at answered
    cases answered
  · rw [attempt_ok _ heap next _ (alloc_ran heap next size _ serves.ran)] at answered left
    obtain rfl : h = issued := (Option.some.inj (Except.ok.inj answered)).symm
    exact served_carved config geometry pool _ heap next size whole before after id created h opened left sound room serves

include counted

theorem alloc_granted_fitting : GrantedWhen made size pool (Fitting config (usageOf config (spansOf blocks)) size) := by
  rw [GrantedWhen, Pool.alloc, (on_heap_open none (Heap.alloc size) pool heap opened).1]
  rcases alloc_block_cases config geometry heap blocks size sound with
    ⟨full, stopped⟩ | ⟨unserved, refused, _⟩ | ⟨before, id, whole, after, created, h, next, rfl, serves⟩
  · rw [attempt_error _ heap heap _ (alloc_stopped heap size .overflow stopped)]
    exact full_exhausted made _ counted.allocs full
  · rw [attempt_ok _ heap _ _ (alloc_ran heap _ size _ refused)]
    exact iff_of_false (by simp) (unserved_unfitting config geometry size blocks unserved)
  · rw [attempt_ok _ heap next _ (alloc_ran heap next size _ serves.ran)]
    have rounded : 0 < config.roundUp size := Nat.lt_of_lt_of_le serves.positive (round_up_holds config geometry size)
    have fits := (gauge_fits config (spansOf (before ++ (id, ⟨whole, true⟩) :: after)) _ rounded).mpr
      ⟨⟨whole, true⟩, by simp, by simp [Span.fits, serves.enough]⟩
    exact iff_of_true rfl ((fitting_iff config geometry _ size).mpr ⟨serves.positive, serves.word, fits⟩)

theorem alloc_allocates (room : heap.handles.slots.size < UInt32.size) :
    Allocates config made pool ((Pool.alloc size).attempt pool).2 size ((Pool.alloc size).attempt pool).1 := by
  have granted := alloc_granted_fitting config geometry made size pool heap blocks opened sound counted
  rw [GrantedWhen] at granted
  cases answered : ((Pool.alloc size).attempt pool).1 with
  | error reason =>
      rw [answered] at granted
      exact granted
  | ok answer =>
      rw [answered] at granted
      refine ⟨granted.trans (fits_in_iff config geometry size pool heap blocks opened sound).symm, fun h same => ?_⟩
      exact alloc_carves config geometry size pool heap blocks opened sound room h (same ▸ answered)

theorem usage_gauged : Gauged config made pool (usageOf config (spansOf blocks)) := by
  have tiling := sound.registry.tiling
  have granted (size : Nat) := alloc_granted_fitting config geometry made size pool heap blocks opened sound counted
  have fitting (size : Nat) := fitting_whole config geometry (spansOf blocks) size tiling
  constructor
  case beyond =>
    intro size larger
    refine granted_when_congr made size pool _ _ (iff_of_false ?_ id) (granted size)
    rw [fitting]
    have within := round_down_within config (usageOf config (spansOf blocks)).largestFreeBlock
    omega
  case largest =>
    refine granted_when_congr made _ pool _ _ ?_ (granted _)
    rw [fitting, round_down_aligned]
    rfl
  case served => exact fun size => granted_when_congr made size pool _ _ (fitting size) (granted size)
  case whole => exact gauge_aligned config geometry (spansOf blocks) tiling

end

theorem closed_allocates (config : PoolConfig) (made size : Nat) (pool served : Pool) (closed : pool.heap = none) :
    Allocates config made pool served size ((Pool.alloc size).attempt pool).1 := by
  rw [Pool.alloc, (on_heap_closed none (Heap.alloc size) pool closed).1]
  refine ⟨iff_of_false (by simp) ?_, fun h absent => absurd absent (by simp)⟩
  rintro ⟨usage, told, _⟩
  rw [Pool.usage, (on_heap_closed none _ pool closed).1] at told
  cases told

theorem requests_that_fit_are_served {α : Type} (config : PoolConfig) (valid : config.Valid) (counter : PoolCounter) :
    ∃ pool next, Pool.init config counter = .ok (.ok pool) next ∧
      ∀ (requests : List (PoolRequest α)) (size : Nat), RoomForHandles (afterRequests requests pool) →
        Allocates config requests.length (afterRequests requests pool)
          ((Pool.alloc size).attempt (afterRequests requests pool)).2 size
          ((Pool.alloc size).attempt (afterRequests requests pool)).1 := by
  have geometry := valid_geometry config valid
  obtain ⟨pool, next, made, reached⟩ := @init_reaches α config valid counter
  refine ⟨pool, next, made, fun requests size room => ?_⟩
  cases opened : (afterRequests requests pool).heap with
  | none => exact closed_allocates config requests.length size _ _ opened
  | some heap =>
      obtain ⟨⟨blocks, sound⟩, counted⟩ := reached requests heap opened
      exact alloc_allocates config geometry requests.length size _ heap blocks opened sound counted (room heap opened)

-- The last block has 15 bytes. Seven are rounded up to eight, and what remains cannot hold a header; nine would need 16.
theorem requests_that_fit_are_served_unsplit :
    (PoolConfig.mk 71 8 8 .bestFit false).Valid ∧
      ∃ pool next reached, Pool.init (PoolConfig.mk 71 8 8 .bestFit false) ⟨3⟩ = .ok (.ok pool) next ∧
        afterRequests ([.act (.alloc 20), .act (.alloc 1)] : List (PoolRequest Unit)) pool = reached ∧
        Allocates (PoolConfig.mk 71 8 8 .bestFit false) 2 reached ((Pool.alloc 7).attempt reached).2 7
          (.ok (some ⟨⟨3⟩, 2, 0⟩)) ∧
        Allocates (PoolConfig.mk 71 8 8 .bestFit false) 2 reached ((Pool.alloc 9).attempt reached).2 9 (.ok none) := by
  have valid : (PoolConfig.mk 71 8 8 .bestFit false).Valid := by rfl
  obtain ⟨pool, next, made, serves⟩ := @requests_that_fit_are_served Unit (PoolConfig.mk 71 8 8 .bestFit false) valid ⟨3⟩
  generalize sofar : ([.act (.alloc 20), .act (.alloc 1)] : List (PoolRequest Unit)) = requests
  have room : RoomForHandles (afterRequests requests pool) := by
    cases made
    cases sofar
    intro heap opened
    cases opened
    decide
  have answered : ((Pool.alloc 7).attempt (afterRequests requests pool)).1 = .ok (some ⟨⟨3⟩, 2, 0⟩) := by
    cases made
    cases sofar
    decide +kernel
  have refused : ((Pool.alloc 9).attempt (afterRequests requests pool)).1 = .ok none := by
    cases made
    cases sofar
    decide +kernel
  have count : requests.length = 2 := by rw [← sofar]; rfl
  have served := serves requests 7 room
  have unserved := serves requests 9 room
  rw [count, answered] at served
  rw [count, refused] at unserved
  exact ⟨valid, pool, next, _, made, rfl, served, unserved⟩

theorem largest_request_is_whole_units {α : Type} (config : PoolConfig) (valid : config.Valid) (counter : PoolCounter) :
    ∃ pool next, Pool.init config counter = .ok (.ok pool) next ∧
      ∀ (requests : List (PoolRequest α)) (usage : PoolUsage), (Pool.usage.attempt (afterRequests requests pool)).1 =
        .ok (some usage) →
        Gauged config requests.length (afterRequests requests pool) usage := by
  have geometry := valid_geometry config valid
  obtain ⟨pool, next, made, reached⟩ := @init_reaches α config valid counter
  refine ⟨pool, next, made, fun requests usage told => ?_⟩
  cases opened : (afterRequests requests pool).heap with
  | none =>
      rw [Pool.usage, (on_heap_closed none _ _ opened).1] at told
      cases told
  | some heap =>
      obtain ⟨⟨blocks, sound⟩, counted⟩ := reached requests heap opened
      cases (usage_shown config geometry _ heap blocks opened sound).symm.trans told
      exact usage_gauged config geometry requests.length _ heap blocks opened sound counted

theorem largest_request_is_whole_units_odd_end :
    (PoolConfig.mk 71 8 8 .firstFit true).Valid ∧
      ∃ pool next reached usage, Pool.init (PoolConfig.mk 71 8 8 .firstFit true) ⟨3⟩ = .ok (.ok pool) next ∧
        afterRequests ([.act (.alloc 20), .act (.alloc 1)] : List (PoolRequest Unit)) pool = reached ∧
        (Pool.usage.attempt reached).1 = .ok (some usage) ∧ usage.largestFreeBlock = 15 ∧
        Gauged (PoolConfig.mk 71 8 8 .firstFit true) 2 reached usage := by
  have valid : (PoolConfig.mk 71 8 8 .firstFit true).Valid := by rfl
  obtain ⟨pool, next, made, gauged⟩ := @largest_request_is_whole_units Unit (PoolConfig.mk 71 8 8 .firstFit true) valid ⟨3⟩
  generalize sofar : ([.act (.alloc 20), .act (.alloc 1)] : List (PoolRequest Unit)) = requests
  have told : (Pool.usage.attempt (afterRequests requests pool)).1 = .ok (some ⟨71, 3, 1, 2, 32, 15, 24, 15⟩) := by
    cases made
    cases sofar
    decide +kernel
  have count : requests.length = 2 := by rw [← sofar]; rfl
  have gauge := gauged requests _ told
  rw [count] at gauge
  exact ⟨valid, pool, next, _, _, made, rfl, told, rfl, gauge⟩

-- All of the four bytes behind the only header are one free block, and nobody can have them.
theorem largest_free_block_refused :
    (PoolConfig.mk 20 16 8 .bestFit true).Valid ∧
      ∃ pool next usage, Pool.init (PoolConfig.mk 20 16 8 .bestFit true) ⟨1⟩ = .ok (.ok pool) next ∧
        (Pool.usage.attempt pool).1 = .ok (some usage) ∧ usage.largestFreeBlock = 4 ∧
        ((Pool.alloc usage.largestFreeBlock).attempt pool).1 = .ok none :=
  ⟨by rfl, _, _, _, rfl, rfl, rfl, rfl⟩

end BlockPool
