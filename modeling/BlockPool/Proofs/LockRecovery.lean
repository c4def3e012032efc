import BlockPool.Proofs.LiveAllocations

set_option autoImplicit false

namespace BlockPool

open Heap

-- Whatever is asked of a pool: its requests, its counters, and its text, for which alone the lock is not taken.
inductive PoolUse (α : Type) where
  | asks (request : PoolRequest α)
  | metrics
  | text

namespace PoolUse

variable {α : Type}

def Answer : PoolUse α → Type
  | .asks request => request.Answer
  | .metrics => Option PoolMetrics
  | .text => String

def perform : (use : PoolUse α) → Step Pool use.Answer
  | .asks request => request.perform
  | .metrics => Pool.metrics
  | .text => Step.query fun pool => .ok pool.record

def after (use : PoolUse α) (pool : Pool) : Pool := (use.perform.attempt pool).2

def locks : PoolUse α → Bool
  | .text => false
  | _ => true

def farewell (use : PoolUse α) (pool : Pool) : List Event :=
  match use with
  | .asks (.act .deinit) => (pool.heap.map fun heap => .deinitialized pool.id heap.handles.live).toList
  | _ => []

def GivesUp (use : PoolUse α) (pool : Pool) (reason : Abort) : Prop :=
  ∃ h edit heap bytes changed, use = .asks (.act (.editPayload h edit)) ∧ pool.heap = some heap ∧
    contents heap h = some bytes ∧
    edit bytes.length (lend bytes) = .error reason changed

def Gentle : PoolUse α → Prop
  | .asks request => request.Gentle
  | _ => True

end PoolUse

def afterUses {α : Type} (uses : List (PoolUse α)) (pool : Pool) : Pool := uses.foldl (fun pool use => use.after pool) pool

def Pool.recovery (pool : Pool) : List Event := if pool.poisoned then [.lockRecovered pool.id] else []

def Pool.warnings (pool : Pool) : Nat := pool.journal.toList.count (.lockRecovered pool.id)

def stopped {α : Type} : Except Abort α → Bool
  | .ok _ => false
  | .error _ => true

def AnswersAlike {α : Type} : Pool → Pool → List (PoolUse α) → Prop
  | _, _, [] => True
  | a, b, use :: rest => (use.perform.attempt a).1 = (use.perform.attempt b).1 ∧ AnswersAlike (use.after a) (use.after b) rest

-- Closures that write the same; one of them then gives up, the other ends.
def givingUp {α : Type} (rewrite : (len : Nat) → Vector UInt8 len → Vector UInt8 len) : PayloadEdit α :=
  fun len bytes => .error .closure (rewrite len bytes)

def ending {α : Type} (rewrite : (len : Nat) → Vector UInt8 len → Vector UInt8 len) (value : α) : PayloadEdit α :=
  fun len bytes => .ok value (rewrite len bytes)

-- What the journal and the lock show of one use after so many others. Unless a counter is full, only a closure poisons the lock.
structure Logs {α : Type} (made : Nat) (use : PoolUse α) (pool : Pool) : Prop where
  aside : use.locks = false → use.after pool = pool
  journal : use.locks = true → (use.after pool).journal = pool.journal ++ (pool.recovery ++ use.farewell pool)
  poisoned : use.locks = true → (use.after pool).poisoned = stopped (use.perform.attempt pool).1
  stops : ∀ reason, (use.perform.attempt pool).1 = .error reason → use.GivesUp pool reason ∨ Word.greatest ≤ made

def Logged {α : Type} : Nat → Pool → List (PoolUse α) → Prop
  | _, _, [] => True
  | made, pool, use :: rest => Logs made use pool ∧ Logged (made + 1) (use.after pool) rest

-- Of a heap only the payload behind a handle was written, and it holds what the closure made of it.
structure Rewritten (heap : Heap) (h : Handle) (rewrite : (len : Nat) → Vector UInt8 len → Vector UInt8 len)
    (arena : Arena) : Prop where
  capacity : arena.capacity = heap.arena.capacity
  inside : ∃ bytes, contents heap h = some bytes ∧
    contents { heap with arena } h = some (rewrite bytes.length (lend bytes)).toList
  outside : ∃ info, heap.locate h = .ok (some info) ∧
    ∀ i, i < info.payloadOffset ∨ info.payloadOffset + info.size ≤ i → arena.bytes[i]? = heap.arena.bytes[i]?

-- What is left of a pool after a closure gave up in it, beside what is left if it ends.
structure Unharmed (α : Type) (made : Nat) (h : Handle) (rewrite : (len : Nat) → Vector UInt8 len → Vector UInt8 len)
    (pool broken whole : Pool) : Prop where
  id : broken.id = pool.id
  config : broken.config = pool.config
  heap : ∃ heap arena, pool.heap = some heap ∧ broken.heap = some { heap with arena } ∧ Rewritten heap h rewrite arena
  journal : broken.journal = pool.journal ++ pool.recovery
  poisoned : broken.poisoned = true
  alike : ∀ uses : List (PoolUse α), AnswersAlike broken whole uses
  logged : ∀ uses : List (PoolUse α), Logged (made + 1) broken uses
  -- without another closure that gives up there is one warning, as soon as the lock is taken
  once : ∀ uses : List (PoolUse α), (∀ use ∈ uses, use.Gentle) → made + 1 + uses.length ≤ Word.greatest →
    (afterUses uses broken).poisoned = !uses.any PoolUse.locks ∧
      (afterUses uses broken).warnings = broken.warnings + if uses.any PoolUse.locks then 1 else 0

theorem locked_attempt {α : Type} (step : Step (Option Heap) α) (pool : Pool) :
    (Pool.locked step).attempt pool =
      ((step.attempt pool.heap).1,
        ⟨pool.id, pool.config, (step.attempt pool.heap).2, stopped (step.attempt pool.heap).1,
          pool.journal ++ pool.recovery⟩) := by
  obtain ⟨id, config, heap, poisoned, journal⟩ := pool
  have noted : (if poisoned then journal.push (.lockRecovered id) else journal) =
      journal ++ (⟨id, config, heap, poisoned, journal⟩ : Pool).recovery := by
    cases poisoned <;> simp [Pool.recovery]
  cases ran : step heap with
  | ok value next => simp only [Step.attempt, Pool.locked, ran, noted, stopped]
  | error reason next => simp only [Step.attempt, Pool.locked, ran, noted, stopped]

theorem farewell_none {α : Type} (use : PoolUse α) (going : use ≠ .asks (.act .deinit)) (pool : Pool) :
    use.farewell pool = [] := by
  unfold PoolUse.farewell
  split
  · exact absurd rfl going
  · rfl

theorem deinit_attempt (pool : Pool) :
    Pool.deinit.attempt pool =
      (.ok (), ⟨pool.id, pool.config, none, false,
        pool.journal ++ (pool.recovery ++ (.asks (.act .deinit) : PoolUse Unit).farewell pool)⟩) := by
  obtain ⟨id, config, heap, poisoned, journal⟩ := pool
  cases heap <;> cases poisoned <;> simp [Pool.recovery, PoolUse.farewell] <;> rfl

-- Every use that takes the lock goes by the heap alone.
theorem locking_use {α : Type} (use : PoolUse α) (locks : use.locks = true) :
    ∃ step : Step (Option Heap) use.Answer, ∀ pool : Pool,
      use.perform.attempt pool =
        ((step.attempt pool.heap).1,
          ⟨pool.id, pool.config, (step.attempt pool.heap).2, stopped (step.attempt pool.heap).1,
            pool.journal ++ (pool.recovery ++ use.farewell pool)⟩) := by
  by_cases closing : use = .asks (.act .deinit)
  · subst closing
    exact ⟨fun _ => .ok () none, deinit_attempt⟩
  have silent (step : Step (Option Heap) use.Answer) (performs : use.perform = Pool.locked step) (pool : Pool) :
      use.perform.attempt pool =
        ((step.attempt pool.heap).1,
          ⟨pool.id, pool.config, (step.attempt pool.heap).2, stopped (step.attempt pool.heap).1,
            pool.journal ++ (pool.recovery ++ use.farewell pool)⟩) := by
    rw [performs, locked_attempt, farewell_none use closing, List.append_nil]
  cases use with
  | text => cases locks
  | metrics =>
      have works : (PoolUse.metrics : PoolUse α).perform = Pool.onHeap none (Step.query fun heap => .ok (some heap.metrics)) := rfl
      exact ⟨_, silent _ works⟩
  | asks request =>
      have works := PoolRequest.perform_request request fun same => closing (congrArg PoolUse.asks same)
      exact ⟨_, silent _ works⟩

theorem use_named {α : Type} (use : PoolUse α) (pool : Pool) :
    (use.after pool).id = pool.id ∧ (use.after pool).config = pool.config := by
  cases locks : use.locks with
  | true =>
      obtain ⟨step, goes⟩ := locking_use use locks
      rw [PoolUse.after, goes pool]
      exact ⟨rfl, rfl⟩
  | false =>
      cases use with
      | text => exact ⟨rfl, rfl⟩
      | asks request => cases locks
      | metrics => cases locks

structure SameHeap (a b : Pool) : Prop where
  id : a.id = b.id
  config : a.config = b.config
  heap : a.heap = b.heap

theorem record_alike (a b : Pool) (same : SameHeap a b) : a.record = b.record := by
  simp only [Pool.record, Pool.recordWith, same.id, same.config, same.heap]

theorem use_alike {α : Type} (use : PoolUse α) (a b : Pool) (same : SameHeap a b) :
    (use.perform.attempt a).1 = (use.perform.attempt b).1 ∧ SameHeap (use.after a) (use.after b) := by
  unfold PoolUse.after
  cases locks : use.locks with
  | true =>
      obtain ⟨step, goes⟩ := locking_use use locks
      rw [goes a, goes b, same.heap]
      exact ⟨rfl, same.id, same.config, rfl⟩
  | false =>
      cases use with
      | text => exact ⟨congrArg Except.ok (record_alike a b same), same⟩
      | asks request => cases locks
      | metrics => cases locks

theorem uses_alike {α : Type} (uses : List (PoolUse α)) (a b : Pool) (same : SameHeap a b) : AnswersAlike a b uses := by
  induction uses generalizing a b with
  | nil => trivial
  | cons use rest ih =>
      obtain ⟨answers, next⟩ := use_alike use a b same
      exact ⟨answers, ih _ _ next⟩

theorem use_reached {α : Type} (config : PoolConfig) (geometry : Geometry config) (use : PoolUse α) (made : Nat) (pool : Pool)
    (reached : Reached config made pool) : Reached config (made + 1) (use.after pool) := by
  have idle (same : (use.after pool).heap = pool.heap) : Reached config (made + 1) (use.after pool) := by
    intro heap opened
    obtain ⟨kept, counted⟩ := reached heap (same.symm.trans opened)
    exact ⟨kept, advanced_counted made _ _ counted (still_advanced 1 1 1 heap.metrics)⟩
  cases use with
  | asks request => exact request_reached config geometry request made pool reached
  | text => exact idle rfl
  | metrics =>
      refine idle ?_
      obtain ⟨id, _, heap, poisoned, journal⟩ := pool
      cases heap <;> rfl

theorem uses_reached {α : Type} (config : PoolConfig) (geometry : Geometry config) (uses : List (PoolUse α))
    (made : Nat) (pool : Pool) (reached : Reached config made pool) :
    Reached config (made + uses.length) (afterUses uses pool) := by
  induction uses generalizing made pool with
  | nil => exact reached
  | cons use rest ih =>
      rw [List.length_cons, Nat.add_comm rest.length, ← Nat.add_assoc]
      exact ih (made + 1) (use.after pool) (use_reached config geometry use made pool reached)

theorem edit_stops {α : Type} (config : PoolConfig) (geometry : Geometry config) (h : Handle) (edit : PayloadEdit α) (pool : Pool)
    (reason : Abort) (maintained : Maintained config pool) (stops : ((Pool.editPayload h edit).attempt pool).1 = .error reason) :
    (PoolUse.asks (.act (.editPayload h edit))).GivesUp pool reason := by
  cases opened : pool.heap with
  | none =>
      rw [Pool.editPayload, Pool.onPayload, (on_heap_closed _ _ pool opened).1] at stops
      cases stops
  | some heap =>
      obtain ⟨blocks, sound⟩ := maintained heap opened
      rw [Pool.editPayload, Pool.onPayload, (on_heap_open _ _ pool heap opened).1] at stops
      have agrees := edit_agrees config geometry heap blocks h edit sound
      unfold EditAgrees at agrees
      rw [stops] at agrees
      cases held : contents heap h with
      | none =>
          rw [held] at agrees
          cases agrees.1
      | some bytes =>
          simp only [held] at agrees
          cases edited : edit bytes.length (lend bytes) with
          | ok value changed =>
              simp only [edited] at agrees
              cases agrees.1
          | error other changed =>
              simp only [edited] at agrees
              cases agrees.1
              exact ⟨h, edit, heap, bytes, changed, rfl, opened, held, edited⟩

theorem counted_open (made : Nat) (m : PoolMetrics) (counted : Counted made m) (room : ¬ Word.greatest ≤ made) :
    CountersOpen m := by
  have allocs := counted.allocs
  have frees := counted.frees
  have resizes := counted.resizes
  simp only [Word.greatest] at room
  exact ⟨by omega, by omega, by omega⟩

theorem request_stops {α : Type} (config : PoolConfig) (geometry : Geometry config) (request : PoolRequest α)
    (made : Nat) (pool : Pool) (reason : Abort) (reached : Reached config made pool)
    (stops : (request.perform.attempt pool).1 = .error reason) :
    (PoolUse.asks request).GivesUp pool reason ∨ Word.greatest ≤ made := by
  by_cases full : Word.greatest ≤ made
  · exact .inr full
  have maintained : Maintained config pool := fun heap opened => (reached heap opened).1
  have room : ∀ heap, pool.heap = some heap → CountersOpen heap.metrics := fun heap opened =>
    counted_open made heap.metrics (reached heap opened).2 full
  have lasting (gentle : request.Gentle) : False := by
    obtain ⟨answer, answered⟩ := request_answers config geometry pool request gentle maintained room
    cases stops.symm.trans answered
  cases request with
  | act call =>
      cases call with
      | editPayload h edit => exact .inl (edit_stops config geometry h edit pool reason maintained stops)
      | _ => exact (lasting trivial).elim
  | _ => exact (lasting trivial).elim

theorem use_stops {α : Type} (config : PoolConfig) (geometry : Geometry config) (use : PoolUse α) (made : Nat) (pool : Pool)
    (reason : Abort) (reached : Reached config made pool) (stops : (use.perform.attempt pool).1 = .error reason) :
    use.GivesUp pool reason ∨ Word.greatest ≤ made := by
  cases use with
  | asks request => exact request_stops config geometry request made pool reason reached stops
  | text => cases stops
  | metrics =>
      obtain ⟨id, _, heap, poisoned, journal⟩ := pool
      cases heap <;> cases stops

theorem use_logs {α : Type} (config : PoolConfig) (geometry : Geometry config) (use : PoolUse α) (made : Nat) (pool : Pool)
    (reached : Reached config made pool) : Logs made use pool := by
  refine ⟨fun aside => ?_, fun locks => ?_, fun locks => ?_, fun reason => use_stops config geometry use made
    pool reason reached⟩
  · cases use with
    | text => rfl
    | asks request => cases aside
    | metrics => cases aside
  · obtain ⟨step, goes⟩ := locking_use use locks
    rw [PoolUse.after, goes pool]
  · obtain ⟨step, goes⟩ := locking_use use locks
    rw [PoolUse.after, goes pool]

theorem uses_logged {α : Type} (config : PoolConfig) (geometry : Geometry config) (uses : List (PoolUse α)) (made : Nat)
    (pool : Pool) (reached : Reached config made pool) : Logged made pool uses := by
  induction uses generalizing made pool with
  | nil => trivial
  | cons use rest ih =>
      exact ⟨use_logs config geometry use made pool reached,
        ih (made + 1) _ (use_reached config geometry use made pool reached)⟩

theorem farewell_warns_not {α : Type} (use : PoolUse α) (pool : Pool) :
    (use.farewell pool).count (.lockRecovered pool.id) = 0 := by
  unfold PoolUse.farewell
  split
  · cases pool.heap <;> simp
  · rfl

theorem gentle_goes_on {α : Type} (use : PoolUse α) (pool : Pool) (reason : Abort) (gentle : use.Gentle) :
    ¬ use.GivesUp pool reason := by
  rintro ⟨h, edit, heap, bytes, changed, rfl, _, _, gaveUp⟩
  obtain ⟨value, ended, goes⟩ := gentle bytes.length (lend bytes)
  cases gaveUp.symm.trans goes

theorem use_clears {α : Type} (use : PoolUse α) (made : Nat) (pool : Pool) (logs : Logs made use pool) (locks : use.locks = true)
    (gentle : use.Gentle) (room : made < Word.greatest) :
    (use.after pool).poisoned = false ∧ (use.after pool).warnings = pool.warnings + if pool.poisoned then 1 else 0 := by
  constructor
  · rw [logs.poisoned locks]
    cases answer : (use.perform.attempt pool).1 with
    | ok value => rfl
    | error reason =>
        rcases logs.stops reason answer with gaveUp | full
        · exact absurd gaveUp (gentle_goes_on use pool reason gentle)
        · exact absurd room (Nat.not_lt.mpr full)
  · rw [Pool.warnings, logs.journal locks, (use_named use pool).1, Array.toList_appendList, List.count_append, List.count_append,
      farewell_warns_not, Nat.add_zero, Pool.recovery]
    split <;> simp [Pool.warnings]

theorem logged_once {α : Type} (uses : List (PoolUse α)) (made : Nat) (pool : Pool) (logged : Logged made pool uses)
    (gentle : ∀ use ∈ uses, use.Gentle) (room : made + uses.length ≤ Word.greatest) :
    (afterUses uses pool).poisoned = (pool.poisoned && !uses.any PoolUse.locks) ∧
      (afterUses uses pool).warnings = pool.warnings + if pool.poisoned && uses.any PoolUse.locks then 1 else 0 := by
  induction uses generalizing made pool with
  | nil => simp [afterUses]
  | cons use rest ih =>
      obtain ⟨logs, later⟩ := logged
      obtain ⟨calm, gentle⟩ := List.forall_mem_cons.mp gentle
      rw [List.length_cons] at room
      obtain ⟨poison, warned⟩ := ih (made + 1) (use.after pool) later gentle (by omega)
      have unfolded : afterUses (use :: rest) pool = afterUses rest (use.after pool) := rfl
      rw [unfolded, poison, warned, List.any_cons]
      cases locks : use.locks with
      | false => simp [logs.aside locks]
      | true =>
          obtain ⟨cleared, counted⟩ := use_clears use made pool logs locks calm (by omega)
          simp [cleared, counted]

theorem rewritten_by (config : PoolConfig) (geometry : Geometry config) (heap : Heap) (blocks : List LinkedSpan) (h : Handle)
    (place : Place) (rewrite : (len : Nat) → Vector UInt8 len → Vector UInt8 len) (sound : Sound config heap blocks)
    (member : place ∈ places config.headerOverhead 0 blocks) (known : heap.resolve h = some place.id) :
    let bytes := segment heap.arena.bytes place.start place.size
    Rewritten heap h rewrite (written heap place.start (rewrite bytes.length (lend bytes)).toList).arena := by
  intro bytes
  have length := payload_length config heap blocks place sound member
  have inside := place_in_arena config heap.registry blocks sound.registry.charted place member
  have capacity : heap.arena.bytes.size = config.capacity := sound.arena
  have same : (rewrite bytes.length (lend bytes)).toList.length = place.size := by rw [Vector.length_toList, length]
  obtain ⟨_, left⟩ := edited_contents config geometry heap blocks h place (rewrite bytes.length (lend bytes)) sound member known
  refine ⟨overwrite_size _ _ _, ⟨bytes, contents_some config geometry heap blocks h place sound member known, ?_⟩,
    ⟨_, locate_place config geometry heap blocks h place sound member known, fun i apart => ?_⟩⟩
  · exact (congrFun left h).trans (put_same _ _ _)
  · change i < place.start ∨ place.start + place.size ≤ i at apart
    rw [written, overwrite_get _ _ _ _ (by omega), if_neg (by omega)]

theorem closure_unharmed {α : Type} (config : PoolConfig) (geometry : Geometry config) (made : Nat) (pool : Pool)
    (h : Handle) (rewrite : (len : Nat) → Vector UInt8 len → Vector UInt8 len) (value : α)
    (reached : Reached config made pool) (live : Live pool h) :
    ((Pool.editPayload h (givingUp rewrite : PayloadEdit α)).attempt pool).1 = .error .closure ∧
      ((Pool.editPayload h (ending rewrite value)).attempt pool).1 = .ok (.ok value) ∧
      Unharmed α made h rewrite pool ((Pool.editPayload h (givingUp rewrite : PayloadEdit α)).attempt pool).2
        ((Pool.editPayload h (ending rewrite value)).attempt pool).2 := by
  obtain ⟨heap, id, opened, known⟩ := live
  obtain ⟨⟨blocks, sound⟩, _⟩ := reached heap opened
  obtain ⟨place, member, rfl⟩ := sound_resolves config heap blocks h id sound known
  have gives :=
    attempt_error _ heap _ _
      (edit_ran config geometry heap blocks h place (givingUp rewrite : PayloadEdit α) sound member known)
  have ends := attempt_ok _ heap _ _ (edit_ran config geometry heap blocks h place (ending rewrite value) sound member known)
  obtain ⟨gaveUp, left⟩ :=
    on_heap_open (.error .uninitialized) (Heap.editPayload h (givingUp rewrite : PayloadEdit α)) pool heap opened
  obtain ⟨ended, left'⟩ := on_heap_open (.error .uninitialized) (Heap.editPayload h (ending rewrite value)) pool heap opened
  rw [gives] at gaveUp left
  rw [ends] at ended left'
  let use : PoolUse α := .asks (.act (.editPayload h (givingUp rewrite)))
  let twin : PoolUse α := .asks (.act (.editPayload h (ending rewrite value)))
  have logs := use_logs config geometry use made pool reached
  have next := use_reached config geometry use made pool reached
  have poisoned : (use.after pool).poisoned = true := (logs.poisoned rfl).trans (congrArg stopped gaveUp)
  obtain ⟨id, sameConfig⟩ := use_named use pool
  obtain ⟨id', sameConfig'⟩ := use_named twin pool
  have logged (uses : List (PoolUse α)) := uses_logged config geometry uses (made + 1) (use.after pool) next
  refine ⟨gaveUp, ended, id, sameConfig, ?_, ?_, poisoned, fun uses => ?_, logged, fun uses gentle room => ?_⟩
  · exact ⟨heap, _, opened, left, rewritten_by config geometry heap blocks h place rewrite sound member known⟩
  · exact (logs.journal rfl).trans (by rw [show use.farewell pool = [] from rfl, List.append_nil])
  · exact uses_alike uses _ _ ⟨id.trans id'.symm, sameConfig.trans sameConfig'.symm, left.trans left'.symm⟩
  · have once := logged_once uses (made + 1) (use.after pool) (logged uses) gentle room
    rw [poisoned, Bool.true_and, Bool.true_and] at once
    exact once

theorem closure_gives_up {α : Type} (config : PoolConfig) (valid : config.Valid) (counter : PoolCounter) :
    ∃ pool next, Pool.init config counter = .ok (.ok pool) next ∧
      ∀ (earlier : List (PoolUse α)) (h : Handle) (rewrite : (len : Nat) → Vector UInt8 len → Vector UInt8 len) (value : α),
        Live (afterUses earlier pool) h →
          ((Pool.editPayload h (givingUp rewrite : PayloadEdit α)).attempt (afterUses earlier pool)).1 = .error .closure ∧
          ((Pool.editPayload h (ending rewrite value)).attempt (afterUses earlier pool)).1 = .ok (.ok value) ∧
          Unharmed α earlier.length h rewrite (afterUses earlier pool)
            ((Pool.editPayload h (givingUp rewrite : PayloadEdit α)).attempt (afterUses earlier pool)).2
            ((Pool.editPayload h (ending rewrite value)).attempt (afterUses earlier pool)).2 := by
  have geometry := valid_geometry config valid
  obtain ⟨pool, next, made, reached⟩ := @init_reaches α config valid counter
  refine ⟨pool, next, made, fun earlier h rewrite value live => ?_⟩
  have sofar := uses_reached config geometry earlier 0 pool (reached [])
  rw [Nat.zero_add] at sofar
  exact closure_unharmed config geometry earlier.length _ h rewrite value sofar live

-- The lock is still poisoned by an earlier closure.
theorem closure_gives_up_again :
    (PoolConfig.mk 101 0 8 .firstFit false).Valid ∧
      ∃ pool next reached, Pool.init (PoolConfig.mk 101 0 8 .firstFit false) ⟨7⟩ = .ok (.ok pool) next ∧
        afterUses
          ([.asks (.act (.alloc 5)),
            .asks (.act (.editPayload ⟨⟨7⟩, 0, 0⟩ (givingUp fun _ bytes => bytes))), .text] :
          List (PoolUse Unit)) pool = reached ∧ reached.poisoned = true ∧
        Unharmed Unit 3 ⟨⟨7⟩, 0, 0⟩ (fun _ bytes => bytes.map (· + 1)) reached
          ((Pool.editPayload ⟨⟨7⟩, 0, 0⟩ (givingUp fun _ bytes => bytes.map (· + 1) : PayloadEdit Unit)).attempt reached).2
          ((Pool.editPayload ⟨⟨7⟩, 0, 0⟩ (ending (fun _ bytes => bytes.map (· + 1)) ())).attempt reached).2 := by
  have valid : (PoolConfig.mk 101 0 8 .firstFit false).Valid := by rfl
  obtain ⟨pool, next, made, unharmed⟩ := @closure_gives_up Unit (PoolConfig.mk 101 0 8 .firstFit false) valid ⟨7⟩
  generalize sofar :
    ([.asks (.act (.alloc 5)), .asks (.act (.editPayload ⟨⟨7⟩, 0, 0⟩ (givingUp fun _ bytes => bytes))), .text] :
    List (PoolUse Unit)) = earlier
  have poisoned : (afterUses earlier pool).poisoned = true := by
    cases made
    cases sofar
    rfl
  have live : Live (afterUses earlier pool) ⟨⟨7⟩, 0, 0⟩ := by
    cases made
    cases sofar
    exact ⟨_, 0, rfl, rfl⟩
  have count : earlier.length = 3 := by rw [← sofar]; rfl
  obtain ⟨_, _, left⟩ := unharmed earlier ⟨⟨7⟩, 0, 0⟩ (fun _ bytes => bytes.map (· + 1)) () live
  rw [count] at left
  exact ⟨valid, pool, next, _, made, rfl, poisoned, left⟩

end BlockPool
