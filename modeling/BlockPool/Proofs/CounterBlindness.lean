import BlockPool.Proofs.PoolProgress

set_option autoImplicit false

namespace BlockPool

open Heap

-- Two runs of a step that end alike: in the same outcome, and in heaps that differ in counters only.
-- Where a step counts, one of the runs may have met a full counter instead.
def EndAlike {α : Type} (counting : Prop) (a b : Except Abort α × Heap) : Prop :=
  (b.1 = a.1 ∧ ∃ metrics, b.2 = { a.2 with metrics }) ∨ (counting ∧ (a.1 = .error .overflow ∨ b.1 = .error .overflow))

-- No counter decides what a step does.
def Blind {α : Type} (counting : Prop) (step : Step Heap α) : Prop :=
  ∀ heap metrics, EndAlike counting (step.attempt heap) (step.attempt { heap with metrics })

theorem blind_pure {α : Type} (counting : Prop) (value : α) : Blind counting (pure value : Step Heap α) :=
  fun _ metrics => .inl ⟨rfl, metrics, rfl⟩

theorem blind_throw {α : Type} (counting : Prop) (reason : Abort) : Blind counting (throw reason : Step Heap α) :=
  fun _ metrics => .inl ⟨rfl, metrics, rfl⟩

theorem blind_query {α : Type} (counting : Prop) (question : Heap → Except Abort α)
    (uncounted : ∀ heap metrics, question { heap with metrics } = question heap) : Blind counting (Step.query question) := by
  intro heap metrics
  refine .inl ⟨?_, metrics, ?_⟩
  · rw [query_answer, query_answer, uncounted]
  · rw [query_same, query_same]

theorem blind_bind {α β : Type} (counting : Prop) (step : Step Heap α) (next : α → Step Heap β) (first : Blind counting step)
    (rest : ∀ value, Blind counting (next value)) : Blind counting (step >>= next) := by
  intro heap metrics
  have alike := first heap metrics
  cases ran : step heap with
  | ok value middle =>
      cases ran' : step { heap with metrics } with
      | ok value' middle' =>
          rw [attempt_ok step heap middle value ran, attempt_ok step _ middle' value' ran'] at alike
          rw [Step.attempt, Step.attempt, step_bind_ok step next heap middle value ran,
            step_bind_ok step next _ middle' value' ran']
          rcases alike with ⟨same, counted, left⟩ | ⟨_, stopped⟩
          · cases same
            rw [show middle' = { middle with metrics := counted } from left]
            exact rest value middle counted
          · rcases stopped with stopped | stopped <;> cases stopped
      | error reason middle' =>
          rw [attempt_ok step heap middle value ran, attempt_error step _ middle' reason ran'] at alike
          rw [attempt_error (step >>= next) _ middle' reason (step_bind_error step next _ middle' reason ran')]
          rcases alike with ⟨same, _⟩ | ⟨counts, stopped | stopped⟩
          · cases same
          · cases stopped
          · exact .inr ⟨counts, .inr (by cases stopped; rfl)⟩
  | error reason middle =>
      rw [attempt_error step heap middle reason ran] at alike
      rw [attempt_error (step >>= next) heap middle reason (step_bind_error step next heap middle reason ran)]
      cases ran' : step { heap with metrics } with
      | ok value' middle' =>
          rw [attempt_ok step _ middle' value' ran'] at alike
          rcases alike with ⟨same, _⟩ | ⟨counts, stopped | stopped⟩
          · cases same
          · exact .inr ⟨counts, .inl (by cases stopped; rfl)⟩
          · cases stopped
      | error reason' middle' =>
          rw [attempt_error step _ middle' reason' ran'] at alike
          rw [attempt_error (step >>= next) _ middle' reason' (step_bind_error step next _ middle' reason' ran')]
          rcases alike with ⟨same, left⟩ | ⟨counts, stopped⟩
          · cases same
            exact .inl ⟨rfl, left⟩
          · rcases stopped with stopped | stopped
            · exact .inr ⟨counts, .inl (by cases stopped; rfl)⟩
            · exact .inr ⟨counts, .inr (by cases stopped; rfl)⟩

theorem blind_get {β : Type} (counting : Prop) (next : Heap → Step Heap β)
    (uncounted : ∀ heap metrics, next { heap with metrics } = next heap) (rest : ∀ seen, Blind counting (next seen)) :
    Blind counting ((get : Step Heap Heap) >>= next) := by
  intro heap metrics
  rw [Step.attempt, Step.attempt, step_get_bind, step_get_bind, uncounted heap metrics]
  exact rest heap heap metrics

theorem blind_tally (read : PoolMetrics → Nat) (store : PoolMetrics → Nat → PoolMetrics) (amount : Nat) :
    Blind True (tally fun m => do return store m (← Word.add (read m) amount)) := by
  intro heap metrics
  by_cases room : read heap.metrics + amount < Word.bound
  · by_cases room' : read metrics + amount < Word.bound
    · rw [attempt_ok _ heap _ _ (tally_ok heap read store amount room),
        attempt_ok _ _ _ _ (tally_ok { heap with metrics } read store amount room')]
      exact .inl ⟨rfl, _, rfl⟩
    · rw [attempt_error _ { heap with metrics } _ _ (tally_full _ read store amount (Nat.le_of_not_lt room'))]
      exact .inr ⟨trivial, .inr rfl⟩
  · rw [attempt_error _ heap _ _ (tally_full heap read store amount (Nat.le_of_not_lt room))]
    exact .inr ⟨trivial, .inl rfl⟩

theorem blind_on_arena {α : Type} (counting : Prop) (step : Step Arena α) : Blind counting (onArena step) := by
  rintro ⟨config, arena, registry, handles, counted⟩ metrics
  cases ran : step arena with
  | ok value arena' =>
      exact .inl ⟨by simp only [Step.attempt, onArena, ran], metrics, by simp only [Step.attempt, onArena, ran]⟩
  | error reason arena' =>
      exact .inl ⟨by simp only [Step.attempt, onArena, ran], metrics, by simp only [Step.attempt, onArena, ran]⟩

theorem blind_on_registry {α : Type} (counting : Prop) (step : Step Registry α) : Blind counting (onRegistry step) := by
  rintro ⟨config, arena, registry, handles, counted⟩ metrics
  cases ran : step registry with
  | ok value registry' =>
      exact .inl ⟨by simp only [Step.attempt, onRegistry, ran], metrics, by simp only [Step.attempt, onRegistry, ran]⟩
  | error reason registry' =>
      exact .inl ⟨by simp only [Step.attempt, onRegistry, ran], metrics, by simp only [Step.attempt, onRegistry, ran]⟩

theorem blind_on_handles {α : Type} (counting : Prop) (step : Step HandleTable α) : Blind counting (onHandles step) := by
  rintro ⟨config, arena, registry, handles, counted⟩ metrics
  cases ran : step handles with
  | ok value handles' =>
      exact .inl ⟨by simp only [Step.attempt, onHandles, ran], metrics, by simp only [Step.attempt, onHandles, ran]⟩
  | error reason handles' =>
      exact .inl ⟨by simp only [Step.attempt, onHandles, ran], metrics, by simp only [Step.attempt, onHandles, ran]⟩

theorem refuse_alloc_blind : Blind True refuseAlloc :=
  blind_bind True _ _ (blind_tally (·.allocFailures) (fun m n => { m with allocFailures := n }) 1) fun _ => blind_pure True _

theorem hand_out_blind (placement : Placement) : Blind True (handOut placement) := by
  have issue : Blind True (do
      let handle ← onHandles (HandleTable.insert placement.id)
      return (handle, placement.id) : Step Heap (Handle × BlockId)) :=
    blind_bind True _ _ (blind_on_handles True _) fun _ => blind_pure True _
  have clear : Blind True (do
      if (← get).config.zeroOnAlloc then
        let payload ← Step.query fun heap => heap.registry.payload placement.id
        onArena (Arena.clear payload.1 payload.2)
      let handle ← onHandles (HandleTable.insert placement.id)
      return (handle, placement.id) : Step Heap (Handle × BlockId)) := by
    refine blind_get True _ (fun _ _ => rfl) fun seen => ?_
    by_cases wanted : seen.config.zeroOnAlloc
    · simp only [wanted, if_true]
      refine blind_bind True _ _ (blind_query True _ fun _ _ => rfl) fun payload => ?_
      exact blind_bind True _ _ (blind_on_arena True _) fun _ => issue
    · simp only [wanted, Bool.false_eq_true, if_false]
      exact issue
  cases placement with
  | mk id split =>
      cases split with
      | false => exact clear
      | true => exact blind_bind True _ _ (blind_tally (·.splits) (fun m n => { m with splits := n }) 1) fun _ => clear

theorem alloc_block_blind (size : Nat) : Blind True (allocBlock size) := by
  refine blind_bind True _ _ (blind_tally (·.allocCalls) (fun m n => { m with allocCalls := n }) 1) fun _ => ?_
  by_cases zero : size = 0
  · simp only [if_pos zero]
    refine blind_bind True _ _ (blind_tally (·.zeroSizeRequests) (fun m n => { m with zeroSizeRequests := n }) 1) fun _ => ?_
    exact blind_pure True none
  · simp only [if_neg zero]
    refine blind_bind True _ _ (blind_query True _ fun _ _ => rfl) fun aligned => ?_
    cases aligned with
    | none => exact refuse_alloc_blind
    | some aligned =>
        refine blind_bind True _ _ (blind_on_registry True _) fun placed => ?_
        cases placed with
        | none => exact refuse_alloc_blind
        | some placement => exact blind_bind True _ _ (hand_out_blind placement) fun _ => blind_pure True _

theorem alloc_blind (size : Nat) : Blind True (Heap.alloc size) :=
  blind_bind True _ _ (alloc_block_blind size) fun _ => blind_pure True _

theorem free_blind (h : Option Handle) : Blind True (Heap.free h) := by
  refine blind_bind True _ _ (blind_tally (·.freeCalls) (fun m n => { m with freeCalls := n }) 1) fun _ => ?_
  have surrendered : Blind True (surrender h) := by
    cases h with
    | none => exact blind_pure True none
    | some h => exact blind_on_handles True _
  refine blind_bind True _ _ surrendered fun found => ?_
  cases found with
  | none => exact blind_tally (·.ignoredFrees) (fun m n => { m with ignoredFrees := n }) 1
  | some id =>
      refine blind_bind True _ _ (blind_on_registry True _) fun merged => ?_
      cases merged with
      | none => exact blind_pure True ()
      | some coalesce =>
          refine blind_bind True _ _ (blind_query True _ fun _ _ => rfl) fun _ => ?_
          exact blind_tally (·.merges) (fun m n => { m with merges := n }) coalesce.merges

theorem move_blind (h : Handle) (offset len size : Nat) : Blind True (Heap.move h offset len size) := by
  refine blind_bind True _ _ (alloc_block_blind size) fun found => ?_
  cases found with
  | none =>
      refine blind_bind True _ _ (blind_tally (·.resizeFailures) (fun m n => { m with resizeFailures := n }) 1) fun _ => ?_
      exact blind_pure True none
  | some issued =>
      refine blind_bind True _ _ (blind_query True _ fun _ _ => rfl) fun payload => ?_
      refine blind_bind True _ _ (blind_on_arena True _) fun _ => ?_
      refine blind_bind True _ _ (free_blind (some h)) fun _ => ?_
      refine blind_bind True _ _ (blind_tally (·.resizeMoved) (fun m n => { m with resizeMoved := n }) 1) fun _ => ?_
      exact blind_pure True _

theorem resize_blind (h : Option Handle) (size : Nat) : Blind True (Heap.resize h size) := by
  refine blind_bind True _ _ (blind_tally (·.resizeCalls) (fun m n => { m with resizeCalls := n }) 1) fun _ => ?_
  cases h with
  | none => exact alloc_blind size
  | some h =>
      by_cases zero : size = 0
      · simp only [if_pos zero]
        exact blind_bind True _ _ (free_blind (some h)) fun _ => blind_pure True none
      · simp only [if_neg zero]
        refine blind_get True _ (fun _ _ => rfl) fun seen => ?_
        cases seen.resolve h with
        | none => exact blind_pure True none
        | some id =>
            refine blind_bind True _ _ (blind_query True _ fun _ _ => rfl) fun payload => ?_
            obtain ⟨offset, len⟩ := payload
            by_cases fits : size ≤ len
            · simp only [if_pos fits]
              refine blind_bind True _ _ (blind_tally (·.resizeInPlace) (fun m n => { m with resizeInPlace := n }) 1) fun _ => ?_
              exact blind_pure True _
            · simp only [if_neg fits]
              exact move_blind h offset len size

theorem read_blind (h : Handle) (offset len : Nat) : Blind False (Heap.read h offset len) := by
  refine blind_bind False _ _ (blind_query False _ fun _ _ => rfl) fun found => ?_
  cases found with
  | error e => exact blind_pure False _
  | ok start => exact blind_bind False _ _ (blind_query False _ fun _ _ => rfl) fun _ => blind_pure False _

theorem write_blind (h : Handle) (offset : Nat) (data : List UInt8) : Blind False (Heap.write h offset data) := by
  refine blind_bind False _ _ (blind_query False _ fun _ _ => rfl) fun found => ?_
  cases found with
  | error e => exact blind_pure False _
  | ok start => exact blind_bind False _ _ (blind_on_arena False _) fun _ => blind_pure False _

theorem look_blind {α : Type} (h : Handle) (look : (len : Nat) → Vector UInt8 len → α) :
    Blind False (Heap.withPayload h look) := by
  refine blind_get False _ (fun _ _ => rfl) fun seen => ?_
  cases seen.resolve h with
  | none => exact blind_pure False _
  | some id =>
      refine blind_bind False _ _ (blind_query False _ fun _ _ => rfl) fun payload => ?_
      exact blind_bind False _ _ (blind_query False _ fun _ _ => rfl) fun _ => blind_pure False _

theorem edit_blind {α : Type} (h : Handle) (edit : PayloadEdit α) : Blind False (Heap.editPayload h edit) := by
  refine blind_get False _ (fun _ _ => rfl) fun seen => ?_
  cases seen.resolve h with
  | none => exact blind_pure False _
  | some id =>
      refine blind_bind False _ _ (blind_query False _ fun _ _ => rfl) fun payload => ?_
      refine blind_bind False _ _ (blind_query False _ fun _ _ => rfl) fun bytes => ?_
      cases edit payload.2 bytes with
      | ok value changed => exact blind_bind False _ _ (blind_on_arena False _) fun _ => blind_pure False _
      | error reason changed => exact blind_bind False _ _ (blind_on_arena False _) fun _ => blind_throw False reason

def PoolRequest.Counts {α : Type} : PoolRequest α → Prop
  | .act (.alloc _) => True
  | .act (.free _) => True
  | .act (.resize _ _) => True
  | _ => False

theorem request_blind {α : Type} (request : PoolRequest α) : Blind request.Counts request.work := by
  cases request with
  | act call =>
      cases call with
      | alloc size => exact alloc_blind size
      | free h => exact free_blind h
      | resize h size => exact resize_blind h size
      | read h offset len => exact read_blind h offset len
      | write h offset data => exact write_blind h offset data
      | withPayload h look => exact look_blind h look
      | editPayload h edit => exact edit_blind h edit
      | usableSize h => exact blind_query False _ fun _ _ => rfl
      | deinit => exact blind_pure False ()
  | locate h => exact blind_query False _ fun _ _ => rfl
  | usage => exact blind_query False _ fun _ _ => rfl
  | blocks => exact blind_query False _ fun _ _ => rfl
  | checkInvariants => exact blind_query False _ fun _ _ => rfl
  | liveAllocations => exact blind_query False (fun heap => .ok heap.handles.live) fun _ _ => rfl
  | isInitialized => exact blind_pure False true

def SameButCounts (a b : Pool) : Prop :=
  (a.heap = none ∧ b.heap = none) ∨ ∃ heap metrics, a.heap = some heap ∧ b.heap = some { heap with metrics }

def CanCount (pool : Pool) : Prop := ∀ heap, pool.heap = some heap → CountersOpen heap.metrics

-- As long as both can count, two pools answer the same.
def Echoes {α : Type} : Pool → Pool → List (PoolRequest α) → Prop
  | _, _, [] => True
  | a, b, request :: rest =>
    CanCount a → CanCount b →
      (request.perform.attempt b).1 = (request.perform.attempt a).1 ∧ Echoes (request.after a) (request.after b) rest

theorem work_echoes {α : Type} (config : PoolConfig) (geometry : Geometry config) (heap : Heap) (metrics : PoolMetrics)
    (request : PoolRequest α) (kept : Kept config heap) (kept' : Kept config { heap with metrics })
    (room : CountersOpen heap.metrics) (room' : CountersOpen metrics) :
    (request.work.attempt { heap with metrics }).1 = (request.work.attempt heap).1 ∧
      ∃ counted, (request.work.attempt { heap with metrics }).2 = { (request.work.attempt heap).2 with metrics := counted } := by
  obtain ⟨blocks, sound⟩ := kept
  obtain ⟨blocks', sound'⟩ := kept'
  rcases request_blind request heap metrics with alike | ⟨counts, stopped⟩
  · exact alike
  · -- what counts answers as long as it can count
    have gentle : request.Gentle := by
      cases request with
      | act call =>
          cases call with
          | editPayload h edit => exact counts.elim
          | _ => trivial
      | _ => trivial
    obtain ⟨answer, answered⟩ := work_answers config geometry heap blocks request gentle sound room
    obtain ⟨answer', answered'⟩ := work_answers config geometry _ blocks' request gentle sound' room'
    rw [answered, answered'] at stopped
    rcases stopped with stopped | stopped <;> cases stopped

theorem pools_echo {α : Type} (config : PoolConfig) (geometry : Geometry config) (requests : List (PoolRequest α)) (a b : Pool)
    (same : SameButCounts a b) (kept : Maintained config a) (kept' : Maintained config b) : Echoes a b requests := by
  induction requests generalizing a b with
  | nil => trivial
  | cons request rest ih =>
      intro room room'
      have next := request_kept config geometry request a kept
      have next' := request_kept config geometry request b kept'
      rcases same with ⟨closed, closed'⟩ | ⟨heap, metrics, opened, opened'⟩
      · obtain ⟨answer, still⟩ := request_closed request a closed
        obtain ⟨answer', still'⟩ := request_closed request b closed'
        exact ⟨answer'.trans answer.symm, ih _ _ (.inl ⟨still, still'⟩) next next'⟩
      · by_cases closing : request = .act .deinit
        · subst closing
          have answer : (Pool.deinit.attempt b).1 = (Pool.deinit.attempt a).1 := (deinit_closes b).1.trans (deinit_closes a).1.symm
          exact ⟨answer, ih _ _ (.inl ⟨deinit_request_closes a, deinit_request_closes b⟩) next next'⟩
        · obtain ⟨answer, left⟩ := request_open request closing a heap opened
          obtain ⟨answer', left'⟩ := request_open request closing b _ opened'
          obtain ⟨agrees, counted, differs⟩ :=
            work_echoes config geometry heap metrics request (kept heap opened) (kept' _ opened')
            (room heap opened) (room' _ opened')
          rw [differs] at left'
          exact ⟨answer'.trans (agrees.trans answer.symm), ih _ _ (.inr ⟨_, counted, left, left'⟩) next next'⟩

end BlockPool
