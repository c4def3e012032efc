import BlockPool.FaultyPool
import BlockPool.Proofs.PoolStore

set_option autoImplicit false

namespace BlockPool

namespace FaultyPool

def counting (f : FaultyPool) (change : CallCounts → CallCounts) : FaultyPool := { f with calls := change f.calls }

theorem alloc_counted (f : FaultyPool) (size : Nat) (once : f.plan.repeatAlloc = []) :
    FaultyPool.alloc size f =
      (if f.plan.failAlloc.contains (f.calls.alloc + 1) then pure none
        else direct (Pool.alloc (asked f.plan size)) >>= fun issued => remember issued >>= fun _ => pure issued)
          (f.counting fun c => { c with alloc := c.alloc + 1 }) := by
  have ran : FaultyPool.alloc size f =
      (if f.plan.repeatAlloc.contains (f.calls.alloc + 1) && f.lastIssued.isSome then pure f.lastIssued
        else if f.plan.failAlloc.contains (f.calls.alloc + 1) then pure none
        else direct (Pool.alloc (asked f.plan size)) >>= fun issued => remember issued >>= fun _ => pure issued)
          (f.counting fun c => { c with alloc := c.alloc + 1 }) := rfl
  rw [ran, once]
  rfl

theorem free_counted (f : FaultyPool) (h : Option Handle) (heeded : f.plan.dropFree = []) :
    FaultyPool.free h f = direct (Pool.free h) (f.counting fun c => { c with free := c.free + 1 }) := by
  have ran : FaultyPool.free h f =
      (if f.plan.dropFree.contains (f.calls.free + 1) then pure () else direct (Pool.free h))
          (f.counting fun c => { c with free := c.free + 1 }) := rfl
  rw [ran, heeded]
  rfl

theorem read_planned (f : FaultyPool) (h : Handle) (offset len : Nat) :
    FaultyPool.read h offset len f =
      (if f.plan.failRead.contains (f.calls.read + 1) then pure (.error .uninitialized) else direct (Pool.read h offset len))
        (f.counting fun c => { c with read := c.read + 1 }) := rfl

theorem read_counted (f : FaultyPool) (h : Handle) (offset len : Nat) (readable : f.plan.failRead = []) :
    FaultyPool.read h offset len f = direct (Pool.read h offset len) (f.counting fun c => { c with read := c.read + 1 }) := by
  rw [read_planned, readable]
  rfl

theorem write_counted (f : FaultyPool) (h : Handle) (offset : Nat) (data : List UInt8) :
    FaultyPool.write h offset data f =
      (if f.plan.failWrite.contains (f.calls.write + 1) then pure (.error .uninitialized) else direct (Pool.write h offset data))
        (f.counting fun c => { c with write := c.write + 1 }) := rfl

theorem direct_ok {α : Type} (step : Step Pool α) (f : FaultyPool) (value : α) (pool : Pool)
    (ran : step f.pool = .ok value pool) :
    direct step f = .ok value { f with pool } := by simp only [direct, ran]

theorem direct_error {α : Type} (step : Step Pool α) (f : FaultyPool) (reason : Abort) (pool : Pool)
    (stopped : step f.pool = .error reason pool) : direct step f = .error reason { f with pool } := by simp only [direct, stopped]

theorem asked_node (plan : FaultPlan) : asked plan Node.encodedLength = Node.encodedLength := by
  unfold asked
  split <;> rfl

end FaultyPool

-- Reads and releases go through, and no handle is handed out twice. Which allocations are refused and which writes are
-- lost is open.
structure FaultPlan.Mild (plan : FaultPlan) : Prop where
  reads : plan.failRead = []
  frees : plan.dropFree = []
  issues : plan.repeatAlloc = []

namespace FaultyPool

theorem alloc_failed (f : FaultyPool) (once : f.plan.repeatAlloc = [])
    (fails : f.plan.failAlloc.contains (f.calls.alloc + 1) = true) :
    FaultyPool.alloc Node.encodedLength f = .ok none (f.counting fun c => { c with alloc := c.alloc + 1 }) := by
  rw [alloc_counted f _ once, if_pos fails]
  rfl

theorem alloc_served (f : FaultyPool) (answer : Option Handle) (pool : Pool) (once : f.plan.repeatAlloc = [])
    (serves : f.plan.failAlloc.contains (f.calls.alloc + 1) = false)
    (ran : Pool.alloc Node.encodedLength f.pool = .ok answer pool) :
    ∃ f' : FaultyPool, FaultyPool.alloc Node.encodedLength f = .ok answer f' ∧ f'.pool = pool ∧ f'.plan = f.plan := by
  rw [alloc_counted f _ once, if_neg (by rw [serves]; exact Bool.false_ne_true), asked_node]
  exact ⟨_, step_bind_ok _ _ _ _ _ (direct_ok _ _ answer pool ran), rfl, rfl⟩

theorem alloc_stopped (f : FaultyPool) (reason : Abort) (pool : Pool) (once : f.plan.repeatAlloc = [])
    (serves : f.plan.failAlloc.contains (f.calls.alloc + 1) = false)
    (stopped : Pool.alloc Node.encodedLength f.pool = .error reason pool) :
    ∃ f' : FaultyPool, FaultyPool.alloc Node.encodedLength f = .error reason f' := by
  rw [alloc_counted f _ once, if_neg (by rw [serves]; exact Bool.false_ne_true), asked_node]
  exact ⟨_, step_bind_error _ _ _ _ _ (direct_error _ _ reason pool stopped)⟩

end FaultyPool

theorem faulty_upcoming (f : FaultyPool) (once : f.plan.repeatAlloc = []) :
    upcoming f = if f.plan.failAlloc.contains (f.calls.alloc + 1) then .ok none else upcoming f.pool := by
  cases fails : f.plan.failAlloc.contains (f.calls.alloc + 1) with
  | true => exact upcoming_ran f _ none (f.alloc_failed once fails)
  | false =>
      cases ran : Pool.alloc Node.encodedLength f.pool with
      | ok answer pool =>
          obtain ⟨f', ran', _⟩ := f.alloc_served answer pool once fails ran
          exact (upcoming_ran f f' answer ran').trans (upcoming_ran f.pool pool answer ran).symm
      | error reason pool =>
          obtain ⟨f', stopped⟩ := f.alloc_stopped reason pool once fails ran
          exact (congrArg Prod.fst (attempt_error _ f f' reason stopped)).trans
            (congrArg Prod.fst (attempt_error _ f.pool pool reason ran)).symm

def FaultyPool.outlook (f : FaultyPool) : Option Heap × FaultPlan × Nat := (f.pool.heap, f.plan, f.calls.alloc)

-- An account of a pool with faults is one of the pool. Writes are lost only where that is `lossy`.
def Spoiled (lossy : Prop) (Shows : Pool → Account → Prop) (f : FaultyPool) (acc : Account) : Prop :=
  f.plan.Mild ∧ (f.plan.failWrite ≠ [] → lossy) ∧ ∃ calls ≤ acc.calls, Shows f.pool { acc with calls }

theorem faulty_store (lossy : Prop) {Shows : Pool → Account → Prop} (store : NodeStore False RoomForHandles Pool.heap Shows) :
    NodeStore lossy (fun f : FaultyPool => RoomForHandles f.pool) FaultyPool.outlook (Spoiled lossy Shows) where
  foresees := by
    rintro f f' acc ⟨mild, _, calls, _, shows⟩ same
    have heap : f'.pool.heap = f.pool.heap := congrArg Prod.fst same
    have plan : f'.plan = f.plan := congrArg (fun seen => seen.2.1) same
    have allocs : f'.calls.alloc = f.calls.alloc := congrArg (fun seen => seen.2.2) same
    rw [faulty_upcoming f mild.issues, faulty_upcoming f' (plan ▸ mild.issues), plan, allocs,
      store.foresees f.pool f'.pool _ shows heap]
  keepsRoom := fun f f' same room => room_heap f.pool f'.pool (congrArg Prod.fst same) room
  reads := by
    rintro f acc h bytes ⟨mild, lost, calls, fewer, shows⟩ held inside
    obtain ⟨found, pool, ran, shows', still, same⟩ := store.reads f.pool _ h bytes shows held inside
    have ran' := (f.read_counted h 0 Node.encodedLength mild.reads).trans (FaultyPool.direct_ok _ _ _ pool ran)
    exact ⟨found, _, ran', ⟨mild, lost, calls, fewer, shows'⟩,
      congrArg (fun heap => (heap, f.plan, f.calls.alloc)) still, same⟩
  writes := by
    rintro f acc h bytes data ⟨mild, lost, calls, fewer, shows⟩ held inside
    have counted := f.write_counted h 0 data
    by_cases fails : f.plan.failWrite.contains (f.calls.write + 1) = true
    · rw [if_pos fails] at counted
      have some : f.plan.failWrite ≠ [] := by
        intro none
        rw [none] at fails
        cases fails
      exact .inr ⟨lost some, _, _, counted, mild, lost, calls, fewer, shows⟩
    · rw [if_neg fails] at counted
      rcases store.writes f.pool _ h bytes data shows held inside with ⟨pool, ran, shows'⟩ | ⟨fault, _⟩
      · exact .inl ⟨_, counted.trans (FaultyPool.direct_ok _ _ _ pool ran), mild, lost, calls, fewer, shows'⟩
      · exact fault.elim
  allocates := by
    rintro f acc ⟨mild, lost, calls, fewer, shows⟩ room
    cases fails : f.plan.failAlloc.contains (f.calls.alloc + 1) with
    | true => exact .inr (.inl ⟨_, f.alloc_failed mild.issues fails, mild, lost, calls, Nat.le_succ_of_le fewer, shows⟩)
    | false =>
        rcases store.allocates f.pool _ shows room with
          ⟨pool, stopped, full⟩ | ⟨pool, ran, shows'⟩ | ⟨h, bytes, pool, ran, vacant, fresh, enough, shows'⟩
        · obtain ⟨f', stopped'⟩ := f.alloc_stopped _ pool mild.issues fails stopped
          exact .inl ⟨f', stopped', full.trans fewer⟩
        · obtain ⟨f', ran', rfl, plan⟩ := f.alloc_served none pool mild.issues fails ran
          exact .inr (.inl ⟨f', ran', plan ▸ mild, plan ▸ lost, calls + 1, Nat.succ_le_succ fewer, shows'⟩)
        · obtain ⟨f', ran', rfl, plan⟩ := f.alloc_served (some h) pool mild.issues fails ran
          exact .inr (.inr ⟨h, bytes, f', ran', vacant, fresh, enough, plan ▸ mild, plan ▸ lost, calls + 1,
            Nat.succ_le_succ fewer, shows'⟩)
  frees := by
    rintro f acc h bytes ⟨mild, lost, calls, fewer, shows⟩ held
    have counted := f.free_counted (some h) mild.frees
    rcases store.frees f.pool _ h bytes shows held with ⟨pool, stopped, full⟩ | ⟨live, pool, ran, less, shows'⟩
    · exact .inl ⟨_, counted.trans (FaultyPool.direct_error _ _ _ pool stopped), full.trans fewer⟩
    · exact .inr ⟨live, _, counted.trans (FaultyPool.direct_ok _ _ _ pool ran), less, mild, lost, calls + 1,
        Nat.succ_le_succ fewer, shows'⟩
  notes := by
    rintro f acc event ⟨mild, lost, calls, fewer, shows⟩
    obtain ⟨shows', still⟩ := store.notes f.pool _ event shows
    exact ⟨⟨mild, lost, calls, fewer, shows'⟩, congrArg (fun heap => (heap, f.plan, f.calls.alloc)) still⟩

end BlockPool
