import BlockPool.Proofs.FaultyStore
import BlockPool.Proofs.ListOperations

set_option autoImplicit false

namespace BlockPool

open LinkedList

namespace FaultyPool

def failing (f : FaultyPool) (reads : List Nat) : FaultyPool := { f with plan := { f.plan with failRead := reads } }

def past (f : FaultyPool) (pool : Pool) : FaultyPool := { f with pool, calls := { f.calls with read := f.calls.read + 1 } }

-- How many of the next reads go through before one fails, or `count` if none of that many does.
def legible (f : FaultyPool) (count : Nat) : Nat :=
  (List.range' (f.calls.read + 1) count).findIdx fun ordinal => f.plan.failRead.contains ordinal

theorem legible_next (f : FaultyPool) (pool : Pool) (count : Nat) :
    f.legible (count + 1) = if f.plan.failRead.contains (f.calls.read + 1) then 0 else (f.past pool).legible count + 1 := by
  rw [legible, List.range'_succ, List.findIdx_cons]
  cases f.plan.failRead.contains (f.calls.read + 1) <;> rfl

end FaultyPool

def carried {σ α : Type} (change : σ → σ) : EStateM.Result Abort σ α → EStateM.Result Abort σ α
  | .ok value s => .ok value (change s)
  | .error reason s => .error reason (change s)

-- Which reads fail makes no difference to a step, and it leaves that as it is.
def Readless {α : Type} (step : Step FaultyPool α) : Prop :=
  ∀ f reads, step (f.failing reads) = carried (·.failing reads) (step f)

section Readless

variable {α β : Type}

theorem readless_pure (value : α) : Readless (pure value : Step FaultyPool α) := fun _ _ => rfl

theorem readless_bind (step : Step FaultyPool α) (next : α → Step FaultyPool β) (first : Readless step)
    (rest : ∀ value, Readless (next value)) : Readless (step >>= next) := by
  intro f reads
  rw [step_bind, step_bind, EStateM.bind, EStateM.bind, first f reads]
  cases step f with
  | ok value f' => exact rest value f' reads
  | error reason f' => rfl

theorem readless_ite (p : Prop) [Decidable p] (a b : Step FaultyPool α) (yes : Readless a) (no : Readless b) :
    Readless (if p then a else b) := by
  split
  · exact yes
  · exact no

theorem readless_direct (step : Step Pool α) : Readless (FaultyPool.direct step) := by
  intro f reads
  cases ran : step f.pool with
  | ok value pool =>
      rw [FaultyPool.direct_ok step f value pool ran, FaultyPool.direct_ok step (f.failing reads) value pool ran]
      rfl
  | error reason pool =>
      rw [FaultyPool.direct_error step f reason pool ran, FaultyPool.direct_error step (f.failing reads) reason pool ran]
      rfl

theorem readless_alloc (size : Nat) : Readless (BlockAllocator.alloc size : Step FaultyPool _) := fun f reads =>
  readless_ite _ _ _ (readless_pure f.lastIssued)
    (readless_ite _ _ _ (readless_pure none)
      (readless_bind _ _ (readless_direct (Pool.alloc (FaultyPool.asked f.plan size))) fun issued =>
        readless_bind _ _ (fun _ _ => rfl) fun _ => readless_pure issued))
          (f.counting fun c => { c with alloc := c.alloc + 1 }) reads

theorem readless_free (h : Option Handle) : Readless (BlockAllocator.free h : Step FaultyPool _) := fun f reads =>
  readless_ite _ _ _ (readless_pure ()) (readless_direct (Pool.free h)) (f.counting fun c => { c with free := c.free + 1 }) reads

theorem readless_store (h : Handle) (node : Node) : Readless (LinkedList.store h node : Step FaultyPool _) := by
  refine readless_bind _ _ (fun f reads => ?_) fun answer => ?_
  · exact readless_ite _ _ _ (readless_pure _) (readless_direct (Pool.write h 0 node.encode.toList))
      (f.counting fun c => { c with write := c.write + 1 }) reads
  · cases answer <;> exact readless_pure _

theorem readless_create (node : Node) : Readless (LinkedList.create node : Step FaultyPool _) := by
  refine readless_bind _ _ (readless_alloc _) fun answer => ?_
  cases answer with
  | none => exact readless_bind _ _ (fun _ _ => rfl) fun _ => readless_pure _
  | some h =>
      refine readless_bind _ _ (readless_store h node) fun stored => readless_ite _ _ _ (readless_pure _) ?_
      exact readless_bind _ _ (readless_free _) fun _ => readless_pure _

theorem readless_link (l : LinkedList) (prev : Option (Handle × Node)) (h : Handle) :
    Readless (l.link prev h : Step FaultyPool _) := by
  cases prev with
  | none => exact readless_pure _
  | some ahead =>
      refine readless_bind _ _
        (readless_bind _ _ (readless_store _ _) fun stored => readless_ite _ _ _ (readless_pure _) ?_) fun _ =>
        readless_pure _
      exact readless_bind _ _ (readless_free _) fun _ => readless_pure _

theorem readless_unlink (l : LinkedList) (link : Option (Handle × Node) × Option (Handle × Node)) :
    Readless (l.unlink link : Step FaultyPool _) := by
  obtain ⟨_ | ahead, _ | found⟩ := link
  · exact readless_pure _
  · exact readless_bind _ _ (readless_free _) fun _ => readless_pure _
  · exact readless_pure _
  · refine readless_bind _ _ (readless_store _ _) fun stored => readless_ite _ _ _ ?_ (readless_pure _)
    exact readless_bind _ _ (readless_free _) fun _ => readless_pure _

theorem readless_ran (step : Step FaultyPool α) (readless : Readless step) (f : FaultyPool) :
    step f = carried (·.failing f.plan.failRead) (step (f.failing [])) := readless (f.failing []) f.plan.failRead

end Readless

theorem load_failed (f : FaultyPool) (h : Handle) (fails : f.plan.failRead.contains (f.calls.read + 1) = true) :
    LinkedList.load h f = .ok none (f.past f.pool) := by
  have ran := f.read_planned h 0 Node.encodedLength
  rw [if_pos fails] at ran
  exact step_bind_ok _ _ f _ _ ran

theorem load_served (f : FaultyPool) (h : Handle) (node : Node) (pool : Pool)
    (served : ¬ f.plan.failRead.contains (f.calls.read + 1) = true) (loaded : LinkedList.load h f.pool = .ok (some node) pool) :
    LinkedList.load h f = .ok (some node) (f.past pool) := by
  have ran := f.read_planned h 0 Node.encodedLength
  rw [if_neg served] at ran
  cases found : BlockAllocator.read h 0 Node.encodedLength f.pool with
  | error reason pool' =>
      rw [LinkedList.load, step_bind_error _ _ f.pool pool' _ found] at loaded
      cases loaded
  | ok answer pool' =>
      rw [LinkedList.load, step_bind_ok _ _ f.pool pool' _ found] at loaded
      refine (step_bind_ok _ _ f _ answer (ran.trans (FaultyPool.direct_ok _ _ answer pool' found))).trans ?_
      cases answer with
      | ok bytes =>
          cases loaded
          rfl
      | error e => cases loaded

theorem records_cut (seq : Sequence) (count : Nat) (after : Option Handle) :
    (records seq after).take count = records (seq.take count) (firstOf (seq.drop count) after) := by
  induction seq generalizing count with
  | nil => rw [records_nil, List.take_nil, List.take_nil, records_nil]
  | cons entry rest ih =>
      cases count with
      | zero => rfl
      | succ count =>
          have next : firstOf rest after = firstOf (rest.take count) (firstOf (rest.drop count) after) := by
            rw [← first_of_append, List.take_append_drop]
          rw [records_cons, List.take_succ_cons, ih, List.take_succ_cons, List.drop_succ_cons, records_cons, next]

def Blurred (lossy : Prop) (Shows : Pool → Account → Prop) (f : FaultyPool) (acc : Account) : Prop :=
  Spoiled lossy Shows (f.failing []) acc

section Walk

variable {lossy : Prop} {Shows : Pool → Account → Prop}

theorem spoiled_blurred (f : FaultyPool) (acc : Account) (reads : List Nat) (spoiled : Spoiled lossy Shows f acc) :
    Blurred lossy Shows (f.failing reads) acc := by
  obtain ⟨⟨_, frees, issues⟩, lost, shown⟩ := spoiled
  exact ⟨⟨rfl, frees, issues⟩, lost, shown⟩

-- What an allocation would answer is not a matter of the reads, neither of those that fail nor of those that were made.
theorem blurred_upcoming (store : NodeStore False RoomForHandles Pool.heap Shows) (f f' : FaultyPool) (acc : Account)
    (blurred : Blurred lossy Shows f acc) (outlook : f'.outlook = f.outlook) : upcoming (f'.failing []) = upcoming f := by
  have same : (f'.failing []).outlook = (f.failing []).outlook :=
    congrArg (fun seen : Option Heap × FaultPlan × Nat => (seen.1, { seen.2.1 with failRead := [] }, seen.2.2)) outlook
  have readless := readless_ran _ (readless_alloc Node.encodedLength) f
  rw [(faulty_store lossy store).foresees (f.failing []) (f'.failing []) acc blurred same, upcoming, upcoming,
    Step.attempt, Step.attempt, readless]
  cases (BlockAllocator.alloc Node.encodedLength : Step FaultyPool _) (f.failing []) <;> rfl

theorem walk_from_curtailed {β : Type} (store : NodeStore False RoomForHandles Pool.heap Shows)
    (visit : β → Handle → Node → ForInStep β) (tail : Sequence) (limit : Nat) (seen : β) (f : FaultyPool)
    (acc : Account) (blurred : Blurred lossy Shows f acc)
    (inscribed : ∀ record ∈ records tail none, Inscribed acc.memory record.1 record.2) (short : tail.length ≤ limit) :
    ∃ f', walkFrom visit limit (firstOf tail none) seen f =
        .ok (foldRecords visit ((records tail none).take (f.legible tail.length)) seen) f' ∧ Blurred lossy Shows f' acc ∧
      f'.outlook = f.outlook := by
  induction tail generalizing limit seen f with
  | nil =>
      refine ⟨f, ?_, blurred, rfl⟩
      cases limit <;> rfl
  | cons entry rest ih =>
      cases limit with
      | zero => exact absurd short (Nat.not_succ_le_zero _)
      | succ limit =>
          rw [List.length_cons, first_of_cons, walkFrom, records_cons]
          by_cases fails : f.plan.failRead.contains (f.calls.read + 1) = true
          · rw [f.legible_next f.pool, if_pos fails, step_bind_ok _ _ f _ _ (load_failed f entry.1.handle fails)]
            exact ⟨_, rfl, blurred, rfl⟩
          · obtain ⟨mild, lost, calls, fewer, shows⟩ := blurred
            obtain ⟨pool, found, shows', still⟩ :=
              load_inscribed store f.pool _ entry.1.handle ⟨entry.2, firstOf rest none⟩ shows
              (inscribed _ List.mem_cons_self)
            rw [f.legible_next pool, if_neg fails, step_bind_ok _ _ f _ _ (load_served f entry.1.handle _ pool fails found),
              List.take_succ_cons, foldRecords]
            have outlook : (f.past pool).outlook = f.outlook := congrArg (fun heap => (heap, f.plan, f.calls.alloc)) still
            simp only
            cases visit seen entry.1.handle ⟨entry.2, firstOf rest none⟩ with
            | done final => exact ⟨_, rfl, ⟨mild, lost, calls, fewer, shows'⟩, outlook⟩
            | yield next =>
                obtain ⟨f', walked, blurred', outlook'⟩ := ih limit next (f.past pool) ⟨mild, lost, calls, fewer, shows'⟩
                  (fun record member => inscribed record (List.mem_cons_of_mem _ member)) (Nat.le_of_succ_le_succ short)
                exact ⟨f', walked, blurred', outlook'.trans outlook⟩

-- A walk sees the nodes ahead of the first one that it cannot read, and takes them for the whole list.
theorem walk_curtailed {β : Type} (store : NodeStore False RoomForHandles Pool.heap Shows)
    (visit : β → Handle → Node → ForInStep β) (start : β) (f : FaultyPool) (acc : Account) (l : LinkedList)
    (seq : Sequence) (blurred : Blurred lossy Shows f acc) (spells : Spells acc.memory l seq) :
    ∃ f', l.walk start visit f = .ok (foldRecords visit
        (records (seq.take (f.legible seq.length)) (firstOf (seq.drop (f.legible seq.length)) none)) start) f' ∧
      Blurred lossy Shows f' acc ∧ upcoming (f'.failing []) = upcoming f ∧
      (RoomForHandles f.pool → RoomForHandles f'.pool) := by
  have bound := distinct_handles_bound (handlesOf seq) spells.distinct
  rw [handlesOf, List.length_map] at bound
  rw [LinkedList.walk, spells.head, ← records_cut]
  obtain ⟨f', walked, blurred', outlook⟩ :=
    walk_from_curtailed store visit seq walkLimit start f acc blurred spells.inscribed bound
  exact ⟨f', walked, blurred', blurred_upcoming store f f' acc blurred outlook,
    room_heap f.pool f'.pool (congrArg Prod.fst outlook)⟩

end Walk

end BlockPool
