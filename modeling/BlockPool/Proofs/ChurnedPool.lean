import BlockPool.Churn
import BlockPool.Proofs.DrawnOperations
import BlockPool.Proofs.HousedPool
import BlockPool.Proofs.ListAtomicity
import BlockPool.Proofs.PoolInvariant
import BlockPool.Proofs.PoolViews

set_option autoImplicit false

namespace BlockPool

section Heeded

variable (config : PoolConfig) (geometry : Geometry config) (heap : Heap) (blocks : List LinkedSpan)
  (sound : Sound config heap blocks)

include geometry sound

theorem alloc_heeded (size : Nat) : ((Heap.alloc size).attempt heap).2.metrics.ignoredFrees = heap.metrics.ignoredFrees := by
  rcases alloc_block_cases config geometry heap blocks size sound with
    ⟨_, stopped⟩ | ⟨_, refused, _⟩ | ⟨_, _, _, _, _, _, next, _, served⟩
  · rw [attempt_error _ heap heap .overflow (alloc_stopped heap size .overflow stopped)]
  · rw [attempt_ok _ heap _ _ (alloc_ran heap _ size _ refused)]
    simp only [PoolMetrics.refused]
    split <;> rfl
  · rw [attempt_ok _ heap _ _ (alloc_ran heap next size _ served.ran), served.metrics]
    rfl

theorem free_heeded (h : Handle) (id : BlockId) (known : heap.resolve h = some id) :
    ((Heap.free (some h)).attempt heap).2.metrics.ignoredFrees = heap.metrics.ignoredFrees := by
  rcases free_cases config geometry heap blocks (some h) sound with
    ⟨_, stopped⟩ | ⟨unknown, _, _⟩ | ⟨_, _, _, _, _, _, _, _, _, _, next, ⟨⟩, _, freed⟩
  · rw [attempt_error _ heap heap .overflow stopped]
  · rw [Option.bind_some, known] at unknown
    cases unknown
  · rw [attempt_ok _ heap next _ freed.ran, freed.metrics]
    rfl

theorem move_heeded (h : Handle) (place : Place) (size : Nat) (member : place ∈ places config.headerOverhead 0 blocks)
    (known : heap.resolve h = some place.id) (grows : place.size < size)
    (slack : heap.metrics.resizeInPlace + heap.metrics.resizeMoved + heap.metrics.resizeFailures < heap.metrics.resizeCalls) :
    ((Heap.move h place.start place.size size).attempt heap).2.metrics.ignoredFrees = heap.metrics.ignoredFrees := by
  cases move_cases config geometry heap blocks h place size sound member known grows slack with
  | uncounted _ full goes => rw [goes]
  | refused _ unserved goes after =>
      rw [goes]
      simp only [PoolMetrics.refusedMove, PoolMetrics.refused]
      split <;> rfl
  | unreleased _ _ _ _ _ _ _ served full goes filled =>
      rw [goes]
      simp only [copied, served.metrics, PoolMetrics.served]
  | moved _ _ _ _ _ _ _ _ _ _ _ _ _ _ _ _ served filled frees goes after =>
      rw [goes]
      simp only [PoolMetrics.moved, frees.metrics, PoolMetrics.released, copied, served.metrics, PoolMetrics.served]

theorem resize_heeded (h : Handle) (id : BlockId) (size : Nat) (known : heap.resolve h = some id) :
    ((Heap.resize (some h) size).attempt heap).2.metrics.ignoredFrees = heap.metrics.ignoredFrees := by
  rcases resize_cases config geometry heap blocks (some h) size sound with ⟨_, stopped⟩ | ⟨counted, outcome⟩
  · rw [stopped]
  · cases outcome with
    | frees h zero goes =>
        rw [goes]
        exact free_heeded config geometry (resizing heap) blocks counted h id known
    | ignores h nonzero unknown goes => rw [goes, resizing]
    | stays h place nonzero member known fits goes sound' => rw [goes, inPlace, resizing]
    | moves h place nonzero member known grows slack goes =>
        rw [goes]
        exact move_heeded config geometry (resizing heap) blocks counted h place size member known grows slack

end Heeded

def Heeded (pool : Pool) : Prop := ∀ heap, pool.heap = some heap → heap.metrics.ignoredFrees = 0

theorem work_heeds {α : Type} (absent value : α) (work : Step Heap α) (pool pool' : Pool) (heap : Heap)
    (opened : pool.heap = some heap) (heeded : Heeded pool) (ran : Pool.onHeap absent work pool = .ok value pool')
    (same : (work.attempt heap).2.metrics.ignoredFrees = heap.metrics.ignoredFrees) : Heeded pool' := by
  intro next opened'
  have left := (on_heap_open absent work pool heap opened).2
  rw [attempt_ok _ pool pool' value ran, opened'] at left
  cases left
  exact same.trans (heeded heap opened)

-- Each handle that holds something, once.
structure Lists (memory : Memory) (handles : List Handle) : Prop where
  distinct : handles.Nodup
  complete : ∀ h, h ∈ handles ↔ ∃ bytes, memory h = some bytes

theorem lists_perm (memory : Memory) (handles others : List Handle) (lists : Lists memory handles) (same : handles.Perm others) :
    Lists memory others :=
  ⟨same.nodup_iff.mp lists.distinct, fun h => (same.mem_iff (a := h)).symm.trans (lists.complete h)⟩

theorem lists_entered (memory : Memory) (handles : List Handle) (h : Handle) (bytes : List UInt8) (lists : Lists memory handles)
    (vacant : memory h = none) : Lists (memory.put h (some bytes)) (h :: handles) := by
  have new : h ∉ handles := by
    intro member
    obtain ⟨held, known⟩ := (lists.complete h).mp member
    rw [vacant] at known
    cases known
  refine ⟨List.nodup_cons.mpr ⟨new, lists.distinct⟩, fun k => ?_⟩
  by_cases same : k = h
  · rw [same, put_same]
    exact ⟨fun _ => ⟨bytes, rfl⟩, fun _ => List.mem_cons_self⟩
  · rw [put_other memory h k _ same, List.mem_cons, ← lists.complete k]
    exact ⟨fun member => member.resolve_left same, .inr⟩

theorem lists_left (memory : Memory) (handles : List Handle) (h : Handle) (lists : Lists memory (h :: handles)) :
    Lists (memory.put h none) handles := by
  obtain ⟨gone, distinct⟩ := List.nodup_cons.mp lists.distinct
  refine ⟨distinct, fun k => ?_⟩
  by_cases same : k = h
  · rw [same, put_same]
    exact ⟨fun member => absurd member gone, nofun⟩
  · rw [put_other memory h k none same, ← lists.complete k, List.mem_cons]
    exact ⟨.inr, fun member => member.resolve_left same⟩

namespace Churn

theorem chosen_around (live : Array Handle) (pick index : Nat) (h : Handle) (picked : chosen live pick = some (index, h)) :
    ∃ before after, live.toList = before ++ h :: after ∧ before.length = index := by
  obtain ⟨found, there, same⟩ := Option.map_eq_some_iff.mp picked
  cases same
  obtain ⟨inside, here⟩ := List.getElem?_eq_some_iff.mp (Array.getElem?_toList.trans there)
  refine ⟨live.toList.take (pick % live.size), live.toList.drop (pick % live.size + 1), ?_, List.length_take_of_le inside.le⟩
  rw [← here, List.getElem_cons_drop, List.take_append_drop]

section Around

variable (live : Array Handle) (before after : List Handle) (h : Handle) (shape : live.toList = before ++ h :: after)

include shape

theorem rewritten (n : Handle) : (live.setIfInBounds before.length n).toList = before ++ n :: after := by
  rw [Array.toList_setIfInBounds, shape, List.set_append_right _ _ (Nat.le_refl _), Nat.sub_self, List.set_cons_zero]

theorem swap_remove_perm : (swapRemove live before.length).toList.Perm (before ++ after) := by
  have ending : live.back? = some (after.getLastD h) := by
    rw [← Array.getLast?_toList, shape]
    simp [List.getLast?_cons]
  rw [swapRemove, ending]
  simp only [Array.toList_pop, rewritten live before after h shape]
  cases after using List.reverseRecOn with
  | nil => simp
  | append_singleton rest last =>
      have moved : (before ++ (rest ++ [last]).getLastD h :: (rest ++ [last])).dropLast = before ++ last :: rest := by
        rw [← List.cons_append, ← List.append_assoc, List.dropLast_concat, List.getLastD_concat]
      rw [moved]
      exact (List.perm_append_singleton last rest).symm.append_left before

end Around

-- The account is right about the pool, and the vector lists its memory.
structure Churned (config : PoolConfig) (made : Nat) (pool : Pool) (acc : Account) (live : Array Handle) : Prop where
  housed : Housed config made pool acc
  lists : Lists acc.memory live.toList
  calls : acc.calls ≤ made
  heeded : Heeded pool

section Steps

variable (config : PoolConfig) (geometry : Geometry config) (made : Nat) (pool : Pool) (acc : Account) (live : Array Handle)
  (churned : Churned config made pool acc live) (room : made < UInt32.size)

include churned

theorem churned_idle : Churned config (made + 1) pool acc live :=
  ⟨housed_larger config made (made + 1) pool acc churned.housed (Nat.le_succ made), churned.lists,
    Nat.le_succ_of_le churned.calls,
    churned.heeded⟩

theorem chosen_resolves (pick index : Nat) (h : Handle) (picked : chosen live pick = some (index, h)) :
    ∃ heap blocks id bytes, pool.heap = some heap ∧ Sound config heap blocks ∧ heap.resolve h = some id ∧
      acc.memory h = some bytes := by
  obtain ⟨before, after, shape, _⟩ := chosen_around live pick index h picked
  obtain ⟨heap, opened, inventory, _⟩ := churned.housed
  obtain ⟨blocks, sound⟩ := inventory.kept
  obtain ⟨bytes, held⟩ := (churned.lists.complete h).mp (shape ▸ by simp)
  rw [inventory.memory] at held
  obtain ⟨id, known⟩ := held_resolves heap h bytes held
  exact ⟨heap, blocks, id, bytes, opened, sound, known, inventory.memory ▸ held⟩

include room

theorem churned_few : acc.calls < Word.greatest := by
  have calls := churned.calls
  simp only [UInt32.size, Word.greatest, Word.bound, UInt64.size] at room ⊢
  omega

include geometry

theorem alloc_churned (size : Nat) :
    ∃ live' acc' pool', step live (.alloc size) pool = .ok live' pool' ∧ Churned config (made + 1) pool' acc' live' := by
  have few := churned_few config made pool acc live churned room
  have outcome := alloc_granted config geometry made pool acc churned.housed room few size
  obtain ⟨heap, opened, inventory, _⟩ := churned.housed
  obtain ⟨blocks, sound⟩ := inventory.kept
  have heeds (answer : Option Handle) (pool' : Pool) (ran : Pool.alloc size pool = .ok answer pool') : Heeded pool' :=
    work_heeds none answer _ pool pool' heap opened churned.heeded ran (alloc_heeded config geometry heap blocks sound size)
  rw [step]
  generalize ran : BlockAllocator.alloc size pool = result at outcome
  cases outcome with
  | refused count pool' housed =>
      exact ⟨live, _, pool', step_bind_ok _ _ pool pool' none ran, housed, churned.lists,
        Nat.succ_le_succ churned.calls, heeds none pool' ran⟩
  | granted h bytes count pool' positive vacant fresh enough housed =>
      refine ⟨live.push h, _, pool', step_bind_ok _ _ pool pool' (some h) ran, housed, ?_, Nat.succ_le_succ churned.calls,
        heeds (some h) pool' ran⟩
      rw [Array.toList_push]
      exact lists_perm _ _ _ (lists_entered acc.memory live.toList h bytes churned.lists vacant)
        (List.perm_append_singleton h _).symm

theorem free_churned (pick : Nat) :
    ∃ live' acc' pool', step live (.free pick) pool = .ok live' pool' ∧ Churned config (made + 1) pool' acc' live' := by
  rw [step]
  cases picked : chosen live pick with
  | none => exact ⟨live, acc, pool, rfl, churned_idle config made pool acc live churned⟩
  | some choice =>
      obtain ⟨index, h⟩ := choice
      have few := churned_few config made pool acc live churned room
      obtain ⟨heap, blocks, id, _, opened, sound, known, _⟩ :=
        chosen_resolves config made pool acc live churned pick index h picked
      obtain ⟨before, after, shape, rfl⟩ := chosen_around live pick index h picked
      obtain ⟨count, pool', ran, housed⟩ := free_housed config geometry made pool acc churned.housed room few (some h)
      refine ⟨swapRemove live before.length, _, pool', step_bind_ok _ _ pool pool' () ran,
        housed_larger config made (made + 1) pool' _ housed (Nat.le_succ made), ?_, Nat.succ_le_succ churned.calls, ?_⟩
      · have lists := lists_perm _ _ _ churned.lists (shape ▸ List.perm_middle)
        exact lists_perm _ _ _ (lists_left acc.memory _ h lists) (swap_remove_perm live before after h shape).symm
      · exact work_heeds () () _ pool pool' heap opened churned.heeded ran
          (free_heeded config geometry heap blocks sound h id known)

theorem resize_churned (pick size : Nat) :
    ∃ live' acc' pool', step live (.resize pick size) pool = .ok live' pool' ∧ Churned config (made + 1) pool' acc' live' := by
  rw [step]
  cases picked : chosen live pick with
  | none => exact ⟨live, acc, pool, rfl, churned_idle config made pool acc live churned⟩
  | some choice =>
      obtain ⟨index, h⟩ := choice
      have few := churned_few config made pool acc live churned room
      obtain ⟨heap, blocks, id, bytes, opened, sound, known, held⟩ :=
        chosen_resolves config made pool acc live churned pick index h picked
      obtain ⟨before, after, shape, rfl⟩ := chosen_around live pick index h picked
      have heeds (answer : Option Handle) (pool' : Pool) (ran : Pool.resize (some h) size pool = .ok answer pool') : Heeded pool' :=
        work_heeds none answer _ pool pool' heap opened churned.heeded ran
          (resize_heeded config geometry heap blocks sound h id size known)
      have calls := Nat.succ_le_succ churned.calls
      have lists := lists_perm _ _ _ churned.lists (shape ▸ List.perm_middle)
      have outcome := resize_reshaped config geometry made pool acc churned.housed room few h bytes size held
      generalize ran : BlockAllocator.resize (some h) size pool = result at outcome
      -- no answer means that the block is gone if the size is zero, and that it is where it was if not
      cases outcome with
      | freed count pool' zero housed =>
          refine ⟨swapRemove live before.length, _, pool', ?_, housed, ?_, calls, heeds none pool' ran⟩
          · refine Eq.trans (step_bind_ok _ _ pool pool' none ran) ?_
            simp only [if_pos zero, step_pure]
          · exact lists_perm _ _ _ (lists_left acc.memory _ h lists) (swap_remove_perm live before after h shape).symm
      | refused count pool' nonzero housed =>
          refine ⟨live, _, pool', ?_, housed, churned.lists, calls, heeds none pool' ran⟩
          refine Eq.trans (step_bind_ok _ _ pool pool' none ran) ?_
          simp only [if_neg nonzero, step_pure]
      | stayed count pool' nonzero fits housed =>
          refine ⟨live.setIfInBounds before.length h, _, pool', step_bind_ok _ _ pool pool' (some h) ran, housed, ?_, calls,
            heeds (some h) pool' ran⟩
          rw [rewritten live before after h shape h, ← shape]
          exact churned.lists
      | moved n rest count pool' nonzero differs vacant fresh enough housed =>
          refine ⟨live.setIfInBounds before.length n, _, pool', step_bind_ok _ _ pool pool' (some n) ran, housed, ?_, calls,
            heeds (some n) pool' ran⟩
          have emptied : (acc.memory.put h none) n = none := (put_other acc.memory h n none differs).trans vacant
          rw [rewritten live before after h shape n]
          exact lists_perm _ _ _ (lists_entered _ _ n (bytes ++ rest) (lists_left acc.memory _ h lists) emptied)
            List.perm_middle.symm

theorem step_churned (op : Op) :
    ∃ live' acc' pool', step live op pool = .ok live' pool' ∧ Churned config (made + 1) pool' acc' live' := by
  cases op with
  | alloc size => exact alloc_churned config geometry made pool acc live churned room size
  | free pick => exact free_churned config geometry made pool acc live churned room pick
  | resize pick size => exact resize_churned config geometry made pool acc live churned room pick size

omit churned room in
theorem replay_churned (ops : List Op) (churned : Churned config made pool acc live) (room : made + ops.length < UInt32.size) :
    ∃ live' acc' pool', replay live ops pool = .ok live' pool' ∧ Churned config (made + ops.length) pool' acc' live' := by
  induction ops generalizing made pool acc live with
  | nil => exact ⟨live, acc, pool, rfl, churned⟩
  | cons op rest ih =>
      rw [List.length_cons] at room
      obtain ⟨middle, acc', pool', stepped, churned'⟩ := step_churned config geometry made pool acc live churned (by omega) op
      obtain ⟨live', acc'', pool'', ran, churned''⟩ := ih (made + 1) pool' acc' middle churned' (by omega)
      refine ⟨live', acc'', pool'', (step_bind_ok _ _ pool pool' middle stepped).trans ran, ?_⟩
      rwa [List.length_cons, Nat.add_comm rest.length, ← Nat.add_assoc]

end Steps

theorem replay_append (live middle : Array Handle) (done rest : List Op) (pool pool' : Pool)
    (ran : replay live done pool = .ok middle pool') : replay live (done ++ rest) pool = replay middle rest pool' := by
  induction done generalizing live pool with
  | nil =>
      cases ran
      rfl
  | cons op others ih =>
      obtain ⟨next, after, stepped, final⟩ := step_bind_ran _ _ pool pool' middle ran
      exact (step_bind_ok _ _ pool after next stepped).trans (ih next after final)

-- The vector is what can be seen of the pool: all handles that resolve, and whatever is chosen next is one of them.
structure Current (pool : Pool) (live : Array Handle) : Prop where
  distinct : live.toList.Nodup
  complete : ∀ h, h ∈ live ↔ Live pool h
  counted : (Pool.liveAllocations.attempt pool).1 = .ok live.size
  chosen : ∀ pick index h, chosen live pick = some (index, h) → Live pool h
  heeded : ∃ metrics, (Pool.metrics.attempt pool).1 = .ok (some metrics) ∧ metrics.ignoredFrees = 0
  checked : (Pool.checkInvariants.attempt pool).1 = .ok (.ok ())

structure Picks (live : Array Handle) (pick : Nat) (before : List Handle) (h : Handle) (after : List Handle) : Prop where
  shape : live.toList = before ++ h :: after
  place : before.length = pick % live.size

-- One call of the pool and what it makes of the vector.
inductive Stepped (pool : Pool) (live : Array Handle) : Op → Pool → Array Handle → Prop where
  | served (size : Nat) (h : Handle) (pool' : Pool) (called : Pool.alloc size pool = .ok (some h) pool')
      (fresh : ¬ Live pool h) (lives : Live pool' h) : Stepped pool live (.alloc size) pool' (live.push h)
  | unserved (size : Nat) (pool' : Pool) (called : Pool.alloc size pool = .ok none pool') :
      Stepped pool live (.alloc size) pool' live
  | nothingToFree (pick : Nat) (empty : live = #[]) : Stepped pool live (.free pick) pool live
  | givenBack (pick : Nat) (before after : List Handle) (h : Handle) (pool' : Pool) (live' : Array Handle)
      (picks : Picks live pick before h after) (called : Pool.free (some h) pool = .ok () pool')
      (gone : ¬ Live pool' h) (others : live'.toList.Perm (before ++ after)) : Stepped pool live (.free pick) pool' live'
  | nothingToResize (pick size : Nat) (empty : live = #[]) : Stepped pool live (.resize pick size) pool live
  | resizedAway (pick : Nat) (before after : List Handle) (h : Handle) (pool' : Pool) (live' : Array Handle)
      (picks : Picks live pick before h after) (called : Pool.resize (some h) 0 pool = .ok none pool')
      (gone : ¬ Live pool' h) (others : live'.toList.Perm (before ++ after)) : Stepped pool live (.resize pick 0) pool' live'
  | unmoved (pick size : Nat) (before after : List Handle) (h : Handle) (pool' : Pool) (positive : 0 < size)
      (picks : Picks live pick before h after) (called : Pool.resize (some h) size pool = .ok none pool')
      (lives : Live pool' h) : Stepped pool live (.resize pick size) pool' live
  | resized (pick size : Nat) (before after : List Handle) (h n : Handle) (pool' : Pool) (live' : Array Handle)
      (picks : Picks live pick before h after) (called : Pool.resize (some h) size pool = .ok (some n) pool')
      (replaced : live'.toList = before ++ n :: after) (lives : Live pool' n) (gone : n ≠ h → ¬ Live pool' h) :
      Stepped pool live (.resize pick size) pool' live'

theorem chosen_none (live : Array Handle) (pick : Nat) (none : chosen live pick = none) : live = #[] := by
  have outside := Array.getElem?_eq_none_iff.mp (Option.map_eq_none_iff.mp none)
  by_contra some
  exact absurd (Nat.mod_lt pick (Array.size_pos_iff.mpr some)) (Nat.not_lt.mpr outside)

theorem chosen_picks (live : Array Handle) (pick index : Nat) (h : Handle) (picked : chosen live pick = some (index, h)) :
    ∃ before after, Picks live pick before h after ∧ before.length = index := by
  obtain ⟨before, after, shape, length⟩ := chosen_around live pick index h picked
  obtain ⟨_, _, same⟩ := Option.map_eq_some_iff.mp picked
  exact ⟨before, after, ⟨shape, length.trans (congrArg Prod.fst same).symm⟩, length⟩

theorem listed_once (live : Array Handle) (before after : List Handle) (h : Handle) (distinct : live.toList.Nodup)
    (shape : live.toList = before ++ h :: after) : h ∉ before ++ after := by
  rw [shape] at distinct
  exact (List.nodup_cons.mp (List.perm_middle.nodup_iff.mp distinct)).1

section Stepping

variable (pool pool' : Pool) (live live' : Array Handle) (current : Current pool live) (current' : Current pool' live')

include current current'

theorem unlisted_gone (before after : List Handle) (h : Handle) (shape : live.toList = before ++ h :: after)
    (others : live'.toList.Perm (before ++ after)) : ¬ Live pool' h := by
  intro lives
  have absent := listed_once live before after h current.distinct shape
  exact absent (others.mem_iff.mp (Array.mem_toList_iff.mpr ((current'.complete h).mpr lives)))

theorem alloc_stepped (size : Nat) (ran : step live (.alloc size) pool = .ok live' pool') :
    Stepped pool live (.alloc size) pool' live' := by
  obtain ⟨answer, middle, called, rest⟩ := step_bind_ran _ _ pool pool' live' ran
  cases answer with
  | none =>
      cases rest
      exact .unserved size pool' called
  | some h =>
      cases rest
      have distinct := current'.distinct
      rw [Array.toList_push] at distinct
      have absent := (List.nodup_cons.mp ((List.perm_append_singleton h _).nodup_iff.mp distinct)).1
      refine .served size h pool' called (fun lives => ?_) ((current'.complete h).mp Array.mem_push_self)
      exact absent (Array.mem_toList_iff.mpr ((current.complete h).mpr lives))

theorem free_stepped (pick : Nat) (ran : step live (.free pick) pool = .ok live' pool') :
    Stepped pool live (.free pick) pool' live' := by
  rw [step] at ran
  cases picked : chosen live pick with
  | none =>
      rw [picked] at ran
      cases ran
      exact .nothingToFree pick (chosen_none live pick picked)
  | some choice =>
      obtain ⟨index, h⟩ := choice
      obtain ⟨before, after, picks, rfl⟩ := chosen_picks live pick index h picked
      rw [picked] at ran
      obtain ⟨_, middle, called, rest⟩ := step_bind_ran _ _ pool pool' live' ran
      cases rest
      have others := swap_remove_perm live before after h picks.shape
      exact .givenBack pick before after h pool' _ picks called
        (unlisted_gone pool pool' live _ current current' before after h picks.shape others) others

theorem resize_stepped (pick size : Nat) (ran : step live (.resize pick size) pool = .ok live' pool') :
    Stepped pool live (.resize pick size) pool' live' := by
  rw [step] at ran
  cases picked : chosen live pick with
  | none =>
      rw [picked] at ran
      cases ran
      exact .nothingToResize pick size (chosen_none live pick picked)
  | some choice =>
      obtain ⟨index, h⟩ := choice
      obtain ⟨before, after, picks, rfl⟩ := chosen_picks live pick index h picked
      rw [picked] at ran
      obtain ⟨answer, middle, called, rest⟩ := step_bind_ran _ _ pool pool' live' ran
      cases answer with
      | some n =>
          cases rest
          have replaced := rewritten live before after h picks.shape n
          refine .resized pick size before after h n pool' _ picks called replaced ?_ fun differs lives => ?_
          · exact (current'.complete n).mp (Array.mem_toList_iff.mp (replaced ▸ by simp))
          · have absent := listed_once live before after h current.distinct picks.shape
            have member := Array.mem_toList_iff.mpr ((current'.complete h).mpr lives)
            rw [replaced, List.perm_middle.mem_iff, List.mem_cons] at member
            exact absent (member.resolve_left (Ne.symm differs))
      | none =>
          by_cases zero : size = 0
          · subst zero
            cases rest
            have others := swap_remove_perm live before after h picks.shape
            exact .resizedAway pick before after h pool' _ picks called
              (unlisted_gone pool pool' live _ current current' before after h picks.shape others) others
          · simp only [if_neg zero] at rest
            cases rest
            refine .unmoved pick size before after h pool' (Nat.pos_of_ne_zero zero) picks called ?_
            exact (current'.complete h).mp (Array.mem_toList_iff.mp (picks.shape ▸ by simp))

theorem step_stepped (op : Op) (ran : step live op pool = .ok live' pool') : Stepped pool live op pool' live' := by
  cases op with
  | alloc size => exact alloc_stepped pool pool' live live' current current' size ran
  | free pick => exact free_stepped pool pool' live live' current current' pick ran
  | resize pick size => exact resize_stepped pool pool' live live' current current' pick size ran

end Stepping

theorem churned_current (config : PoolConfig) (geometry : Geometry config) (made : Nat) (pool : Pool) (acc : Account)
    (live : Array Handle) (churned : Churned config made pool acc live) : Current pool live := by
  have stocked := housed_stocked config made pool acc churned.housed
  have telling := stocked_telling config geometry
  have complete (h : Handle) : h ∈ live ↔ Live pool h := by
    rw [← Array.mem_toList_iff, churned.lists.complete h, telling.live pool acc h stocked]
  obtain ⟨heap, opened, inventory, _⟩ := churned.housed
  obtain ⟨blocks, sound⟩ := inventory.kept
  refine ⟨churned.lists.distinct, complete, ?_, fun pick index h picked => ?_,
    ⟨heap.metrics, metrics_shown pool heap opened, ?_⟩, ?_⟩
  · rw [telling.counted pool acc stocked,
      live_length config geometry pool acc stocked live.toList churned.lists.distinct churned.lists.complete, Array.length_toList]
  · obtain ⟨before, after, shape, _⟩ := chosen_around live pick index h picked
    refine (complete h).mp (Array.mem_toList_iff.mp ?_)
    rw [shape]
    exact List.mem_append_right before List.mem_cons_self
  · exact churned.heeded heap opened
  · exact view_answers (.ok ()) _ (fun heap => heap.check.run) pool heap opened (sound_check config geometry heap blocks sound)

theorem start_churned (config : PoolConfig) (valid : config.Valid) (counter : PoolCounter) :
    ∃ pool next, Pool.init config counter = .ok (.ok pool) next ∧ Churned config 0 pool ⟨fun _ => none, 0, [], 0⟩ #[] := by
  obtain ⟨pool, next, heap, made, opened, _, _, handles, metrics, _⟩ := init_pool config valid counter
  obtain ⟨pool', next', made', heap', opened', inventory⟩ := init_stocked config valid counter
  cases made.symm.trans made'
  cases opened.symm.trans opened'
  refine ⟨pool, next, made, ⟨heap, opened, inventory, ?_⟩, ⟨List.nodup_nil, fun h => by simp⟩, Nat.le_refl 0,
    fun other opened' => ?_⟩
  · rw [handles]
    rfl
  · cases opened.symm.trans opened'
    rw [metrics]

-- A pool is churned by any calls, drawn or not, as long as they are fewer than handles can have slots. None of them aborts,
-- after each of them the vector is current, and each is a call of the pool of which the answer goes into the vector.
theorem churning_keeps_current (config : PoolConfig) (valid : config.Valid) (counter : PoolCounter) :
    ∃ pool next, Pool.init config counter = .ok (.ok pool) next ∧
      (∀ done rest, (done ++ rest).length < UInt32.size →
        ∃ live pool', replay #[] done pool = .ok live pool' ∧ Current pool' live ∧
          replay #[] (done ++ rest) pool = replay live rest pool' ∧
          ∀ op ∈ rest.head?, ∃ live'' pool'', step live op pool' = .ok live'' pool'' ∧
            Stepped pool' live op pool'' live'') ∧
      ∀ seed steps maxSize, steps < UInt32.size →
        ∃ live pool', build config seed steps maxSize counter = .ok (.ok (pool', live)) next ∧ Current pool' live := by
  have geometry := valid_geometry config valid
  obtain ⟨pool, next, made, churned⟩ := start_churned config valid counter
  have replays (ops : List Op) (few : ops.length < UInt32.size) :
      ∃ live pool', replay #[] ops pool = .ok live pool' ∧ Current pool' live := by
    obtain ⟨live, acc, pool', ran, churned'⟩ := replay_churned config geometry 0 pool _ #[] ops churned (by omega)
    exact ⟨live, pool', ran, churned_current config geometry _ pool' acc live churned'⟩
  refine ⟨pool, next, made, fun done rest few => ?_, fun seed steps maxSize few => ?_⟩
  · rw [List.length_append] at few
    obtain ⟨live, pool', ran, current⟩ := replays done (by omega)
    refine ⟨live, pool', ran, current, replay_append #[] live done rest pool pool' ran, fun op next => ?_⟩
    obtain ⟨later, rfl⟩ := List.head?_eq_some_iff.mp next
    rw [List.length_cons] at few
    obtain ⟨live'', pool'', further, current''⟩ :=
      replays (done ++ [op]) (by rw [List.length_append, List.length_singleton]; omega)
    rw [replay_append #[] live done [op] pool pool' ran] at further
    obtain ⟨_, _, stepped, told⟩ := step_bind_ran _ _ pool' pool'' live'' further
    cases told
    exact ⟨live'', pool'', stepped, step_stepped pool' pool'' live live'' current current'' op stepped⟩
  · have drawn : (Workload.random seed steps maxSize).length = steps := draw_ops_length maxSize steps _
    obtain ⟨live, pool', ran, current⟩ := replays (Workload.random seed steps maxSize) (drawn.symm ▸ few)
    refine ⟨live, pool', ?_, current⟩
    rw [build, step_bind_ok _ _ counter next _ made]
    simp only [ran, step_pure]

theorem churning_keeps_current_moves :
    (PoolConfig.mk 200 8 8 .firstFit true).Valid ∧
      ([.alloc 5, .alloc 24, .alloc 8, .resize 1 40, .alloc 0, .free 3, .resize 1 0] ++ [.free 7] : List Op).length <
        UInt32.size ∧
      ∃ pool next live pool' live'' pool'', Pool.init (PoolConfig.mk 200 8 8 .firstFit true) ⟨5⟩ = .ok (.ok pool) next ∧
        replay #[] [.alloc 5, .alloc 24, .alloc 8, .resize 1 40, .alloc 0, .free 3, .resize 1 0] pool = .ok live pool' ∧
        Current pool' live ∧ step live (.free 7) pool' = .ok live'' pool'' ∧ Stepped pool' live (.free 7) pool'' live'' := by
  have valid : (PoolConfig.mk 200 8 8 .firstFit true).Valid := by rfl
  obtain ⟨pool, next, made, replays, _⟩ := churning_keeps_current (PoolConfig.mk 200 8 8 .firstFit true) valid ⟨5⟩
  obtain ⟨live, pool', ran, current, _, steps⟩ :=
    replays [.alloc 5, .alloc 24, .alloc 8, .resize 1 40, .alloc 0, .free 3, .resize 1 0] [.free 7] (by decide)
  obtain ⟨live'', pool'', stepped, effect⟩ := steps (.free 7) rfl
  exact ⟨valid, by decide, pool, next, live, pool', live'', pool'', made, ran, current, stepped, effect⟩

end Churn

end BlockPool
