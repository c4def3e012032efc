import BlockPool.Proofs.ListAtomicity
import BlockPool.Proofs.PoolViews
import BlockPool.Proofs.SharedPool
import BlockPool.Proofs.TwinPools

set_option autoImplicit false

namespace BlockPool

open LinkedList

-- Only a full counter, which takes as many calls before it, can stop the insertion.
def ServedBelow (n live made : Nat) (seq : Sequence) (op : ListOp) : EStateM.Result Abort Pool (LinkedList × op.Answer) → Prop
  | .error reason _ => reason = .overflow ∧ Word.greatest < made + seq.length + 2
  | .ok (_, answer) _ => ¬ op.Refuses answer ↔ live < n

-- What is live in the pool are the nodes of the lists, and there is room for `n` of them.
def HoldsNodes (n : Nat) (pool : Pool) (lists : Nat → LinkedList) (made : Nat) : Prop :=
  ∃ nodes : List Handle, nodes.Nodup ∧
    (∀ h, h ∈ nodes ↔ ∃ i seq, ((lists i).entries.attempt pool).1 = .ok seq ∧ h ∈ handlesOf seq) ∧
    (Pool.liveAllocations.attempt pool).1 = .ok nodes.length ∧ nodes.length ≤ n ∧
    (RoomForHandles pool → ∀ which (op : ListOp), ∃ seq, ((lists which).entries.attempt pool).1 = .ok seq ∧
      (op.wants seq = true → ServedBelow n nodes.length made seq op (op.perform (lists which) pool)))

-- Two pools that go through the same operations of lists, with no more than `made` calls counted before.
def InBoth (n : Nat) : Pool → Pool → (Nat → LinkedList) → Nat → List (Nat × ListOp) → Prop
  | a, b, lists, made, [] =>
    HoldsNodes n a lists made ∧ HoldsNodes n b lists made ∧
      ∀ i, ((lists i).entries.attempt b).1 = ((lists i).entries.attempt a).1
  | a, b, lists, made, (which, op) :: rest =>
    RoomForHandles a →
      ((op.perform (lists which)).attempt b).1 = ((op.perform (lists which)).attempt a).1 ∧
        ∀ l' answer a' b' seq, op.perform (lists which) a = .ok (l', answer) a' →
          op.perform (lists which) b = .ok (l', answer) b' →
          ((lists which).entries.attempt a).1 = .ok seq →
          InBoth n a' b' (Function.update lists which l') (made + seq.length + 2) rest

def AllListed (known : Understanding) (acc : Account) : Prop :=
  ∀ h bytes, acc.memory h = some bytes → ∃ i, h ∈ handlesOf (known.sequences i)

def Tended (config : PoolConfig) (pool : Pool) (lists : Nat → LinkedList) (made : Nat) : Prop :=
  ∃ known acc, Harmony config pool lists known acc ∧ known.made = made ∧ AllListed known acc

theorem operated_listed_all (known : Understanding) (acc acc' : Account) (which : Nat) (seq' : Sequence)
    (listed : AllListed known acc) (updated : Updated acc acc' (known.sequences which) seq') :
    AllListed (known.operated which seq') acc' := by
  intro h bytes held
  by_cases here : h ∈ handlesOf seq'
  · exact ⟨which, by rwa [known.operated_here]⟩
  · have outside : h ∉ handlesOf (known.sequences which) := fun before => by
      rw [updated.left h before here] at held
      cases held
    rw [updated.elsewhere h outside here] at held
    obtain ⟨i, member⟩ := listed h bytes held
    have other : i ≠ which := by
      rintro rfl
      exact outside member
    exact ⟨i, by rwa [known.operated_elsewhere which i seq' other]⟩

theorem model_refuses (op : ListOp) (fresh : Option NodeRef) (seq : Sequence) (wanted : op.wants seq = true) :
    op.Refuses (op.model fresh seq).2 ↔ fresh = none := by
  have placed (here : Option Nat) (value : UInt16) (found : here.isSome = true) :
      (placing here value fresh seq).2 = none ↔ fresh = none := by
    obtain ⟨index, rfl⟩ := Option.isSome_iff_exists.mp found
    cases fresh with
    | none => exact Iff.rfl
    | some node => exact ⟨nofun, nofun⟩
  cases op with
  | pushBack value => exact placed _ value rfl
  | insertAfter anchor value => exact placed _ value (Option.isSome_map.trans wanted)
  | insertBefore anchor value => exact placed _ value wanted
  | _ => cases wanted

-- An allocation of a node answers by the number of live nodes alone.
theorem upcoming_node (n : Nat) (pool : Pool) (heap : Heap) (answer : Option Handle) (opened : pool.heap = some heap)
    (nodes : NodeHeap n heap) (room : RoomForHandles pool) (asked : upcoming pool = .ok answer) :
    answer ≠ none ↔ heap.handles.live < n := by
  have cases := node_alloc_cases n heap nodes (room heap opened)
  have answered : ((Heap.alloc Node.encodedLength).attempt heap).1 = .ok answer :=
    (on_heap_open none (Heap.alloc Node.encodedLength) pool heap opened).1.symm.trans asked
  rw [attempt_ran _ heap answer answered] at cases
  cases cases with
  | refused _ _ full => exact ⟨fun granted => absurd rfl granted, fun free => absurd free (Nat.not_lt.mpr full)⟩
  | granted h _ _ _ free => exact ⟨fun _ => free, fun _ => Option.some_ne_none h⟩

section Tending

variable (config : PoolConfig) (geometry : Geometry config)

include geometry

theorem op_tended (pool pool' : Pool) (lists : Nat → LinkedList) (made which : Nat) (op : ListOp) (l' : LinkedList)
    (answer : op.Answer) (seq : Sequence) (tended : Tended config pool lists made) (room : RoomForHandles pool)
    (ran : op.perform (lists which) pool = .ok (l', answer) pool')
    (entries : ((lists which).entries.attempt pool).1 = .ok seq) :
    Tended config pool' (Function.update lists which l') (made + seq.length + 2) := by
  obtain ⟨known, acc, harmony, rfl, listed⟩ := tended
  cases (harmony_found config geometry pool lists known acc harmony which).symm.trans entries
  have outcome := op_cases (pool_store config geometry) op pool acc (lists which) (known.sequences which) harmony.stocked
    room (harmony.spells which)
  rw [ran] at outcome
  cases outcome with
  | undone _ _ _ fault => exact fault.elim
  | done fresh l' pool' acc' asked stocked spells updated read =>
      exact ⟨_, _, list_harmony config pool lists known acc acc' which l' _ harmony updated pool' stocked spells, rfl,
        operated_listed_all known acc acc' which _ listed updated⟩

theorem listed_nodes (pool : Pool) (lists : Nat → LinkedList) (known : Understanding) (acc : Account) (h : Handle)
    (harmony : Harmony config pool lists known acc) (listed : AllListed known acc) :
    (∃ bytes, acc.memory h = some bytes) ↔ ∃ i seq, ((lists i).entries.attempt pool).1 = .ok seq ∧ h ∈ handlesOf seq := by
  have entries := harmony_found config geometry pool lists known acc harmony
  constructor
  · intro ⟨bytes, held⟩
    obtain ⟨i, member⟩ := listed h bytes held
    exact ⟨i, _, entries i, member⟩
  · intro ⟨i, seq, walked, member⟩
    cases (entries i).symm.trans walked
    obtain ⟨bytes, held, _⟩ := spelled_held acc.memory _ _ (harmony.spells i) h member
    exact ⟨bytes, held⟩

theorem tended_serves (n : Nat) (pool : Pool) (heap : Heap) (lists : Nat → LinkedList) (known : Understanding)
    (acc : Account) (which : Nat) (op : ListOp) (opened : pool.heap = some heap) (nodes : NodeHeap n heap)
    (harmony : Harmony config pool lists known acc) (room : RoomForHandles pool)
    (wanted : op.wants (known.sequences which) = true) :
    ServedBelow n heap.handles.live known.made (known.sequences which) op (op.perform (lists which) pool) := by
  have outcome := op_cases (pool_store config geometry) op pool acc (lists which) _ harmony.stocked room (harmony.spells which)
  generalize op.perform (lists which) pool = result at outcome ⊢
  cases outcome with
  | halted pool' full => exact ⟨rfl, harmony.made ▸ full⟩
  | undone _ _ _ fault => exact fault.elim
  | done fresh l' pool' acc' asked stocked spells updated read =>
      have served := upcoming_node n pool heap _ opened nodes room (asked wanted)
      rw [ServedBelow, model_refuses op fresh _ wanted, ← served]
      exact not_congr Option.map_eq_none_iff.symm

theorem tended_holds (n : Nat) (pool : Pool) (heap : Heap) (lists : Nat → LinkedList) (made : Nat)
    (opened : pool.heap = some heap) (nodes : NodeHeap n heap) (tended : Tended config pool lists made) :
    HoldsNodes n pool lists made := by
  obtain ⟨known, acc, harmony, rfl, listed⟩ := tended
  obtain ⟨handles, distinct, complete, counted⟩ := held_handles config geometry pool acc harmony.stocked
  have entries := harmony_found config geometry pool lists known acc harmony
  have live : heap.handles.live = handles.length := by
    obtain ⟨heap', opened', inventory⟩ := harmony.stocked
    cases opened.symm.trans opened'
    exact inventory.live.symm.trans counted
  have count := (stocked_telling config geometry).counted pool acc harmony.stocked
  have bound := node_heap_live n heap nodes
  rw [counted] at count
  rw [live] at bound
  refine ⟨handles, distinct, fun h => ?_, count, bound, fun room which op => ⟨_, entries which, fun wanted => ?_⟩⟩
  · rw [complete]
    exact listed_nodes config geometry pool lists known acc h harmony listed
  · rw [← live]
    exact tended_serves config geometry n pool heap lists known acc which op opened nodes harmony room wanted

end Tending

theorem twin_pools_roomy (n : Nat) (p q : Pool) (twins : TwinPools n False p q) (room : RoomForHandles p) :
    TwinPools n True p q := by
  obtain ⟨a, b, opened, opened', nodes, nodes', issue, same, allocs, frees, _⟩ := twins
  exact ⟨a, b, opened, opened', nodes, nodes', issue, same, allocs, frees, fun _ => room a opened⟩

theorem twin_pools_room (n : Nat) (roomy : Prop) (p q : Pool) (twins : TwinPools n roomy p q) (room : RoomForHandles p) :
    RoomForHandles q := by
  obtain ⟨a, b, opened, opened', twins⟩ := twins
  intro heap found
  cases opened'.symm.trans found
  rw [same_issue_size _ _ twins.issue]
  exact room a opened

theorem matched_attempt {σ α : Type} (before after : σ → σ → Prop) (step : Step σ α) (s t : σ)
    (matched : Matched before after step) (related : before s t) : (step.attempt t).1 = (step.attempt s).1 := by
  obtain ⟨value, s', t', ran, ran', _⟩ | ⟨reason, s', t', stopped, stopped'⟩ := matched s t related
  · rw [attempt_ok step s s' value ran, attempt_ok step t t' value ran']
  · rw [attempt_error step s s' reason stopped, attempt_error step t t' reason stopped']

theorem entries_same (n : Nat) (roomy : Prop) (p q : Pool) (l : LinkedList) (twins : TwinPools n roomy p q) :
    (l.entries.attempt q).1 = (l.entries.attempt p).1 :=
  matched_attempt _ _ _ p q (question_matched n roomy l [] _ List.reverse) twins

theorem twins_in_both (n : Nat) (config config' : PoolConfig) (geometry : Geometry config) (geometry' : Geometry config')
    (ops : List (Nat × ListOp)) (p q : Pool) (lists : Nat → LinkedList) (made : Nat) (twins : TwinPools n False p q)
    (tended : Tended config p lists made) (tended' : Tended config' q lists made) : InBoth n p q lists made ops := by
  induction ops generalizing p q lists made with
  | nil =>
      have entries (i : Nat) := entries_same n False p q (lists i) twins
      obtain ⟨a, b, opened, opened', twins⟩ := twins
      exact ⟨tended_holds config geometry n p a lists made opened twins.nodes tended,
        tended_holds config' geometry' n q b lists made opened' twins.nodes' tended', entries⟩
  | cons entry rest ih =>
      obtain ⟨which, op⟩ := entry
      intro room
      have entries := entries_same n False p q (lists which) twins
      have room' := twin_pools_room n False p q twins room
      have roomy := twin_pools_roomy n p q twins room
      have matched := op_matched n op (lists which)
      refine ⟨matched_attempt _ _ _ p q matched roomy, fun l' answer p' q' seq ran ran' walked => ?_⟩
      refine ih p' q' _ _ ?_ ?_ ?_
      · obtain ⟨_, _, _, first, second, twins'⟩ | ⟨_, _, _, stopped, _⟩ := matched p q roomy
        · cases ran.symm.trans first
          cases ran'.symm.trans second
          exact twins'
        · cases ran.symm.trans stopped
      · exact op_tended config geometry p p' lists made which op l' answer seq tended room ran walked
      · exact op_tended config' geometry' q q' lists made which op l' answer seq tended' room' ran' (entries.trans walked)

theorem start_tended (config : PoolConfig) (pool : Pool) (stocked : Stocked config pool ⟨fun _ => none, 0, [], 0⟩) :
    Tended config pool (fun _ => {}) 0 := ⟨Understanding.start, _, start_harmony config pool stocked, rfl, nofun⟩

theorem start_nodes (config : PoolConfig) (n : Nat) (fits : RoomForNodes config n) (valid : config.Valid) (counter : PoolCounter) :
    ∃ pool next heap, Pool.init config counter = .ok (.ok pool) next ∧ pool.heap = some heap ∧
      Stocked config pool ⟨fun _ => none, 0, [], 0⟩ ∧ heap.handles = .empty ⟨counter.upcoming⟩ ∧
      heap.metrics = {} ∧ NodeHeap n heap := by
  have geometry := valid_geometry config valid
  obtain ⟨pool, next, heap, made, opened, named, _, handles, metrics, sound⟩ := init_pool config valid counter
  obtain ⟨pool', next', made', stocked⟩ := init_stocked config valid counter
  cases made.symm.trans made'
  rw [named] at handles
  refine ⟨pool, next, heap, made, opened, stocked, handles, metrics, config, _, geometry, fits, sound, ?_⟩
  intro span member
  cases List.mem_singleton.mp member
  have roomy := geometry.roomy
  have filled : config.headerOverhead + (config.capacity - config.headerOverhead) = config.nodeSpan * n := by
    rw [← fits.capacity]
    omega
  exact ⟨fun used => absurd used.symm Bool.false_ne_true, n, filled⟩

-- It does not matter which of the free blocks a node is put into, so both policies answer the same.
theorem node_pools_fill_up (count : Nat) (valid : (PoolConfig.forNodes count).Valid) (counter : PoolCounter) :
    ∃ best first next next', Pool.init { PoolConfig.forNodes count with fit := .bestFit } counter = .ok (.ok best) next ∧
      Pool.init { PoolConfig.forNodes count with fit := .firstFit } counter = .ok (.ok first) next' ∧
      ∀ ops : List (Nat × ListOp), InBoth (max count 1) best first (fun _ => {}) 0 ops := by
  obtain ⟨best, next, a, made, opened, stocked, handles, metrics, nodes⟩ :=
    start_nodes _ _ (for_nodes_room count .bestFit valid) (for_nodes_valid count .bestFit valid) counter
  obtain ⟨first, next', b, made', opened', stocked', handles', metrics', nodes'⟩ :=
    start_nodes _ _ (for_nodes_room count .firstFit valid) (for_nodes_valid count .firstFit valid) counter
  have twins : Twins (max count 1) False a b := {
    nodes
    nodes'
    issue := by rw [handles, handles']; exact ⟨rfl, rfl, rfl, rfl⟩
    contents := by rw [unissued_contents a _ handles, unissued_contents b _ handles']
    allocs := by rw [metrics, metrics']
    frees := by rw [metrics, metrics']
    room := False.elim }
  have geometry (fit : FitPolicy) := valid_geometry _ (for_nodes_valid count fit valid)
  exact ⟨best, first, next, next', made, made', fun ops => twins_in_both _ _ _ (geometry .bestFit)
    (geometry .firstFit) ops best first _ 0
    ⟨a, b, opened, opened', twins⟩ (start_tended _ best stocked) (start_tended _ first stocked')⟩

def performedInBoth :
    List (Nat × ListOp) → (Nat → LinkedList) → Pool → Pool → Option (Pool × Pool × (Nat → LinkedList))
  | [], lists, a, b => some (a, b, lists)
  | (which, op) :: rest, lists, a, b =>
    if RoomForHandles a then
      match op.perform (lists which) a, ((lists which).entries.attempt a).1 with
      | .ok (l', _) a', .ok _ => performedInBoth rest (Function.update lists which l') a' ((op.perform (lists which)).attempt b).2
      | _, _ => none
    else none

theorem both_reached (n : Nat) (ops : List (Nat × ListOp)) (a b a' b' : Pool) (lists lists' : Nat → LinkedList) (made : Nat)
    (both : InBoth n a b lists made ops) (ran : performedInBoth ops lists a b = some (a', b', lists')) :
    ∃ made', HoldsNodes n a' lists' made' ∧ HoldsNodes n b' lists' made' ∧
      ∀ i, ((lists' i).entries.attempt b').1 = ((lists' i).entries.attempt a').1 := by
  induction ops generalizing a b lists made with
  | nil =>
      cases ran
      exact ⟨made, both⟩
  | cons entry rest ih =>
      obtain ⟨which, op⟩ := entry
      rw [performedInBoth] at ran
      split at ran
      · rename_i room
        obtain ⟨same, next⟩ := both room
        split at ran
        · rename_i l' answer after seq performs walked
          rw [attempt_ok _ a after _ performs] at same
          exact ih _ _ _ _ (next l' answer after _ seq performs (attempt_ran _ b _ same) walked) ran
        · cases ran
      · cases ran

theorem node_pools_fill_up_two :
    (PoolConfig.forNodes 2).Valid ∧
      ∃ best first next next' a b lists made, Pool.init { PoolConfig.forNodes 2 with fit := .bestFit } ⟨3⟩ =
        .ok (.ok best) next ∧
        Pool.init { PoolConfig.forNodes 2 with fit := .firstFit } ⟨3⟩ = .ok (.ok first) next' ∧
        performedInBoth [(0, .pushBack 7), (1, .pushBack 8), (0, .pushBack 9), (0, .remove 7),
          (1, .insertBefore ⟨⟨⟨3⟩, 1, 0⟩⟩ 5)]
          (fun _ => {}) best first = some (a, b, lists) ∧
        HoldsNodes (max 2 1) a lists made ∧ HoldsNodes (max 2 1) b lists made ∧
        ∀ i, ((lists i).entries.attempt b).1 = ((lists i).entries.attempt a).1 := by
  have valid : (PoolConfig.forNodes 2).Valid := by rfl
  obtain ⟨best, first, next, next', made, made', both⟩ := node_pools_fill_up 2 valid ⟨3⟩
  generalize asked : ([(0, .pushBack 7), (1, .pushBack 8), (0, .pushBack 9), (0, .remove 7),
    (1, .insertBefore ⟨⟨⟨3⟩, 1, 0⟩⟩ 5)] : List (Nat × ListOp)) = ops
  have allowed : (performedInBoth ops (fun _ => {}) best first).isSome = true := by
    cases made
    cases made'
    cases asked
    decide +kernel
  obtain ⟨⟨a, b, lists⟩, ran⟩ := Option.isSome_iff_exists.mp allowed
  obtain ⟨count, holds, holds', same⟩ := both_reached _ ops best first a b _ lists 0 (both ops) ran
  exact ⟨valid, best, first, next, next', a, b, lists, count, made, made', ran, holds, holds', same⟩

end BlockPool
