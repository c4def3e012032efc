import BlockPool.Proofs.FaultyStore
import BlockPool.Proofs.ListOperations
import BlockPool.Proofs.ReachedPools
import BlockPool.Proofs.Refusals

set_option autoImplicit false

namespace BlockPool

open LinkedList

def ListOp.Moves : ListOp → Sequence → Nat → Nat → Prop
  | .pushBack _, _, before, after => after = before + 1
  | .insertAfter _ _, _, before, after => after = before + 1
  | .insertBefore _ _, _, before, after => after = before + 1
  | .remove _, _, before, after => before = after + 1
  | .clear, seq, before, after => before = after + seq.length
  | _, _, before, after => after = before

-- An update that is refused leaves the list and the live allocations as they were; one that takes place does to them what the
-- model of a vector says. Only a full counter, which takes as many calls before it, can stop an operation.
def AllOrNothing (f : FaultyPool) (seq : Sequence) (count made : Nat) (op : ListOp) :
    EStateM.Result Abort FaultyPool (LinkedList × op.Answer) → Prop
  | .error reason _ => reason = .overflow ∧ Word.greatest < made + seq.length + 2
  | .ok (l', answer) f' =>
    (op.Refuses answer →
      (l'.entries.attempt f'.pool).1 = .ok seq ∧ (Pool.liveAllocations.attempt f'.pool).1 = .ok count ∧
        ∀ h, Live f'.pool h ↔ Live f.pool h) ∧
    (¬ op.Refuses answer →
      ∃ fresh count', answer = (op.model fresh seq).2 ∧ (l'.entries.attempt f'.pool).1 = .ok (op.model fresh seq).1 ∧
        (Pool.liveAllocations.attempt f'.pool).1 = .ok count' ∧ op.Moves seq count count' ∧
        ∀ h, Live f'.pool h ↔ (Live f.pool h ∧ h ∉ handlesOf seq) ∨ h ∈ handlesOf (op.model fresh seq).1)

def Atomic : FaultyPool → LinkedList → Nat → List ListOp → Prop
  | _, _, _, [] => True
  | f, l, made, op :: rest =>
    RoomForHandles f.pool →
      ∃ seq count, (l.entries.attempt f.pool).1 = .ok seq ∧ (Pool.liveAllocations.attempt f.pool).1 = .ok count ∧
        AllOrNothing f seq count made op (op.perform l f) ∧
        ∀ l' answer f', op.perform l f = .ok (l', answer) f' → Atomic f' l' (made + seq.length + 2) rest

theorem index_inside (anchor : NodeRef) (seq : Sequence) (here : Nat) (found : indexOf anchor seq = some here) :
    here < seq.length :=
  (List.findIdx?_eq_some_iff_findIdx_eq.mp found).1

theorem placing_cases (here : Option Nat) (value : UInt16) (fresh : Option NodeRef) (seq : Sequence)
    (inside : ∀ index, here = some index → index ≤ seq.length) :
    ((placing here value fresh seq).2 = none ∧ (placing here value fresh seq).1 = seq) ∨
      ((placing here value fresh seq).2 ≠ none ∧ (placing here value fresh seq).1.length = seq.length + 1) := by
  cases here with
  | none => exact .inl ⟨rfl, rfl⟩
  | some index =>
      cases fresh with
      | none => exact .inl ⟨rfl, rfl⟩
      | some n => exact .inr ⟨Option.some_ne_none n, List.length_insertIdx_of_le_length (inside index rfl) _⟩

theorem erasing_cases (value : UInt16) (seq : Sequence) :
    ((seq.any fun entry => entry.2 = value) = false ∧ (seq.eraseP fun entry => entry.2 = value) = seq) ∨
      ((seq.any fun entry => entry.2 = value) ≠ false ∧ (seq.eraseP fun entry => entry.2 = value).length + 1 = seq.length) := by
  by_cases any : (seq.any fun entry => entry.2 = value) = true
  · obtain ⟨entry, member, hit⟩ := List.any_eq_true.mp any
    exact .inr ⟨by simp [any], List.length_eraseP_add_one member hit⟩
  · rw [Bool.not_eq_true] at any
    exact .inl ⟨any, List.eraseP_of_forall_not fun entry member => List.any_eq_false.mp any entry member⟩

theorem inserting_moves (here : Option Nat) (value : UInt16) (fresh : Option NodeRef) (seq : Sequence) (before after : Nat)
    (inside : ∀ index, here = some index → index ≤ seq.length)
    (balance : after + seq.length = before + (placing here value fresh seq).1.length) :
    ((placing here value fresh seq).2 = none ∧ (placing here value fresh seq).1 = seq) ∨
      ((placing here value fresh seq).2 ≠ none ∧ after = before + 1) := by
  rcases placing_cases here value fresh seq inside with same | ⟨granted, longer⟩
  · exact .inl same
  · exact .inr ⟨granted, by omega⟩

theorem model_cases (op : ListOp) (fresh : Option NodeRef) (seq : Sequence) (before after : Nat)
    (balance : after + seq.length = before + (op.model fresh seq).1.length) :
    (op.Refuses (op.model fresh seq).2 ∧ (op.model fresh seq).1 = seq) ∨
      (¬ op.Refuses (op.model fresh seq).2 ∧ op.Moves seq before after) := by
  cases op with
  | pushBack value =>
      refine inserting_moves _ value fresh seq before after (fun index same => ?_) balance
      exact Nat.le_of_eq (Option.some.inj same).symm
  | insertAfter anchor value =>
      refine inserting_moves _ value fresh seq before after (fun index found => ?_) balance
      obtain ⟨here, found', rfl⟩ := Option.map_eq_some_iff.mp found
      exact index_inside anchor seq here found'
  | insertBefore anchor value =>
      refine inserting_moves _ value fresh seq before after (fun index found => ?_) balance
      exact Nat.le_of_lt (index_inside anchor seq index found)
  | remove value =>
      simp only [ListOp.model] at balance
      rcases erasing_cases value seq with same | ⟨granted, shorter⟩
      · exact .inl same
      · refine .inr ⟨granted, ?_⟩
        show before = after + 1
        omega
  | clear => exact .inr ⟨id, balance.symm⟩
  | _ => exact .inr ⟨id, Nat.add_right_cancel balance⟩

-- An account that shows in a pool shows in what its views answer.
structure Telling (Shows : Pool → Account → Prop) : Prop where
  live : ∀ pool acc h, Shows pool acc → (Live pool h ↔ ∃ bytes, acc.memory h = some bytes)
  counted : ∀ pool acc, Shows pool acc → (Pool.liveAllocations.attempt pool).1 = .ok acc.live

theorem stocked_telling (config : PoolConfig) (geometry : Geometry config) : Telling (Stocked config) := by
  refine ⟨?_, ?_⟩
  · rintro pool acc h ⟨heap, opened, inventory⟩
    obtain ⟨blocks, sound⟩ := inventory.kept
    rw [inventory.memory]
    constructor
    · rintro ⟨heap', id, opened', known⟩
      cases opened.symm.trans opened'
      rcases contents_cases config geometry heap blocks h sound with ⟨unknown, _⟩ | ⟨_, _, _, held, _⟩
      · rw [Heap.resolve, known] at unknown
        cases unknown
      · exact ⟨_, held⟩
    · rintro ⟨bytes, held⟩
      obtain ⟨id, known⟩ := held_resolves heap h bytes held
      exact ⟨heap, id, opened, known⟩
  · rintro pool acc ⟨heap, opened, inventory⟩
    rw [inventory.live]
    exact (on_heap_open 0 (Step.query fun heap => .ok heap.handles.live) pool heap opened).1

theorem shut_telling : Telling Shut := by
  refine ⟨?_, ?_⟩
  · rintro pool acc h ⟨closed, nothing, _⟩
    rw [nothing]
    refine ⟨fun ⟨heap, _, opened, _⟩ => ?_, nofun⟩
    rw [closed] at opened
    cases opened
  · rintro pool acc ⟨closed, _, none⟩
    rw [none]
    exact (on_heap_closed 0 (Step.query fun heap => .ok heap.handles.live) pool closed).1

section Runs

variable {Shows : Pool → Account → Prop}

structure Seen (pool : Pool) (l : LinkedList) (seq : Sequence) (acc : Account) : Prop where
  entries : (l.entries.attempt pool).1 = .ok seq
  counted : (Pool.liveAllocations.attempt pool).1 = .ok acc.live
  live : ∀ h, Live pool h ↔ ∃ bytes, acc.memory h = some bytes

theorem spoiled_seen (store : NodeStore False RoomForHandles Pool.heap Shows) (telling : Telling Shows) (f : FaultyPool)
    (acc : Account) (l : LinkedList) (seq : Sequence) (spoiled : Spoiled True Shows f acc)
    (spells : Spells acc.memory l seq) : Seen f.pool l seq acc := by
  obtain ⟨_, _, calls, _, shows⟩ := spoiled
  exact ⟨entries_spelled store f.pool _ l seq shows spells, telling.counted f.pool { acc with calls } shows,
    fun h => telling.live f.pool { acc with calls } h shows⟩

theorem updated_live (acc acc' : Account) (l' : LinkedList) (seq seq' : Sequence) (spells' : Spells acc'.memory l' seq')
    (updated : Updated acc acc' seq seq') (h : Handle) :
    (∃ bytes, acc'.memory h = some bytes) ↔
      ((∃ bytes, acc.memory h = some bytes) ∧ h ∉ handlesOf seq) ∨ h ∈ handlesOf seq' := by
  by_cases now : h ∈ handlesOf seq'
  · obtain ⟨bytes, held, _⟩ := spelled_held acc'.memory l' seq' spells' h now
    exact ⟨fun _ => .inr now, fun _ => ⟨bytes, held⟩⟩
  · by_cases before : h ∈ handlesOf seq
    · have gone := updated.left h before now
      simp [gone, before, now]
    · have same := updated.elsewhere h before now
      simp [same, before, now]

theorem stayed_live (acc acc' : Account) (l l' : LinkedList) (seq : Sequence) (spells : Spells acc.memory l seq)
    (spells' : Spells acc'.memory l' seq) (updated : Updated acc acc' seq seq) (h : Handle) :
    (∃ bytes, acc'.memory h = some bytes) ↔ ∃ bytes, acc.memory h = some bytes := by
  rw [updated_live acc acc' l' seq seq spells' updated h]
  constructor
  · rintro (⟨held, _⟩ | member)
    · exact held
    · obtain ⟨bytes, held, _⟩ := spelled_held acc.memory l seq spells h member
      exact ⟨bytes, held⟩
  · intro held
    by_cases member : h ∈ handlesOf seq
    · exact .inr member
    · exact .inl ⟨held, member⟩

theorem op_atomic (store : NodeStore False RoomForHandles Pool.heap Shows) (telling : Telling Shows) (f : FaultyPool)
    (l : LinkedList) (acc : Account) (seq : Sequence) (op : ListOp) (spoiled : Spoiled True Shows f acc)
    (spells : Spells acc.memory l seq) (room : RoomForHandles f.pool) :
    AllOrNothing f seq acc.live acc.calls op (op.perform l f) ∧
      ∀ l' answer f', op.perform l f = .ok (l', answer) f' → ∃ acc' seq', Spoiled True Shows f' acc' ∧
        Spells acc'.memory l' seq' ∧
        acc'.calls ≤ acc.calls + seq.length + 2 := by
  have seen := spoiled_seen store telling f acc l seq spoiled spells
  have outcome := op_cases (faulty_store True store) op f acc l seq spoiled room spells
  generalize op.perform l f = result at outcome ⊢
  cases outcome with
  | halted f' full => exact ⟨⟨rfl, full⟩, fun _ _ _ ran => nomatch ran⟩
  | undone answer f' acc' _ refuses spoiled' unmoved =>
      have spells' : Spells acc'.memory l seq := unmoved.memory ▸ spells
      have seen' := spoiled_seen store telling f' acc' l seq spoiled' spells'
      refine ⟨⟨fun _ => ⟨seen'.entries, unmoved.live ▸ seen'.counted, fun h => ?_⟩,
        fun granted => absurd refuses granted⟩, ?_⟩
      · rw [seen'.live, seen.live, unmoved.memory]
      · intro _ _ _ same
        cases same
        exact ⟨acc', seq, spoiled', spells', unmoved.calls.trans (by omega)⟩
  | done fresh l' f' acc' _ spoiled' spells' updated _ =>
      have seen' := spoiled_seen store telling f' acc' l' _ spoiled' spells'
      refine ⟨?_, ?_⟩
      · rcases model_cases op fresh seq acc.live acc'.live updated.live with ⟨refuses, same⟩ | ⟨granted, moves⟩
        · rw [same] at seen' spells' updated
          have level : acc'.live = acc.live := Nat.add_right_cancel updated.live
          refine ⟨fun _ => ⟨seen'.entries, level ▸ seen'.counted, fun h => ?_⟩, fun granted => absurd refuses granted⟩
          rw [seen'.live, seen.live, stayed_live acc acc' l l' seq spells spells' updated h]
        · refine ⟨fun refuses => absurd refuses granted, fun _ => ?_⟩
          refine ⟨fresh, acc'.live, rfl, seen'.entries, seen'.counted, moves, fun h => ?_⟩
          rw [seen'.live, seen.live]
          exact updated_live acc acc' l' seq _ spells' updated h
      · intro _ _ _ same
        cases same
        exact ⟨acc', _, spoiled', spells', updated.calls⟩

-- The induction carries that the pool spells out the list; what can be seen follows from that before and after each operation.
theorem ops_atomic (store : NodeStore False RoomForHandles Pool.heap Shows) (telling : Telling Shows) (ops : List ListOp)
    (f : FaultyPool) (l : LinkedList) (acc : Account) (seq : Sequence) (made : Nat) (spoiled : Spoiled True Shows f acc)
    (spells : Spells acc.memory l seq) (counted : acc.calls ≤ made) : Atomic f l made ops := by
  induction ops generalizing f l acc seq made with
  | nil => trivial
  | cons op rest ih =>
      intro room
      obtain ⟨mild, lossy, calls, fewer, shows⟩ := spoiled
      have spoiled' : Spoiled True Shows f { acc with calls := made } := ⟨mild, lossy, calls, fewer.trans counted, shows⟩
      have seen := spoiled_seen store telling f _ l seq spoiled' spells
      obtain ⟨atomic, next⟩ := op_atomic store telling f l _ seq op spoiled' spells room
      refine ⟨seq, acc.live, seen.entries, seen.counted, atomic, fun l' answer f' ran => ?_⟩
      obtain ⟨acc', seq', left, spells', counted'⟩ := next l' answer f' ran
      exact ih f' l' acc' seq' _ left spells' counted'

end Runs

theorem requests_shown {α : Type} (config : PoolConfig) (geometry : Geometry config) (requests : List (PoolRequest α))
    (pool : Pool) (acc : Account) (room : RoomAlong pool requests) (shown : Stocked config pool acc ∨ Shut pool acc) :
    ∃ acc', acc'.calls = acc.calls + requests.length ∧
      (Stocked config (afterRequests requests pool) acc' ∨ Shut (afterRequests requests pool) acc') := by
  induction requests generalizing pool acc with
  | nil => exact ⟨acc, rfl, shown⟩
  | cons request rest ih =>
      obtain ⟨here, along⟩ := room
      have next : ∃ acc', acc'.calls = acc.calls + 1 ∧
          (Stocked config (request.after pool) acc' ∨ Shut (request.after pool) acc') := by
        have shut (closed : (request.after pool).heap = none) : ∃ acc', acc'.calls = acc.calls + 1 ∧
            (Stocked config (request.after pool) acc' ∨ Shut (request.after pool) acc') :=
          ⟨⟨fun _ => none, 0, [], acc.calls + 1⟩, rfl, .inr ⟨closed, rfl, rfl⟩⟩
        rcases shown with ⟨heap, opened, inventory⟩ | ⟨closed, _⟩
        · by_cases closing : request = .act .deinit
          · exact shut (closing ▸ deinit_request_closes pool)
          · obtain ⟨blocks, sound⟩ := inventory.kept
            obtain ⟨_, left⟩ := request_open request closing pool heap opened
            obtain ⟨blocks', passage⟩ := request_passage config geometry heap blocks request sound (here heap opened)
            have counted := request_counted config geometry heap blocks request acc.calls sound inventory.counted
            exact ⟨_, rfl, .inl ⟨_, left, inventory_next config heap _ acc _ blocks blocks' _ inventory passage counted⟩⟩
        · exact shut (request_closed request pool closed).2
      obtain ⟨acc', one, shown'⟩ := next
      obtain ⟨acc'', all, shown''⟩ := ih (request.after pool) acc' along shown'
      refine ⟨acc'', ?_, shown''⟩
      rw [all, one, List.length_cons]
      omega

theorem list_updates_are_atomic {α : Type} (config : PoolConfig) (valid : config.Valid) (counter : PoolCounter) :
    ∃ pool next, Pool.init config counter = .ok (.ok pool) next ∧
      ∀ (requests : List (PoolRequest α)) (f : FaultyPool) (ops : List ListOp), RoomAlong pool requests →
        f.pool = afterRequests requests pool → f.plan.Mild → Atomic f {} requests.length ops := by
  have geometry := valid_geometry config valid
  obtain ⟨pool, next, made, stocked⟩ := init_stocked config valid counter
  refine ⟨pool, next, made, fun requests f ops room same mild => ?_⟩
  obtain ⟨acc, counted, shown⟩ := requests_shown config geometry requests pool _ room (.inl stocked)
  rw [← same] at shown
  have few : acc.calls ≤ requests.length := by simp [counted]
  rcases shown with stocked | shut
  · exact ops_atomic (pool_store config geometry) (stocked_telling config geometry) ops f {} acc [] _
      ⟨mild, fun _ => trivial, acc.calls, Nat.le_refl _, stocked⟩ (spells_nothing _) few
  · exact ops_atomic shut_store shut_telling ops f {} acc [] _ ⟨mild, fun _ => trivial, acc.calls, Nat.le_refl _, shut⟩
      (spells_nothing _) few

def performed : List ListOp → LinkedList → FaultyPool → Option (FaultyPool × LinkedList)
  | [], l, f => some (f, l)
  | op :: rest, l, f =>
    if RoomForHandles f.pool then
      match op.perform l f with
      | .ok (l', _) f' => performed rest l' f'
      | .error _ _ => none
    else none

theorem op_performed (op : ListOp) (rest : List ListOp) (l : LinkedList) (f : FaultyPool) (final : FaultyPool × LinkedList)
    (ran : performed (op :: rest) l f = some final) :
    RoomForHandles f.pool ∧ ∃ l' answer f', op.perform l f = .ok (l', answer) f' ∧ performed rest l' f' = some final := by
  rw [performed] at ran
  split at ran
  · rename_i room
    cases outcome : op.perform l f with
    | ok told f' =>
        rw [outcome] at ran
        exact ⟨room, told.1, told.2, f', rfl, ran⟩
    | error reason f' =>
        rw [outcome] at ran
        cases ran
  · cases ran

theorem performed_leads (lasting : FaultyPool → LinkedList → Nat → List ListOp → Prop)
    (leads : ∀ f l made op rest, RoomForHandles f.pool → lasting f l made (op :: rest) →
      ∃ made', ∀ l' answer f', op.perform l f = .ok (l', answer) f' → lasting f' l' made' rest)
    (done rest : List ListOp) (f reached : FaultyPool) (l l' : LinkedList) (made : Nat)
    (start : lasting f l made (done ++ rest)) (ran : performed done l f = some (reached, l')) :
    ∃ made', lasting reached l' made' rest := by
  induction done generalizing f l made with
  | nil =>
      cases ran
      exact ⟨made, start⟩
  | cons op others ih =>
      obtain ⟨room, l', answer, f', performs, further⟩ := op_performed op others l f _ ran
      obtain ⟨made', next⟩ := leads f l made op _ room start
      exact ih f' l' made' (next l' answer f' performs) further

theorem atomic_leads (f : FaultyPool) (l : LinkedList) (made : Nat) (op : ListOp) (rest : List ListOp)
    (room : RoomForHandles f.pool) (atomic : Atomic f l made (op :: rest)) :
    ∃ made', ∀ l' answer f', op.perform l f = .ok (l', answer) f' → Atomic f' l' made' rest := by
  obtain ⟨seq, _, _, _, _, next⟩ := atomic room
  exact ⟨made + seq.length + 2, next⟩

-- The second allocation and the fourth write are lost.
theorem list_updates_are_atomic_spoiled :
    (PoolConfig.mk 101 0 8 .firstFit false).Valid ∧
      ∃ pool next reached l seq count made, Pool.init (PoolConfig.mk 101 0 8 .firstFit false) ⟨3⟩ = .ok (.ok pool) next ∧
        performed [.pushBack 7, .pushBack 8, .pushBack 9, .remove 9] {}
          ⟨afterRequests ([.act (.alloc 5)] : List (PoolRequest Unit)) pool, { failAlloc := [2], failWrite := [4] }, {}, none⟩ =
          some (reached, l) ∧
        (l.entries.attempt reached.pool).1 = .ok seq ∧ (Pool.liveAllocations.attempt reached.pool).1 = .ok count ∧
        AllOrNothing reached seq count made (.remove 7) ((ListOp.remove 7).perform l reached) := by
  have valid : (PoolConfig.mk 101 0 8 .firstFit false).Valid := by rfl
  obtain ⟨pool, next, made, atomic⟩ := @list_updates_are_atomic Unit (PoolConfig.mk 101 0 8 .firstFit false) valid ⟨3⟩
  generalize sofar : ([.act (.alloc 5)] : List (PoolRequest Unit)) = requests
  generalize asked : ([.pushBack 7, .pushBack 8, .pushBack 9, .remove 9] : List ListOp) = ops
  have along : RoomAlong pool requests := by
    cases made
    cases sofar
    refine ⟨?_, ?_⟩ <;>
    · intro heap opened
      cases opened
      decide
  have allowed : (performed ops {} ⟨afterRequests requests pool, { failAlloc := [2], failWrite := [4] }, {}, none⟩).any
      fun final => RoomForHandles final.1.pool := by
    cases made
    cases sofar
    cases asked
    decide +kernel
  obtain ⟨⟨reached, l⟩, ran, room⟩ := (Option.any_eq_true _ _).mp allowed
  obtain ⟨count, further⟩ :=
    performed_leads Atomic atomic_leads ops [.remove 7] _ reached {} l _ (atomic requests _ _ along rfl ⟨rfl, rfl, rfl⟩) ran
  obtain ⟨seq, live, entries, counted, updates, _⟩ := further (of_decide_eq_true room)
  exact ⟨valid, pool, next, reached, l, seq, live, count, made, ran, entries, counted, updates⟩

end BlockPool
