import BlockPool.Proofs.ListText

set_option autoImplicit false

namespace BlockPool

open LinkedList

-- What becomes of a list when no block can be read any more.
def ListOp.leaves : ListOp → LinkedList → LinkedList
  | .clear, _ => {}
  | _, l => l

theorem walk_limited : ∃ limit, walkLimit = limit + 1 := ⟨walkLimit - 1, by decide⟩

section Closed

variable (pool : Pool) (closed : pool.heap = none) (l : LinkedList)

include closed

theorem closed_load (h : Handle) : ∃ pool', load h pool = .ok none pool' ∧ pool'.heap = none := by
  obtain ⟨pool', ran, still⟩ := on_heap_absent (.error .uninitialized) (Heap.read h 0 Node.encodedLength) pool closed
  exact ⟨pool', step_bind_ok _ _ pool pool' _ ran, still⟩

theorem closed_walk {β : Type} (start : β) (visit : β → Handle → Node → ForInStep β) :
    ∃ pool', l.walk start visit pool = .ok start pool' ∧ pool'.heap = none := by
  obtain ⟨limit, more⟩ := walk_limited
  rw [LinkedList.walk, more]
  cases l.head with
  | none => exact ⟨pool, rfl, closed⟩
  | some h =>
      obtain ⟨pool', loaded, still⟩ := closed_load pool closed h
      exact ⟨pool', step_bind_ok _ _ pool pool' none loaded, still⟩

theorem closed_search (accept : Handle → Node → Bool) :
    ∃ pool', l.search accept pool = .ok none pool' ∧ pool'.heap = none :=
  closed_walk pool closed l none _

theorem closed_search_link (accept : Handle → Node → Bool) :
    ∃ pool', l.searchLink accept pool = .ok (none, none) pool' ∧ pool'.heap = none := closed_walk pool closed l (none, none) _

theorem closed_last : ∃ pool', l.last pool = .ok none pool' ∧ pool'.heap = none := closed_walk pool closed l none _

theorem closed_tells {α : Type} (question : LinkedList → Step Pool α) (answer : Sequence → α)
    (tells : Tells question answer) :
    ∃ pool', question l pool = .ok (answer []) pool' ∧ pool'.heap = none := by
  obtain ⟨β, start, visit, tell, asked, told⟩ := tells
  obtain ⟨pool', walked, still⟩ := closed_walk pool closed l start visit
  refine ⟨pool', ?_, still⟩
  rw [asked, step_bind_ok _ _ pool pool' _ walked, ← told [] none]
  rfl

theorem closed_create (node : Node) : ∃ pool', create node pool = .ok none pool' ∧ pool'.heap = none := by
  obtain ⟨pool', ran, still⟩ := on_heap_absent none (Heap.alloc Node.encodedLength) pool closed
  exact ⟨_, step_bind_ok _ _ pool pool' none ran, still⟩

theorem closed_clear : ∃ pool', l.clear pool = .ok {} pool' ∧ pool'.heap = none := by
  obtain ⟨limit, more⟩ := walk_limited
  rw [LinkedList.clear, more]
  cases l.head with
  | none => exact ⟨pool, rfl, closed⟩
  | some h =>
      obtain ⟨pool', loaded, still⟩ := closed_load pool closed h
      obtain ⟨pool'', freed, still'⟩ := on_heap_absent () (Heap.free (some h)) pool' still
      have released : releaseFrom (limit + 1) (some h) pool = .ok () pool'' := by
        refine ((step_bind_ok _ _ pool pool' none loaded).trans (step_bind_ok _ _ pool' pool'' () freed)).trans ?_
        cases limit <;> rfl
      exact ⟨pool'', step_bind_ok _ _ pool pool'' () released, still'⟩

end Closed

-- An operation leaves the list as it is, or clears it, and answers as for an empty vector unless it looks at the head.
def Idle (pool : Pool) (l : LinkedList) (op : ListOp) : Prop :=
  ∃ answer pool', op.perform l pool = .ok (op.leaves l, answer) pool' ∧ pool'.heap = none ∧
    (op ≠ .first → op ≠ .isEmpty → answer = (op.model none []).2)

theorem idle_question (pool : Pool) (l : LinkedList) (op : ListOp) (answer : op.Answer)
    (ran : ∃ pool', op.perform l pool = .ok (op.leaves l, answer) pool' ∧ pool'.heap = none)
    (same : answer = (op.model none []).2) : Idle pool l op := by
  obtain ⟨pool', answered, still⟩ := ran
  exact ⟨answer, pool', answered, still, fun _ _ => same⟩

theorem closed_question {α : Type} (pool : Pool) (closed : pool.heap = none) (l : LinkedList)
    (question : LinkedList → Step Pool α) (answer : Sequence → α) (tells : Tells question answer) :
    ∃ pool', (question l >>= fun found => pure (l, found)) pool = .ok (l, answer []) pool' ∧ pool'.heap = none := by
  obtain ⟨pool', asked, still⟩ := closed_tells pool closed l question answer tells
  exact ⟨pool', step_bind_ok _ _ pool pool' _ asked, still⟩

theorem closed_op (pool : Pool) (closed : pool.heap = none) (l : LinkedList) (op : ListOp) : Idle pool l op := by
  cases op with
  | first => exact ⟨l.first, pool, rfl, closed, fun other => absurd rfl other⟩
  | isEmpty => exact ⟨l.isEmpty, pool, rfl, closed, fun _ other => absurd rfl other⟩
  | find value => exact idle_question pool l _ none (closed_question pool closed l _ _ (find_tells value)) rfl
  | valueAt node => exact idle_question pool l _ none (closed_question pool closed l _ _ (value_tells node)) rfl
  | length => exact idle_question pool l _ (0 : Nat) (closed_question pool closed l _ _ length_tells) rfl
  | values => exact idle_question pool l _ [] (closed_question pool closed l _ _ values_tells) rfl
  | range start stop =>
      exact idle_question pool l _ ((stretch start stop []).map Prod.snd)
        (closed_question pool closed l _ _ (range_tells start stop)) rfl
  | take count =>
      by_cases none : count = 0
      · subst none
        exact idle_question pool l _ [] ⟨pool, rfl, closed⟩ rfl
      · exact idle_question pool l _ _ (closed_question pool closed l _ _ (take_tells count none)) rfl
  | clear =>
      obtain ⟨pool', cleared, still⟩ := closed_clear pool closed l
      exact idle_question pool l _ () ⟨pool', step_bind_ok _ _ pool pool' _ cleared, still⟩ rfl
  | pushBack value =>
      obtain ⟨middle, walked, closed'⟩ := closed_last pool closed l
      obtain ⟨pool', created, still⟩ := closed_create middle closed' ⟨value, none⟩
      refine idle_question pool l _ none ⟨pool', ?_, still⟩ rfl
      exact (step_bind_ok _ _ pool middle none walked).trans (step_bind_ok _ _ middle pool' none created)
  | insertAfter anchor value =>
      obtain ⟨pool', walked, still⟩ := closed_search pool closed l fun h _ => h = anchor.handle
      exact idle_question pool l _ none ⟨pool', step_bind_ok _ _ pool pool' none walked, still⟩ rfl
  | insertBefore anchor value =>
      obtain ⟨pool', walked, still⟩ := closed_search_link pool closed l fun h _ => h = anchor.handle
      exact idle_question pool l _ none ⟨_, step_bind_ok _ _ pool pool' (none, none) walked, still⟩ rfl
  | remove value =>
      obtain ⟨pool', walked, still⟩ := closed_search_link pool closed l fun _ node => node.value = value
      exact idle_question pool l _ false ⟨pool', step_bind_ok _ _ pool pool' (none, none) walked, still⟩ rfl

structure WalksTell (pool : Pool) (l : LinkedList) (empty : Prop) : Prop where
  length : ∃ count, (l.length.attempt pool).1 = .ok count ∧ (count = 0 ↔ empty)
  values : ∃ values, (l.values.attempt pool).1 = .ok values ∧ (values = [] ↔ empty)
  display : ∃ text, (l.display.attempt pool).1 = .ok text ∧ (text = "[]" ↔ empty)

-- A closed pool has no nodes to walk along, but then the head stays what it is until the list is cleared.
structure EmptinessTold (pool : Pool) (l : LinkedList) : Prop where
  heads : l.first = none ↔ l.isEmpty = true
  opened : ∀ heap, pool.heap = some heap → WalksTell pool l (l.isEmpty = true)
  closed : pool.heap = none → WalksTell pool l True ∧ ∀ op, Idle pool l op

theorem joined_nonempty (first : String) (rest : List String) (letters : first ≠ "") :
    ", ".intercalate (first :: rest) ≠ "" := by
  cases rest with
  | nil => rwa [String.intercalate_singleton]
  | cons second others =>
      rw [String.intercalate_cons_cons, String.append_assoc]
      exact fun nothing => letters (String.append_eq_empty_iff.mp nothing).1

theorem listing_nothing (values : List UInt16) : listing values = "[]" ↔ values = [] := by
  constructor
  · intro text
    cases values with
    | nil => rfl
    | cons first rest =>
        have bare : "[" ++ ", ".intercalate ((first :: rest).map fun value => toString value.toNat) ++ "]" =
            "[" ++ "" ++ "]" := text
        rw [String.append_left_inj, String.append_right_inj] at bare
        exact absurd bare (joined_nonempty _ _ Nat.repr_ne_empty)
  · rintro rfl
    rfl

theorem head_tells (l : LinkedList) : l.first = none ↔ l.isEmpty = true := by
  rw [LinkedList.first, LinkedList.isEmpty, Option.map_eq_none_iff, Option.isNone_iff_eq_none]

theorem spelled_told (config : PoolConfig) (geometry : Geometry config) (pool : Pool) (acc : Account) (l : LinkedList)
    (seq : Sequence) (stocked : Stocked config pool acc) (spells : Spells acc.memory l seq) : EmptinessTold pool l := by
  have store := pool_store config geometry
  have empty : seq = [] ↔ l.isEmpty = true := by rw [← is_empty_spelled acc.memory l seq spells, List.isEmpty_iff]
  refine ⟨head_tells l, fun _ _ => ⟨?_, ?_, ?_⟩, fun closed => ?_⟩
  · obtain ⟨pool', asked, _⟩ := tells_spelled store _ _ length_tells pool acc l seq stocked spells
    exact ⟨seq.length, congrArg Prod.fst (attempt_ok _ pool pool' _ asked), List.length_eq_zero_iff.trans empty⟩
  · obtain ⟨pool', asked, _⟩ := tells_spelled store _ _ values_tells pool acc l seq stocked spells
    exact ⟨seq.map Prod.snd, congrArg Prod.fst (attempt_ok _ pool pool' _ asked), List.map_eq_nil_iff.trans empty⟩
  · have told := range_told store pool acc l seq stocked spells none none
    rw [stretch_whole seq spells.distinct] at told
    exact ⟨_, told, (listing_nothing _).trans (List.map_eq_nil_iff.trans empty)⟩
  · obtain ⟨heap, opened, _⟩ := stocked
    rw [closed] at opened
    cases opened

theorem closed_told (pool : Pool) (closed : pool.heap = none) (l : LinkedList) : EmptinessTold pool l := by
  refine ⟨head_tells l, fun heap opened => ?_, fun _ => ⟨⟨?_, ?_, ?_⟩, closed_op pool closed l⟩⟩
  · rw [closed] at opened
    cases opened
  · obtain ⟨pool', asked, _⟩ := closed_tells pool closed l _ _ length_tells
    exact ⟨0, congrArg Prod.fst (attempt_ok _ pool pool' _ asked), iff_of_true rfl trivial⟩
  · obtain ⟨pool', asked, _⟩ := closed_tells pool closed l _ _ values_tells
    exact ⟨[], congrArg Prod.fst (attempt_ok _ pool pool' _ asked), iff_of_true rfl trivial⟩
  · obtain ⟨pool', ranged, _⟩ := closed_tells pool closed l _ _ (range_tells none none)
    have displayed : l.display pool = .ok (listing []) pool' := step_bind_ok _ _ pool pool' _ ranged
    exact ⟨listing [], congrArg Prod.fst (attempt_ok _ pool pool' _ displayed), iff_of_true rfl trivial⟩

-- Like `Afterwards`, but here a client may close the pool at any time.
def Lastly {α : Type} (goal : Pool → (Nat → LinkedList) → Prop) :
    Pool → (Nat → LinkedList) → List Handle → List (Deed α) → Prop
  | pool, lists, _, [] => goal pool lists
  | pool, lists, given, .call call :: rest =>
    RoomForHandles pool → (∀ h, call.handle = some h → h ∈ given) →
      Lastly goal (call.after pool) lists ((call.granted (call.perform.attempt pool).1).toList ++ given) rest
  | pool, lists, given, .list which op :: rest =>
    RoomForHandles pool → ∀ l' answer pool', op.perform (lists which) pool = .ok (l', answer) pool' →
      Lastly goal pool' (Function.update lists which l') given rest

def OpenOrClosed (config : PoolConfig) (pool : Pool) (lists : Nat → LinkedList) (given : List Handle) : Prop :=
  pool.heap = none ∨ ∃ known acc, Harmony config pool lists known acc ∧ known.given = given

theorem closed_call {α : Type} (pool : Pool) (closed : pool.heap = none) (call : PoolCall α) : (call.after pool).heap = none := by
  by_cases closing : call = .deinit
  · subst closing
    exact (deinit_closes pool).2
  · rw [PoolCall.after, call.perform_works closing]
    exact (on_heap_closed call.absent call.work pool closed).2

theorem deeds_end {α : Type} (config : PoolConfig) (geometry : Geometry config)
    (goal : Pool → (Nat → LinkedList) → Prop)
    (opened : ∀ pool lists known acc, Harmony config pool lists known acc → goal pool lists)
    (closed : ∀ pool lists, pool.heap = none → goal pool lists) (deeds : List (Deed α)) (pool : Pool)
    (lists : Nat → LinkedList) (given : List Handle) (state : OpenOrClosed config pool lists given) :
    Lastly goal pool lists given deeds := by
  induction deeds generalizing pool lists given with
  | nil =>
      rcases state with shut | ⟨known, acc, harmony, _⟩
      · exact closed pool lists shut
      · exact opened pool lists known acc harmony
  | cons deed rest ih =>
      cases deed with
      | call call =>
          intro room own
          refine ih _ _ _ ?_
          rcases state with shut | ⟨known, acc, harmony, rfl⟩
          · exact .inl (closed_call pool shut call)
          · by_cases closing : call = .deinit
            · subst closing
              exact .inl (deinit_closes pool).2
            · obtain ⟨memory', acc', _, _, next⟩ :=
                call_harmony config geometry pool lists known acc call harmony room closing own
              exact .inr ⟨_, acc', next, rfl⟩
      | list which op =>
          intro room l' answer pool' ran
          refine ih _ _ _ ?_
          rcases state with shut | ⟨known, acc, harmony, rfl⟩
          · obtain ⟨_, final, idle, still, _⟩ := closed_op pool shut (lists which) op
            cases ran.symm.trans idle
            exact .inl still
          · obtain ⟨fresh, _, next⟩ := op_agrees config geometry pool lists known acc which op harmony room
            obtain ⟨acc', harmony'⟩ := next l' answer pool' ran
            exact .inr ⟨_, acc', harmony', rfl⟩

theorem lastly_reached {α : Type} (goal : Pool → (Nat → LinkedList) → Prop) (deeds : List (Deed α))
    (given : List Handle) (pool reached : Pool) (lists lists' : Nat → LinkedList)
    (lastly : Lastly goal pool lists given deeds)
    (carried : carriedOut given lists deeds pool = some (reached, lists')) : goal reached lists' := by
  obtain ⟨_, held⟩ := carried_leads (fun given lists rest pool => Lastly goal pool lists given rest) (fun _ => True)
    (fun _ _ _ _ _ room _ own next => next room own)
    (fun _ _ _ _ _ _ _ _ _ room ran next => next room _ _ _ ran)
    deeds [] given pool reached lists lists' (fun _ _ => trivial) ((List.append_nil deeds).symm ▸ lastly) carried
  exact held

theorem emptiness_told {α : Type} (config : PoolConfig) (valid : config.Valid) (counter : PoolCounter) :
    ∃ pool next, Pool.init config counter = .ok (.ok pool) next ∧
      ∀ deeds : List (Deed α), Lastly (fun pool lists => ∀ which, EmptinessTold pool (lists which)) pool
        (fun _ => {}) [] deeds := by
  have geometry := valid_geometry config valid
  obtain ⟨pool, next, made, stocked⟩ := init_stocked config valid counter
  have start : OpenOrClosed config pool (fun _ => {}) [] := .inr ⟨_, _, start_harmony config pool stocked, rfl⟩
  refine ⟨pool, next, made, fun deeds => deeds_end config geometry _ ?_ ?_ deeds pool _ [] start⟩
  · intro pool lists known acc harmony which
    exact spelled_told config geometry pool acc (lists which) _ harmony.stocked (harmony.spells which)
  · exact fun pool lists closed which => closed_told pool closed (lists which)

-- The pool is closed between two values of a list, and its client goes on as if nothing had happened.
theorem emptiness_told_around_closing :
    (PoolConfig.mk 200 8 8 .bestFit true).Valid ∧
      ∃ pool next reached lists, Pool.init (PoolConfig.mk 200 8 8 .bestFit true) ⟨3⟩ = .ok (.ok pool) next ∧
        carriedOut [] (fun _ => {})
          ([.list 0 (.pushBack 7), .call (.alloc 5), .list 1 (.pushBack 9), .list 1 (.remove 9), .call .deinit,
            .call (.free (some ⟨⟨3⟩, 1, 0⟩)), .list 0 (.pushBack 8), .list 1 .clear] : List (Deed Unit)) pool =
              some (reached, lists) ∧
        ∀ which, EmptinessTold reached (lists which) := by
  have valid : (PoolConfig.mk 200 8 8 .bestFit true).Valid := by rfl
  obtain ⟨pool, next, made, told⟩ := @emptiness_told Unit (PoolConfig.mk 200 8 8 .bestFit true) valid ⟨3⟩
  generalize sofar : ([.list 0 (.pushBack 7), .call (.alloc 5), .list 1 (.pushBack 9), .list 1 (.remove 9), .call .deinit,
    .call (.free (some ⟨⟨3⟩, 1, 0⟩)), .list 0 (.pushBack 8), .list 1 .clear] : List (Deed Unit)) = deeds
  have allowed : (carriedOut [] (fun _ => {}) deeds pool).isSome = true := by
    cases made
    cases sofar
    decide +kernel
  obtain ⟨⟨reached, lists⟩, carried⟩ := Option.isSome_iff_exists.mp allowed
  exact ⟨valid, pool, next, reached, lists, made, carried, lastly_reached _ deeds [] pool reached _ lists (told deeds) carried⟩

theorem closed_list_keeps_head :
    (PoolConfig.forNodes 1).Valid ∧
      ∃ pool next n, Pool.init (PoolConfig.forNodes 1) ⟨1⟩ = .ok (.ok pool) next ∧
        ((do
          let (l, _) ← LinkedList.pushBack {} 1
          Pool.deinit
          return (← l.length, ← l.values, ← l.display, l.isEmpty, l.first) : Step Pool _).attempt pool).1 =
          .ok (0, [], "[]", false, some n) := by
  refine ⟨by rfl, _, _, ⟨⟨⟨1⟩, 0, 0⟩⟩, rfl, ?_⟩
  decide +kernel

end BlockPool
