import BlockPool.Proofs.ClientMemory
import BlockPool.Proofs.ListOperations
import BlockPool.Proofs.PoolStore
import Mathlib.Logic.Function.Basic

set_option autoImplicit false

namespace BlockPool

-- What is done to a pool that lists share with other clients.
inductive Deed (α : Type) where
  | call (call : PoolCall α)
  | list (which : Nat) (op : ListOp)

-- What the users of a shared pool know: a vector for each list, and the blocks of the other clients.
structure Understanding where
  sequences : Nat → Sequence
  memory : Memory
  -- the handles that clients were given, and all that were handed out, nodes included
  given : List Handle
  issued : List Handle
  -- no fewer than the calls that were made
  made : Nat

namespace Understanding

def start : Understanding := ⟨fun _ => [], fun _ => none, [], [], 0⟩

def called (known : Understanding) (memory : Memory) (granted : Option Handle) : Understanding :=
  { known with memory, given := granted.toList ++ known.given, issued := granted.toList ++ known.issued, made := known.made + 1 }

def operated (known : Understanding) (which : Nat) (seq : Sequence) : Understanding :=
  { known with
    sequences := Function.update known.sequences which seq
    issued := handlesOf seq ++ known.issued
    made := known.made + (known.sequences which).length + 2 }

@[simp] theorem operated_here (known : Understanding) (which : Nat) (seq : Sequence) :
    (known.operated which seq).sequences which = seq := by
  simp only [operated, Function.update_self]

theorem operated_elsewhere (known : Understanding) (which other : Nat) (seq : Sequence) (different : other ≠ which) :
    (known.operated which seq).sequences other = known.sequences other := by
  simp only [operated, Function.update_of_ne different]

end Understanding

-- A walk along the links of a list finds the vector that is known of it.
def Understanding.Found (known : Understanding) (pool : Pool) (lists : Nat → LinkedList) : Prop :=
  ∀ which, ((lists which).entries.attempt pool).1 = .ok (known.sequences which)

-- An operation answers what the model of a vector answers, given a node just if an allocation would give one. A node that comes
-- in was never handed out before. If no node is wanted and the vector stays as it is, so does the heap. Only a full counter,
-- which takes as many calls before it, can stop an operation.
def OpAgrees (pool : Pool) (known : Understanding) (which : Nat) (op : ListOp) (fresh : Option NodeRef) :
    EStateM.Result Abort Pool (LinkedList × op.Answer) → Prop
  | .error reason _ => reason = .overflow ∧ Word.greatest < known.made + (known.sequences which).length + 2
  | .ok (_, answer) pool' =>
    (op.wants (known.sequences which) = true → upcoming pool = .ok (fresh.map NodeRef.handle)) ∧
      answer = (op.model fresh (known.sequences which)).2 ∧
      (∀ h ∈ handlesOf (op.model fresh (known.sequences which)).1, h ∈ handlesOf (known.sequences which) ∨
        h ∉ known.issued) ∧
      (op.wants (known.sequences which) = false → (op.model fresh (known.sequences which)).1 = known.sequences which →
        pool'.heap = pool.heap)

-- Lists and clients go through the same deeds as their vectors and memory do.
def Faithful {α : Type} (config : PoolConfig) : Pool → (Nat → LinkedList) → Understanding → List (Deed α) → Prop
  | pool, lists, known, [] => known.Found pool lists
  | pool, lists, known, .call call :: rest =>
    known.Found pool lists ∧
      (RoomForHandles pool → call ≠ .deinit → (∀ h, call.handle = some h → h ∈ known.given) →
        ∃ memory', Agrees config known.made (some known.memory) call (call.perform.attempt pool).1 (some memory') ∧
          (∀ h, call.granted (call.perform.attempt pool).1 = some h → call.handle = some h ∨ h ∉ known.issued) ∧
          Faithful config (call.after pool) lists (known.called memory' (call.granted (call.perform.attempt pool).1)) rest)
  | pool, lists, known, .list which op :: rest =>
    known.Found pool lists ∧
      (RoomForHandles pool →
        ∃ fresh, OpAgrees pool known which op fresh (op.perform (lists which) pool) ∧
          ∀ l' answer pool', op.perform (lists which) pool = .ok (l', answer) pool' →
            Faithful config pool' (Function.update lists which l')
              (known.operated which (op.model fresh (known.sequences which)).1) rest)

theorem call_stocked {α : Type} (config : PoolConfig) (geometry : Geometry config) (pool : Pool) (acc : Account)
    (call : PoolCall α) (stocked : Stocked config pool acc) (room : RoomForHandles pool) (going : call ≠ .deinit) :
    ∃ acc', Stocked config (call.after pool) acc' ∧
      Agrees config acc.calls (some acc.memory) call (call.perform.attempt pool).1 (some acc'.memory) ∧
      (∀ h, call.granted (call.perform.attempt pool).1 = some h → call.handle = some h ∨ h ∉ acc.issued) ∧
      acc'.issued = (call.granted (call.perform.attempt pool).1).toList ++ acc.issued ∧ acc'.calls = acc.calls + 1 := by
  obtain ⟨heap, opened, inventory⟩ := stocked
  obtain ⟨blocks, sound⟩ := inventory.kept
  obtain ⟨blocks', passage⟩ := request_passage config geometry heap blocks (.act call) sound (room heap opened)
  obtain ⟨_, left⟩ := request_open (.act call) (fun closing => going (PoolRequest.act.inj closing)) pool heap opened
  obtain ⟨agrees, _⟩ := open_agrees config geometry call going pool heap blocks acc.calls opened sound (room heap opened)
    inventory.counted
  have counted := advanced_counted acc.calls _ _ inventory.counted (work_advanced config geometry heap blocks call sound)
  have stock := inventory_next config heap _ acc call.subject blocks blocks' _ inventory passage counted
  rw [← inventory.memory] at agrees
  cases granted : call.granted (call.perform.attempt pool).1 with
  | none => exact ⟨_, ⟨_, left, stock⟩, agrees, nofun, rfl, rfl⟩
  | some h =>
      obtain ⟨⟨bytes, held⟩, origin⟩ := granted_cases config acc.calls call _ _ _ h agrees granted
      refine ⟨_, ⟨_, left, inventory_issued config _ _ h bytes stock held⟩, agrees, fun k handed => ?_, rfl, rfl⟩
      cases handed
      rcases origin with named | vacant
      · exact .inl named
      · exact .inr (inventory_fresh config geometry heap _ acc h bytes inventory passage.continues vacant held)

-- Every list is spelled out in the pool, by nodes that belong to it alone.
structure Harmony (config : PoolConfig) (pool : Pool) (lists : Nat → LinkedList) (known : Understanding) (acc : Account) :
    Prop where
  stocked : Stocked config pool acc
  issued : acc.issued = known.issued
  made : acc.calls = known.made
  memory : known.memory = acc.memory.within known.given
  spells : ∀ i, Spells acc.memory (lists i) (known.sequences i)
  apart : ∀ i j, i ≠ j → ∀ h ∈ handlesOf (known.sequences i), h ∉ handlesOf (known.sequences j)
  listed : ∀ i, ∀ h ∈ handlesOf (known.sequences i), h ∈ known.issued ∧ h ∉ known.given
  granted : ∀ h ∈ known.given, h ∈ known.issued

theorem call_harmony {α : Type} (config : PoolConfig) (geometry : Geometry config) (pool : Pool) (lists : Nat → LinkedList)
    (known : Understanding) (acc : Account) (call : PoolCall α) (harmony : Harmony config pool lists known acc)
    (room : RoomForHandles pool) (going : call ≠ .deinit) (own : ∀ h, call.handle = some h → h ∈ known.given) :
    ∃ memory' acc', Agrees config known.made (some known.memory) call (call.perform.attempt pool).1 (some memory') ∧
      (∀ h, call.granted (call.perform.attempt pool).1 = some h → call.handle = some h ∨ h ∉ known.issued) ∧
      Harmony config (call.after pool) lists (known.called memory' (call.granted (call.perform.attempt pool).1)) acc' := by
  obtain ⟨acc', stocked, agrees, origin, issued, calls⟩ := call_stocked config geometry pool acc call harmony.stocked room going
  have seen := agrees_within config acc.calls call acc.memory acc'.memory _ known.given going own agrees
  rw [← harmony.memory, harmony.made] at seen
  rw [harmony.issued] at origin issued
  refine ⟨_, acc', seen, origin, stocked, issued, by rw [calls, harmony.made, Understanding.called], rfl, fun i => ?_,
    harmony.apart, ?_, ?_⟩
  · -- the blocks of a list are not the client's, so they are spared
    have others := agrees_spares_others config acc.calls call _ _ _ agrees
    refine spells_elsewhere acc.memory acc'.memory (lists i) _ (harmony.spells i) fun h member => ?_
    obtain ⟨bytes, held, _⟩ := spelled_held acc.memory _ _ (harmony.spells i) h member
    rw [held]
    exact others h bytes held fun named => (harmony.listed i h member).2 (own h (subject_handle call h named))
  · intro i h member
    obtain ⟨old, strange⟩ := harmony.listed i h member
    refine ⟨List.mem_append_right _ old, fun given => ?_⟩
    rcases List.mem_append.mp given with now | before
    · rcases origin h (Option.mem_toList.mp now) with named | fresh
      · exact strange (own h named)
      · exact fresh old
    · exact strange before
  · intro h given
    rcases List.mem_append.mp given with now | before
    · exact List.mem_append_left _ now
    · exact List.mem_append_right _ (harmony.granted h before)

-- The nodes that a list has after an update are its own or were never handed out.
theorem updated_new (acc acc' : Account) (seq seq' : Sequence) (updated : Updated acc acc' seq seq') (h : Handle)
    (member : h ∈ handlesOf seq') : h ∈ handlesOf seq ∨ h ∉ acc.issued := by
  by_cases old : h ∈ handlesOf seq
  · exact .inl old
  · exact .inr (updated.entered h member old).2.1

-- What belongs to nobody else's list, and was handed out, is not touched by an update of this one.
theorem updated_spares (acc acc' : Account) (seq seq' : Sequence) (updated : Updated acc acc' seq seq') (h : Handle)
    (issued : h ∈ acc.issued) (other : h ∉ handlesOf seq) : h ∉ handlesOf seq' ∧ acc'.memory h = acc.memory h := by
  have outside : h ∉ handlesOf seq' := fun member => (updated_new acc acc' seq seq' updated h member).elim other (· issued)
  exact ⟨outside, updated.elsewhere h other outside⟩

section Operation

variable (config : PoolConfig) (pool : Pool) (lists : Nat → LinkedList) (known : Understanding) (acc acc' : Account) (which : Nat)
  (l' : LinkedList) (seq' : Sequence) (harmony : Harmony config pool lists known acc)
  (updated : Updated acc acc' (known.sequences which) seq')

include harmony updated

theorem entered_unlisted (i : Nat) (different : i ≠ which) (h : Handle) (member : h ∈ handlesOf seq') :
    h ∉ handlesOf (known.sequences i) := by
  rcases updated_new acc acc' _ seq' updated h member with old | fresh
  · exact harmony.apart which i (Ne.symm different) h old
  · exact fun other => fresh (harmony.issued ▸ (harmony.listed i h other).1)

theorem entered_ungiven (h : Handle) (member : h ∈ handlesOf seq') : h ∉ known.given := by
  rcases updated_new acc acc' _ seq' updated h member with old | fresh
  · exact (harmony.listed which h old).2
  · exact fun own => fresh (harmony.issued ▸ harmony.granted h own)

theorem operated_issued (h : Handle) (member : h ∈ handlesOf seq' ++ known.issued) : h ∈ acc'.issued := by
  have kept (old : h ∈ known.issued) : h ∈ acc'.issued := updated.issued h (harmony.issued ▸ old)
  rcases List.mem_append.mp member with here | before
  · by_cases old : h ∈ handlesOf (known.sequences which)
    · exact kept (harmony.listed which h old).1
    · exact (updated.entered h here old).2.2
  · exact kept before

theorem operated_memory : known.memory = acc'.memory.within known.given := by
  rw [harmony.memory]
  funext h
  by_cases own : h ∈ known.given
  · have outside : h ∉ handlesOf (known.sequences which) := fun member => (harmony.listed which h member).2 own
    have spared := (updated_spares acc acc' _ seq' updated h (harmony.issued ▸ harmony.granted h own) outside).2
    rw [within_given _ _ h own, within_given _ _ h own, spared]
  · rw [Memory.within, if_neg own, Memory.within, if_neg own]

theorem operated_spells (spells : Spells acc'.memory l' seq') (i : Nat) :
    Spells acc'.memory (Function.update lists which l' i) ((known.operated which seq').sequences i) := by
  by_cases here : i = which
  · subst here
    rw [Function.update_self, known.operated_here]
    exact spells
  · rw [Function.update_of_ne here, known.operated_elsewhere which i seq' here]
    refine spells_elsewhere acc.memory acc'.memory (lists i) _ (harmony.spells i) fun h member => ?_
    have old : h ∈ acc.issued := harmony.issued ▸ (harmony.listed i h member).1
    exact (updated_spares acc acc' _ seq' updated h old (harmony.apart i which here h member)).2

theorem operated_apart (i j : Nat) (different : i ≠ j) (h : Handle)
    (member : h ∈ handlesOf ((known.operated which seq').sequences i)) :
    h ∉ handlesOf ((known.operated which seq').sequences j) := by
  have others := entered_unlisted config pool lists known acc acc' which seq' harmony updated
  by_cases here : i = which
  · subst here
    rw [known.operated_here] at member
    rw [known.operated_elsewhere i j seq' (Ne.symm different)]
    exact others j (Ne.symm different) h member
  · rw [known.operated_elsewhere which i seq' here] at member
    by_cases there : j = which
    · subst there
      rw [known.operated_here]
      exact fun inside => others i here h inside member
    · rw [known.operated_elsewhere which j seq' there]
      exact harmony.apart i j different h member

theorem operated_listed (i : Nat) (h : Handle) (member : h ∈ handlesOf ((known.operated which seq').sequences i)) :
    h ∈ handlesOf seq' ++ known.issued ∧ h ∉ known.given := by
  by_cases here : i = which
  · subst here
    rw [known.operated_here] at member
    exact ⟨List.mem_append_left _ member, entered_ungiven config pool lists known acc acc' i seq' harmony updated h member⟩
  · rw [known.operated_elsewhere which i seq' here] at member
    exact ⟨List.mem_append_right _ (harmony.listed i h member).1, (harmony.listed i h member).2⟩

theorem list_harmony (pool' : Pool) (stocked : Stocked config pool' acc') (spells : Spells acc'.memory l' seq') :
    Harmony config pool' (Function.update lists which l') (known.operated which seq')
      { acc' with issued := handlesOf seq' ++ known.issued, calls := known.made + (known.sequences which).length + 2 } := by
  obtain ⟨heap, opened, inventory⟩ := stocked
  have counted : acc'.calls ≤ known.made + (known.sequences which).length + 2 := harmony.made ▸ updated.calls
  have covered := operated_issued config pool lists known acc acc' which seq' harmony updated
  exact {
    stocked := ⟨heap, opened, inventory_looser config heap acc' _ _ inventory covered counted⟩
    issued := rfl
    made := rfl
    memory := operated_memory config pool lists known acc acc' which seq' harmony updated
    spells := operated_spells config pool lists known acc acc' which l' seq' harmony updated spells
    apart := operated_apart config pool lists known acc acc' which seq' harmony updated
    listed := operated_listed config pool lists known acc acc' which seq' harmony updated
    granted := fun h own => List.mem_append_right _ (harmony.granted h own) }

end Operation

theorem op_agrees (config : PoolConfig) (geometry : Geometry config) (pool : Pool) (lists : Nat → LinkedList)
    (known : Understanding) (acc : Account) (which : Nat) (op : ListOp) (harmony : Harmony config pool lists known acc)
    (room : RoomForHandles pool) :
    ∃ fresh, OpAgrees pool known which op fresh (op.perform (lists which) pool) ∧
      ∀ l' answer pool', op.perform (lists which) pool = .ok (l', answer) pool' →
        ∃ acc', Harmony config pool' (Function.update lists which l')
          (known.operated which (op.model fresh (known.sequences which)).1) acc' := by
  have outcome := op_cases (pool_store config geometry) op pool acc (lists which) (known.sequences which) harmony.stocked room
    (harmony.spells which)
  generalize op.perform (lists which) pool = result at outcome ⊢
  cases outcome with
  | halted pool' full => exact ⟨none, ⟨rfl, harmony.made ▸ full⟩, fun _ _ _ ran => nomatch ran⟩
  | undone _ _ _ fault => exact fault.elim
  | done fresh l' pool' acc' asked stocked spells updated read =>
      refine ⟨fresh, ⟨asked, rfl, ?_, read⟩, ?_⟩
      · intro h member
        rw [← harmony.issued]
        exact updated_new acc acc' _ _ updated h member
      · intro _ _ _ same
        cases same
        exact ⟨_, list_harmony config pool lists known acc acc' which _ _ harmony updated _ stocked spells⟩

theorem harmony_found (config : PoolConfig) (geometry : Geometry config) (pool : Pool) (lists : Nat → LinkedList)
    (known : Understanding) (acc : Account) (harmony : Harmony config pool lists known acc) : known.Found pool lists := fun which =>
  entries_spelled (pool_store config geometry) pool acc (lists which) _ harmony.stocked (harmony.spells which)

theorem deeds_faithful {α : Type} (config : PoolConfig) (geometry : Geometry config) (deeds : List (Deed α)) (pool : Pool)
    (lists : Nat → LinkedList) (known : Understanding) (acc : Account) (harmony : Harmony config pool lists known acc) :
    Faithful config pool lists known deeds := by
  -- the induction carries that the pool spells out every list and keeps it apart from all else
  induction deeds generalizing pool lists known acc with
  | nil => exact harmony_found config geometry pool lists known acc harmony
  | cons deed rest ih =>
      have found := harmony_found config geometry pool lists known acc harmony
      cases deed with
      | call call =>
          refine ⟨found, fun room going own => ?_⟩
          obtain ⟨memory', acc', agrees, origin, next⟩ :=
            call_harmony config geometry pool lists known acc call harmony room going own
          exact ⟨memory', agrees, origin, ih _ _ _ acc' next⟩
      | list which op =>
          refine ⟨found, fun room => ?_⟩
          obtain ⟨fresh, agrees, next⟩ := op_agrees config geometry pool lists known acc which op harmony room
          refine ⟨fresh, agrees, fun l' answer pool' ran => ?_⟩
          obtain ⟨acc', harmony'⟩ := next l' answer pool' ran
          exact ih _ _ _ acc' harmony'

-- A client keeps to the handles that it was given.
def Afterwards {α : Type} (goal : Pool → (Nat → LinkedList) → Prop) :
    Pool → (Nat → LinkedList) → List Handle → List (Deed α) → Prop
  | pool, lists, _, [] => goal pool lists
  | pool, lists, given, .call call :: rest =>
    RoomForHandles pool → call ≠ .deinit → (∀ h, call.handle = some h → h ∈ given) →
      Afterwards goal (call.after pool) lists ((call.granted (call.perform.attempt pool).1).toList ++ given) rest
  | pool, lists, given, .list which op :: rest =>
    RoomForHandles pool → ∀ l' answer pool', op.perform (lists which) pool = .ok (l', answer) pool' →
      Afterwards goal pool' (Function.update lists which l') given rest

theorem deeds_lead {α : Type} (config : PoolConfig) (geometry : Geometry config)
    (goal : Pool → (Nat → LinkedList) → Prop)
    (reached : ∀ pool lists known acc, Harmony config pool lists known acc → goal pool lists) (deeds : List (Deed α))
    (pool : Pool) (lists : Nat → LinkedList) (known : Understanding) (acc : Account)
    (harmony : Harmony config pool lists known acc) :
    Afterwards goal pool lists known.given deeds := by
  induction deeds generalizing pool lists known acc with
  | nil => exact reached pool lists known acc harmony
  | cons deed rest ih =>
      cases deed with
      | call call =>
          intro room going own
          obtain ⟨memory', acc', _, _, next⟩ := call_harmony config geometry pool lists known acc call harmony room going own
          exact ih _ _ _ acc' next
      | list which op =>
          intro room l' answer pool' ran
          obtain ⟨fresh, _, next⟩ := op_agrees config geometry pool lists known acc which op harmony room
          obtain ⟨acc', harmony'⟩ := next l' answer pool' ran
          exact ih pool' _ (known.operated which (op.model fresh (known.sequences which)).1) acc' harmony'

-- Carries deeds out for as long as a client keeps to the handles that it was given and there is room for more of them.
def carriedOut {α : Type} :
    List Handle → (Nat → LinkedList) → List (Deed α) → Pool → Option (Pool × (Nat → LinkedList))
  | _, lists, [], pool => some (pool, lists)
  | given, lists, .call call :: rest, pool =>
    if RoomForHandles pool ∧ ∀ h ∈ call.handle, h ∈ given then
      carriedOut ((call.granted (call.perform.attempt pool).1).toList ++ given) lists rest (call.after pool)
    else none
  | given, lists, .list which op :: rest, pool =>
    if RoomForHandles pool then
      match op.perform (lists which) pool with
      | .ok (l', _) pool' => carriedOut given (Function.update lists which l') rest pool'
      | .error _ _ => none
    else none

theorem call_carried {α : Type} (given : List Handle) (lists : Nat → LinkedList) (call : PoolCall α)
    (rest : List (Deed α)) (pool : Pool) (final : Pool × (Nat → LinkedList))
    (carried : carriedOut given lists (.call call :: rest) pool = some final) :
    (RoomForHandles pool ∧ ∀ h ∈ call.handle, h ∈ given) ∧
      carriedOut ((call.granted (call.perform.attempt pool).1).toList ++ given) lists rest (call.after pool) = some final := by
  rw [carriedOut] at carried
  split at carried
  · rename_i allowed
    exact ⟨allowed, carried⟩
  · cases carried

theorem list_carried {α : Type} (given : List Handle) (lists : Nat → LinkedList) (which : Nat) (op : ListOp)
    (rest : List (Deed α)) (pool : Pool) (final : Pool × (Nat → LinkedList))
    (carried : carriedOut given lists (.list which op :: rest) pool = some final) :
    RoomForHandles pool ∧ ∃ l' answer pool', op.perform (lists which) pool = .ok (l', answer) pool' ∧
      carriedOut given (Function.update lists which l') rest pool' = some final := by
  rw [carriedOut] at carried
  split at carried
  · rename_i room
    cases ran : op.perform (lists which) pool with
    | ok told pool' =>
        rw [ran] at carried
        exact ⟨room, told.1, told.2, pool', rfl, carried⟩
    | error reason pool' =>
        rw [ran] at carried
        cases carried
  · cases carried

-- What lasts through every call and every operation that a client may make is left to what comes after the deeds.
theorem carried_leads {α : Type} (lasting : List Handle → (Nat → LinkedList) → List (Deed α) → Pool → Prop)
    (allowed : PoolCall α → Prop)
    (calls : ∀ given lists call rest pool, RoomForHandles pool → allowed call →
      (∀ h, call.handle = some h → h ∈ given) → lasting given lists (.call call :: rest) pool →
        lasting ((call.granted (call.perform.attempt pool).1).toList ++ given) lists rest (call.after pool))
    (operations : ∀ given lists which op rest pool l' answer pool', RoomForHandles pool →
      op.perform (lists which) pool = .ok (l', answer) pool' → lasting given lists (.list which op :: rest) pool →
        lasting given (Function.update lists which l') rest pool')
    (done rest : List (Deed α)) (given : List Handle) (pool reached : Pool) (lists lists' : Nat → LinkedList)
    (keeps : ∀ call, Deed.call call ∈ done → allowed call) (start : lasting given lists (done ++ rest) pool)
    (carried : carriedOut given lists done pool = some (reached, lists')) :
    ∃ given', lasting given' lists' rest reached := by
  induction done generalizing given pool lists with
  | nil =>
      cases carried
      exact ⟨given, start⟩
  | cons deed others ih =>
      have later (call : PoolCall α) (member : Deed.call call ∈ others) := keeps call (List.mem_cons_of_mem _ member)
      cases deed with
      | call call =>
          obtain ⟨⟨room, own⟩, further⟩ := call_carried given lists call others pool _ carried
          exact ih _ _ lists later (calls given lists call _ pool room (keeps call List.mem_cons_self) own start) further
      | list which op =>
          obtain ⟨room, l', answer, pool', ran, further⟩ := list_carried given lists which op others pool _ carried
          exact ih given pool' _ later (operations given lists which op _ pool l' answer pool' room ran start) further

theorem afterwards_reached {α : Type} (goal : Pool → (Nat → LinkedList) → Prop) (deeds : List (Deed α))
    (given : List Handle) (pool reached : Pool) (lists lists' : Nat → LinkedList)
    (going : ∀ call, Deed.call call ∈ deeds → call ≠ .deinit) (afterwards : Afterwards goal pool lists given deeds)
    (carried : carriedOut given lists deeds pool = some (reached, lists')) : goal reached lists' := by
  obtain ⟨_, held⟩ := carried_leads (fun given lists rest pool => Afterwards goal pool lists given rest) (· ≠ .deinit)
    (fun _ _ _ _ _ room going own next => next room going own)
    (fun _ _ _ _ _ _ _ _ _ room ran next => next room _ _ _ ran)
    deeds [] given pool reached lists lists' going ((List.append_nil deeds).symm ▸ afterwards) carried
  exact held

theorem faithful_reached {α : Type} (config : PoolConfig) (done rest : List (Deed α)) (known : Understanding)
    (pool reached : Pool) (lists lists' : Nat → LinkedList) (going : ∀ call, Deed.call call ∈ done → call ≠ .deinit)
    (faithful : Faithful config pool lists known (done ++ rest))
    (carried : carriedOut known.given lists done pool = some (reached, lists')) :
    ∃ known', Faithful config reached lists' known' rest := by
  have leads := carried_leads
    (fun given lists rest pool => ∃ known : Understanding, known.given = given ∧ Faithful config pool lists known rest)
    (· ≠ .deinit) ?calls ?operations done rest known.given pool reached lists lists' going ⟨known, rfl, faithful⟩ carried
  case calls =>
    rintro _ lists call rest pool room going own ⟨known, rfl, faithful⟩
    obtain ⟨memory', _, _, next⟩ := faithful.2 room going own
    exact ⟨_, rfl, next⟩
  case operations =>
    rintro _ lists which op rest pool l' answer pool' room ran ⟨known, rfl, faithful⟩
    obtain ⟨fresh, _, next⟩ := faithful.2 room
    exact ⟨known.operated which (op.model fresh (known.sequences which)).1, rfl, next l' answer pool' ran⟩
  obtain ⟨_, known', _, further⟩ := leads
  exact ⟨known', further⟩

theorem start_harmony (config : PoolConfig) (pool : Pool) (stocked : Stocked config pool ⟨fun _ => none, 0, [], 0⟩) :
    Harmony config pool (fun _ => {}) Understanding.start ⟨fun _ => none, 0, [], 0⟩ :=
  ⟨stocked, rfl, rfl, funext fun h => (within_vacant _ _ h rfl).symm, fun _ => spells_nothing _, nofun, nofun, nofun⟩

theorem lists_are_vectors {α : Type} (config : PoolConfig) (valid : config.Valid) (counter : PoolCounter) :
    ∃ pool next, Pool.init config counter = .ok (.ok pool) next ∧
      ∀ deeds : List (Deed α), Faithful config pool (fun _ => {}) Understanding.start deeds := by
  have geometry := valid_geometry config valid
  obtain ⟨pool, next, made, stocked⟩ := init_stocked config valid counter
  exact ⟨pool, next, made, fun deeds => deeds_faithful config geometry deeds pool _ _ _ (start_harmony config pool stocked)⟩

theorem lists_are_vectors_interleaved :
    (PoolConfig.mk 200 8 8 .bestFit true).Valid ∧
      ∃ pool next reached lists known fresh, Pool.init (PoolConfig.mk 200 8 8 .bestFit true) ⟨3⟩ = .ok (.ok pool) next ∧
        carriedOut [] (fun _ => {})
          ([.list 0 (.pushBack 7), .call (.alloc 5), .list 1 (.pushBack 9), .call (.write ⟨⟨3⟩, 1, 0⟩ 2 [1, 2]),
            .list 0 (.remove 7),
            .call (.free (some ⟨⟨3⟩, 1, 0⟩))] : List (Deed Unit)) pool = some (reached, lists) ∧
        known.Found reached lists ∧
        OpAgrees reached known 1 (.insertBefore ⟨⟨⟨3⟩, 2, 0⟩⟩ 4) fresh
          ((ListOp.insertBefore ⟨⟨⟨3⟩, 2, 0⟩⟩ 4).perform (lists 1) reached) := by
  have valid : (PoolConfig.mk 200 8 8 .bestFit true).Valid := by rfl
  obtain ⟨pool, next, made, faithful⟩ := @lists_are_vectors Unit (PoolConfig.mk 200 8 8 .bestFit true) valid ⟨3⟩
  generalize sofar : ([.list 0 (.pushBack 7), .call (.alloc 5), .list 1 (.pushBack 9), .call (.write ⟨⟨3⟩, 1, 0⟩ 2 [1, 2]),
    .list 0 (.remove 7), .call (.free (some ⟨⟨3⟩, 1, 0⟩))] : List (Deed Unit)) = deeds
  have allowed : (carriedOut [] (fun _ => {}) deeds pool).any fun final => RoomForHandles final.1 := by
    cases made
    cases sofar
    decide +kernel
  obtain ⟨⟨reached, lists⟩, carried, room⟩ := (Option.any_eq_true _ _).mp allowed
  have going : ∀ call, Deed.call call ∈ deeds → call ≠ .deinit := by simp [← sofar]
  obtain ⟨known, found, agrees⟩ :=
    faithful_reached _ deeds [.list 1 (.insertBefore ⟨⟨⟨3⟩, 2, 0⟩⟩ 4)] _ pool reached _ lists going (faithful _) carried
  obtain ⟨fresh, agrees, _⟩ := agrees (of_decide_eq_true room)
  exact ⟨valid, pool, next, reached, lists, known, fresh, made, carried, found, agrees⟩

end BlockPool
