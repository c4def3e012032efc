import BlockPool.Proofs.ListAtomicity
import BlockPool.Proofs.SpoiledReads

set_option autoImplicit false

namespace BlockPool

open LinkedList

-- What an operation does to a vector of which it can read the first `count` entries.
def ListOp.curtailed : (op : ListOp) → Nat → Option NodeRef → Sequence → Sequence × op.Answer
  | .pushBack _, _, none, seq => (seq, none)
  | .pushBack value, count, some n, seq => (seq.take count ++ [(n, value)], some n)
  | .insertAfter anchor value, count, fresh, seq => placing ((indexOf anchor (seq.take count)).map (· + 1)) value fresh seq
  | .insertBefore anchor value, count, fresh, seq => placing (indexOf anchor (seq.take count)) value fresh seq
  | .remove value, count, _, seq =>
    ((seq.take count).eraseP (fun entry => entry.2 = value) ++ seq.drop count, (seq.take count).any fun entry => entry.2 = value)
  | .first, _, _, seq => (seq, seq.head?.map Prod.fst)
  | .isEmpty, _, _, seq => (seq, seq.isEmpty)
  | .clear, _, _, _ => ([], ())
  | op, count, fresh, seq => (seq, (op.model fresh (seq.take count)).2)

section Operations

variable {lossy : Prop} {Shows : Pool → Account → Prop}

-- What an operation comes to if reads fail, against a model of it. If it wants a node, it gets the one that an
-- allocation would have answered. Only a lost write undoes an update.
inductive Curtailed {α : Type} (lossy : Prop) (Shows : Pool → Account → Prop) (f : FaultyPool) (acc : Account) (l : LinkedList)
    (seq : Sequence) (wants : Bool) (model : Option NodeRef → Sequence × α) (Refuses : α → Prop) :
    EStateM.Result Abort FaultyPool (LinkedList × α) → Prop where
  | halted (f' : FaultyPool) (full : Word.greatest < acc.calls + seq.length + 2) :
      Curtailed lossy Shows f acc l seq wants model Refuses (.error .overflow f')
  | undone (answer : α) (f' : FaultyPool) (acc' : Account) (lost : lossy) (refuses : Refuses answer)
      (blurred : Blurred lossy Shows f' acc')
      (unmoved : Unmoved acc acc') : Curtailed lossy Shows f acc l seq wants model Refuses (.ok (l, answer) f')
  | done (fresh : Option NodeRef) (l' : LinkedList) (f' : FaultyPool) (acc' : Account)
      (asked : wants = true → upcoming f = .ok (fresh.map NodeRef.handle)) (blurred : Blurred lossy Shows f' acc')
      (spells : Spells acc'.memory l' (model fresh).1) (calls : acc'.calls ≤ acc.calls + seq.length + 2) :
      Curtailed lossy Shows f acc l seq wants model Refuses (.ok (l', (model fresh).2) f')

-- Once the walk is over nothing is read, so what is left of an operation does what it would in a pool that can be read.
theorem readless_curtailed {α : Type} (step : Step FaultyPool (LinkedList × α)) (readless : Readless step)
    (f f' : FaultyPool) (acc : Account) (l : LinkedList) (seq : Sequence) (wants : Bool)
    (model : Option NodeRef → Sequence × α) (Refuses : α → Prop)
    (comes : ∀ reads, Curtailed lossy Shows f acc l seq wants model Refuses
      (carried (·.failing reads) (step (f'.failing [])))) :
    Curtailed lossy Shows f acc l seq wants model Refuses (step f') := by
  rw [readless_ran step readless f']
  exact comes f'.plan.failRead

theorem outcome_curtailed {α : Type} (step : Step FaultyPool (LinkedList × α)) (readless : Readless step)
    (f f' : FaultyPool) (acc : Account) (l : LinkedList) (seq : Sequence) (wants : Bool)
    (model : Option NodeRef → Sequence × α) (Refuses : α → Prop) (foreseen : upcoming (f'.failing []) = upcoming f)
    (outcome : Outcome lossy FaultyPool.outlook (Spoiled lossy Shows) (f'.failing []) acc l seq wants model Refuses
      (step (f'.failing []))) :
    Curtailed lossy Shows f acc l seq wants model Refuses (step f') := by
  refine readless_curtailed step readless f f' acc l seq wants model Refuses fun reads => ?_
  generalize step (f'.failing []) = result at outcome ⊢
  cases outcome with
  | halted g full => exact .halted _ full
  | undone answer g acc' lost refuses spoiled unmoved =>
      exact .undone answer _ acc' lost refuses (spoiled_blurred g acc' _ spoiled) unmoved
  | done fresh l' g acc' asked spoiled spells updated _ =>
      exact .done fresh l' _ acc' (fun wanted => foreseen.symm.trans (asked wanted)) (spoiled_blurred g acc' _ spoiled)
        spells updated.calls

theorem curtailed_answered {α : Type} (f f' : FaultyPool) (acc : Account) (l : LinkedList) (seq : Sequence) (answer : α)
    (Refuses : α → Prop) (blurred : Blurred lossy Shows f' acc) (spells : Spells acc.memory l seq) :
    Curtailed lossy Shows f acc l seq false (fun _ => (seq, answer)) Refuses (.ok (l, answer) f') :=
  .done none l f' acc (fun wanted => absurd wanted Bool.false_ne_true) blurred spells (by omega)

theorem question_curtailed {α : Type} (store : NodeStore False RoomForHandles Pool.heap Shows) (f : FaultyPool)
    (acc : Account) (l : LinkedList) (seq : Sequence) (question : LinkedList → Step FaultyPool α)
    (answer : Sequence → α) (Refuses : α → Prop) (blurred : Blurred lossy Shows f acc)
    (spells : Spells acc.memory l seq) (tells : Tells question answer) :
    Curtailed lossy Shows f acc l seq false (fun _ => (seq, answer (seq.take (f.legible seq.length)))) Refuses
      ((question l >>= fun found => pure (l, found)) f) := by
  obtain ⟨β, start, visit, tell, asked, told⟩ := tells
  obtain ⟨f', walked, blurred', _⟩ := walk_curtailed store visit start f acc l seq blurred spells
  have answered : question l f = .ok (answer (seq.take (f.legible seq.length))) f' := by
    rw [asked, step_bind_ok _ _ f f' _ walked, told]
    rfl
  rw [step_bind_ok _ _ f f' _ answered]
  exact curtailed_answered f f' acc l seq _ Refuses blurred' spells

theorem first_curtailed (f : FaultyPool) (acc : Account) (l : LinkedList) (seq : Sequence) (blurred : Blurred lossy Shows f acc)
    (spells : Spells acc.memory l seq) :
    Curtailed lossy Shows f acc l seq false (fun _ => (seq, seq.head?.map Prod.fst)) (fun _ => False) (.ok (l, l.first) f) := by
  rw [first_spelled acc.memory l seq spells]
  exact curtailed_answered f f acc l seq l.first _ blurred spells

theorem is_empty_curtailed (f : FaultyPool) (acc : Account) (l : LinkedList) (seq : Sequence) (blurred : Blurred lossy Shows f acc)
    (spells : Spells acc.memory l seq) :
    Curtailed lossy Shows f acc l seq false (fun _ => (seq, seq.isEmpty)) (fun _ => False) (.ok (l, l.isEmpty) f) := by
  rw [is_empty_spelled acc.memory l seq spells]
  exact curtailed_answered f f acc l seq l.isEmpty _ blurred spells

theorem readless_insertion (l : LinkedList) (node : Node) (prev : Option (Handle × Node)) :
    Readless (LinkedList.create node >>= fun made => match made with
      | none => pure (l, none)
      | some h => l.link prev h : Step FaultyPool _) := by
  refine readless_bind _ _ (readless_create node) fun made => ?_
  cases made with
  | none => exact readless_pure _
  | some h => exact readless_link l prev h

theorem insert_after_curtailed (store : NodeStore False RoomForHandles Pool.heap Shows) (f : FaultyPool) (acc : Account)
    (l : LinkedList) (seq : Sequence) (anchor : NodeRef) (value : UInt16) (blurred : Blurred lossy Shows f acc)
    (room : RoomForHandles f.pool) (spells : Spells acc.memory l seq) :
    Curtailed lossy Shows f acc l seq (indexOf anchor (seq.take (f.legible seq.length))).isSome
      (fun fresh => placing ((indexOf anchor (seq.take (f.legible seq.length))).map (· + 1)) value fresh seq) (· = none)
      (l.insertAfter anchor value f) := by
  obtain ⟨f', walked, blurred', foreseen, room'⟩ := walk_curtailed store
    (fun _ h node => if holds anchor ⟨h⟩ node.value then .done (some (h, node)) else .yield none) none f
    acc l seq blurred spells
  rw [fold_search fun h node => holds anchor ⟨h⟩ node.value] at walked
  have place := List.take_append_drop (f.legible seq.length) seq
  generalize seq.take (f.legible seq.length) = seen at walked place ⊢
  generalize seq.drop (f.legible seq.length) = lost at walked place
  subst place
  have walked' : l.search (fun h _ => decide (h = anchor.handle)) f = .ok _ f' := walked
  rw [LinkedList.insertAfter, step_bind_ok _ _ f f' _ walked']
  rcases entry_cases (holds anchor) seen with missed | ⟨before, n, w, after, rfl, missed, hit⟩
  · rw [search_absent (holds anchor) seen _ missed, index_absent anchor seen missed]
    exact curtailed_answered f f' acc l _ none _ blurred' spells
  · obtain rfl : n = anchor := congrArg NodeRef.mk (of_decide_eq_true hit)
    have length : (some before.length).map (· + 1) = some (before ++ [(n, w)]).length := by
      rw [List.length_append, List.length_singleton, Option.map_some]
    rw [search_found (holds n) before after n w _ missed hit, index_found n w before after missed, length, ← first_of_append]
    refine outcome_curtailed _ (readless_insertion l _ _) f f' acc l _ true _ _ foreseen ?_
    refine insertion_cases (faulty_store lossy store) (f'.failing []) acc l _ _ (after ++ lost) value _ blurred' (room' room) spells
      (by simp) rfl fun h => ?_
    rw [records_last]

theorem search_link_curtailed (store : NodeStore False RoomForHandles Pool.heap Shows)
    (accept : NodeRef → UInt16 → Bool) (f : FaultyPool) (acc : Account) (l : LinkedList) (seq : Sequence)
    (blurred : Blurred lossy Shows f acc) (spells : Spells acc.memory l seq) :
    ∃ seen lost f', seen = seq.take (f.legible seq.length) ∧ lost = seq.drop (f.legible seq.length) ∧ seen ++ lost = seq ∧
      Blurred lossy Shows f' acc ∧ upcoming (f'.failing []) = upcoming f ∧
      (RoomForHandles f.pool → RoomForHandles f'.pool) ∧
      (((∀ entry ∈ seen, accept entry.1 entry.2 = false) ∧
        ∃ last, l.searchLink (fun h node => accept ⟨h⟩ node.value) f = .ok (last, none) f') ∨
      ∃ before n value after, seen = before ++ (n, value) :: after ∧ (∀ entry ∈ before, accept entry.1 entry.2 = false) ∧
        accept n value = true ∧ l.searchLink (fun h node => accept ⟨h⟩ node.value) f =
          .ok ((records before (some n.handle)).getLast?, some (n.handle, ⟨value, firstOf (after ++ lost) none⟩)) f') := by
  obtain ⟨f', walked, blurred', foreseen, room⟩ := walk_curtailed store
    (fun (link : Option (Handle × Node) × Option (Handle × Node)) h node =>
      if accept ⟨h⟩ node.value then .done (link.1, some (h, node)) else .yield (some (h, node), none)) (none, none) f
        acc l seq blurred spells
  refine ⟨_, _, f', rfl, rfl, List.take_append_drop _ seq, blurred', foreseen, room, ?_⟩
  rcases fold_link_cases accept _ _ _ rfl with ⟨missed, last, found⟩ | ⟨before, n, value, after, place, ahead, hit, found⟩
  · rw [found] at walked
    exact .inl ⟨missed, last, walked⟩
  · rw [found, ← first_of_append] at walked
    exact .inr ⟨before, n, value, after, place, ahead, hit, walked⟩

theorem insert_before_curtailed (store : NodeStore False RoomForHandles Pool.heap Shows) (f : FaultyPool) (acc : Account)
    (l : LinkedList) (seq : Sequence) (anchor : NodeRef) (value : UInt16) (blurred : Blurred lossy Shows f acc)
    (room : RoomForHandles f.pool) (spells : Spells acc.memory l seq) :
    Curtailed lossy Shows f acc l seq (indexOf anchor (seq.take (f.legible seq.length))).isSome
      (fun fresh => placing (indexOf anchor (seq.take (f.legible seq.length))) value fresh seq) (· = none)
        (l.insertBefore anchor value f) := by
  obtain ⟨seen, lost, f', cut, _, rfl, blurred', foreseen, room', found⟩ :=
    search_link_curtailed store (holds anchor) f acc l seq blurred spells
  rw [LinkedList.insertBefore, ← cut]
  rcases found with ⟨missed, last, walked⟩ | ⟨before, n, w, after, rfl, missed, hit, walked⟩
  · have walked' : l.searchLink (fun h _ => decide (h = anchor.handle)) f = .ok (last, none) f' := walked
    rw [step_bind_ok _ _ f f' _ walked', index_absent anchor seen missed]
    exact curtailed_answered f _ acc l _ none _
      ((faulty_store lossy store).notes (f'.failing []) acc (.noAnchor value) blurred').1 spells
  · obtain rfl : n = anchor := congrArg NodeRef.mk (of_decide_eq_true hit)
    have walked' : l.searchLink (fun h _ => decide (h = n.handle)) f = .ok _ f' := walked
    rw [step_bind_ok _ _ f f' _ walked', index_found n w before after missed]
    refine outcome_curtailed _ (readless_insertion l _ _) f f' acc l _ true _ _ foreseen ?_
    exact insertion_cases (faulty_store lossy store) (f'.failing []) acc l _ before ((n, w) :: after ++ lost) value
      _ blurred' (room' room)
      spells (by simp) rfl fun _ => rfl

theorem link_severing_cases (store : NodeStore False RoomForHandles Pool.heap Shows) (f : FaultyPool) (acc : Account)
    (l : LinkedList) (seen lost : Sequence) (value : UInt16) (h : Handle) (bytes : List UInt8)
    (spells : Spells acc.memory l (seen ++ lost)) (vacant : acc.memory h = none) (fresh : h ∉ acc.issued)
    (inscribed : Inscribed (acc.memory.put h (some bytes)) h ⟨value, none⟩)
    (spoiled : Spoiled lossy Shows f ⟨acc.memory.put h (some bytes), acc.live + 1, h :: acc.issued, acc.calls + 1⟩) :
    Linked lossy (Spoiled lossy Shows) acc l seen [] ⟨h⟩ value (l.link (records seen (firstOf lost none)).getLast? h f) := by
  obtain ⟨distinct, ahead, _⟩ := spells_stretches acc.memory l seen lost spells
  rw [handles_of_append] at distinct
  refine link_cases (faulty_store lossy store) f acc l seen [] value _ h bytes (fun some => ?_) ⟨?_, ahead, nofun⟩
    vacant fresh inscribed spoiled
  · obtain ⟨entry, rest, rfl⟩ := List.exists_cons_of_ne_nil some
    exact spells.head
  · rw [List.append_nil]
    exact distinct.of_append_left

theorem push_back_curtailed (store : NodeStore False RoomForHandles Pool.heap Shows) (f : FaultyPool) (acc : Account)
    (l : LinkedList) (seq : Sequence) (value : UInt16) (blurred : Blurred lossy Shows f acc)
    (room : RoomForHandles f.pool) (spells : Spells acc.memory l seq) :
    Curtailed lossy Shows f acc l seq true
      (fun fresh => (ListOp.pushBack value).curtailed (f.legible seq.length) fresh seq) (· = none)
      (l.pushBack value f) := by
  obtain ⟨f', walked, blurred', foreseen, room'⟩ :=
    walk_curtailed store (fun _ h node => .yield (some (h, node))) none f acc l seq blurred
    spells
  rw [fold_last, Option.or_none] at walked
  rw [LinkedList.pushBack, LinkedList.last, step_bind_ok _ _ f f' _ walked]
  refine readless_curtailed _ (readless_insertion l _ _) f f' acc l seq true _ _ fun reads => ?_
  refine creation_cases (faulty_store lossy store) (f'.failing []) acc _ _
    (fun result => Curtailed lossy Shows f acc l seq true _ _ (carried _ result)) blurred' (room' room)
    (fun g full => .halted _ (by omega))
    (fun g acc' asked spoiled unmoved => ?_) fun h bytes g served vacant fresh inscribed spoiled => ?_
  · have left := spoiled_blurred g acc' reads spoiled
    rcases asked with nothing | lost
    · exact .done none l _ acc' (fun _ => foreseen.symm.trans nothing) left (unmoved.memory ▸ spells)
        (unmoved.calls.trans (by omega))
    · exact .undone none _ acc' lost rfl left unmoved
  · have linked :=
      link_severing_cases store g acc l (seq.take (f.legible seq.length)) (seq.drop (f.legible seq.length)) value h bytes
      (by rwa [List.take_append_drop]) vacant fresh inscribed spoiled
    change Curtailed lossy Shows f acc l seq true _ _ (carried _ (l.link _ h g))
    generalize l.link _ h g = result at linked ⊢
    cases linked with
    | halted g' full => exact .halted _ (by omega)
    | undone g' acc' lost spoiled' unmoved => exact .undone none _ acc' lost rfl (spoiled_blurred g' acc' reads spoiled') unmoved
    | placed l' g' acc' spoiled' spells' updated =>
        have counted := updated.calls
        rw [List.append_nil, List.length_take] at counted
        exact .done (some ⟨h⟩) l' _ acc' (fun _ => foreseen.symm.trans served)
          (spoiled_blurred g' acc' reads spoiled') spells' (by omega)

theorem remove_curtailed (store : NodeStore False RoomForHandles Pool.heap Shows) (f : FaultyPool) (acc : Account) (l : LinkedList)
    (seq : Sequence) (value : UInt16) (blurred : Blurred lossy Shows f acc) (spells : Spells acc.memory l seq) :
    Curtailed lossy Shows f acc l seq false (fun _ =>
      ((seq.take (f.legible seq.length)).eraseP (fun entry => entry.2 = value) ++ seq.drop (f.legible seq.length),
        (seq.take (f.legible seq.length)).any fun entry => entry.2 = value)) (· = false) (l.remove value f) := by
  obtain ⟨seen, lost, f', cut, rest, rfl, blurred', foreseen, _, found⟩ :=
    search_link_curtailed store (fun _ v => decide (v = value)) f acc l seq blurred spells
  rw [remove_unlinks, ← cut, ← rest]
  rcases found with ⟨missed, last, walked⟩ | ⟨before, n, v, after, rfl, missed, hit, walked⟩
  · rw [step_bind_ok _ _ f f' _ walked, erased_absent value seen missed, any_absent value seen missed]
    exact curtailed_answered f f' acc l _ false _ blurred' spells
  · rw [step_bind_ok _ _ f f' _ walked, erased_found value before after n v missed hit, any_found value before after n v hit]
    refine outcome_curtailed _ (readless_unlink l _) f f' acc l _ false _ _ foreseen ?_
    simp only [List.append_assoc, List.cons_append] at spells ⊢
    exact unlink_cases (faulty_store lossy store) _ (f'.failing []) acc l before (after ++ lost) n v blurred' spells

theorem load_blurred (store : NodeStore False RoomForHandles Pool.heap Shows) (f : FaultyPool) (acc : Account)
    (h : Handle) (node : Node) (blurred : Blurred lossy Shows f acc) (inscribed : Inscribed acc.memory h node) :
    ∃ found f', LinkedList.load h f = .ok found f' ∧ Blurred lossy Shows f' acc ∧ (found = none ∨ found = some node) := by
  by_cases fails : f.plan.failRead.contains (f.calls.read + 1) = true
  · exact ⟨none, _, load_failed f h fails, blurred, .inl rfl⟩
  · obtain ⟨mild, lost, calls, fewer, shows⟩ := blurred
    obtain ⟨pool, found, shows', _⟩ := load_inscribed store f.pool _ h node shows inscribed
    exact ⟨some node, _, load_served f h node pool fails found, ⟨mild, lost, calls, fewer, shows'⟩, .inr rfl⟩

theorem free_blurred (store : NodeStore False RoomForHandles Pool.heap Shows) (f : FaultyPool) (acc : Account) (h : Handle)
    (bytes : List UInt8) (blurred : Blurred lossy Shows f acc) (held : acc.memory h = some bytes) :
    (∃ f', BlockAllocator.free (some h) f = .error .overflow f' ∧ Word.greatest ≤ acc.calls) ∨
    ∃ live f', BlockAllocator.free (some h) f = .ok () f' ∧
      Blurred lossy Shows f' { acc with memory := acc.memory.put h none, live, calls := acc.calls + 1 } := by
  rw [readless_ran _ (readless_free (some h)) f]
  rcases (faulty_store lossy store).frees (f.failing []) acc h bytes blurred held with
    ⟨f', stopped, full⟩ | ⟨live, f', gave, _, spoiled⟩
  · rw [stopped]
    exact .inl ⟨_, rfl, full⟩
  · rw [gave]
    exact .inr ⟨live, _, rfl, spoiled_blurred f' _ _ spoiled⟩

-- The nodes behind one that cannot be read are not given back.
theorem release_from_blurred (store : NodeStore False RoomForHandles Pool.heap Shows) (limit : Nat) (seq : Sequence)
    (f : FaultyPool) (acc : Account) (blurred : Blurred lossy Shows f acc) (distinct : (handlesOf seq).Nodup)
    (inscribed : ∀ record ∈ records seq none, Inscribed acc.memory record.1 record.2) (short : seq.length ≤ limit) :
    (∃ f', releaseFrom limit (firstOf seq none) f = .error .overflow f' ∧ Word.greatest < acc.calls + seq.length + 2) ∨
    ∃ f' acc', releaseFrom limit (firstOf seq none) f = .ok () f' ∧ Blurred lossy Shows f' acc' ∧
      acc'.calls ≤ acc.calls + seq.length := by
  induction seq generalizing limit f acc with
  | nil =>
      refine .inr ⟨f, acc, ?_, blurred, Nat.le_refl _⟩
      cases limit <;> rfl
  | cons entry rest ih =>
      cases limit with
      | zero => exact absurd short (Nat.not_succ_le_zero _)
      | succ limit =>
          have written := inscribed _ List.mem_cons_self
          obtain ⟨found, f', loaded, blurred', known⟩ :=
            load_blurred store f acc entry.1.handle ⟨entry.2, firstOf rest none⟩ blurred written
          obtain ⟨bytes, held, _⟩ := written
          obtain ⟨new, distinct'⟩ := List.nodup_cons.mp distinct
          rw [first_of_cons, releaseFrom, step_bind_ok _ _ f f' _ loaded, List.length_cons]
          rcases free_blurred store f' acc entry.1.handle bytes blurred' held with
            ⟨f'', stopped, full⟩ | ⟨live, f'', gave, blurred''⟩
          · exact .inl ⟨f'', step_bind_error _ _ f' f'' _ stopped, by omega⟩
          · rw [step_bind_ok _ _ f' f'' _ gave]
            rcases known with rfl | rfl
            · refine .inr ⟨f'', _, ?_, blurred'', ?_⟩
              · cases limit <;> rfl
              · simp only
                omega
            · have left := records_elsewhere acc.memory entry.1.handle none rest none new fun record member =>
                inscribed record (List.mem_cons_of_mem _ member)
              rcases ih limit f'' _ blurred'' distinct' left (Nat.le_of_succ_le_succ short) with ⟨final, stopped, full⟩ |
                ⟨final, acc', ran, blurred', counted⟩
              · refine .inl ⟨final, stopped, ?_⟩
                simp only at full
                omega
              · refine .inr ⟨final, acc', ran, blurred', ?_⟩
                simp only at counted
                omega

theorem clear_curtailed (store : NodeStore False RoomForHandles Pool.heap Shows) (f : FaultyPool) (acc : Account) (l : LinkedList)
    (seq : Sequence) (blurred : Blurred lossy Shows f acc) (spells : Spells acc.memory l seq) :
    Curtailed lossy Shows f acc l seq false (fun _ => ([], ())) (fun _ => False) ((l.clear >>= fun l' => pure (l', ())) f) := by
  have bound := distinct_handles_bound (handlesOf seq) spells.distinct
  rw [handlesOf, List.length_map] at bound
  have cases := release_from_blurred store walkLimit seq f acc blurred spells.distinct spells.inscribed bound
  rw [← spells.head] at cases
  rcases cases with ⟨f', stopped, full⟩ | ⟨f', acc', ran, blurred', counted⟩
  · have cleared : l.clear f = .error .overflow f' := step_bind_error _ _ f f' _ stopped
    rw [step_bind_error _ _ f f' _ cleared]
    exact .halted f' full
  · have cleared : l.clear f = .ok {} f' := step_bind_ok _ _ f f' _ ran
    rw [step_bind_ok _ _ f f' _ cleared]
    exact .done none {} f' acc' (fun wanted => absurd wanted Bool.false_ne_true) blurred' (spells_nothing acc'.memory) (by omega)

theorem op_curtailed (store : NodeStore False RoomForHandles Pool.heap Shows) (op : ListOp) (f : FaultyPool)
    (acc : Account) (l : LinkedList) (seq : Sequence) (blurred : Blurred lossy Shows f acc) (room : RoomForHandles f.pool)
    (spells : Spells acc.memory l seq) :
    Curtailed lossy Shows f acc l seq (op.wants (seq.take (f.legible seq.length)))
      (fun fresh => op.curtailed (f.legible seq.length) fresh seq) op.Refuses (op.perform l f) := by
  cases op with
  | pushBack value => exact push_back_curtailed store f acc l seq value blurred room spells
  | insertAfter anchor value => exact insert_after_curtailed store f acc l seq anchor value blurred room spells
  | insertBefore anchor value => exact insert_before_curtailed store f acc l seq anchor value blurred room spells
  | remove value => exact remove_curtailed store f acc l seq value blurred spells
  | clear => exact clear_curtailed store f acc l seq blurred spells
  | find value => exact question_curtailed store f acc l seq _ _ _ blurred spells (find_tells value)
  | valueAt node => exact question_curtailed store f acc l seq _ _ _ blurred spells (value_tells node)
  | length => exact question_curtailed store f acc l seq _ _ _ blurred spells length_tells
  | values => exact question_curtailed store f acc l seq _ _ _ blurred spells values_tells
  | take count =>
      by_cases none : count = 0
      · subst none
        exact curtailed_answered f f acc l seq [] _ blurred spells
      · exact question_curtailed store f acc l seq _ _ _ blurred spells (take_tells count none)
  | range start stop => exact question_curtailed store f acc l seq _ _ _ blurred spells (range_tells start stop)
  | first => exact first_curtailed f acc l seq blurred spells
  | isEmpty => exact is_empty_curtailed f acc l seq blurred spells

end Operations

theorem placing_refused (here : Option Nat) (value : UInt16) (fresh : Option NodeRef) (seq : Sequence)
    (refused : (placing here value fresh seq).2 = none) : (placing here value fresh seq).1 = seq := by
  cases here with
  | none => rfl
  | some index =>
      cases fresh with
      | none => rfl
      | some n => cases refused

theorem curtailed_refused (op : ListOp) (count : Nat) (fresh : Option NodeRef) (seq : Sequence)
    (refuses : op.Refuses (op.curtailed count fresh seq).2) : (op.curtailed count fresh seq).1 = seq := by
  cases op with
  | pushBack value =>
      cases fresh with
      | none => rfl
      | some n => cases refuses
  | insertAfter anchor value => exact placing_refused _ value fresh seq refuses
  | insertBefore anchor value => exact placing_refused _ value fresh seq refuses
  | remove value =>
      rcases erasing_cases value (seq.take count) with ⟨_, same⟩ | ⟨granted, _⟩
      · exact (congrArg (· ++ seq.drop count) same).trans (List.take_append_drop count seq)
      · exact absurd refuses granted
  | _ => exact refuses.elim

theorem placing_ahead (anchor : NodeRef) (value : UInt16) (count : Nat) (fresh : Option NodeRef) (seq : Sequence)
    (shift : Nat → Nat) (granted : (placing ((indexOf anchor (seq.take count)).map shift) value fresh seq).2 ≠ none) :
    placing ((indexOf anchor (seq.take count)).map shift) value fresh seq =
      placing ((indexOf anchor seq).map shift) value fresh seq := by
  cases found : indexOf anchor (seq.take count) with
  | none =>
      rw [found] at granted
      exact absurd rfl granted
  | some index =>
      have same : indexOf anchor seq = some index := by
        rw [← List.take_append_drop count seq, indexOf, List.findIdx?_append, ← indexOf, found]
        rfl
      rw [same]

-- Where it does anything, an operation that cannot read all of a list does what it would if it could, unless it is to append.
theorem curtailed_granted (op : ListOp) (count : Nat) (fresh : Option NodeRef) (seq : Sequence)
    (granted : ¬ op.Refuses (op.curtailed count fresh seq).2) :
    (∃ value, op = .pushBack value) ∨ (op.curtailed count fresh seq).1 = (op.model fresh seq).1 := by
  cases op with
  | pushBack value => exact .inl ⟨value, rfl⟩
  | insertAfter anchor value => exact .inr (congrArg Prod.fst (placing_ahead anchor value count fresh seq (· + 1) granted))
  | insertBefore anchor value =>
      have same := placing_ahead anchor value count fresh seq id
      simp only [Option.map_id_fun, id_eq] at same
      exact .inr (congrArg Prod.fst (same granted))
  | remove value =>
      refine .inr ?_
      have hit : (seq.take count).any (fun entry => decide (entry.2 = value)) = true := Bool.not_eq_false _ ▸ granted
      show (seq.take count).eraseP _ ++ seq.drop count = seq.eraseP _
      conv_rhs => rw [← List.take_append_drop count seq, List.eraseP_append, if_pos hit]
  | _ => exact .inr rfl

-- What an operation comes to that could read the first `count` nodes, as it is found once reads work again. A lost write refuses an
-- update; otherwise the model answers, with the node that an allocation would have answered.
def FoundAgain (f : FaultyPool) (seq : Sequence) (made count : Nat) (op : ListOp) :
    EStateM.Result Abort FaultyPool (LinkedList × op.Answer) → Prop
  | .error reason _ => reason = .overflow ∧ Word.greatest < made + seq.length + 2
  | .ok (l', answer) f' =>
    (f.plan.failWrite ≠ [] ∧ op.Refuses answer ∧ (l'.entries.attempt f'.pool).1 = .ok seq) ∨
    ∃ fresh, (op.wants (seq.take count) = true → upcoming f = .ok (fresh.map NodeRef.handle)) ∧
      answer = (op.curtailed count fresh seq).2 ∧
      (l'.entries.attempt f'.pool).1 = .ok (op.curtailed count fresh seq).1 ∧
      (op.Refuses answer → (op.curtailed count fresh seq).1 = seq) ∧
      (¬ op.Refuses answer → (∃ value, op = .pushBack value) ∨ (op.curtailed count fresh seq).1 = (op.model fresh seq).1)

def FoundAlong : FaultyPool → LinkedList → Nat → List ListOp → Prop
  | _, _, _, [] => True
  | f, l, made, op :: rest =>
    RoomForHandles f.pool →
      ∃ seq, (l.entries.attempt f.pool).1 = .ok seq ∧ FoundAgain f seq made (f.legible seq.length) op (op.perform l f) ∧
        ∀ l' answer f', op.perform l f = .ok (l', answer) f' → FoundAlong f' l' (made + seq.length + 2) rest

section Runs

variable {lossy : Prop} {Shows : Pool → Account → Prop}

theorem entries_blurred (store : NodeStore False RoomForHandles Pool.heap Shows) (f : FaultyPool) (acc : Account)
    (l : LinkedList) (seq : Sequence) (blurred : Blurred lossy Shows f acc) (spells : Spells acc.memory l seq) :
    (l.entries.attempt f.pool).1 = .ok seq := by
  obtain ⟨_, _, calls, _, shows⟩ := blurred
  exact entries_spelled store f.pool _ l seq shows spells

theorem op_found (store : NodeStore False RoomForHandles Pool.heap Shows) (f : FaultyPool) (l : LinkedList)
    (acc : Account) (seq : Sequence) (op : ListOp) (blurred : Blurred lossy Shows f acc)
    (spells : Spells acc.memory l seq) (room : RoomForHandles f.pool) :
    FoundAgain f seq acc.calls (f.legible seq.length) op (op.perform l f) ∧
      ∀ l' answer f', op.perform l f = .ok (l', answer) f' → ∃ acc' seq', Blurred (f.plan.failWrite ≠ []) Shows f' acc' ∧
        Spells acc'.memory l' seq' ∧ acc'.calls ≤ acc.calls + seq.length + 2 := by
  obtain ⟨mild, _, shown⟩ := blurred
  have curtailed :=
    op_curtailed store op f acc l seq (⟨mild, id, shown⟩ : Blurred (f.plan.failWrite ≠ []) Shows f acc) room spells
  generalize op.perform l f = result at curtailed ⊢
  cases curtailed with
  | halted f' full => exact ⟨⟨rfl, full⟩, fun _ _ _ ran => nomatch ran⟩
  | undone answer f' acc' lost refuses blurred' unmoved =>
      have spells' : Spells acc'.memory l seq := unmoved.memory ▸ spells
      refine ⟨.inl ⟨lost, refuses, entries_blurred store f' acc' l seq blurred' spells'⟩, ?_⟩
      rintro _ _ _ ⟨⟩
      exact ⟨acc', seq, blurred', spells', unmoved.calls.trans (by omega)⟩
  | done fresh l' f' acc' asked blurred' spells' counted =>
      refine ⟨.inr ⟨fresh, asked, rfl, entries_blurred store f' acc' l' _ blurred' spells', curtailed_refused op _ fresh seq,
        curtailed_granted op _ fresh seq⟩, ?_⟩
      rintro _ _ _ ⟨⟩
      exact ⟨acc', _, blurred', spells', counted⟩

-- The induction carries that the pool, if it is read, spells out the list.
theorem ops_found (store : NodeStore False RoomForHandles Pool.heap Shows) (ops : List ListOp) (f : FaultyPool) (l : LinkedList)
    (acc : Account) (seq : Sequence) (made : Nat) (blurred : Blurred lossy Shows f acc) (spells : Spells acc.memory l seq)
    (counted : acc.calls ≤ made) : FoundAlong f l made ops := by
  induction ops generalizing lossy f l acc seq made with
  | nil => trivial
  | cons op rest ih =>
      intro room
      obtain ⟨mild, lost, calls, fewer, shows⟩ := blurred
      have blurred' : Blurred lossy Shows f { acc with calls := made } := ⟨mild, lost, calls, fewer.trans counted, shows⟩
      obtain ⟨found, next⟩ := op_found store f l _ seq op blurred' spells room
      refine ⟨seq, entries_blurred store f _ l seq blurred' spells, found, fun l' answer f' ran => ?_⟩
      obtain ⟨acc', seq', left, spells', counted'⟩ := next l' answer f' ran
      exact ih f' l' acc' seq' _ left spells' counted'

end Runs

-- Whichever reads fail, an operation on a list is refused or does to the list what it would do if none did, but for a value that is
-- appended: that is put behind the last node that could be read, and the nodes behind that one are lost to the list.
theorem only_appending_severs {α : Type} (config : PoolConfig) (valid : config.Valid) (counter : PoolCounter) :
    ∃ pool next, Pool.init config counter = .ok (.ok pool) next ∧
      ∀ (requests : List (PoolRequest α)) (f : FaultyPool) (ops : List ListOp), RoomAlong pool requests →
        f.pool = afterRequests requests pool → f.plan.dropFree = [] → f.plan.repeatAlloc = [] →
        FoundAlong f {} requests.length ops := by
  have geometry := valid_geometry config valid
  obtain ⟨pool, next, made, stocked⟩ := init_stocked config valid counter
  refine ⟨pool, next, made, fun requests f ops room same heeded once => ?_⟩
  obtain ⟨acc, counted, shown⟩ := requests_shown config geometry requests pool _ room (.inl stocked)
  rw [← same] at shown
  have few : acc.calls ≤ requests.length := by simp [counted]
  have mild : (f.failing []).plan.Mild := ⟨rfl, heeded, once⟩
  rcases shown with stocked | shut
  · exact ops_found (pool_store config geometry) ops f {} acc [] _ ⟨mild, id, acc.calls, Nat.le_refl _, stocked⟩
      (spells_nothing _) few
  · exact ops_found shut_store ops f {} acc [] _ ⟨mild, id, acc.calls, Nat.le_refl _, shut⟩ (spells_nothing _) few

theorem found_leads (f : FaultyPool) (l : LinkedList) (made : Nat) (op : ListOp) (rest : List ListOp)
    (room : RoomForHandles f.pool) (found : FoundAlong f l made (op :: rest)) :
    ∃ made', ∀ l' answer f', op.perform l f = .ok (l', answer) f' → FoundAlong f' l' made' rest := by
  obtain ⟨seq, _, _, next⟩ := found room
  exact ⟨made + seq.length + 2, next⟩

theorem only_appending_severs_unread :
    (PoolConfig.mk 101 0 8 .firstFit false).Valid ∧
      ∃ pool next reached l seq made, Pool.init (PoolConfig.mk 101 0 8 .firstFit false) ⟨3⟩ = .ok (.ok pool) next ∧
        performed [.pushBack 7, .pushBack 8, .pushBack 9, .remove 9] {}
          ⟨afterRequests ([.act (.alloc 5)] : List (PoolRequest Unit)) pool,
            { failRead := [2, 5], failWrite := [4] }, {}, none⟩ =
          some (reached, l) ∧
        (l.entries.attempt reached.pool).1 = .ok seq ∧
        FoundAgain reached seq made (reached.legible seq.length) (.remove 7) ((ListOp.remove 7).perform l reached) := by
  have valid : (PoolConfig.mk 101 0 8 .firstFit false).Valid := by rfl
  obtain ⟨pool, next, made, found⟩ := @only_appending_severs Unit (PoolConfig.mk 101 0 8 .firstFit false) valid ⟨3⟩
  generalize sofar : ([.act (.alloc 5)] : List (PoolRequest Unit)) = requests
  generalize asked : ([.pushBack 7, .pushBack 8, .pushBack 9, .remove 9] : List ListOp) = ops
  have along : RoomAlong pool requests := by
    cases made
    cases sofar
    refine ⟨?_, ?_⟩ <;>
    · intro heap opened
      cases opened
      decide
  have allowed : (performed ops {} ⟨afterRequests requests pool, { failRead := [2, 5], failWrite := [4] }, {}, none⟩).any
      fun final => RoomForHandles final.1.pool := by
    cases made
    cases sofar
    cases asked
    decide +kernel
  obtain ⟨⟨reached, l⟩, ran, room⟩ := (Option.any_eq_true _ _).mp allowed
  obtain ⟨count, further⟩ := performed_leads FoundAlong found_leads ops [.remove 7] _ reached {} l _
    (found requests _ _ along rfl rfl rfl) ran
  obtain ⟨seq, entries, again, _⟩ := further (of_decide_eq_true room)
  exact ⟨valid, pool, next, reached, l, seq, count, made, ran, entries, again⟩

-- The first of two nodes cannot be read when a third is appended. The list is that third one from then on, and all three are live.
theorem appending_loses_nodes :
    (PoolConfig.forNodes 3).Valid ∧
      ∃ pool next a b c, Pool.init (PoolConfig.forNodes 3) ⟨1⟩ = .ok (.ok pool) next ∧
        ((do
          let (l, _) ← LinkedList.pushBack {} 1
          let (l, _) ← l.pushBack 2
          let before ← FaultyPool.direct l.entries
          FaultyPool.follow { failRead := [1] }
          let (l, added) ← l.pushBack 3
          let after ← FaultyPool.direct l.entries
          let live ← FaultyPool.direct Pool.liveAllocations
          return (before, added, after, live) : Step FaultyPool _).attempt ⟨pool, {}, {}, none⟩).1 =
          .ok ([(a, 1), (b, 2)], some c, [(c, 3)], 3) := by
  refine ⟨by rfl, _, _, ⟨⟨⟨1⟩, 0, 0⟩⟩, ⟨⟨⟨1⟩, 1, 0⟩⟩, ⟨⟨⟨1⟩, 2, 0⟩⟩, rfl, ?_⟩
  decide +kernel

end BlockPool
