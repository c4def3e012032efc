import BlockPool.Proofs.ListUpdates

set_option autoImplicit false

namespace BlockPool

open LinkedList

def holds (anchor n : NodeRef) (_ : UInt16) : Bool := decide (n.handle = anchor.handle)

theorem holds_itself (anchor : NodeRef) (value : UInt16) : holds anchor anchor value = true := decide_eq_true rfl

theorem held_same (anchor : NodeRef) :
    (fun entry : NodeRef × UInt16 => decide (entry.1 = anchor)) = fun entry => holds anchor entry.1 entry.2 := by
  funext entry
  exact decide_eq_decide.mpr ⟨congrArg NodeRef.handle, congrArg NodeRef.mk⟩

theorem index_absent (anchor : NodeRef) (seq : Sequence) (missed : ∀ entry ∈ seq, holds anchor entry.1 entry.2 = false) :
    indexOf anchor seq = none := by
  rw [indexOf, held_same]
  exact List.findIdx?_eq_none_iff.mpr missed

theorem index_found (anchor : NodeRef) (value : UInt16) (before after : Sequence)
    (missed : ∀ entry ∈ before, holds anchor entry.1 entry.2 = false) :
    indexOf anchor (before ++ (anchor, value) :: after) = some before.length := by
  rw [indexOf, held_same, List.findIdx?_append, List.findIdx?_eq_none_iff.mpr missed]
  simp [List.findIdx?_cons, holds_itself]

theorem search_absent (accept : NodeRef → UInt16 → Bool) (seq : Sequence) (rest : Option Handle)
    (missed : ∀ entry ∈ seq, accept entry.1 entry.2 = false) :
    ((records seq rest).find? fun record => accept ⟨record.1⟩ record.2.value) = none :=
  List.find?_eq_none.mpr fun record member => by simp [records_missed accept seq rest missed record member]

theorem search_found (accept : NodeRef → UInt16 → Bool) (before after : Sequence) (n : NodeRef) (value : UInt16)
    (rest : Option Handle) (missed : ∀ entry ∈ before, accept entry.1 entry.2 = false) (hit : accept n value = true) :
    ((records (before ++ (n, value) :: after) rest).find? fun record => accept ⟨record.1⟩ record.2.value) =
      some (n.handle, ⟨value, firstOf after rest⟩) := by
  rw [record_value, List.find?_append, search_absent accept before _ missed, List.find?_cons, hit]
  rfl

theorem erased_absent (value : UInt16) (seq : Sequence) (missed : ∀ entry ∈ seq, decide (entry.2 = value) = false) :
    (seq.eraseP fun entry => entry.2 = value) = seq :=
  List.eraseP_of_forall_not fun entry member => by simpa using missed entry member

theorem any_absent (value : UInt16) (seq : Sequence) (missed : ∀ entry ∈ seq, decide (entry.2 = value) = false) :
    (seq.any fun entry => entry.2 = value) = false :=
  List.any_eq_false.mpr fun entry member => by simpa using missed entry member

theorem erased_found (value : UInt16) (before after : Sequence) (n : NodeRef) (v : UInt16)
    (missed : ∀ entry ∈ before, decide (entry.2 = value) = false) (hit : decide (v = value) = true) :
    ((before ++ (n, v) :: after).eraseP fun entry => entry.2 = value) = before ++ after := by
  rw [List.eraseP_append_right _ fun entry member => by simpa using missed entry member]
  exact congrArg (before ++ ·) (List.eraseP_cons_of_pos hit)

theorem any_found (value : UInt16) (before after : Sequence) (n : NodeRef) (v : UInt16) (hit : decide (v = value) = true) :
    ((before ++ (n, v) :: after).any fun entry => entry.2 = value) = true := List.any_eq_true.mpr ⟨(n, v), by simp, hit⟩

theorem insert_at (before after : Sequence) (entry : NodeRef × UInt16) :
    (before ++ after).insertIdx before.length entry = before ++ entry :: after := by
  induction before with
  | nil => rfl
  | cons first rest ih => rw [List.cons_append, List.length_cons, List.insertIdx_succ_cons, ih, List.cons_append]

theorem placing_between (value : UInt16) (fresh : Option NodeRef) (before after : Sequence) :
    placing (some before.length) value fresh (before ++ after) = inserting before after value fresh := by
  cases fresh with
  | none => rfl
  | some n => rw [placing, insert_at, inserting]

def LinkedList.unlink {σ : Type} [BlockAllocator σ] (l : LinkedList) :
    Option (Handle × Node) × Option (Handle × Node) → Step σ (LinkedList × Bool)
  | (_, none) => pure (l, false)
  | (none, some (h, node)) => do
    BlockAllocator.free (some h)
    return (⟨node.next⟩, true)
  | (some (prev, ahead), some (h, node)) => do
    if ← store prev { ahead with next := node.next } then
      BlockAllocator.free (some h)
      return (l, true)
    return (l, false)

theorem first_spelled (memory : Memory) (l : LinkedList) (seq : Sequence) (spells : Spells memory l seq) :
    seq.head?.map Prod.fst = l.first := by
  rw [LinkedList.first, spells.head, firstOf, Option.or_none, Option.map_map]
  rfl

theorem is_empty_spelled (memory : Memory) (l : LinkedList) (seq : Sequence) (spells : Spells memory l seq) :
    seq.isEmpty = l.isEmpty := by
  rw [LinkedList.isEmpty, spells.head]
  cases seq <;> rfl

theorem fold_entries (seq : Sequence) (after : Option Handle) (latest : Sequence) :
    (foldRecords (fun latest h node => .yield ((NodeRef.mk h, node.value) :: latest)) (records seq after) latest).reverse =
      latest.reverse ++ seq := by
  induction seq generalizing latest with
  | nil => simp [foldRecords]
  | cons entry rest ih =>
      rw [records_cons, foldRecords, ih, List.reverse_cons, List.append_assoc, List.singleton_append]

section Operations

variable {σ γ : Type} [BlockAllocator σ] [Journaled σ] {faulty : Prop} {Roomy : σ → Prop} {view : σ → γ}
  {Shows : σ → Account → Prop}

omit [Journaled σ] in
theorem outcome_answered {α : Type} (s s' : σ) (acc : Account) (l : LinkedList) (seq : Sequence) (answer : α)
    (Refuses : α → Prop) (spells : Spells acc.memory l seq) (shows : Shows s' acc) (still : view s' = view s) :
    Outcome faulty view Shows s acc l seq false (fun _ => (seq, answer)) Refuses (.ok (l, answer) s') :=
  .done none l s' acc (fun wanted => absurd wanted Bool.false_ne_true) shows spells
    (unmoved_updated acc acc seq (unmoved_same acc)) fun _ _ => still

-- A question is a walk, and what it has seen tells the answer, whatever stretch of nodes that was.
def Tells {α : Type} (question : LinkedList → Step σ α) (answer : Sequence → α) : Prop :=
  ∃ (β : Type) (start : β) (visit : β → Handle → Node → ForInStep β) (tell : β → α),
    (∀ l, question l = l.walk start visit >>= fun seen => pure (tell seen)) ∧
      ∀ seq rest, tell (foldRecords visit (records seq rest) start) = answer seq

omit [Journaled σ] in
theorem find_tells (value : UInt16) :
    Tells (σ := σ) (fun l => l.find value) fun seq => (seq.find? fun entry => entry.2 = value).map Prod.fst := by
  refine ⟨_, none, _, fun found : Option (Handle × Node) => found.map fun entry => NodeRef.mk entry.1, fun _ => rfl,
    fun seq rest => ?_⟩
  beta_reduce
  rw [fold_search fun _ node => decide (node.value = value), ← find_records (fun _ v => decide (v = value)) seq rest,
    Option.map_map]
  rfl

omit [Journaled σ] in
theorem value_tells (node : NodeRef) :
    Tells (σ := σ) (fun l => l.value node) fun seq => (seq.find? fun entry => entry.1 = node).map Prod.snd := by
  refine ⟨_, none, _, fun found : Option (Handle × Node) => found.map fun entry => entry.2.value, fun _ => rfl,
    fun seq rest => ?_⟩
  beta_reduce
  rw [fold_search fun h _ => decide (h = node.handle), held_same, ← find_records (holds node) seq rest, Option.map_map]
  rfl

omit [Journaled σ] in
theorem length_tells : Tells (σ := σ) LinkedList.length List.length := by
  refine ⟨Nat, 0, _, id, fun _ => (bind_pure _).symm, fun seq rest => ?_⟩
  rw [fold_length, records_length, Nat.zero_add, id]

omit [Journaled σ] in
theorem values_tells : Tells (σ := σ) LinkedList.values (List.map Prod.snd) := by
  refine ⟨_, [], _, List.reverse, fun _ => rfl, fun seq rest => ?_⟩
  rw [fold_values, record_values, List.reverse_nil, List.nil_append]

omit [Journaled σ] in
theorem entries_tells : Tells (σ := σ) LinkedList.entries id := by
  refine ⟨_, [], _, List.reverse, fun _ => rfl, fun seq rest => ?_⟩
  rw [fold_entries, List.reverse_nil, List.nil_append, id]

omit [Journaled σ] in
theorem take_tells (count : Nat) (more : count ≠ 0) :
    Tells (σ := σ) (fun l => l.take count) fun seq => (seq.map Prod.snd).take count := by
  refine ⟨_, [], _, List.reverse, fun l => if_neg more, fun seq rest => ?_⟩
  rw [fold_take count _ [] (Nat.pos_of_ne_zero more), record_values, List.reverse_nil, List.nil_append,
    List.length_nil, Nat.sub_zero]

omit [Journaled σ] in
theorem range_tells (start stop : Option NodeRef) :
    Tells (σ := σ) (fun l => l.range start stop) fun seq => (stretch start stop seq).map Prod.snd :=
  ⟨_, _, _, fun seen : Bool × List UInt16 => seen.2.reverse, fun _ => rfl, fold_range start stop⟩

theorem tells_spelled {α : Type} (store : NodeStore faulty Roomy view Shows) (question : LinkedList → Step σ α)
    (answer : Sequence → α) (tells : Tells question answer) (s : σ) (acc : Account) (l : LinkedList) (seq : Sequence)
    (shows : Shows s acc) (spells : Spells acc.memory l seq) :
    ∃ s', question l s = .ok (answer seq) s' ∧ Shows s' acc ∧ view s' = view s := by
  obtain ⟨β, start, visit, tell, asked, told⟩ := tells
  obtain ⟨s', walked, shows', still⟩ := walk_spelled store visit start s acc l seq shows spells
  refine ⟨s', ?_, shows', still⟩
  rw [asked, step_bind_ok _ _ s s' _ walked, told]
  rfl

theorem entries_spelled (store : NodeStore faulty Roomy view Shows) (s : σ) (acc : Account) (l : LinkedList) (seq : Sequence)
    (shows : Shows s acc) (spells : Spells acc.memory l seq) : (l.entries.attempt s).1 = .ok seq := by
  obtain ⟨s', ran, _⟩ := tells_spelled store _ _ entries_tells s acc l seq shows spells
  exact congrArg Prod.fst (attempt_ok _ s s' _ ran)

theorem question_cases {α : Type} (store : NodeStore faulty Roomy view Shows) (s : σ) (acc : Account) (l : LinkedList)
    (seq : Sequence) (question : LinkedList → Step σ α) (answer : Sequence → α) (Refuses : α → Prop)
    (shows : Shows s acc) (spells : Spells acc.memory l seq) (tells : Tells question answer) :
    Outcome faulty view Shows s acc l seq false (fun _ => (seq, answer seq)) Refuses
      ((question l >>= fun found => pure (l, found)) s) := by
  obtain ⟨s', answered, shows', still⟩ := tells_spelled store question answer tells s acc l seq shows spells
  rw [step_bind_ok _ _ s s' _ answered]
  exact outcome_answered s s' acc l seq (answer seq) Refuses spells shows' still

omit [Journaled σ] in
theorem first_cases (s : σ) (acc : Account) (l : LinkedList) (seq : Sequence) (shows : Shows s acc)
    (spells : Spells acc.memory l seq) :
    Outcome faulty view Shows s acc l seq false (fun _ => (seq, seq.head?.map Prod.fst)) (fun _ => False) (.ok (l, l.first) s) := by
  rw [first_spelled acc.memory l seq spells]
  exact outcome_answered s s acc l seq l.first _ spells shows rfl

omit [Journaled σ] in
theorem is_empty_cases (s : σ) (acc : Account) (l : LinkedList) (seq : Sequence) (shows : Shows s acc)
    (spells : Spells acc.memory l seq) :
    Outcome faulty view Shows s acc l seq false (fun _ => (seq, seq.isEmpty)) (fun _ => False) (.ok (l, l.isEmpty) s) := by
  rw [is_empty_spelled acc.memory l seq spells]
  exact outcome_answered s s acc l seq l.isEmpty _ spells shows rfl

theorem take_cases (store : NodeStore faulty Roomy view Shows) (s : σ) (acc : Account) (l : LinkedList) (seq : Sequence)
    (count : Nat) (shows : Shows s acc) (spells : Spells acc.memory l seq) :
    Outcome faulty view Shows s acc l seq false (fun _ => (seq, (seq.map Prod.snd).take count)) (fun _ => False)
      ((l.take count >>= fun found => pure (l, found)) s) := by
  by_cases none : count = 0
  · subst none
    exact outcome_answered s s acc l seq [] _ spells shows rfl
  · exact question_cases store s acc l seq _ _ _ shows spells (take_tells count none)

-- A step that begins with making a node goes on with one, or without, and then the memory is what it was.
theorem creation_cases {α : Type} (store : NodeStore faulty Roomy view Shows) (s : σ) (acc : Account) (node : Node)
    (next : Option Handle → Step σ α) (Comes : EStateM.Result Abort σ α → Prop) (shows : Shows s acc) (roomy : Roomy s)
    (halted : ∀ s', Word.greatest < acc.calls + 2 → Comes (.error .overflow s'))
    (without : ∀ s' acc', upcoming s = .ok none ∨ faulty → Shows s' acc' → Unmoved acc acc' → Comes (next none s'))
    (made : ∀ h bytes s', upcoming s = .ok (some h) → acc.memory h = none → h ∉ acc.issued →
      Inscribed (acc.memory.put h (some bytes)) h node →
      Shows s' ⟨acc.memory.put h (some bytes), acc.live + 1, h :: acc.issued, acc.calls + 1⟩ → Comes (next (some h) s')) :
    Comes ((LinkedList.create node >>= next) s) := by
  have cases := create_cases store s acc node shows roomy
  cases created : LinkedList.create node s with
  | error e s' =>
      rw [created] at cases
      cases cases with
      | halted _ full =>
          rw [step_bind_error _ _ s s' _ created]
          exact halted s' full
  | ok h s' =>
      rw [created] at cases
      rw [step_bind_ok _ _ s s' _ created]
      cases cases with
      | refused _ nothing shows' => exact without s' _ (.inl nothing) shows' ⟨rfl, rfl, fun _ member => member, Nat.le_succ _⟩
      | undone h _ fault shows' =>
          exact without s' _ (.inr fault) shows' ⟨rfl, rfl, fun _ member => List.mem_cons_of_mem _ member, Nat.le_refl _⟩
      | made h bytes _ served vacant fresh inscribed shows' => exact made h bytes s' served vacant fresh inscribed shows'

theorem insertion_cases (store : NodeStore faulty Roomy view Shows) (s : σ) (acc : Account) (l : LinkedList)
    (seq before after : Sequence) (value : UInt16) (next : Option Handle → Step σ (LinkedList × Option NodeRef))
    (shows : Shows s acc) (roomy : Roomy s) (spells : Spells acc.memory l seq) (place : seq = before ++ after)
    (without : next none = pure (l, none))
    (along : ∀ h, next (some h) = l.link (records before (firstOf after none)).getLast? h) :
    Outcome faulty view Shows s acc l seq true (fun fresh => placing (some before.length) value fresh seq) (· = none)
      ((LinkedList.create ⟨value, firstOf after none⟩ >>= next) s) := by
  subst place
  refine outcome_judged s acc l _ true true _ _ _ _ (fun fresh => placing_between value fresh before after) rfl ?_
  have unread {p : Prop} (unwanted : true = false) : p := absurd unwanted.symm Bool.false_ne_true
  refine creation_cases store s acc _ next _ shows roomy (fun s' full => .halted s' (by omega)) ?_ ?_
  · intro s' acc' asked shows' unmoved
    rw [without]
    rcases asked with nothing | fault
    · exact .done none l s' acc' (fun _ => nothing) shows' (unmoved.memory ▸ spells) (unmoved_updated _ _ _ unmoved) unread
    · exact .undone none s' acc' fault rfl shows' unmoved
  · intro h bytes s' served vacant fresh inscribed shows'
    have linked := link_cases store s' acc l before after value _ h bytes (fun _ => spells.head)
      (spells_stretches acc.memory l before after spells) vacant fresh inscribed shows'
    rw [along]
    generalize l.link (records before (firstOf after none)).getLast? h s' = result at linked ⊢
    cases linked with
    | halted s'' full => exact .halted s'' (by omega)
    | undone s'' acc' fault shows'' unmoved => exact .undone none s'' acc' fault rfl shows'' unmoved
    | placed l' s'' acc' shows'' spells' updated =>
        exact .done (some ⟨h⟩) l' s'' acc' (fun _ => served) shows'' spells' updated unread

theorem push_back_cases (store : NodeStore faulty Roomy view Shows) (s : σ) (acc : Account) (l : LinkedList)
    (seq : Sequence) (value : UInt16) (shows : Shows s acc) (roomy : Roomy s) (spells : Spells acc.memory l seq) :
    Outcome faulty view Shows s acc l seq true (fun fresh => placing (some seq.length) value fresh seq) (· = none)
      (l.pushBack value s) := by
  obtain ⟨s', walked, shows', still⟩ :=
    walk_spelled store (fun _ h node => .yield (some (h, node))) none s acc l seq shows spells
  rw [fold_last, Option.or_none] at walked
  rw [LinkedList.pushBack, LinkedList.last, step_bind_ok _ _ s s' _ walked]
  refine outcome_walked store s s' acc l seq true _ _ _ shows still ?_
  exact insertion_cases store s' acc l seq seq [] value _ shows' (store.keepsRoom s s' still roomy) spells
    (List.append_nil seq).symm rfl fun _ => rfl

theorem insert_after_cases (store : NodeStore faulty Roomy view Shows) (s : σ) (acc : Account) (l : LinkedList)
    (seq : Sequence) (anchor : NodeRef) (value : UInt16) (shows : Shows s acc) (roomy : Roomy s)
    (spells : Spells acc.memory l seq) :
    Outcome faulty view Shows s acc l seq (indexOf anchor seq).isSome
      (fun fresh => placing ((indexOf anchor seq).map (· + 1)) value fresh seq)
      (· = none) (l.insertAfter anchor value s) := by
  obtain ⟨s', walked, shows', still⟩ := search_spelled store (holds anchor) s acc l seq shows spells
  refine outcome_walked store s s' acc l seq _ _ _ _ shows still ?_
  have walked' : l.search (fun h _ => decide (h = anchor.handle)) s = .ok _ s' := walked
  rw [LinkedList.insertAfter, step_bind_ok _ _ s s' _ walked']
  rcases entry_cases (holds anchor) seq with missed | ⟨before, n, w, after, rfl, missed, hit⟩
  · rw [search_absent (holds anchor) seq none missed, index_absent anchor seq missed]
    exact outcome_answered s' s' acc l seq none _ spells shows' rfl
  · obtain rfl : n = anchor := congrArg NodeRef.mk (of_decide_eq_true hit)
    have length : (some before.length).map (· + 1) = some (before ++ [(n, w)]).length := by
      rw [List.length_append, List.length_singleton, Option.map_some]
    rw [search_found (holds n) before after n w none missed hit, index_found n w before after missed, length]
    refine insertion_cases store s' acc l _ _ after value _ shows' (store.keepsRoom s s' still roomy) spells
      (List.append_cons _ _ _) rfl fun h => ?_
    rw [records_last]

theorem insert_before_cases (store : NodeStore faulty Roomy view Shows) (s : σ) (acc : Account) (l : LinkedList)
    (seq : Sequence) (anchor : NodeRef) (value : UInt16) (shows : Shows s acc) (roomy : Roomy s)
    (spells : Spells acc.memory l seq) :
    Outcome faulty view Shows s acc l seq (indexOf anchor seq).isSome (fun fresh => placing (indexOf anchor seq) value fresh seq)
      (· = none) (l.insertBefore anchor value s) := by
  obtain ⟨s', shows', still, found⟩ := search_link_cases store (holds anchor) s acc l seq shows spells
  refine outcome_walked store s s' acc l seq _ _ _ _ shows still ?_
  rw [LinkedList.insertBefore]
  rcases found with ⟨missed, last, walked⟩ | ⟨before, n, w, after, rfl, missed, hit, walked⟩
  · have walked' : l.searchLink (fun h _ => decide (h = anchor.handle)) s = .ok (last, none) s' := walked
    rw [step_bind_ok _ _ s s' _ walked', index_absent anchor seq missed]
    obtain ⟨noted, same⟩ := store.notes s' acc (.noAnchor value) shows'
    exact outcome_answered s' _ acc l seq none _ spells noted same
  · obtain rfl : n = anchor := congrArg NodeRef.mk (of_decide_eq_true hit)
    have walked' : l.searchLink (fun h _ => decide (h = n.handle)) s = .ok _ s' := walked
    rw [step_bind_ok _ _ s s' _ walked', index_found n w before after missed]
    exact insertion_cases store s' acc l _ before ((n, w) :: after) value _ shows' (store.keepsRoom s s' still roomy)
      spells rfl rfl fun _ => rfl

omit [Journaled σ] in
theorem remove_unlinks (l : LinkedList) (value : UInt16) :
    (l.remove value : Step σ _) = l.searchLink (fun _ node => node.value = value) >>= l.unlink := rfl

theorem removed_updated (acc acc' : Account) (before after : Sequence) (n : NodeRef) (value : UInt16)
    (gone : acc'.memory n.handle = none) (live : acc.live = acc'.live + 1) (issued : acc'.issued = acc.issued)
    (calls : acc'.calls = acc.calls + 1)
    (elsewhere : ∀ h, h ∉ handlesOf (before ++ (n, value) :: after) → acc'.memory h = acc.memory h) :
    Updated acc acc' (before ++ (n, value) :: after) (before ++ after) := by
  have members := between_members before after n value
  refine ⟨fun h outside _ => elsewhere h outside, ?_, ?_, ?_, ?_, by omega⟩
  · intro h inside outside
    rcases (members h).mp inside with rfl | still
    · exact gone
    · exact absurd still outside
  · intro h inside outside
    exact absurd ((members h).mpr (.inr inside)) outside
  · rw [live]
    simp only [List.length_append, List.length_cons]
    omega
  · rw [issued]
    exact fun _ member => member

theorem spells_without (memory : Memory) (l : LinkedList) (before after : Sequence) (n : NodeRef) (value : UInt16)
    (distinct : (handlesOf (before ++ (n, value) :: after)).Nodup) (spells : Spells memory l (before ++ after)) :
    Spells (memory.put n.handle none) l (before ++ after) := by
  have once := ((between_distinct before after n value).mp distinct).1
  exact spells_elsewhere memory _ l _ spells fun h member => put_other memory n.handle h none fun same => once (same ▸ member)

theorem release_cases (store : NodeStore faulty Roomy view Shows) (s s' : σ) (acc : Account) (memory : Memory) (l l' : LinkedList)
    (before after : Sequence) (n : NodeRef) (value : UInt16) (bytes : List UInt8) (shows : Shows s' { acc with memory })
    (distinct : (handlesOf (before ++ (n, value) :: after)).Nodup) (spells : Spells memory l' (before ++ after))
    (held : memory n.handle = some bytes)
    (elsewhere : ∀ h, h ∉ handlesOf (before ++ (n, value) :: after) → memory h = acc.memory h) :
    Outcome faulty view Shows s acc l (before ++ (n, value) :: after) false (fun _ => (before ++ after, true)) (· = false)
      ((BlockAllocator.free (some n.handle) >>= fun _ => pure (l', true)) s') := by
  rcases store.frees s' _ n.handle bytes shows held with ⟨final, gave, full⟩ | ⟨live, final, gave, counted, shows'⟩
  · rw [step_bind_error _ _ s' final _ gave]
    refine .halted final ?_
    simp only at full
    omega
  · rw [step_bind_ok _ _ s' final _ gave]
    have shorter : before ++ after ≠ before ++ (n, value) :: after := fun same => by simpa using congrArg List.length same
    refine .done none l' final _ (fun wanted => absurd wanted Bool.false_ne_true) shows' ?_ ?_ fun _ stays => absurd stays shorter
    · exact spells_without memory l' before after n value distinct spells
    · refine removed_updated acc _ before after n value (put_same memory n.handle none) counted rfl rfl fun h outside => ?_
      have differs : h ≠ n.handle := by
        rintro rfl
        exact outside (by simp)
      exact (put_other memory n.handle h none differs).trans (elsewhere h outside)

theorem unlink_cases (store : NodeStore faulty Roomy view Shows) (s s' : σ) (acc : Account) (l : LinkedList)
    (before after : Sequence) (n : NodeRef) (value : UInt16) (shows : Shows s' acc)
    (spells : Spells acc.memory l (before ++ (n, value) :: after)) :
    Outcome faulty view Shows s acc l (before ++ (n, value) :: after) false (fun _ => (before ++ after, true)) (· = false)
      (l.unlink ((records before (some n.handle)).getLast?, some (n.handle, ⟨value, firstOf after none⟩)) s') := by
  obtain ⟨distinct, ahead, behind⟩ := spells_stretches acc.memory l before _ spells
  obtain ⟨bytes, held, _, _⟩ := behind _ List.mem_cons_self
  have rest : ∀ record ∈ records after none, Inscribed acc.memory record.1 record.2 := fun record member =>
    behind record (List.mem_cons_of_mem _ member)
  rcases List.eq_nil_or_concat' before with rfl | ⟨front, ⟨p, w⟩, rfl⟩
  · rw [records_nil, List.getLast?_nil, LinkedList.unlink]
    have short : Spells acc.memory ⟨firstOf after none⟩ ([] ++ after) := ⟨rfl, (List.nodup_cons.mp distinct).2, rest⟩
    exact release_cases store s s' acc acc.memory l _ [] after n value bytes shows distinct short held fun _ _ => rfl
  · obtain ⟨old, stored, enough, _⟩ := ahead _ (List.mem_of_getLast? (records_last front p w (some n.handle)))
    rw [records_last, LinkedList.unlink]
    rcases store_cases store s' acc p.handle old ⟨w, firstOf after none⟩ shows stored enough with
      ⟨written, s'', wrote, shows', anew⟩ | ⟨fault, s'', lost, shows'⟩
    · rw [step_bind_ok _ _ s' s'' _ wrote]
      have shape : front ++ [(p, w)] ++ after = front ++ (p, w) :: after := (List.append_cons _ _ _).symm
      have head : l.head = firstOf (front ++ (p, w) :: after) none := spells.head.trans (first_ahead front _ after (p, w) none)
      have apart := (between_distinct (front ++ [(p, w)]) after n value).mp distinct
      have relinked := spells_relinked acc.memory l front after p w (some n.handle) written head (shape ▸ apart.2) ahead rest anew
      have differs : n.handle ≠ p.handle := fun same => apart.1 (same ▸ by simp)
      refine release_cases store s s'' acc _ l l _ after n value bytes shows' distinct (shape.symm ▸ relinked)
        ((put_other acc.memory p.handle n.handle _ differs).trans held) fun h outside => ?_
      exact put_other acc.memory p.handle h _ fun same => outside (same ▸ by simp)
    · rw [step_bind_ok _ _ s' s'' _ lost]
      exact .undone false s'' acc fault rfl shows' (unmoved_same acc)

theorem remove_cases (store : NodeStore faulty Roomy view Shows) (s : σ) (acc : Account) (l : LinkedList)
    (seq : Sequence) (value : UInt16) (shows : Shows s acc) (spells : Spells acc.memory l seq) :
    Outcome faulty view Shows s acc l seq false
      (fun _ => (seq.eraseP fun entry => entry.2 = value, seq.any fun entry => entry.2 = value)) (· = false)
        (l.remove value s) := by
  obtain ⟨s', shows', still, found⟩ := search_link_cases store (fun _ v => decide (v = value)) s acc l seq shows spells
  rw [remove_unlinks]
  rcases found with ⟨missed, last, walked⟩ | ⟨before, n, v, after, rfl, missed, hit, walked⟩
  · rw [step_bind_ok _ _ s s' _ walked, erased_absent value seq missed, any_absent value seq missed]
    exact outcome_answered s s' acc l seq false _ spells shows' still
  · rw [step_bind_ok _ _ s s' _ walked, erased_found value before after n v missed hit, any_found value before after n v hit]
    exact unlink_cases store s s' acc l before after n v shows' spells

theorem cleared_updated (acc acc' : Account) (entry : NodeRef × UInt16) (rest : Sequence) (live : Nat)
    (new : entry.1.handle ∉ handlesOf rest) (counted : acc.live = live + 1)
    (updated : Updated { acc with memory := acc.memory.put entry.1.handle none, live, calls := acc.calls + 1 } acc' rest []) :
    Updated acc acc' (entry :: rest) [] := by
  refine ⟨?_, ?_, ?_, ?_, updated.issued, ?_⟩
  · intro h outside nowhere
    rw [handles_of_cons, List.mem_cons, not_or] at outside
    exact (updated.elsewhere h outside.2 nowhere).trans (put_other acc.memory entry.1.handle h none outside.1)
  · intro h inside nowhere
    rcases List.mem_cons.mp inside with rfl | later
    · exact (updated.elsewhere _ new nowhere).trans (put_same acc.memory entry.1.handle none)
    · exact updated.left h later nowhere
  · intro h inside _
    exact absurd inside List.not_mem_nil
  · have rest := updated.live
    simp only [List.length_cons, List.length_nil] at rest ⊢
    omega
  · have rest := updated.calls
    simp only [List.length_cons] at rest ⊢
    omega

theorem release_from_cases (store : NodeStore faulty Roomy view Shows) (limit : Nat) (seq : Sequence) (s : σ)
    (acc : Account) (shows : Shows s acc) (distinct : (handlesOf seq).Nodup)
    (inscribed : ∀ record ∈ records seq none, Inscribed acc.memory record.1 record.2) (short : seq.length ≤ limit) :
    (∃ s', releaseFrom limit (firstOf seq none) s = .error .overflow s' ∧ Word.greatest < acc.calls + seq.length + 2) ∨
    ∃ s' acc', releaseFrom limit (firstOf seq none) s = .ok () s' ∧ Shows s' acc' ∧ Updated acc acc' seq [] ∧
      ([] = seq → view s' = view s) := by
  induction seq generalizing limit s acc with
  | nil =>
      refine .inr ⟨s, acc, ?_, shows, unmoved_updated acc acc [] (unmoved_same acc), fun _ => rfl⟩
      cases limit <;> rfl
  | cons entry rest ih =>
      cases limit with
      | zero => exact absurd short (Nat.not_succ_le_zero _)
      | succ limit =>
          have written := inscribed _ List.mem_cons_self
          obtain ⟨s', loaded, shows', _⟩ :=
            load_inscribed store s acc entry.1.handle ⟨entry.2, firstOf rest none⟩ shows written
          obtain ⟨bytes, held, _⟩ := written
          obtain ⟨new, distinct'⟩ := List.nodup_cons.mp distinct
          rw [first_of_cons, releaseFrom, step_bind_ok _ _ s s' _ loaded]
          rcases store.frees s' acc entry.1.handle bytes shows' held with
            ⟨final, gave, full⟩ | ⟨live, s'', gave, counted, shows''⟩
          · exact .inl ⟨final, step_bind_error _ _ s' final _ gave, by omega⟩
          · rw [step_bind_ok _ _ s' s'' _ gave, Option.bind_some]
            have left := records_elsewhere acc.memory entry.1.handle none rest none new fun record member =>
              inscribed record (List.mem_cons_of_mem _ member)
            rcases ih limit s'' _ shows'' distinct' left (Nat.le_of_succ_le_succ short) with ⟨final, stopped, full⟩ |
              ⟨final, acc', ran, shows''', updated, _⟩
            · refine .inl ⟨final, stopped, ?_⟩
              simp only [List.length_cons] at full ⊢
              omega
            · exact .inr ⟨final, acc', ran, shows''', cleared_updated acc acc' entry rest live new counted updated, nofun⟩

theorem clear_cases (store : NodeStore faulty Roomy view Shows) (s : σ) (acc : Account) (l : LinkedList) (seq : Sequence)
    (shows : Shows s acc) (spells : Spells acc.memory l seq) :
    Outcome faulty view Shows s acc l seq false (fun _ => ([], ())) (fun _ => False) ((l.clear >>= fun l' => pure (l', ())) s) := by
  have bound := distinct_handles_bound (handlesOf seq) spells.distinct
  rw [handlesOf, List.length_map] at bound
  have cases := release_from_cases store walkLimit seq s acc shows spells.distinct spells.inscribed bound
  rw [← spells.head] at cases
  rcases cases with ⟨s', stopped, full⟩ | ⟨s', acc', ran, shows', updated, unused⟩
  · have cleared : l.clear s = .error .overflow s' := step_bind_error _ _ s s' _ stopped
    rw [step_bind_error _ _ s s' _ cleared]
    exact .halted s' full
  · have cleared : l.clear s = .ok {} s' := step_bind_ok _ _ s s' _ ran
    rw [step_bind_ok _ _ s s' _ cleared]
    exact .done none {} s' acc' (fun wanted => absurd wanted Bool.false_ne_true) shows' (spells_nothing acc'.memory) updated
      fun _ stays => unused stays

theorem op_cases (store : NodeStore faulty Roomy view Shows) (op : ListOp) (s : σ) (acc : Account) (l : LinkedList)
    (seq : Sequence) (shows : Shows s acc) (roomy : Roomy s) (spells : Spells acc.memory l seq) :
    Outcome faulty view Shows s acc l seq (op.wants seq) (fun fresh => op.model fresh seq) op.Refuses (op.perform l s) := by
  cases op with
  | pushBack value => exact push_back_cases store s acc l seq value shows roomy spells
  | insertAfter anchor value => exact insert_after_cases store s acc l seq anchor value shows roomy spells
  | insertBefore anchor value => exact insert_before_cases store s acc l seq anchor value shows roomy spells
  | remove value => exact remove_cases store s acc l seq value shows spells
  | clear => exact clear_cases store s acc l seq shows spells
  | find value => exact question_cases store s acc l seq _ _ _ shows spells (find_tells value)
  | valueAt node => exact question_cases store s acc l seq _ _ _ shows spells (value_tells node)
  | length => exact question_cases store s acc l seq _ _ _ shows spells length_tells
  | values => exact question_cases store s acc l seq _ _ _ shows spells values_tells
  | take count => exact take_cases store s acc l seq count shows spells
  | range start stop => exact question_cases store s acc l seq _ _ _ shows spells (range_tells start stop)
  | first => exact first_cases s acc l seq shows spells
  | isEmpty => exact is_empty_cases s acc l seq shows spells

end Operations

end BlockPool
