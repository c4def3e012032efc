import BlockPool.Proofs.ListModel

set_option autoImplicit false

namespace BlockPool

open LinkedList

structure Unmoved (acc acc' : Account) : Prop where
  memory : acc'.memory = acc.memory
  live : acc'.live = acc.live
  issued : ∀ h ∈ acc.issued, h ∈ acc'.issued
  calls : acc'.calls ≤ acc.calls + 2

-- A list that was `seq` has become `seq'`, and nothing else has changed.
structure Updated (acc acc' : Account) (seq seq' : Sequence) : Prop where
  elsewhere : ∀ h, h ∉ handlesOf seq → h ∉ handlesOf seq' → acc'.memory h = acc.memory h
  left : ∀ h ∈ handlesOf seq, h ∉ handlesOf seq' → acc'.memory h = none
  entered : ∀ h ∈ handlesOf seq', h ∉ handlesOf seq → acc.memory h = none ∧ h ∉ acc.issued ∧ h ∈ acc'.issued
  live : acc'.live + seq.length = acc.live + seq'.length
  issued : ∀ h ∈ acc.issued, h ∈ acc'.issued
  calls : acc'.calls ≤ acc.calls + seq.length + 2

theorem unmoved_updated (acc acc' : Account) (seq : Sequence) (unmoved : Unmoved acc acc') : Updated acc acc' seq seq :=
  ⟨fun h _ _ => congrFun unmoved.memory h, fun _ inside outside => absurd inside outside,
    fun _ inside outside => absurd inside outside, congrArg (· + seq.length) unmoved.live, unmoved.issued,
    unmoved.calls.trans (by omega)⟩

theorem unmoved_same (acc : Account) : Unmoved acc acc := ⟨rfl, rfl, fun _ member => member, Nat.le_add_right _ 2⟩

theorem inscribed_elsewhere (memory : Memory) (h k : Handle) (content : Option (List UInt8)) (node : Node) (different : k ≠ h)
    (inscribed : Inscribed memory k node) : Inscribed (memory.put h content) k node := by
  obtain ⟨bytes, held, kept⟩ := inscribed
  exact ⟨bytes, (put_other memory h k content different).trans held, kept⟩

theorem records_elsewhere (memory : Memory) (h : Handle) (content : Option (List UInt8)) (seq : Sequence) (after : Option Handle)
    (apart : h ∉ handlesOf seq) (inscribed : ∀ record ∈ records seq after, Inscribed memory record.1 record.2) :
    ∀ record ∈ records seq after, Inscribed (memory.put h content) record.1 record.2 := by
  intro record member
  have inside : record.1 ∈ handlesOf seq := by
    rw [← records_handles seq after]
    exact List.mem_map_of_mem member
  exact inscribed_elsewhere memory h record.1 content record.2 (fun same => apart (same ▸ inside)) (inscribed record member)

theorem spells_joined (memory : Memory) (l : LinkedList) (a b : Sequence) (head : l.head = firstOf (a ++ b) none)
    (distinct : (handlesOf (a ++ b)).Nodup) (ahead : ∀ record ∈ records a (firstOf b none), Inscribed memory record.1 record.2)
    (behind : ∀ record ∈ records b none, Inscribed memory record.1 record.2) : Spells memory l (a ++ b) := by
  refine ⟨head, distinct, fun record member => ?_⟩
  rw [records_append] at member
  rcases List.mem_append.mp member with first | second
  · exact ahead record first
  · exact behind record second

-- The memory holds two stretches of nodes with no node twice, and the first ends with `link`.
structure Stretches (memory : Memory) (front : Sequence) (link : Option Handle) (back : Sequence) : Prop where
  distinct : (handlesOf (front ++ back)).Nodup
  ahead : ∀ record ∈ records front link, Inscribed memory record.1 record.2
  behind : ∀ record ∈ records back none, Inscribed memory record.1 record.2

theorem spells_stretches (memory : Memory) (l : LinkedList) (a b : Sequence) (spells : Spells memory l (a ++ b)) :
    Stretches memory a (firstOf b none) b := by
  refine ⟨spells.distinct, fun record member => ?_, fun record member => ?_⟩
  · exact spells.inscribed record (by rw [records_append]; exact List.mem_append_left _ member)
  · exact spells.inscribed record (by rw [records_append]; exact List.mem_append_right _ member)

theorem stretches_beside (memory : Memory) (front back : Sequence) (link : Option Handle) (n : NodeRef) (value : UInt16)
    (content : Option (List UInt8)) (stretches : Stretches memory front link back) (vacant : memory n.handle = none) :
    (handlesOf (front ++ (n, value) :: back)).Nodup ∧
      (∀ record ∈ records front link, Inscribed (memory.put n.handle content) record.1 record.2) ∧
      ∀ record ∈ records back none, Inscribed (memory.put n.handle content) record.1 record.2 := by
  have ahead := vacant_unlisted memory front link stretches.ahead n.handle vacant
  have behind := vacant_unlisted memory back none stretches.behind n.handle vacant
  have new : n.handle ∉ handlesOf (front ++ back) := by
    rw [handles_of_append, List.mem_append, not_or]
    exact ⟨ahead, behind⟩
  exact ⟨(between_distinct front back n value).mpr ⟨new, stretches.distinct⟩,
    records_elsewhere memory n.handle content front link ahead stretches.ahead,
    records_elsewhere memory n.handle content back none behind stretches.behind⟩

theorem spells_relinked (memory : Memory) (l : LinkedList) (front rest : Sequence) (p : NodeRef) (w : UInt16) (link : Option Handle)
    (written : List UInt8) (head : l.head = firstOf (front ++ (p, w) :: rest) none)
    (distinct : (handlesOf (front ++ (p, w) :: rest)).Nodup)
    (ahead : ∀ record ∈ records (front ++ [(p, w)]) link, Inscribed memory record.1 record.2)
    (behind : ∀ record ∈ records rest none, Inscribed memory record.1 record.2)
    (anew : Inscribed (memory.put p.handle (some written)) p.handle ⟨w, firstOf rest none⟩) :
    Spells (memory.put p.handle (some written)) l (front ++ (p, w) :: rest) := by
  have apart : p.handle ∉ handlesOf front ∧ p.handle ∉ handlesOf rest := by
    have once := ((between_distinct front rest p w).mp distinct).1
    rwa [handles_of_append, List.mem_append, not_or] at once
  refine spells_joined _ l front ((p, w) :: rest) head distinct ?_ ?_
  · rw [first_of_cons]
    refine records_elsewhere memory p.handle (some written) front (some p.handle) apart.1 fun record member => ahead record ?_
    rw [records_append]
    exact List.mem_append_left _ member
  · intro record member
    rcases List.mem_cons.mp member with rfl | later
    · exact anew
    · exact records_elsewhere memory p.handle (some written) rest none apart.2 behind record later

section Updates

variable {σ γ : Type} [BlockAllocator σ] [Journaled σ] {faulty : Prop} {Roomy : σ → Prop} {view : σ → γ}
  {Shows : σ → Account → Prop}

-- What an operation on a list comes to, against a model of it. If it wants a node, it gets the one that
-- an allocation would have answered; if it wants none and the vector stays as it is, only reads take place.
-- A lost write undoes an update.
inductive Outcome {α : Type} (faulty : Prop) (view : σ → γ) (Shows : σ → Account → Prop) (s : σ)
    (acc : Account) (l : LinkedList) (seq : Sequence) (wants : Bool) (model : Option NodeRef → Sequence × α)
    (Refuses : α → Prop) : EStateM.Result Abort σ (LinkedList × α) → Prop where
  | halted (s' : σ) (full : Word.greatest < acc.calls + seq.length + 2) :
      Outcome faulty view Shows s acc l seq wants model Refuses (.error .overflow s')
  | undone (answer : α) (s' : σ) (acc' : Account) (fault : faulty) (refuses : Refuses answer) (shows : Shows s' acc')
      (unmoved : Unmoved acc acc') : Outcome faulty view Shows s acc l seq wants model Refuses (.ok (l, answer) s')
  | done (fresh : Option NodeRef) (l' : LinkedList) (s' : σ) (acc' : Account)
      (asked : wants = true → upcoming s = .ok (fresh.map NodeRef.handle)) (shows : Shows s' acc')
      (spells : Spells acc'.memory l' (model fresh).1) (updated : Updated acc acc' seq (model fresh).1)
      (read : wants = false → (model fresh).1 = seq → view s' = view s) :
      Outcome faulty view Shows s acc l seq wants model Refuses (.ok (l', (model fresh).2) s')

omit [Journaled σ] in
theorem outcome_judged {α : Type} (s : σ) (acc : Account) (l : LinkedList) (seq : Sequence) (wants wants' : Bool)
    (model model' : Option NodeRef → Sequence × α) (Refuses : α → Prop) (result : EStateM.Result Abort σ (LinkedList × α))
    (same : ∀ fresh, model fresh = model' fresh) (asks : wants = wants')
    (outcome : Outcome faulty view Shows s acc l seq wants' model' Refuses result) :
    Outcome faulty view Shows s acc l seq wants model Refuses result := by
  rw [funext same, asks]
  exact outcome

theorem outcome_walked {α : Type} (store : NodeStore faulty Roomy view Shows) (s s' : σ) (acc : Account)
    (l : LinkedList) (seq : Sequence) (wants : Bool) (model : Option NodeRef → Sequence × α) (Refuses : α → Prop)
    (result : EStateM.Result Abort σ (LinkedList × α)) (shown : Shows s acc) (still : view s' = view s)
    (outcome : Outcome faulty view Shows s' acc l seq wants model Refuses result) :
    Outcome faulty view Shows s acc l seq wants model Refuses result := by
  cases outcome with
  | halted s'' full => exact .halted s'' full
  | undone answer s'' acc' fault refuses shows unmoved => exact .undone answer s'' acc' fault refuses shows unmoved
  | done fresh l' s'' acc' asked shows spells updated read =>
      exact .done fresh l' s'' acc' (fun wanted => (store.foresees s s' acc shown still).symm.trans (asked wanted))
        shows spells updated
        fun unwanted stays => (read unwanted stays).trans still

def inserting (before after : Sequence) (value : UInt16) : Option NodeRef → Sequence × Option NodeRef
  | some n => (before ++ (n, value) :: after, some n)
  | none => (before ++ after, none)

theorem inserted_updated (acc acc' : Account) (before after : Sequence) (n : NodeRef) (value : UInt16)
    (vacant : acc.memory n.handle = none) (fresh : n.handle ∉ acc.issued)
    (issued : acc'.issued = n.handle :: acc.issued) (live : acc'.live = acc.live + 1) (calls : acc'.calls = acc.calls + 1)
    (elsewhere : ∀ h, h ∉ handlesOf (before ++ after) → h ≠ n.handle → acc'.memory h = acc.memory h) :
    Updated acc acc' (before ++ after) (before ++ (n, value) :: after) := by
  have members := between_members before after n value
  refine ⟨?_, ?_, ?_, ?_, ?_, by omega⟩
  · intro h outside outside'
    rw [members, not_or] at outside'
    exact elsewhere h outside outside'.1
  · intro h inside outside
    exact absurd ((members h).mpr (.inr inside)) outside
  · intro h inside outside
    rcases (members h).mp inside with rfl | old
    · exact ⟨vacant, fresh, by rw [issued]; exact List.mem_cons_self⟩
    · exact absurd old outside
  · rw [live]
    simp only [List.length_append, List.length_cons]
    omega
  · intro h member
    rw [issued]
    exact List.mem_cons_of_mem _ member

-- A link that cannot be written costs the new node its block.
theorem attach_cases (store : NodeStore faulty Roomy view Shows) (s : σ) (acc : Account) (prev h : Handle) (node : Node)
    (bytes added : List UInt8) (shows : Shows s acc) (held : acc.memory prev = some bytes)
    (enough : Node.encodedLength ≤ bytes.length) (orphan : acc.memory h = some added) :
    (∃ written s', LinkedList.attach prev node h s = .ok true s' ∧
      Shows s' { acc with memory := acc.memory.put prev (some written) } ∧
      Inscribed (acc.memory.put prev (some written)) prev { node with next := some h }) ∨
    (∃ s', LinkedList.attach prev node h s = .error .overflow s' ∧ Word.greatest ≤ acc.calls) ∨
    (faulty ∧ ∃ live s', LinkedList.attach prev node h s = .ok false s' ∧ acc.live = live + 1 ∧
      Shows s' { acc with memory := acc.memory.put h none, live, calls := acc.calls + 1 }) := by
  rcases store_cases store s acc prev bytes { node with next := some h } shows held enough with
    ⟨written, s', wrote, shows', inscribed⟩ | ⟨fault, s', lost, shows'⟩
  · exact .inl ⟨written, s', step_bind_ok _ _ s s' _ wrote, shows', inscribed⟩
  · rw [LinkedList.attach, step_bind_ok _ _ s s' _ lost]
    simp only [Bool.false_eq_true, if_false]
    rcases store.frees s' acc h added shows' orphan with ⟨final, gave, full⟩ | ⟨live, final, gave, counted, shows''⟩
    · exact .inr (.inl ⟨final, step_bind_error _ _ s' final _ gave, full⟩)
    · exact .inr (.inr ⟨fault, live, final, step_bind_ok _ _ s' final _ gave, counted, shows''⟩)

inductive Linked (faulty : Prop) (Shows : σ → Account → Prop) (acc : Account) (l : LinkedList)
    (before after : Sequence) (n : NodeRef) (value : UInt16) :
    EStateM.Result Abort σ (LinkedList × Option NodeRef) → Prop where
  | halted (s' : σ) (full : Word.greatest < acc.calls + 2) : Linked faulty Shows acc l before after n value (.error .overflow s')
  | undone (s' : σ) (acc' : Account) (fault : faulty) (shows : Shows s' acc') (unmoved : Unmoved acc acc') :
      Linked faulty Shows acc l before after n value (.ok (l, none) s')
  | placed (l' : LinkedList) (s' : σ) (acc' : Account) (shows : Shows s' acc')
      (spells : Spells acc'.memory l' (before ++ (n, value) :: after))
      (updated : Updated acc acc' (before ++ after) (before ++ (n, value) :: after)) :
      Linked faulty Shows acc l before after n value (.ok (l', some n) s')

theorem link_behind_cases (store : NodeStore faulty Roomy view Shows) (s : σ) (acc : Account) (l : LinkedList)
    (front after : Sequence) (p : NodeRef) (w value : UInt16) (link : Option Handle) (h : Handle) (bytes : List UInt8)
    (head : l.head = firstOf (front ++ [(p, w)] ++ after) none)
    (stretches : Stretches acc.memory (front ++ [(p, w)]) link after) (vacant : acc.memory h = none)
    (fresh : h ∉ acc.issued) (inscribed : Inscribed (acc.memory.put h (some bytes)) h ⟨value, firstOf after none⟩)
    (shows : Shows s ⟨acc.memory.put h (some bytes), acc.live + 1, h :: acc.issued, acc.calls + 1⟩) :
    Linked faulty Shows acc l (front ++ [(p, w)]) after ⟨h⟩ value (l.link (some (p.handle, ⟨w, link⟩)) h s) := by
  obtain ⟨distinct, ahead, behind⟩ := stretches_beside acc.memory _ after link ⟨h⟩ value (some bytes) stretches vacant
  obtain ⟨old, held, enough, _⟩ := ahead _ (List.mem_of_getLast? (records_last front p w link))
  rw [LinkedList.link]
  rcases attach_cases store s _ p.handle h ⟨w, link⟩ old bytes shows held enough (put_same acc.memory h _) with
    ⟨written, s', attached, shows', anew⟩ | ⟨s', stopped, full⟩ | ⟨fault, live, s', lost, counted, shows'⟩
  · rw [step_bind_ok _ _ s s' _ attached]
    refine .placed l s' _ shows' ?_ ?_
    · have first : l.head = firstOf (front ++ (p, w) :: (⟨h⟩, value) :: after) none :=
        head.trans (first_ahead front after _ (p, w) none)
      have shape : front ++ [(p, w)] ++ (⟨h⟩, value) :: after = front ++ (p, w) :: (⟨h⟩, value) :: after :=
        (List.append_cons _ _ _).symm
      rw [shape] at distinct ⊢
      refine spells_relinked _ l front _ p w link written first distinct ahead (fun record member => ?_) anew
      rcases List.mem_cons.mp member with rfl | later
      · exact inscribed
      · exact behind record later
    · refine inserted_updated acc _ _ after ⟨h⟩ value vacant fresh rfl rfl rfl fun k outside different => ?_
      have differs : k ≠ p.handle := by
        rintro rfl
        exact outside (by simp)
      exact (put_other _ p.handle k _ differs).trans (put_other acc.memory h k _ different)
  · rw [step_bind_error _ _ s s' _ stopped]
    refine .halted s' ?_
    simp only at full
    omega
  · rw [step_bind_ok _ _ s s' _ lost]
    cases Nat.succ.inj counted
    simp only [put_vacant acc.memory h (some bytes) vacant] at shows'
    exact .undone s' _ fault shows' ⟨rfl, rfl, fun k member => List.mem_cons_of_mem _ member, Nat.le_refl _⟩

-- What the node ahead linked to before does not matter, so the nodes behind the new one may be others.
theorem link_cases (store : NodeStore faulty Roomy view Shows) (s : σ) (acc : Account) (l : LinkedList)
    (before after : Sequence) (value : UInt16) (link : Option Handle) (h : Handle) (bytes : List UInt8)
    (head : before ≠ [] → l.head = firstOf (before ++ after) none)
    (stretches : Stretches acc.memory before link after) (vacant : acc.memory h = none) (fresh : h ∉ acc.issued)
    (inscribed : Inscribed (acc.memory.put h (some bytes)) h ⟨value, firstOf after none⟩)
    (shows : Shows s ⟨acc.memory.put h (some bytes), acc.live + 1, h :: acc.issued, acc.calls + 1⟩) :
    Linked faulty Shows acc l before after ⟨h⟩ value (l.link (records before link).getLast? h s) := by
  rcases List.eq_nil_or_concat' before with rfl | ⟨front, ⟨p, w⟩, rfl⟩
  · obtain ⟨distinct, _, behind⟩ := stretches_beside acc.memory [] after link ⟨h⟩ value (some bytes) stretches vacant
    refine .placed ⟨some h⟩ s _ shows ⟨rfl, distinct, fun record member => ?_⟩ ?_
    · rcases List.mem_cons.mp member with rfl | later
      · exact inscribed
      · exact behind record later
    · exact inserted_updated acc _ [] after ⟨h⟩ value vacant fresh rfl rfl rfl fun k _ different =>
        put_other acc.memory h k _ different
  · rw [records_last]
    exact link_behind_cases store s acc l front after p w value link h bytes (head (by simp)) stretches vacant fresh inscribed shows

end Updates

end BlockPool
