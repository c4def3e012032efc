import BlockPool.Proofs.HandleCheck

set_option autoImplicit false

namespace BlockPool

open Registry

inductive Damage where
  | offset (value : Nat)
  | size (value : Nat)
  | free (value : Bool)
  | prev (value : Option BlockId)
  | next (value : Option BlockId)
deriving DecidableEq, Repr

def Header.damaged (h : Header) : Damage → Header
  | .offset offset => { h with offset }
  | .size size => { h with size }
  | .free free => { h with free }
  | .prev prev => { h with prev }
  | .next next => { h with next }

def Registry.damaged (r : Registry) (id : BlockId) (damage : Damage) : Registry :=
  { r with headers := r.headers.modify id fun h => h.damaged damage }

def Heap.damaged (heap : Heap) (id : BlockId) (damage : Damage) : Heap :=
  { heap with registry := heap.registry.damaged id damage }

-- Every link back is answered by a link on, whether or not it is on the chain.
def Backed (r : Registry) : Prop :=
  ∀ (id second : BlockId) (h : Header), r.headers[second]? = some h → h.prev = some id →
    ∃ first, r.headers[id]? = some first ∧ first.next = some second

structure Around (r : Registry) (before : List (BlockId × Header)) (block : BlockId × Header) (after : List (BlockId × Header))
    (patrol : Patrol) : Prop where
  reached : (before.foldlM r.inspect {}).run = .ok (.ok patrol)
  linked : patrol.linked = before.length
  admits : Admits r patrol block
  joined : (block :: after).IsChain (Adjoins r)
  ends : r.stop (after.getLastD block) = r.capacity
  counted : before.length + 1 + after.length + r.vacant.length = r.headers.size

@[simp] theorem damaged_size (r : Registry) (id : BlockId) (damage : Damage) :
    (r.damaged id damage).headers.size = r.headers.size :=
  Array.size_modify

theorem damaged_read (r : Registry) (id other : BlockId) (damage : Damage) :
    (r.damaged id damage).headers[other]? =
      if id = other then r.headers[other]?.map fun h => h.damaged damage else r.headers[other]? :=
  Array.getElem?_modify

theorem damaged_here (r : Registry) (id : BlockId) (damage : Damage) (h : Header) (read : r.headers[id]? = some h) :
    (r.damaged id damage).headers[id]? = some (h.damaged damage) := by
  rw [damaged_read, if_pos rfl, read, Option.map_some]

theorem damaged_elsewhere (r : Registry) (id other : BlockId) (damage : Damage) (different : id ≠ other) :
    (r.damaged id damage).headers[other]? = r.headers[other]? := by
  rw [damaged_read, if_neg different]

theorem damaged_found (r : Registry) (id other : BlockId) (damage : Damage) (found : Header)
    (read : (r.damaged id damage).headers[other]? = some found) :
    ∃ h, r.headers[other]? = some h ∧ (found = h ∨ found = h.damaged damage) := by
  rw [damaged_read] at read
  split at read
  · obtain ⟨h, before, rfl⟩ := Option.map_eq_some_iff.mp read
    exact ⟨h, before, .inr rfl⟩
  · exact ⟨found, read, .inl rfl⟩

theorem inspect_damaged (r : Registry) (id : BlockId) (damage : Damage) : (r.damaged id damage).inspect = r.inspect := by
  funext patrol block
  simp only [Registry.inspect, Registry.damaged, Array.size_modify]

-- The walk comes to the damaged header as before and goes on from there along the link it finds.
theorem follow_damaged (r : Registry) (cursor : Option BlockId) (before after : List (BlockId × Header)) (id : BlockId)
    (h : Header) (damage : Damage) (more : Nat) (walk : Walk r.headers cursor (before ++ (id, h) :: after)) :
    Chain.follow (r.damaged id damage).headers (before.length + (more + 1)) cursor =
      ⟨before ++ (id, h.damaged damage) :: (Chain.follow (r.damaged id damage).headers more (h.damaged damage).next).blocks,
        (Chain.follow (r.damaged id damage).headers more (h.damaged damage).next).ending⟩ := by
  induction before generalizing cursor with
  | nil =>
      cases walk with
      | meets _ _ _ read _ =>
          rw [List.length_nil, Nat.zero_add]
          simp only [Chain.follow, damaged_here r id damage h read, List.nil_append]
  | cons first rest ih =>
      have distinct := walk_distinct _ _ _ walk
      cases walk with
      | meets other first _ read walk =>
          have different : id ≠ other := by
            rintro rfl
            simp at distinct
          have later := ih first.next walk
          rw [List.length_cons, Nat.add_right_comm]
          simp only [Chain.follow, damaged_elsewhere r id other damage different, read, later, List.cons_append]

theorem chain_damaged (r : Registry) (before after : List (BlockId × Header)) (id : BlockId) (h : Header)
    (damage : Damage) (more : Nat) (walk : Walk r.headers (some 0) (before ++ (id, h) :: after))
    (enough : before.length + more = r.headers.size) :
    (r.damaged id damage).chain =
      ⟨before ++ (id, h.damaged damage) :: (Chain.follow (r.damaged id damage).headers more (h.damaged damage).next).blocks,
        (Chain.follow (r.damaged id damage).headers more (h.damaged damage).next).ending⟩ := by
  rw [← follow_damaged r (some 0) before after id h damage more walk, Registry.chain, damaged_size, ← enough, Nat.add_assoc]

theorem patrol_linked (r : Registry) (blocks : List (BlockId × Header)) (patrol final : Patrol)
    (walked : (blocks.foldlM r.inspect patrol).run = .ok (.ok final)) : final.linked = patrol.linked + blocks.length := by
  induction blocks generalizing patrol with
  | nil =>
      cases walked
      rfl
  | cons block rest ih =>
      rw [List.foldlM_cons] at walked
      obtain ⟨next, seen, later⟩ := check_bind_passed _ _ _ walked
      obtain ⟨admits, word⟩ := inspect_passed r patrol next block seen
      cases seen.symm.trans (inspect_admitted r patrol block admits word)
      rw [ih _ later, List.length_cons, Nat.add_comm rest.length, ← Nat.add_assoc]
      rfl

theorem check_around (r : Registry) (before after : List (BlockId × Header)) (block : BlockId × Header)
    (passed : r.check.run = .ok (.ok ())) (met : r.chain.blocks = before ++ block :: after) :
    ∃ patrol, Around r before block after patrol := by
  obtain ⟨final, walked, _, settled⟩ := check_walks r passed
  rw [met, List.foldlM_append] at walked
  obtain ⟨patrol, reached, walked⟩ := check_bind_passed _ _ _ walked
  obtain ⟨next, seen, walked⟩ := check_bind_passed _ _ _ walked
  obtain ⟨admits, word⟩ := inspect_passed r patrol next block seen
  cases seen.symm.trans (inspect_admitted r patrol block admits word)
  have linked : patrol.linked = before.length := (patrol_linked r before {} patrol reached).trans (Nat.zero_add _)
  obtain ⟨_, joined, rfl⟩ := (patrol_iff r (patrol.linked + 1) block after final admits.room).mp walked
  obtain ⟨ends, counted⟩ := (verdict_ok r _ _).mp settled
  exact ⟨patrol, reached, linked, admits, joined, ends, linked ▸ counted⟩

theorem check_walk (r : Registry) (passed : r.check.run = .ok (.ok ())) : Walk r.headers (some 0) r.chain.blocks := by
  obtain ⟨_, _, complete, _⟩ := check_walks r passed
  exact walk_followed r.headers (some 0) _ complete

-- What has to lie behind a block, with so many ahead of it, for the check to find nothing wrong with it.
def Behind (r : Registry) (place : Nat) (block : BlockId × Header) : Prop :=
  match block.2.next with
  | none => r.stop block = r.capacity ∧ place + 1 + r.vacant.length = r.headers.size
  | some second => ∃ h, r.headers[second]? = some h ∧ Adjoins r block (second, h)

theorem around_behind (r : Registry) (before after : List (BlockId × Header)) (id : BlockId) (h : Header) (patrol : Patrol)
    (walk : Walk r.headers (some 0) (before ++ (id, h) :: after)) (around : Around r before (id, h) after patrol) :
    r.headers[id]? = some h ∧ (h.next = none ↔ after = []) ∧ Behind r before.length (id, h) := by
  obtain ⟨_, _, _, joined, ends, counted⟩ := around
  unfold Behind
  cases walk_suffix _ _ before after (id, h) walk with
  | meets _ _ _ read walk =>
      simp only
      generalize next : h.next = cursor at walk
      cases walk with
      | ends => exact ⟨read, by simp, ends, by simpa using counted⟩
      | meets second found rest met _ => exact ⟨read, by simp, found, met, (List.isChain_cons_cons.mp joined).1⟩

theorem inspect_objects (r : Registry) (patrol : Patrol) (block : BlockId × Header) (objects : ¬ Admits r patrol block) :
    ∃ violation, (r.inspect patrol block).run = .ok (.error violation) := by
  cases objection : r.objection patrol block with
  | none => exact absurd ((objection_none r patrol block).mp objection) objects
  | some violation => exact ⟨violation, by rw [inspect_eq, objection]⟩

theorem check_stops (r : Registry) (before rest : List (BlockId × Header)) (block : BlockId × Header) (patrol : Patrol)
    (met : r.chain.blocks = before ++ block :: rest) (reached : (before.foldlM r.inspect {}).run = .ok (.ok patrol))
    (objects : ¬ Admits r patrol block) : ∃ violation, r.check.run = .ok (.error violation) := by
  obtain ⟨violation, seen⟩ := inspect_objects r patrol block objects
  refine ⟨violation, check_bind_error _ _ violation ?_⟩
  rw [met, List.foldlM_append]
  exact (check_bind_ok _ _ patrol reached).trans (check_bind_error _ _ violation seen)

theorem damage_refused (r : Registry) (before after : List (BlockId × Header)) (id : BlockId) (h : Header)
    (damage : Damage) (patrol : Patrol) (walk : Walk r.headers (some 0) (before ++ (id, h) :: after))
    (around : Around r before (id, h) after patrol) (objects : ¬ Admits r patrol (id, h.damaged damage)) :
    ∃ violation, (r.damaged id damage).check.run = .ok (.error violation) := by
  have counted := around.counted
  have chain := chain_damaged r before after id h damage (r.headers.size - before.length) walk (by omega)
  refine check_stops _ before _ (id, h.damaged damage) patrol (by rw [chain]) ?_ fun admits => objects ?_
  · rw [inspect_damaged]
    exact around.reached
  · exact ⟨damaged_size r id damage ▸ admits.room, admits.offset, admits.prev, admits.apart⟩

theorem damage_let_pass (r : Registry) (before after : List (BlockId × Header)) (id : BlockId) (h : Header) (damage : Damage)
    (patrol : Patrol) (walk : Walk r.headers (some 0) (before ++ (id, h) :: after)) (around : Around r before (id, h) after patrol)
    (admits : Admits r patrol (id, h.damaged damage)) (word : r.stop (id, h.damaged damage) < Word.bound)
    (inside : ∀ target ∈ (h.damaged damage).next, target < r.headers.size)
    (stray : ¬ Behind (r.damaged id damage) before.length (id, h.damaged damage)) :
    ∃ violation, (r.damaged id damage).check.run = .ok (.error violation) := by
  have counted := around.counted
  obtain ⟨more, enough⟩ : ∃ more, before.length + (more + 1) = r.headers.size :=
    ⟨r.headers.size - before.length - 1, by omega⟩
  have chain := chain_damaged r before after id h damage (more + 1) walk enough
  have reached : ((before ++ [(id, h.damaged damage)]).foldlM r.inspect {}).run =
      .ok (.ok (r.passed (before.length + 1) (id, h.damaged damage))) := by
    rw [List.foldlM_append]
    refine (check_bind_ok _ _ patrol around.reached).trans ?_
    refine (check_bind_ok _ _ _ (inspect_admitted r patrol _ admits word)).trans ?_
    rw [around.linked]
    rfl
  rw [← inspect_damaged r id damage] at reached
  unfold Behind at stray
  cases next : (h.damaged damage).next with
  | none =>
      simp only [next, Chain.follow] at chain stray
      have settled := check_settles (r.damaged id damage) _ (by rw [chain]; exact reached) fun _ _ => by rw [chain]
      cases verdict : (r.damaged id damage).verdict ((r.damaged id damage).passed (before.length + 1) (id, h.damaged damage)) with
      | error violation => exact ⟨violation, settled.trans (congrArg Except.ok verdict)⟩
      | ok _ => exact absurd ((verdict_ok _ _ _).mp verdict) stray
  | some second =>
      obtain ⟨found, read⟩ : ∃ found, (r.damaged id damage).headers[second]? = some found :=
        ⟨_, Array.getElem?_eq_getElem (by rw [damaged_size]; exact inside second next)⟩
      simp only [next, Chain.follow, read] at chain stray
      refine check_stops _ (before ++ [(id, h.damaged damage)]) _ (second, found) _ (by rw [chain, List.append_cons])
        reached fun admits => ?_
      exact stray ⟨found, rfl, ((admits_next _ _ _ _).mp admits).2⟩

theorem damaged_offset_seen (r : Registry) (before after : List (BlockId × Header)) (id : BlockId) (h : Header) (offset : Nat)
    (patrol : Patrol) (walk : Walk r.headers (some 0) (before ++ (id, h) :: after)) (around : Around r before (id, h) after patrol)
    (changed : offset ≠ h.offset) : ∃ violation, (r.damaged id (.offset offset)).check.run = .ok (.error violation) :=
  damage_refused r before after id h (.offset offset) patrol walk around fun admits =>
    changed (admits.offset.trans around.admits.offset.symm)

theorem damaged_prev_seen (r : Registry) (before after : List (BlockId × Header)) (id : BlockId) (h : Header)
    (prev : Option BlockId) (patrol : Patrol) (walk : Walk r.headers (some 0) (before ++ (id, h) :: after))
    (around : Around r before (id, h) after patrol) (changed : prev ≠ h.prev) :
    ∃ violation, (r.damaged id (.prev prev)).check.run = .ok (.error violation) :=
  damage_refused r before after id h (.prev prev) patrol walk around fun admits =>
    changed (admits.prev.trans around.admits.prev.symm)

theorem damaged_size_seen (r : Registry) (before after : List (BlockId × Header)) (id : BlockId) (h : Header) (size : Nat)
    (patrol : Patrol) (walk : Walk r.headers (some 0) (before ++ (id, h) :: after)) (around : Around r before (id, h) after patrol)
    (word : h.offset + r.headerOverhead + size < Word.bound) (inside : ∀ target ∈ h.next, target < r.headers.size)
    (changed : size ≠ h.size) : ∃ violation, (r.damaged id (.size size)).check.run = .ok (.error violation) := by
  refine damage_let_pass r before after id h (.size size) patrol walk around
    ⟨around.admits.room, around.admits.offset, around.admits.prev, around.admits.apart⟩ word inside fun behind => changed ?_
  obtain ⟨_, _, intact⟩ := around_behind r before after id h patrol walk around
  have same : r.stop (id, { h with size }) = r.stop (id, h) := by
    unfold Behind at behind intact
    simp only [Header.damaged] at behind
    cases next : h.next with
    | none =>
        simp only [next] at behind intact
        exact behind.1.trans intact.1.symm
    | some second =>
        simp only [next] at behind intact
        obtain ⟨found, read, adjoins⟩ := behind
        obtain ⟨first, read', adjoins'⟩ := intact
        obtain ⟨_, known, rfl | rfl⟩ := damaged_found r id second _ found read
        all_goals
          cases known.symm.trans read'
          exact adjoins.offset.symm.trans adjoins'.offset
  simp only [Registry.stop] at same
  omega

-- The new link may lead to a block of the chain, to a vacant header or back to the block itself: none of them links back.
theorem damaged_next_seen (r : Registry) (before after : List (BlockId × Header)) (id : BlockId) (h : Header)
    (next : Option BlockId) (patrol : Patrol) (walk : Walk r.headers (some 0) (before ++ (id, h) :: after))
    (around : Around r before (id, h) after patrol) (backed : Backed r) (word : r.stop (id, h) < Word.bound)
    (inside : ∀ target ∈ next, target < r.headers.size) (changed : next ≠ h.next) :
    ∃ violation, (r.damaged id (.next next)).check.run = .ok (.error violation) := by
  refine damage_let_pass r before after id h (.next next) patrol walk around
    ⟨around.admits.room, around.admits.offset, around.admits.prev, around.admits.apart⟩ word inside fun behind => changed ?_
  obtain ⟨here, last, _⟩ := around_behind r before after id h patrol walk around
  unfold Behind at behind
  simp only [Header.damaged] at behind
  cases next with
  | none =>
      have counted := around.counted
      have alone : after = [] := List.length_eq_zero_iff.mp (by
        have placed := behind.2
        rw [damaged_size] at placed
        simp only [Registry.damaged] at placed
        omega)
      exact (last.mpr alone).symm
  | some second =>
      obtain ⟨found, read, adjoins⟩ := behind
      obtain ⟨first, read', back⟩ : ∃ first, r.headers[id]? = some first ∧ first.next = some second := by
        obtain ⟨_, known, rfl | rfl⟩ := damaged_found r id second _ found read
        all_goals exact backed id second _ known adjoins.prev
      cases here.symm.trans read'
      exact back.symm

theorem charted_backed (config : PoolConfig) (r : Registry) (blocks : List LinkedSpan) (charted : Charted config r blocks) :
    Backed r := by
  intro id second h read back
  have behind : r.predecessor second = some id := by rw [Registry.predecessor, read, Option.bind_some, back]
  exact Option.bind_eq_some_iff.mp ((charted_inverse config r blocks charted id second).mpr behind)

theorem entries_inside (overhead : Nat) (prev after : Option BlockId) (offset : Nat) (blocks : List LinkedSpan) :
    ∀ entry ∈ entries overhead prev offset blocks after,
      entry.2.offset + overhead + entry.2.size ≤ offset + extent overhead (spansOf blocks) := by
  induction blocks generalizing prev offset with
  | nil => exact fun entry absent => absurd absent List.not_mem_nil
  | cons block rest ih =>
      obtain ⟨id, span⟩ := block
      simp only [entries, spans_of_cons, extent_cons, List.forall_mem_cons]
      refine ⟨by omega, fun entry member => ?_⟩
      have later := ih (some id) (offset + (overhead + span.size)) entry member
      omega

theorem charted_words (config : PoolConfig) (geometry : Geometry config) (r : Registry) (blocks : List LinkedSpan)
    (charted : Charted config r blocks) : ∀ block ∈ r.chain.blocks, r.stop block < Word.bound := by
  intro block member
  rw [charted_chain config r blocks charted] at member
  have inside := entries_inside config.headerOverhead none none 0 blocks block member
  have word := capacity_word config geometry
  rw [charted.covers] at inside
  rw [Registry.stop, charted.overhead]
  omega

theorem patrol_answers (r : Registry) (blocks : List (BlockId × Header)) (patrol : Patrol)
    (words : ∀ block ∈ blocks, r.stop block < Word.bound) : ∃ result, (blocks.foldlM r.inspect patrol).run = .ok result := by
  induction blocks generalizing patrol with
  | nil => exact ⟨_, rfl⟩
  | cons block rest ih =>
      obtain ⟨word, words⟩ := List.forall_mem_cons.mp words
      obtain ⟨result, seen⟩ := inspect_answers r patrol block word
      rw [List.foldlM_cons]
      cases result with
      | error violation => exact ⟨_, check_bind_error _ _ violation seen⟩
      | ok next =>
          obtain ⟨result, walked⟩ := ih next words
          exact ⟨result, (check_bind_ok _ _ next seen).trans walked⟩

theorem charted_check (config : PoolConfig) (geometry : Geometry config) (r : Registry) (blocks : List LinkedSpan)
    (charted : Charted config r blocks) : ∃ result, r.check.run = .ok result := by
  obtain ⟨result, walked⟩ := patrol_answers r r.chain.blocks {} (charted_words config geometry r blocks charted)
  exact ⟨_, check_settles r result walked fun _ _ => by rw [charted_chain config r blocks charted]⟩

theorem charted_entry (config : PoolConfig) (r : Registry) (blocks : List LinkedSpan) (id : BlockId) (h : Header)
    (charted : Charted config r blocks) (met : (id, h) ∈ r.chain.blocks) :
    ∃ before after, blocks = before ++ (id, ⟨h.size, h.free⟩) :: after := by
  rw [charted_chain config r blocks charted] at met
  have member := List.mem_map_of_mem (f := linkedSpan) met
  rw [entries_blocks] at member
  exact List.append_of_mem member

theorem heap_check_refused (heap : Heap) (refused : ∃ violation, heap.registry.check.run = .ok (.error violation)) :
    ∃ violation, heap.check.run = .ok (.error violation) := by
  obtain ⟨violation, seen⟩ := refused
  exact ⟨violation, check_bind_error _ _ violation seen⟩

theorem heap_check_miscounted (heap : Heap) (usage : PoolUsage) (passed : heap.registry.check.run = .ok (.ok ()))
    (told : heap.registry.usage = .ok usage) (miscounted : usage.allocatedBlockCount ≠ heap.handles.live) :
    ∃ violation, heap.check.run = .ok (.error violation) := by
  unfold Heap.check
  rw [check_bind_ok _ _ () passed, told, check_lift_bind]
  by_cases arena : heap.arena.capacity ≠ usage.capacity
  · rw [if_pos arena]
    exact ⟨_, rfl⟩
  · rw [if_neg arena, if_pos miscounted]
    exact ⟨_, rfl⟩

theorem flipped_used (before after : List LinkedSpan) (id : BlockId) (size : Nat) (old new : Bool) (changed : new ≠ old) :
    (usedSizes (spansOf (before ++ (id, ⟨size, new⟩) :: after))).length ≠
      (usedSizes (spansOf (before ++ (id, ⟨size, old⟩) :: after))).length := by
  cases Bool.eq_not_of_ne changed
  cases old <;> simp [usedSizes]

-- Beside a free neighbour the flag is seen at once, and otherwise there is one used block too few or too many.
theorem damaged_free_seen (config : PoolConfig) (geometry : Geometry config) (heap : Heap) (blocks : List LinkedSpan)
    (id : BlockId) (h : Header) (free : Bool) (sound : Sound config heap blocks)
    (met : (id, h) ∈ heap.registry.chain.blocks) (changed : free ≠ h.free) :
    ∃ violation, (heap.damaged id (.free free)).check.run = .ok (.error violation) := by
  obtain ⟨before, after, rfl⟩ := charted_entry config heap.registry blocks id h sound.registry.charted met
  have bound := charted_inside config heap.registry _ sound.registry.charted id (by simp)
  obtain ⟨next, marked, charted, size, _⟩ :=
    mark_charted config heap.registry before after id h.size h.free free sound.registry.charted
  cases (adjust_run heap.registry id _ bound).symm.trans marked
  obtain ⟨result, checked⟩ := charted_check config geometry _ _ charted
  cases result with
  | error violation => exact heap_check_refused (heap.damaged id (.free free)) ⟨violation, checked⟩
  | ok _ =>
      have few := settled_few config geometry heap.registry _ sound.registry
      have usage := charted_usage config geometry _ _ charted (size ▸ few)
      have live := live_used config heap _ sound
      exact heap_check_miscounted (heap.damaged id (.free free)) _ checked usage fun same =>
        flipped_used before after id h.size h.free free changed ((Nat.zero_add _).symm.trans (same.trans live))

theorem damage_seen (config : PoolConfig) (geometry : Geometry config) (heap : Heap) (blocks : List LinkedSpan) (id : BlockId)
    (h : Header) (damage : Damage) (sound : Sound config heap blocks) (met : (id, h) ∈ heap.registry.chain.blocks)
    (changed : h.damaged damage ≠ h) (inside : ∀ target ∈ (h.damaged damage).next, target < heap.registry.headers.size)
    (word : heap.registry.stop (id, h.damaged damage) < Word.bound) :
    ∃ violation, (heap.damaged id damage).check.run = .ok (.error violation) := by
  have charted := sound.registry.charted
  have passed : heap.registry.check.run = .ok (.ok ()) := by
    rw [registry_check_ok config geometry heap.registry blocks sound.registry]
    rfl
  have walk := check_walk heap.registry passed
  obtain ⟨before, after, split⟩ := List.append_of_mem met
  obtain ⟨patrol, around⟩ := check_around heap.registry before after (id, h) passed split
  rw [split] at walk
  cases damage with
  | offset offset =>
      refine heap_check_refused _ (damaged_offset_seen _ before after id h offset patrol walk around ?_)
      exact fun same => changed (by rw [Header.damaged, same])
  | size size =>
      refine heap_check_refused _ (damaged_size_seen _ before after id h size patrol walk around word inside ?_)
      exact fun same => changed (by rw [Header.damaged, same])
  | free free =>
      refine damaged_free_seen config geometry heap blocks id h free sound met ?_
      exact fun same => changed (by rw [Header.damaged, same])
  | prev prev =>
      refine heap_check_refused _ (damaged_prev_seen _ before after id h prev patrol walk around ?_)
      exact fun same => changed (by rw [Header.damaged, same])
  | next next =>
      have backed := charted_backed config heap.registry blocks charted
      refine heap_check_refused _ (damaged_next_seen _ before after id h next patrol walk around backed word inside ?_)
      exact fun same => changed (by rw [Header.damaged, same])

theorem reached_damage_seen {α : Type} (config : PoolConfig) (valid : config.Valid) (counter : PoolCounter) :
    ∃ pool next, Pool.init config counter = .ok (.ok pool) next ∧
      ∀ (requests : List (PoolRequest α)) (heap : Heap), (afterRequests requests pool).heap = some heap →
        ∀ (id : BlockId) (h : Header) (damage : Damage), (id, h) ∈ heap.registry.chain.blocks → h.damaged damage ≠ h →
          (∀ target ∈ (h.damaged damage).next, target < heap.registry.headers.size) →
          heap.registry.stop (id, h.damaged damage) < Word.bound →
          ∃ violation, (heap.damaged id damage).check.run = .ok (.error violation) := by
  have geometry := valid_geometry config valid
  obtain ⟨pool, next, made, reached⟩ := @init_reaches α config valid counter
  refine ⟨pool, next, made, fun requests heap opened id h damage met changed inside word => ?_⟩
  obtain ⟨⟨blocks, sound⟩, _⟩ := reached requests heap opened
  exact damage_seen config geometry heap blocks id h damage sound met changed inside word

-- Two blocks have merged; the link of the one that is left is led to the header the other one gave up.
theorem reached_damage_seen_retired :
    (PoolConfig.mk 200 16 8 .firstFit false).Valid ∧
      ∃ pool next heap, Pool.init (PoolConfig.mk 200 16 8 .firstFit false) ⟨3⟩ = .ok (.ok pool) next ∧
        (afterRequests ([.act (.alloc 8), .act (.alloc 8), .act (.alloc 8), .act (.free (some ⟨⟨3⟩, 0, 0⟩)),
          .act (.free (some ⟨⟨3⟩, 1, 0⟩))] : List (PoolRequest Unit)) pool).heap = some heap ∧
        (0, ⟨0, 32, true, none, some 2⟩) ∈ heap.registry.chain.blocks ∧
        ∃ violation, (heap.damaged 0 (.next (some 1))).check.run = .ok (.error violation) := by
  have valid : (PoolConfig.mk 200 16 8 .firstFit false).Valid := by rfl
  obtain ⟨pool, next, made, seen⟩ := @reached_damage_seen Unit (PoolConfig.mk 200 16 8 .firstFit false) valid ⟨3⟩
  generalize sofar : ([.act (.alloc 8), .act (.alloc 8), .act (.alloc 8), .act (.free (some ⟨⟨3⟩, 0, 0⟩)),
    .act (.free (some ⟨⟨3⟩, 1, 0⟩))] : List (PoolRequest Unit)) = requests
  cases opened : (afterRequests requests pool).heap with
  | none =>
      cases made
      cases sofar
      cases opened
  | some heap =>
      have merged : (0, ⟨0, 32, true, none, some 2⟩) ∈ heap.registry.chain.blocks ∧ 1 < heap.registry.headers.size ∧
          heap.registry.stop (0, ⟨0, 32, true, none, some 1⟩) < Word.bound := by
        cases made
        cases sofar
        cases opened
        decide
      obtain ⟨met, inside, word⟩ := merged
      refine ⟨valid, pool, next, heap, made, opened, met, seen requests heap opened 0 _ (.next (some 1)) met
        (by decide) ?_ word⟩
      exact fun target member => Option.mem_some_iff.mp member ▸ inside

end BlockPool
