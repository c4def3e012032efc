import BlockPool.HandleTable
import BlockPool.Proofs.Steps

set_option autoImplicit false

namespace BlockPool

open HandleTable

theorem get_some_iff (t : HandleTable) (h : Handle) (block : BlockId) :
    t.get? h = some block ↔ h.pool = t.pool ∧ t.slots[h.slot.toNat]? = some ⟨h.generation, some block⟩ := by
  unfold HandleTable.get? HandleTable.slot?
  by_cases own : h.pool = t.pool
  · rw [if_pos own]
    cases read : t.slots[h.slot.toNat]? with
    | none => simp
    | some slot =>
        obtain ⟨generation, content⟩ := slot
        by_cases current : generation = h.generation
        · simp [Option.filter, current, own]
        · simp [Option.filter, current]
  · simp [own]

theorem resolving_slot (t : HandleTable) (h k : Handle) (a b : BlockId) (first : t.get? h = some a) (second : t.get? k = some b)
    (same : h.slot = k.slot) : h = k := by
  obtain ⟨own, read⟩ := (get_some_iff t h a).mp first
  obtain ⟨own', read'⟩ := (get_some_iff t k b).mp second
  rw [same, read'] at read
  obtain ⟨pool, slot, generation⟩ := h
  obtain ⟨pool', slot', generation'⟩ := k
  simp only [Option.some.injEq, Slot.mk.injEq] at read
  simp only at own own' same
  rw [own, own', same, read.1]

theorem insert_recycled (t : HandleTable) (index : UInt32) (rest : List UInt32) (generation : UInt32) (block : BlockId)
    (few : t.live + 1 < Word.bound) (vacated : t.vacated = index :: rest)
    (read : t.slots[index.toNat]? = some ⟨generation, none⟩) :
    HandleTable.insert block t = .ok ⟨t.pool, index, generation⟩
      ⟨t.pool, t.slots.setIfInBounds index.toNat ⟨generation, some block⟩, rest, t.live + 1⟩ := by
  obtain ⟨pool, slots, _, live⟩ := t
  cases vacated
  unfold HandleTable.insert
  rw [step_get_bind, word_add_ok live 1 few, step_lift_bind]
  have found : HandleTable.slotAt ⟨pool, slots, rest, live + 1⟩ index = .ok ⟨generation, none⟩ := by
    simp only [HandleTable.slotAt]
    rw [show slots[index.toNat]? = some ⟨generation, none⟩ from read]
  change (Step.query (fun t => t.slotAt index) >>= _) (HandleTable.mk pool slots rest (live + 1)) = _
  rw [query_bind (fun t : HandleTable => t.slotAt index) _ _ _ found]
  rfl

theorem insert_grown (t : HandleTable) (block : BlockId) (few : t.live + 1 < Word.bound) (vacated : t.vacated = []) :
    HandleTable.insert block t = .ok ⟨t.pool, t.slots.size.toUInt32, 0⟩
      ⟨t.pool, t.slots.push ⟨0, some block⟩, [], t.live + 1⟩ := by
  obtain ⟨pool, slots, _, live⟩ := t
  cases vacated
  unfold HandleTable.insert
  rw [step_get_bind, word_add_ok live 1 few, step_lift_bind]
  rfl

def vacate (t : HandleTable) (h : Handle) : HandleTable :=
  ⟨t.pool, t.slots.setIfInBounds h.slot.toNat ⟨h.generation + 1, none⟩,
    if h.generation + 1 ≠ 0 then h.slot :: t.vacated else t.vacated, t.live - 1⟩

theorem vacate_slot (t : HandleTable) (h : Handle) (block : BlockId) (known : t.get? h = some block) :
    (vacate t h).slots[h.slot.toNat]? = some ⟨h.generation + 1, none⟩ := by
  obtain ⟨_, read⟩ := (get_some_iff t h block).mp known
  rw [vacate, Array.getElem?_setIfInBounds_self_of_lt (Array.getElem?_eq_some_iff.mp read).1]

theorem remove_none (t : HandleTable) (h : Handle) (unknown : t.get? h = none) :
    HandleTable.remove h t = .ok none t := by
  unfold HandleTable.remove
  rw [step_get_bind]
  cases read : t.slot? h with
  | none => rfl
  | some slot =>
      obtain ⟨generation, content⟩ := slot
      have empty : content = none := by simpa [HandleTable.get?, read] using unknown
      rw [empty]
      rfl

theorem remove_some (t : HandleTable) (h : Handle) (block : BlockId) (known : t.get? h = some block) (counted : 1 ≤ t.live) :
    HandleTable.remove h t = .ok (some block) (vacate t h) := by
  obtain ⟨own, read⟩ := (get_some_iff t h block).mp known
  have here : t.slot? h = some ⟨h.generation, some block⟩ := by
    simp [HandleTable.slot?, own, read, Option.filter]
  obtain ⟨pool, slots, vacated, live⟩ := t
  have settle (t : HandleTable) (enough : 1 ≤ t.live) :
      ((get : Step HandleTable HandleTable) >>= fun t => (liftM (Word.sub t.live 1) : Step HandleTable Nat) >>= fun live =>
        HandleTable.setLive live >>= fun _ => pure (some block)) t =
        .ok (some block) ⟨t.pool, t.slots, t.vacated, t.live - 1⟩ := by
    rw [step_get_bind, word_sub_ok t.live 1 enough, step_lift_bind]
    rfl
  unfold HandleTable.remove vacate
  rw [step_get_bind, here]
  by_cases wraps : h.generation + 1 = 0
  · simp only [wraps, ne_eq, not_true_eq_false, if_false]
    exact settle ⟨pool, slots.setIfInBounds h.slot.toNat ⟨0, none⟩, vacated, live⟩ counted
  · simp only [wraps, ne_eq, not_false_eq_true, if_true]
    exact settle ⟨pool, slots.setIfInBounds h.slot.toNat ⟨h.generation + 1, none⟩, h.slot :: vacated, live⟩ counted

structure Orderly (t : HandleTable) : Prop where
  vacant : ∀ index ∈ t.vacated, ∃ generation, t.slots[index.toNat]? = some ⟨generation, none⟩
  distinct : t.vacated.Nodup
  counted : t.live = t.liveBlocks.length

theorem empty_orderly (pool : PoolId) : Orderly (HandleTable.empty pool) :=
  ⟨fun _ member => absurd member List.not_mem_nil, List.nodup_nil, rfl⟩

theorem orderly_live (t : HandleTable) (orderly : Orderly t) : t.live ≤ t.slots.size := by
  rw [orderly.counted, HandleTable.liveBlocks, ← Array.length_toList]
  exact List.length_filterMap_le _ _

theorem set_around (slots : List Slot) (index : Nat) (old slot : Slot) (read : slots[index]? = some old) :
    ∃ before after, slots = before ++ old :: after ∧ slots.set index slot = before ++ slot :: after := by
  obtain ⟨bound, rfl⟩ := List.getElem?_eq_some_iff.mp read
  refine ⟨slots.take index, slots.drop (index + 1), ?_, ?_⟩
  · rw [← List.drop_eq_getElem_cons bound, List.take_append_drop]
  · rw [List.set_eq_take_append_cons_drop, if_pos bound]

theorem occupied_set (slots : Array Slot) (index : Nat) (generation raised : UInt32) (block : BlockId)
    (read : slots[index]? = some ⟨generation, none⟩) :
    ((slots.setIfInBounds index ⟨raised, some block⟩).toList.filterMap Slot.block).Perm
      (block :: slots.toList.filterMap Slot.block) := by
  obtain ⟨before, after, whole, changed⟩ :=
    set_around slots.toList index _ ⟨raised, some block⟩ (by rwa [Array.getElem?_toList])
  rw [Array.toList_setIfInBounds, changed, whole]
  simp only [List.filterMap_append, List.filterMap_cons]
  exact List.perm_middle

theorem vacated_set (slots : Array Slot) (index : Nat) (generation raised : UInt32) (block : BlockId)
    (read : slots[index]? = some ⟨generation, some block⟩) :
    (slots.toList.filterMap Slot.block).Perm
      (block :: (slots.setIfInBounds index ⟨raised, none⟩).toList.filterMap Slot.block) := by
  obtain ⟨before, after, whole, changed⟩ := set_around slots.toList index _ ⟨raised, none⟩ (by rwa [Array.getElem?_toList])
  rw [Array.toList_setIfInBounds, changed, whole]
  simp only [List.filterMap_append, List.filterMap_cons]
  exact List.perm_middle

-- Issuing occupies one slot, which was empty or did not exist.
theorem insert_cases (t : HandleTable) (block : BlockId) (orderly : Orderly t) (few : t.live + 1 < Word.bound) :
    (∃ index rest generation, t.vacated = index :: rest ∧ t.slots[index.toNat]? = some ⟨generation, none⟩ ∧
      HandleTable.insert block t = .ok ⟨t.pool, index, generation⟩
        ⟨t.pool, t.slots.setIfInBounds index.toNat ⟨generation, some block⟩, rest, t.live + 1⟩) ∨
    (t.vacated = [] ∧ HandleTable.insert block t = .ok ⟨t.pool, t.slots.size.toUInt32, 0⟩
      ⟨t.pool, t.slots.push ⟨0, some block⟩, [], t.live + 1⟩) := by
  cases vacated : t.vacated with
  | nil => exact .inr ⟨rfl, insert_grown t block few vacated⟩
  | cons index rest =>
      obtain ⟨generation, read⟩ := orderly.vacant index (by simp [vacated])
      exact .inl ⟨index, rest, generation, rfl, read, insert_recycled t index rest generation block few vacated read⟩

theorem insert_succeeds (t : HandleTable) (block : BlockId) (orderly : Orderly t) (few : t.live + 1 < Word.bound) :
    ∃ h next, HandleTable.insert block t = .ok h next ∧ next.live = t.live + 1 := by
  rcases insert_cases t block orderly few with ⟨_, _, _, _, _, ran⟩ | ⟨_, ran⟩
  · exact ⟨_, _, ran, rfl⟩
  · exact ⟨_, _, ran, rfl⟩

theorem insert_orderly (t : HandleTable) (block : BlockId) (orderly : Orderly t) (few : t.live + 1 < Word.bound)
    (h : Handle) (next : HandleTable) (ran : HandleTable.insert block t = .ok h next) :
    Orderly next ∧ next.pool = t.pool ∧ next.liveBlocks.Perm (block :: t.liveBlocks) := by
  rcases insert_cases t block orderly few with ⟨index, rest, generation, vacated, read, ran'⟩ | ⟨_, ran'⟩
  · rw [ran'] at ran
    cases ran
    have occupied := occupied_set t.slots index.toNat generation generation block read
    have distinct := orderly.distinct
    rw [vacated] at distinct
    refine ⟨⟨fun other member => ?_, (List.nodup_cons.mp distinct).2, ?_⟩, rfl, occupied⟩
    · obtain ⟨kept, still⟩ := orderly.vacant other (by simp [vacated, member])
      have different : index.toNat ≠ other.toNat :=
        fun same => (List.nodup_cons.mp distinct).1 (UInt32.toNat_inj.mp same ▸ member)
      exact ⟨kept, by rw [Array.getElem?_setIfInBounds_ne different, still]⟩
    · rw [HandleTable.liveBlocks, occupied.length_eq, List.length_cons, orderly.counted]
      rfl
  · rw [ran'] at ran
    cases ran
    have occupied : (HandleTable.liveBlocks ⟨t.pool, t.slots.push ⟨0, some block⟩, [], t.live + 1⟩).Perm
        (block :: t.liveBlocks) := by
      simp only [HandleTable.liveBlocks, Array.toList_push, List.filterMap_append, List.filterMap_cons, List.filterMap_nil]
      exact List.perm_append_singleton _ _
    refine ⟨⟨fun _ member => absurd member List.not_mem_nil, List.nodup_nil, ?_⟩, rfl, occupied⟩
    rw [occupied.length_eq, List.length_cons, orderly.counted]

theorem vacate_orderly (t : HandleTable) (h : Handle) (block : BlockId) (known : t.get? h = some block) (orderly : Orderly t) :
    Orderly (vacate t h) ∧ t.liveBlocks.Perm (block :: (vacate t h).liveBlocks) := by
  obtain ⟨_, read⟩ := (get_some_iff t h block).mp known
  have emptied := vacated_set t.slots h.slot.toNat h.generation (h.generation + 1) block read
  have occupied : ∀ other ∈ t.vacated, h.slot ≠ other := by
    intro other member same
    obtain ⟨generation, empty⟩ := orderly.vacant other member
    rw [← same, read] at empty
    cases empty
  have kept : ∀ other ∈ t.vacated, ∃ generation, (vacate t h).slots[other.toNat]? = some ⟨generation, none⟩ := by
    intro other member
    obtain ⟨generation, empty⟩ := orderly.vacant other member
    have different : h.slot.toNat ≠ other.toNat := fun same => occupied other member (UInt32.toNat_inj.mp same)
    exact ⟨generation, by rw [vacate, Array.getElem?_setIfInBounds_ne different, empty]⟩
  have here := vacate_slot t h block known
  refine ⟨⟨?_, ?_, ?_⟩, emptied⟩
  · by_cases wraps : h.generation + 1 = 0
    · simpa [vacate, wraps] using kept
    · intro other member
      simp only [vacate, ne_eq, wraps, not_false_eq_true, if_true] at member
      rcases List.mem_cons.mp member with rfl | waiting
      · exact ⟨_, here⟩
      · exact kept other waiting
  · by_cases wraps : h.generation + 1 = 0
    · simpa [vacate, wraps] using orderly.distinct
    · simp only [vacate, ne_eq, wraps, not_false_eq_true, if_true]
      exact List.nodup_cons.mpr ⟨fun member => occupied h.slot member rfl, orderly.distinct⟩
  · have length := emptied.length_eq
    have counted := orderly.counted
    simp only [HandleTable.liveBlocks, List.length_cons] at length counted
    simp only [HandleTable.liveBlocks, vacate]
    omega

theorem resolving_counted (t : HandleTable) (h : Handle) (block : BlockId) (known : t.get? h = some block) (orderly : Orderly t) :
    1 ≤ t.live := by
  obtain ⟨_, emptied⟩ := vacate_orderly t h block known orderly
  rw [orderly.counted, emptied.length_eq, List.length_cons]
  exact Nat.le_add_left 1 _

theorem occupied_once (slots : List Slot) (distinct : (slots.filterMap Slot.block).Nodup) (i j : Nat) (a b : Slot)
    (block : BlockId) (first : slots[i]? = some a) (second : slots[j]? = some b) (inA : a.block = some block)
    (inB : b.block = some block) : i = j := by
  obtain ⟨boundA, rfl⟩ := List.getElem?_eq_some_iff.mp first
  obtain ⟨boundB, rfl⟩ := List.getElem?_eq_some_iff.mp second
  have apart := List.pairwise_iff_getElem.mp (List.pairwise_filterMap.mp distinct)
  rcases Nat.lt_trichotomy i j with before | same | after
  · exact absurd rfl (apart i j boundA boundB before block inA block inB)
  · exact same
  · exact absurd rfl (apart j i boundB boundA after block inB block inA)

theorem resolving_block (t : HandleTable) (distinct : t.liveBlocks.Nodup) (h k : Handle) (block : BlockId)
    (first : t.get? h = some block) (second : t.get? k = some block) : h = k := by
  obtain ⟨_, read⟩ := (get_some_iff t h block).mp first
  obtain ⟨_, read'⟩ := (get_some_iff t k block).mp second
  have same := occupied_once t.slots.toList distinct _ _ _ _ block (Array.getElem?_toList.trans read)
    (Array.getElem?_toList.trans read') rfl rfl
  exact resolving_slot t h k block block first second (UInt32.toNat_inj.mp same)

theorem get_frame (t next : HandleTable) (k : Handle) (pool : next.pool = t.pool)
    (same : next.slots[k.slot.toNat]? = t.slots[k.slot.toNat]?) : next.get? k = t.get? k := by
  simp only [HandleTable.get?, HandleTable.slot?, pool, same]

theorem get_unoccupied (t : HandleTable) (k : Handle) (unoccupied : ∀ slot ∈ t.slots[k.slot.toNat]?, slot.block = none) :
    t.get? k = none := by
  cases found : t.get? k with
  | none => rfl
  | some block =>
      obtain ⟨_, read⟩ := (get_some_iff t k block).mp found
      exact absurd (unoccupied _ read) (Option.some_ne_none block)

theorem occupy_get (t next : HandleTable) (h : Handle) (block : BlockId) (own : h.pool = t.pool) (pool : next.pool = t.pool)
    (unoccupied : ∀ slot ∈ t.slots[h.slot.toNat]?, slot.block = none)
    (occupied : next.slots[h.slot.toNat]? = some ⟨h.generation, some block⟩)
    (elsewhere : ∀ index, index ≠ h.slot.toNat → next.slots[index]? = t.slots[index]?) :
    t.get? h = none ∧ ∀ k, next.get? k = if k = h then some block else t.get? k := by
  have issued : next.get? h = some block := (get_some_iff next h block).mpr ⟨own.trans pool.symm, occupied⟩
  refine ⟨get_unoccupied t h unoccupied, fun k => ?_⟩
  by_cases same : k = h
  · rw [if_pos same, same, issued]
  · rw [if_neg same]
    by_cases here : k.slot = h.slot
    · rw [get_unoccupied t k (by rwa [here])]
      cases found : next.get? k with
      | none => rfl
      | some other => exact absurd (resolving_slot next k h other block found issued here) same
    · exact get_frame t next k pool (elsewhere _ (fun equal => here (UInt32.toNat_inj.mp equal)))

theorem insert_get (t : HandleTable) (block : BlockId) (orderly : Orderly t) (few : t.live + 1 < Word.bound)
    (room : t.slots.size < UInt32.size) (h : Handle) (next : HandleTable) (ran : HandleTable.insert block t = .ok h next) :
    t.get? h = none ∧ ∀ k, next.get? k = if k = h then some block else t.get? k := by
  rcases insert_cases t block orderly few with ⟨index, rest, generation, vacated, read, ran'⟩ | ⟨_, ran'⟩
  · rw [ran'] at ran
    cases ran
    have bound : index.toNat < t.slots.size := (Array.getElem?_eq_some_iff.mp read).1
    refine occupy_get t ⟨t.pool, _, rest, t.live + 1⟩ ⟨t.pool, index, generation⟩ block rfl rfl ?_ ?_ ?_
    · simp [read]
    · exact Array.getElem?_setIfInBounds_self_of_lt bound
    · exact fun other different => Array.getElem?_setIfInBounds_ne (Ne.symm different)
  · rw [ran'] at ran
    cases ran
    have index : t.slots.size.toUInt32.toNat = t.slots.size := UInt32.toNat_ofNat_of_lt' room
    refine occupy_get t ⟨t.pool, _, [], t.live + 1⟩ ⟨t.pool, t.slots.size.toUInt32, 0⟩ block rfl rfl ?_ ?_ ?_
    · simp [index]
    · simp [index]
    · intro other different
      rw [index] at different
      exact Array.getElem?_push.trans (if_neg different)

-- Also past the last slot that has a name, the handles that resolved go on to.
theorem insert_keeps (t : HandleTable) (block other : BlockId) (orderly : Orderly t) (few : t.live + 1 < Word.bound)
    (h k : Handle) (next : HandleTable) (ran : HandleTable.insert block t = .ok h next) (known : t.get? k = some other) :
    next.get? k = some other := by
  obtain ⟨_, found⟩ := (get_some_iff t k other).mp known
  rcases insert_cases t block orderly few with ⟨index, rest, generation, _, read, ran'⟩ | ⟨_, ran'⟩
  · rw [ran'] at ran
    cases ran
    have different : index.toNat ≠ k.slot.toNat := by
      intro same
      rw [same, found] at read
      cases read
    exact Eq.trans (get_frame t _ k rfl (Array.getElem?_setIfInBounds_ne different)) known
  · rw [ran'] at ran
    cases ran
    have bound : k.slot.toNat < t.slots.size := (Array.getElem?_eq_some_iff.mp found).1
    exact Eq.trans (get_frame t _ k rfl (Array.getElem?_push.trans (if_neg (Nat.ne_of_lt bound)))) known

theorem vacate_get (t : HandleTable) (h k : Handle) (block : BlockId) (known : t.get? h = some block) :
    (vacate t h).get? k = if k = h then none else t.get? k := by
  have here := vacate_slot t h block known
  by_cases slot : k.slot = h.slot
  · have emptied : (vacate t h).get? k = none := get_unoccupied _ k (by simp [slot, here])
    rw [emptied]
    by_cases same : k = h
    · rw [if_pos same]
    · rw [if_neg same]
      cases found : t.get? k with
      | none => rfl
      | some other => exact absurd (resolving_slot t k h other block found known slot) same
  · have different : h.slot.toNat ≠ k.slot.toNat := fun equal => slot (UInt32.toNat_inj.mp equal).symm
    rw [if_neg (fun same => slot (congrArg Handle.slot same))]
    exact get_frame t (vacate t h) k rfl (Array.getElem?_setIfInBounds_ne different)

end BlockPool
