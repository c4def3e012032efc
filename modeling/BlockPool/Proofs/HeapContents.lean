import BlockPool.Proofs.HeapResize

set_option autoImplicit false

namespace BlockPool

open Heap

-- What clients may know of a heap: the bytes behind each handle.
abbrev Memory := Handle → Option (List UInt8)

def Memory.put (memory : Memory) (h : Handle) (content : Option (List UInt8)) : Memory :=
  fun k => if k = h then content else memory k

@[simp] theorem put_same (memory : Memory) (h : Handle) (content : Option (List UInt8)) :
    memory.put h content h = content := if_pos rfl

theorem put_other (memory : Memory) (h k : Handle) (content : Option (List UInt8)) (different : k ≠ h) :
    memory.put h content k = memory k := if_neg different

theorem put_put (memory : Memory) (h : Handle) (a b : Option (List UInt8)) : (memory.put h a).put h b = memory.put h b := by
  funext k
  simp only [Memory.put]
  split <;> rfl

theorem put_comm (memory : Memory) (h k : Handle) (a b : Option (List UInt8)) (different : h ≠ k) :
    (memory.put h a).put k b = (memory.put k b).put h a := by
  funext other
  simp only [Memory.put]
  by_cases first : other = h
  · have second : other ≠ k := fun same => different (first.symm.trans same)
    simp [first, different]
  · simp [first]

def contents (heap : Heap) : Memory := fun h =>
  match heap.resolve h with
  | none => none
  | some id =>
    match heap.registry.payload id with
    | .ok (start, size) => some (segment heap.arena.bytes start size)
    | .error _ => none

theorem contents_none (heap : Heap) (h : Handle) (unknown : heap.resolve h = none) : contents heap h = none := by
  simp only [contents, unknown]

theorem contents_some (config : PoolConfig) (geometry : Geometry config) (heap : Heap) (blocks : List LinkedSpan) (h : Handle)
    (place : Place) (sound : Sound config heap blocks) (member : place ∈ places config.headerOverhead 0 blocks)
    (known : heap.resolve h = some place.id) : contents heap h = some (segment heap.arena.bytes place.start place.size) := by
  have read := charted_payload config geometry heap.registry blocks sound.registry.charted place member
  simp only [contents, known, read]

theorem payload_length (config : PoolConfig) (heap : Heap) (blocks : List LinkedSpan) (place : Place)
    (sound : Sound config heap blocks) (member : place ∈ places config.headerOverhead 0 blocks) :
    (segment heap.arena.bytes place.start place.size).length = place.size := by
  have inside := place_in_arena config heap.registry blocks sound.registry.charted place member
  have capacity : heap.arena.bytes.size = config.capacity := sound.arena
  exact segment_length _ _ _ (by omega)

theorem contents_cases (config : PoolConfig) (geometry : Geometry config) (heap : Heap) (blocks : List LinkedSpan) (h : Handle)
    (sound : Sound config heap blocks) :
    (heap.resolve h = none ∧ contents heap h = none) ∨
    ∃ place ∈ places config.headerOverhead 0 blocks, heap.resolve h = some place.id ∧
      contents heap h = some (segment heap.arena.bytes place.start place.size) ∧
      (segment heap.arena.bytes place.start place.size).length = place.size ∧ place.start + place.size ≤ config.capacity := by
  cases known : heap.resolve h with
  | none => exact .inl ⟨rfl, contents_none heap h known⟩
  | some id =>
      obtain ⟨place, member, rfl⟩ := sound_resolves config heap blocks h id sound known
      have inside := place_in_arena config heap.registry blocks sound.registry.charted place member
      exact .inr ⟨place, member, rfl, contents_some config geometry heap blocks h place sound member known,
        payload_length config heap blocks place sound member, inside.2⟩

theorem contents_metrics (heap : Heap) (metrics : PoolMetrics) : contents { heap with metrics } = contents heap := rfl

theorem sound_distinct (config : PoolConfig) (heap : Heap) (blocks : List LinkedSpan) (sound : Sound config heap blocks)
    (h k : Handle) (different : h ≠ k) (id other : BlockId) (first : heap.resolve h = some id)
    (second : heap.resolve k = some other) :
    id ≠ other := by
  intro same
  have distinct : heap.handles.liveBlocks.Nodup :=
    sound.owned.nodup_iff.mpr (charted_places_distinct config heap.registry blocks sound.registry.charted)
  exact different (resolving_block heap.handles distinct h k id first (same ▸ second))

def written (heap : Heap) (start : Nat) (data : List UInt8) : Heap :=
  { heap with arena := ⟨Arena.overwrite heap.arena.bytes start data⟩ }

theorem written_sound (config : PoolConfig) (heap : Heap) (blocks : List LinkedSpan) (start : Nat) (data : List UInt8)
    (sound : Sound config heap blocks) : Sound config (written heap start data) blocks :=
  sound_arena config heap blocks _ sound (overwrite_size _ _ _)

theorem written_contents (config : PoolConfig) (geometry : Geometry config) (heap : Heap) (blocks : List LinkedSpan) (h : Handle)
    (place : Place) (offset : Nat) (data : List UInt8) (sound : Sound config heap blocks)
    (member : place ∈ places config.headerOverhead 0 blocks) (known : heap.resolve h = some place.id)
    (fits : offset + data.length ≤ place.size) :
    contents (written heap (place.start + offset) data) =
      (contents heap).put h (some (splice (segment heap.arena.bytes place.start place.size) offset data)) := by
  have after := written_sound config heap blocks (place.start + offset) data sound
  have size : heap.arena.bytes.size = config.capacity := sound.arena
  have inside := place_in_arena config heap.registry blocks sound.registry.charted place member
  funext k
  by_cases same : k = h
  · subst same
    rw [put_same, contents_some config geometry _ blocks k place after member known]
    exact congrArg some (segment_within _ _ _ _ _ (by omega) fits)
  · rw [put_other _ _ _ _ same]
    rcases contents_cases config geometry heap blocks k sound with
      ⟨unknown, nothing⟩ | ⟨other, otherMember, otherKnown, found, _⟩
    · rw [nothing, contents_none (written heap (place.start + offset) data) k unknown]
    · have apart := place_disjoint _ _ _ place other member otherMember
        (sound_distinct config heap blocks sound h k (Ne.symm same) _ _ known otherKnown)
      rw [found, contents_some config geometry _ blocks k other after otherMember otherKnown]
      exact congrArg some (segment_apart _ _ _ _ _ (by omega) (by omega))

theorem served_apart (config : PoolConfig) (heap next : Heap) (size whole : Nat) (before after : List LinkedSpan)
    (id created : BlockId) (h : Handle) (served : Served config heap size before after id created whole h next)
    (place : Place) (member : place ∈ places config.headerOverhead 0 (before ++ (id, ⟨whole, true⟩) :: after)) :
    place.id ≠ id := by
  have distinct := charted_places_distinct config next.registry _ served.sound.registry.charted
  rw [PoolConfig.takenBlocks, places_cut, List.map_append, List.map_cons] at distinct
  rw [places_single_free] at member
  have absent := (List.nodup_cons.mp (List.perm_middle.nodup_iff.mp distinct)).1
  rw [← List.map_append] at absent
  exact fun same => absent (List.mem_map.mpr ⟨place, member, same⟩)

theorem zeroed_apart (config : PoolConfig) (arena : Arena) (place other : Place)
    (fits : place.start + place.size ≤ arena.capacity)
    (apart : other.start + other.size ≤ place.start ∨ place.start + place.size ≤ other.start) :
    segment (zeroed config arena place).bytes other.start other.size = segment arena.bytes other.start other.size := by
  unfold zeroed
  split
  · apply segment_apart
    · rw [List.length_replicate]
      exact fits
    · rwa [List.length_replicate]
  · rfl

theorem zeroed_within (config : PoolConfig) (arena : Arena) (place : Place) (fits : place.start + place.size ≤ arena.capacity)
    (wanted : config.zeroOnAlloc = true) :
    segment (zeroed config arena place).bytes place.start place.size = List.replicate place.size 0 := by
  have length := segment_length arena.bytes place.start place.size fits
  have within := segment_within arena.bytes place.start place.size 0 (List.replicate place.size 0) fits (by simp)
  rw [splice_whole _ _ (by simp [length])] at within
  rw [zeroed, if_pos wanted]
  exact within

theorem served_answers (config : PoolConfig) (geometry : Geometry config) (heap next : Heap) (size whole : Nat)
    (before after : List LinkedSpan) (id created : BlockId) (h : Handle)
    (sound : Sound config heap (before ++ (id, ⟨whole, true⟩) :: after))
    (served : Served config heap size before after id created whole h next) (room : heap.handles.slots.size < UInt32.size) :
    heap.resolve h = none ∧ ∀ k, next.resolve k = if k = h then some id else heap.resolve k :=
  insert_get heap.handles id sound.handles (sound_live config geometry heap _ sound) room h next.handles served.issued

theorem served_resolves (config : PoolConfig) (geometry : Geometry config) (heap next : Heap) (size whole : Nat)
    (before after : List LinkedSpan) (id created : BlockId) (h : Handle)
    (sound : Sound config heap (before ++ (id, ⟨whole, true⟩) :: after))
    (served : Served config heap size before after id created whole h next) (room : heap.handles.slots.size < UInt32.size) :
    next.resolve h = some id :=
  ((served_answers config geometry heap next size whole before after id created h sound served room).2 h).trans (if_pos rfl)

theorem served_contents (config : PoolConfig) (geometry : Geometry config) (heap next : Heap) (size whole : Nat)
    (before after : List LinkedSpan) (id created : BlockId) (h : Handle)
    (sound : Sound config heap (before ++ (id, ⟨whole, true⟩) :: after))
    (served : Served config heap size before after id created whole h next) (room : heap.handles.slots.size < UInt32.size) :
    contents heap h = none ∧
      ∃ bytes, size ≤ bytes.length ∧ (config.zeroOnAlloc = true → ∀ b ∈ bytes, b = 0) ∧
        contents next = (contents heap).put h (some bytes) := by
  obtain ⟨unknown, answers⟩ := served_answers config geometry heap next size whole before after id created h sound served room
  have fresh := taken_member config size whole before after id created
  have taken := served_taken config geometry heap next size whole before after id created h served
  have length := payload_length config next _ _ served.sound fresh
  have inside := place_in_arena config next.registry _ served.sound.registry.charted _ fresh
  have fits : (config.takenPlace size whole before id).start + (config.takenPlace size whole before id).size ≤
      heap.arena.capacity :=
    sound.arena.symm ▸ inside.2
  refine ⟨contents_none heap h unknown,
    segment next.arena.bytes (config.takenPlace size whole before id).start (config.takenPlace size whole before id).size,
    ?_, ?_, ?_⟩
  · rw [length]
    exact taken
  · intro wanted b member
    rw [served.arena, zeroed_within config heap.arena _ fits wanted] at member
    exact List.eq_of_mem_replicate member
  · funext k
    have answer := answers k
    -- any other payload lies apart from the new one, so clearing that leaves it alone
    by_cases same : k = h
    · subst same
      rw [if_pos rfl] at answer
      rw [put_same]
      exact contents_some config geometry next _ k _ served.sound fresh answer
    · rw [if_neg same] at answer
      rw [put_other _ _ _ _ same]
      rcases contents_cases config geometry heap _ k sound with ⟨absent, nothing⟩ | ⟨place, member, known, found, _⟩
      · rw [nothing, contents_none next k (answer.trans absent)]
      · have kept := taken_kept config size whole before after id created place member
        have apart := place_disjoint _ _ _ place _ kept fresh
          (served_apart config heap next size whole before after id created h served place member)
        rw [found, contents_some config geometry next _ k place served.sound kept (answer.trans known), served.arena]
        exact congrArg some (zeroed_apart config heap.arena _ place fits apart)

theorem freed_contents (config : PoolConfig) (geometry : Geometry config) (heap next : Heap) (h : Handle)
    (before after ahead behind : List LinkedSpan) (id survivor : BlockId) (size whole merges : Nat)
    (sound : Sound config heap (before ++ (id, ⟨size, false⟩) :: after))
    (freed : Freed config heap h before after ahead behind id survivor size whole merges next) :
    contents next = (contents heap).put h none := by
  funext k
  have answer := freed_answers config heap next h before after ahead behind id survivor size whole merges freed k
  by_cases same : k = h
  · rw [if_pos same] at answer
    rw [same, put_same]
    exact contents_none next h (same ▸ answer)
  · rw [if_neg same] at answer
    rw [put_other _ _ _ _ same]
    rcases contents_cases config geometry heap _ k sound with ⟨absent, nothing⟩ | ⟨place, member, known, found, _⟩
    · rw [nothing, contents_none next k (answer.trans absent)]
    · have different := sound_distinct config heap _ sound k h same _ _ known freed.resolved
      have kept : place ∈ places config.headerOverhead 0 (ahead ++ (survivor, ⟨whole, true⟩) :: behind) := by
        rw [freed_places config heap next h before after ahead behind id survivor size whole merges sound freed]
        exact List.mem_filter.mpr ⟨member, decide_eq_true different⟩
      rw [found, contents_some config geometry next _ k place freed.sound kept (answer.trans known), freed.arena]

-- Whether or not the old block has been given back, no other handle reads differently.
theorem copied_contents (config : PoolConfig) (geometry : Geometry config) (heap next : Heap) (size whole : Nat)
    (place : Place) (before after : List LinkedSpan) (id created : BlockId) (h n : Handle)
    (sound : Sound config heap (before ++ (id, ⟨whole, true⟩) :: after))
    (served : Served config heap size before after id created whole n next) (room : heap.handles.slots.size < UInt32.size)
    (member : place ∈ places config.headerOverhead 0 (before ++ (id, ⟨whole, true⟩) :: after))
    (known : heap.resolve h = some place.id) (grows : place.size < size) (bytes : List UInt8)
    (held : contents heap h = some bytes) :
    contents heap n = none ∧
      ∃ rest, size ≤ bytes.length + rest.length ∧ (config.zeroOnAlloc = true → ∀ b ∈ rest, b = 0) ∧
        contents (copied next place (config.takenPlace size whole before id)) = (contents heap).put n (some (bytes ++ rest)) := by
  obtain ⟨absent, fresh, enough, cleared, issued⟩ :=
    served_contents config geometry heap next size whole before after id created n sound served room
  have different : h ≠ n := by
    rintro rfl
    rw [absent] at held
    cases held
  have here := taken_member config size whole before after id created
  have taken := served_taken config geometry heap next size whole before after id created n served
  have answer := served_resolves config geometry heap next size whole before after id created n sound served room
  have kept := taken_kept config size whole before after id created place member
  have still := served_keeps config geometry heap next size whole before after id created place.id n h sound served known
  have source : segment next.arena.bytes place.start place.size = bytes := by
    have found := contents_some config geometry next _ h place served.sound kept still
    rw [issued, put_other _ _ _ _ different, held] at found
    exact (Option.some.inj found).symm
  have target :
      segment next.arena.bytes (config.takenPlace size whole before id).start (config.takenPlace size whole before id).size =
        fresh := by
    have found := contents_some config geometry next _ n _ served.sound here answer
    rw [issued, put_same] at found
    exact (Option.some.inj found).symm
  have length : bytes.length = place.size := by
    rw [← source]
    exact payload_length config next _ place served.sound kept
  -- the copy is a write of the old payload into the new one
  have filled := written_contents config geometry next _ n _ 0 bytes served.sound here answer (by omega)
  rw [Nat.add_zero, target, issued, put_put] at filled
  refine ⟨absent, fresh.drop bytes.length, ?_, fun wanted b inside => cleared wanted b (List.mem_of_mem_drop inside), ?_⟩
  · rw [List.length_drop]
    omega
  · rw [copied, source]
    refine Eq.trans filled ?_
    rw [splice, List.take_zero, List.nil_append, Nat.zero_add]

end BlockPool
