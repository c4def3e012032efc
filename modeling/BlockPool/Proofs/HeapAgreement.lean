import BlockPool.Proofs.CallCounts
import BlockPool.Proofs.ReferenceMachine

set_option autoImplicit false

namespace BlockPool

open Heap

theorem full_counter (made count : Nat) (counted : count ≤ made) (full : Word.bound ≤ count + 1) : Word.greatest ≤ made := by
  simp only [Word.greatest]
  omega

theorem alloc_agrees (config : PoolConfig) (geometry : Geometry config) (heap : Heap) (blocks : List LinkedSpan) (size made : Nat)
    (sound : Sound config heap blocks) (room : heap.handles.slots.size < UInt32.size) (counted : heap.metrics.allocCalls ≤ made) :
    AllocAgrees config made (contents heap) size ((Heap.alloc size).attempt heap).1
      (contents ((Heap.alloc size).attempt heap).2) := by
  rcases alloc_block_cases config geometry heap blocks size sound with
    ⟨full, stopped⟩ | ⟨_, refused, _⟩ | ⟨before, id, whole, after, created, h, next, rfl, served⟩
  · rw [attempt_error _ heap heap .overflow (alloc_stopped heap size .overflow stopped)]
    exact ⟨rfl, full_counter made _ counted full, fun _ _ held => held⟩
  · rw [attempt_ok _ heap _ _ (alloc_ran heap _ size _ refused)]
    exact contents_metrics heap _
  · rw [attempt_ok _ heap next _ (alloc_ran heap next size _ served.ran)]
    obtain ⟨absent, bytes, enough, cleared, same⟩ :=
      served_contents config geometry heap next size whole before after id created h sound served room
    exact ⟨served.positive, absent, bytes, enough, cleared, same⟩

theorem free_agrees (config : PoolConfig) (geometry : Geometry config) (heap : Heap) (blocks : List LinkedSpan) (h : Option Handle)
    (made : Nat) (sound : Sound config heap blocks) (counted : heap.metrics.freeCalls ≤ made) :
    FreeAgrees made (contents heap) h ((Heap.free h).attempt heap).1 (contents ((Heap.free h).attempt heap).2) := by
  rcases free_cases config geometry heap blocks h sound with
    ⟨full, stopped⟩ | ⟨unknown, ignored, _⟩ | ⟨handle, before, after, _, _, id, _, size, _, _, next, rfl, rfl, freed⟩
  · rw [attempt_error _ heap heap .overflow stopped]
    exact ⟨rfl, full_counter made _ counted full, fun _ _ held => held⟩
  · rw [attempt_ok _ heap _ _ ignored]
    cases h with
    | none => exact contents_metrics heap _
    | some h =>
        have nothing : contents heap h = none := contents_none heap h unknown
        funext k
        by_cases same : k = h
        · rw [same, put_same]
          exact nothing
        · rw [put_other _ _ _ _ same, contents_metrics]
  · rw [attempt_ok _ heap next _ freed.ran]
    exact freed_contents config geometry heap next handle _ _ _ _ _ _ _ _ _ sound freed

theorem move_agrees (config : PoolConfig) (geometry : Geometry config) (heap : Heap) (blocks : List LinkedSpan) (h : Handle)
    (place : Place) (size made : Nat) (sound : Sound config heap blocks) (room : heap.handles.slots.size < UInt32.size)
    (allocs : heap.metrics.allocCalls ≤ made) (frees : heap.metrics.freeCalls ≤ made)
    (member : place ∈ places config.headerOverhead 0 blocks) (known : heap.resolve h = some place.id) (grows : place.size < size)
    (slack : heap.metrics.resizeInPlace + heap.metrics.resizeMoved + heap.metrics.resizeFailures < heap.metrics.resizeCalls) :
    ResizeAgrees config made (contents heap) (some h) size ((Heap.move h place.start place.size size).attempt heap).1
      (contents ((Heap.move h place.start place.size size).attempt heap).2) := by
  have zero : size ≠ 0 := by omega
  have held := contents_some config geometry heap blocks h place sound member known
  have length := payload_length config heap blocks place sound member
  have small : ¬ size ≤ (segment heap.arena.bytes place.start place.size).length := by omega
  cases move_cases config geometry heap blocks h place size sound member known grows slack with
  | uncounted _ full goes =>
      rw [goes]
      exact ⟨rfl, full_counter made _ allocs full, fun _ _ held => held⟩
  | refused _ unserved goes _ =>
      rw [goes]
      simp only [ResizeAgrees, if_neg zero, held, if_neg small]
      exact contents_metrics heap _
  | unreleased before after id created whole n next served full goes _ =>
      obtain ⟨absent, rest, _, _, copies⟩ :=
        copied_contents config geometry heap next size whole place before after id created h n sound
        served room member known grows _ held
      rw [goes]
      refine ⟨rfl, full_counter made _ frees full, fun k bytes had => ?_⟩
      rw [copies, put_other, had]
      rintro rfl
      rw [absent] at had
      cases had
  | moved before after _ _ _ _ id created _ whole _ _ _ n next freed served filled frees goes _ =>
      obtain ⟨absent, rest, enough, cleared, copies⟩ :=
        copied_contents config geometry heap next size whole place before after id created
        h n sound served room member known grows _ held
      have different : n ≠ h := by
        rintro rfl
        rw [absent] at held
        cases held
      have released := freed_contents config geometry _ freed h _ _ _ _ _ _ _ _ _ filled frees
      rw [copies, put_comm _ _ _ _ _ different] at released
      rw [goes]
      simp only [ResizeAgrees, if_neg zero, held, if_neg small]
      exact ⟨absent, rest, enough, cleared, released⟩

theorem resize_agrees (config : PoolConfig) (geometry : Geometry config) (heap : Heap) (blocks : List LinkedSpan)
    (h : Option Handle) (size made : Nat) (sound : Sound config heap blocks)
    (room : heap.handles.slots.size < UInt32.size) (counted : Counted made heap.metrics) :
    ResizeAgrees config made (contents heap) h size ((Heap.resize h size).attempt heap).1
      (contents ((Heap.resize h size).attempt heap).2) := by
  have same : contents (resizing heap) = contents heap := contents_metrics heap _
  rcases resize_cases config geometry heap blocks h size sound with ⟨full, stopped⟩ | ⟨sound', outcome⟩
  · rw [stopped]
    have lost : Stopped made (contents heap) .overflow (contents heap) :=
      ⟨rfl, full_counter made _ counted.resizes full, fun _ _ held => held⟩
    cases h with
    | none => exact lost
    | some h => exact lost
  · cases outcome with
    | allocates goes =>
        rw [goes, ← same]
        exact alloc_agrees config geometry (resizing heap) blocks size made sound' room counted.allocs
    | frees h zero goes =>
        have freed := free_agrees config geometry (resizing heap) blocks (some h) made sound' counted.frees
        rw [same] at freed
        rw [goes]
        cases outcome : ((Heap.free (some h)).attempt (resizing heap)).1 with
        | ok value =>
            rw [outcome] at freed
            simp only [ResizeAgrees, if_pos zero, Except.map]
            exact ⟨trivial, freed⟩
        | error reason =>
            rw [outcome] at freed
            exact freed
    | ignores h nonzero unknown goes =>
        rw [goes]
        simp only [ResizeAgrees, if_neg nonzero, contents_none heap h unknown]
        exact ⟨trivial, same⟩
    | stays h place nonzero member known fits goes _ =>
        have held := contents_some config geometry heap blocks h place sound member known
        have length := payload_length config heap blocks place sound member
        rw [goes]
        simp only [ResizeAgrees, if_neg nonzero, held]
        rw [if_pos (by omega)]
        exact ⟨trivial, contents_metrics heap _⟩
    | moves h place nonzero member known grows slack goes =>
        rw [goes, ← same]
        exact move_agrees config geometry (resizing heap) blocks h place size made sound' room counted.allocs
          counted.frees member known
          grows slack

theorem payload_range_cases (config : PoolConfig) (geometry : Geometry config) (heap : Heap) (blocks : List LinkedSpan) (h : Handle)
    (offset len : Nat) (sound : Sound config heap blocks) :
    (∃ e, reach (contents heap) h offset len = .error e ∧ heap.payloadRange h offset len = .ok (.error e)) ∨
    ∃ place ∈ places config.headerOverhead 0 blocks, heap.resolve h = some place.id ∧ offset + len ≤ place.size ∧
      place.start + place.size ≤ heap.arena.capacity ∧
      reach (contents heap) h offset len = .ok (segment heap.arena.bytes place.start place.size) ∧
      heap.payloadRange h offset len = .ok (.ok (place.start + offset)) := by
  have word := capacity_word config geometry
  rcases contents_cases config geometry heap blocks h sound with
    ⟨unknown, nothing⟩ | ⟨place, member, known, held, length, inside⟩
  · exact .inl ⟨.staleHandle h, by simp only [reach, nothing], by simp only [Heap.payloadRange, unknown]⟩
  · have read := charted_payload config geometry heap.registry blocks sound.registry.charted place member
    by_cases fits : offset + len ≤ place.size
    · refine .inr ⟨place, member, known, fits, sound.arena.symm ▸ inside, ?_, ?_⟩
      · simp only [reach, held, length, if_pos fits]
      · have sum : Word.add? offset len = some (offset + len) := if_pos (by omega)
        have start : Word.add place.start offset = .ok (place.start + offset) := word_add_ok _ _ (by omega)
        simp only [Heap.payloadRange, known, read, bind, Except.bind, sum, if_pos fits, start, pure, Except.pure]
    · refine .inl ⟨.outOfBounds offset len place.size, ?_, ?_⟩
      · simp only [reach, held, length, if_neg fits]
      · simp only [Heap.payloadRange, known, read, bind, Except.bind, Word.add?]
        split
        · rename_i stop sum
          split at sum
          · cases sum
            rw [if_neg fits]
            rfl
          · cases sum
        · rfl

theorem read_cases (config : PoolConfig) (geometry : Geometry config) (heap : Heap) (blocks : List LinkedSpan) (h : Handle)
    (offset len : Nat) (sound : Sound config heap blocks) :
    (∃ e, reach (contents heap) h offset len = .error e ∧ Heap.read h offset len heap = .ok (.error e) heap) ∨
    ∃ (bytes : List UInt8) (found : Vector UInt8 len), reach (contents heap) h offset len = .ok bytes ∧
      Heap.read h offset len heap = .ok (.ok found) heap ∧ found.toList = (bytes.drop offset).take len := by
  rcases payload_range_cases config geometry heap blocks h offset len sound with
    ⟨e, missed, ranged⟩ | ⟨place, member, known, fits, inside, found, ranged⟩
  · exact .inl ⟨e, missed, Eq.trans (query_bind _ _ heap _ ranged) rfl⟩
  · obtain ⟨bytes, sliced, same⟩ := slice_run heap.arena (place.start + offset) len (by omega)
    refine .inr ⟨_, bytes, found, ?_, ?_⟩
    · refine Eq.trans (query_bind _ _ heap _ ranged) ?_
      exact query_bind (fun heap : Heap => heap.arena.slice (place.start + offset) len) _ heap _ sliced
    · rw [same, segment_part _ _ _ _ _ fits]

theorem read_agrees (config : PoolConfig) (geometry : Geometry config) (heap : Heap) (blocks : List LinkedSpan) (h : Handle)
    (offset len : Nat) (sound : Sound config heap blocks) :
    ReadAgrees (contents heap) h offset len ((Heap.read h offset len).attempt heap).1
      (contents ((Heap.read h offset len).attempt heap).2) := by
  rcases read_cases config geometry heap blocks h offset len sound with
    ⟨e, missed, ran⟩ | ⟨bytes, found, reached, ran, same⟩
  · rw [attempt_ok _ heap _ _ ran]
    refine ⟨rfl, ?_⟩
    rw [missed]
  · rw [attempt_ok _ heap _ _ ran]
    refine ⟨rfl, ?_⟩
    rw [reached]
    exact ⟨found, rfl, same⟩

theorem read_same (config config' : PoolConfig) (geometry : Geometry config) (geometry' : Geometry config')
    (heap heap' : Heap) (blocks blocks' : List LinkedSpan) (h : Handle) (offset len : Nat)
    (sound : Sound config heap blocks) (sound' : Sound config' heap' blocks') (same : contents heap' h = contents heap h) :
    ∃ answer, Heap.read h offset len heap = .ok answer heap ∧ Heap.read h offset len heap' = .ok answer heap' := by
  have reached : reach (contents heap') h offset len = reach (contents heap) h offset len := by
    simp only [reach, same]
  obtain ⟨e, missed, ran⟩ | ⟨bytes, found, hit, ran, shown⟩ := read_cases config geometry heap blocks h offset len sound
  · obtain ⟨e', missed', ran'⟩ | ⟨_, _, hit', _⟩ := read_cases config' geometry' heap' blocks' h offset len sound'
    · rw [reached, missed] at missed'
      cases missed'
      exact ⟨_, ran, ran'⟩
    · rw [reached, missed] at hit'
      cases hit'
  · obtain ⟨_, missed', _⟩ | ⟨bytes', found', hit', ran', shown'⟩ :=
      read_cases config' geometry' heap' blocks' h offset len sound'
    · rw [reached, hit] at missed'
      cases missed'
    · rw [reached, hit] at hit'
      cases hit'
      rw [Vector.toList_inj.mp (shown'.trans shown.symm)] at ran'
      exact ⟨_, ran, ran'⟩

theorem write_agrees (config : PoolConfig) (geometry : Geometry config) (heap : Heap) (blocks : List LinkedSpan) (h : Handle)
    (offset : Nat) (data : List UInt8) (sound : Sound config heap blocks) :
    WriteAgrees (contents heap) h offset data ((Heap.write h offset data).attempt heap).1
      (contents ((Heap.write h offset data).attempt heap).2) := by
  rcases payload_range_cases config geometry heap blocks h offset data.length sound with
    ⟨e, missed, ranged⟩ | ⟨place, member, known, fits, inside, found, ranged⟩
  · have ran : Heap.write h offset data heap = .ok (.error e) heap := Eq.trans (query_bind _ _ heap _ ranged) rfl
    rw [attempt_ok _ heap _ _ ran]
    simp only [WriteAgrees, missed]
    exact ⟨trivial, trivial⟩
  · have wrote := on_arena_ok heap _ () _ (write_run heap.arena (place.start + offset) data (by omega))
    have ran : Heap.write h offset data heap = .ok (.ok ()) (written heap (place.start + offset) data) := by
      refine Eq.trans (query_bind _ _ heap _ ranged) ?_
      exact step_bind_ok _ _ _ _ _ wrote
    rw [attempt_ok _ heap _ _ ran]
    simp only [WriteAgrees, found]
    exact ⟨trivial, written_contents config geometry heap blocks h place offset data sound member known fits⟩

theorem payload_lent {β : Type} (config : PoolConfig) (geometry : Geometry config) (heap : Heap) (blocks : List LinkedSpan)
    (place : Place) (sound : Sound config heap blocks) (member : place ∈ places config.headerOverhead 0 blocks)
    (rest : (found : Nat × Nat) → Vector UInt8 found.2 → Step Heap β) :
    (Step.query (fun heap : Heap => heap.registry.payload place.id) >>= fun found =>
        Step.query (fun heap : Heap => heap.arena.slice found.1 found.2) >>= rest found) heap =
      rest (place.start, _) (lend (segment heap.arena.bytes place.start place.size)) heap := by
  have length := payload_length config heap blocks place sound member
  have read := charted_payload config geometry heap.registry blocks sound.registry.charted place member
  have inside := place_in_arena config heap.registry blocks sound.registry.charted place member
  have capacity := sound.arena
  rw [← length] at read
  obtain ⟨bytes, sliced, same⟩ :=
    slice_run heap.arena place.start (segment heap.arena.bytes place.start place.size).length (by omega)
  have whole : bytes = lend (segment heap.arena.bytes place.start place.size) :=
    Vector.toList_inj.mp (same.trans (congrArg (segment heap.arena.bytes place.start) length))
  rw [whole] at sliced
  refine Eq.trans (query_bind _ _ heap _ read) ?_
  exact query_bind
    (fun next : Heap => next.arena.slice place.start (segment heap.arena.bytes place.start place.size).length)
    _ heap _ sliced

theorem look_agrees {α : Type} (config : PoolConfig) (geometry : Geometry config) (heap : Heap)
    (blocks : List LinkedSpan) (h : Handle) (look : (len : Nat) → Vector UInt8 len → α)
    (sound : Sound config heap blocks) :
    LookAgrees (contents heap) h look ((Heap.withPayload h look).attempt heap).1
      (contents ((Heap.withPayload h look).attempt heap).2) := by
  rcases contents_cases config geometry heap blocks h sound with ⟨unknown, nothing⟩ | ⟨place, member, known, held, _⟩
  · have ran : Heap.withPayload h look heap = .ok (.error (.staleHandle h)) heap := by
      simp only [Heap.withPayload, step_get_bind, unknown, step_pure]
    rw [attempt_ok _ heap _ _ ran]
    refine ⟨rfl, ?_⟩
    rw [nothing]
  · have ran : Heap.withPayload h look heap =
        .ok (.ok (look _ (lend (segment heap.arena.bytes place.start place.size)))) heap := by
      simp only [Heap.withPayload, step_get_bind, known]
      exact payload_lent config geometry heap blocks place sound member _
    rw [attempt_ok _ heap _ _ ran]
    refine ⟨rfl, ?_⟩
    rw [held]

theorem edited_contents (config : PoolConfig) (geometry : Geometry config) (heap : Heap) (blocks : List LinkedSpan)
    (h : Handle) (place : Place) (changed : Vector UInt8 (segment heap.arena.bytes place.start place.size).length)
    (sound : Sound config heap blocks) (member : place ∈ places config.headerOverhead 0 blocks)
    (known : heap.resolve h = some place.id) :
    onArena (Arena.write place.start changed.toList) heap = .ok () (written heap place.start changed.toList) ∧
      contents (written heap place.start changed.toList) = (contents heap).put h (some changed.toList) := by
  have length := payload_length config heap blocks place sound member
  have inside := place_in_arena config heap.registry blocks sound.registry.charted place member
  have capacity := sound.arena
  have same : changed.toList.length = place.size := by rw [Vector.length_toList, length]
  have wrote := written_contents config geometry heap blocks h place 0 changed.toList sound member known (by omega)
  rw [Nat.add_zero, splice_whole _ _ (by rw [same, length])] at wrote
  exact ⟨on_arena_ok heap _ () _ (write_run heap.arena place.start changed.toList (by omega)), wrote⟩

theorem edit_ran {α : Type} (config : PoolConfig) (geometry : Geometry config) (heap : Heap) (blocks : List LinkedSpan)
    (h : Handle) (place : Place) (edit : PayloadEdit α) (sound : Sound config heap blocks)
    (member : place ∈ places config.headerOverhead 0 blocks) (known : heap.resolve h = some place.id) :
    Heap.editPayload h edit heap =
      match edit _ (lend (segment heap.arena.bytes place.start place.size)) with
      | .ok value changed => .ok (.ok value) (written heap place.start changed.toList)
      | .error reason changed => .error reason (written heap place.start changed.toList) := by
  simp only [Heap.editPayload, step_get_bind, known]
  refine Eq.trans (payload_lent config geometry heap blocks place sound member _) ?_
  cases edited : edit _ (lend (segment heap.arena.bytes place.start place.size)) with
  | ok value changed =>
      obtain ⟨wrote, _⟩ := edited_contents config geometry heap blocks h place changed sound member known
      exact step_bind_ok _ _ _ _ _ wrote
  | error reason changed =>
      obtain ⟨wrote, _⟩ := edited_contents config geometry heap blocks h place changed sound member known
      exact step_bind_ok _ _ _ _ _ wrote

theorem edit_agrees {α : Type} (config : PoolConfig) (geometry : Geometry config) (heap : Heap)
    (blocks : List LinkedSpan) (h : Handle) (edit : PayloadEdit α) (sound : Sound config heap blocks) :
    EditAgrees (contents heap) h edit ((Heap.editPayload h edit).attempt heap).1
      (contents ((Heap.editPayload h edit).attempt heap).2) := by
  rcases contents_cases config geometry heap blocks h sound with ⟨unknown, nothing⟩ | ⟨place, member, known, held, _⟩
  · have ran : Heap.editPayload h edit heap = .ok (.error (.staleHandle h)) heap := by
      simp only [Heap.editPayload, step_get_bind, unknown, step_pure]
    rw [attempt_ok _ heap _ _ ran]
    simp only [EditAgrees, nothing]
    exact ⟨trivial, trivial⟩
  · have ran := edit_ran config geometry heap blocks h place edit sound member known
    simp only [EditAgrees, held]
    cases edited : edit _ (lend (segment heap.arena.bytes place.start place.size)) with
    | ok value changed =>
        rw [edited] at ran
        rw [attempt_ok _ heap _ _ ran]
        exact ⟨rfl, (edited_contents config geometry heap blocks h place changed sound member known).2⟩
    | error reason changed =>
        rw [edited] at ran
        rw [attempt_error _ heap _ _ ran]
        exact ⟨rfl, (edited_contents config geometry heap blocks h place changed sound member known).2⟩

theorem usable_size_agrees (config : PoolConfig) (geometry : Geometry config) (heap : Heap) (blocks : List LinkedSpan) (h : Handle)
    (sound : Sound config heap blocks) :
    Step.query (fun heap : Heap => heap.usableSize h) heap = .ok ((contents heap h).map List.length) heap := by
  apply query_ok
  rcases contents_cases config geometry heap blocks h sound with
    ⟨unknown, nothing⟩ | ⟨place, member, known, held, length, _⟩
  · simp only [Heap.usableSize, unknown, nothing, Option.map_none]
  · obtain ⟨before, after, rfl, _⟩ := place_block _ _ _ _ member
    have read := charted_header config heap.registry before after place.id _ sound.registry.charted
    simp only [Heap.usableSize, known, held, Option.map_some, length, read]
    rfl

theorem work_agrees {α : Type} (config : PoolConfig) (geometry : Geometry config) (heap : Heap) (blocks : List LinkedSpan)
    (call : PoolCall α) (going : call ≠ .deinit) (made : Nat) (sound : Sound config heap blocks)
    (room : heap.handles.slots.size < UInt32.size) (counted : Counted made heap.metrics) :
    Agrees config made (some (contents heap)) call (call.work.attempt heap).1 (some (contents (call.work.attempt heap).2)) := by
  cases call with
  | alloc size => exact ⟨_, rfl, alloc_agrees config geometry heap blocks size made sound room counted.allocs⟩
  | free h => exact ⟨_, rfl, free_agrees config geometry heap blocks h made sound counted.frees⟩
  | resize h size => exact ⟨_, rfl, resize_agrees config geometry heap blocks h size made sound room counted⟩
  | read h offset len => exact ⟨_, rfl, read_agrees config geometry heap blocks h offset len sound⟩
  | write h offset data => exact ⟨_, rfl, write_agrees config geometry heap blocks h offset data sound⟩
  | withPayload h look => exact ⟨_, rfl, look_agrees config geometry heap blocks h look sound⟩
  | editPayload h edit => exact ⟨_, rfl, edit_agrees config geometry heap blocks h edit sound⟩
  | usableSize h =>
      have ran := attempt_ok _ heap heap _ (usable_size_agrees config geometry heap blocks h sound)
      exact ⟨congrArg (fun result => some (contents result.2)) ran, congrArg Prod.fst ran⟩
  | deinit => exact absurd rfl going

end BlockPool
