import BlockPool.Proofs.HandleHistory
import BlockPool.Proofs.HeapAgreement
import BlockPool.Proofs.PoolRequests

set_option autoImplicit false

namespace BlockPool

open Heap

def Continues (t next : HandleTable) : Prop := ∀ history, Ledger t history → ∃ later, Ledger next (later ++ history)

def Recorded (t : HandleTable) : Prop := ∃ history, Ledger t history

def Spent (t : HandleTable) (h : Handle) : Prop :=
  ∃ history block later earlier, Ledger t history ∧ history = later ++ .issued h block :: earlier ∧ .removed h ∈ later

theorem continues_same (t : HandleTable) : Continues t t := fun _ ledger => ⟨[], ledger⟩

theorem continues_trans (a b c : HandleTable) (first : Continues a b) (second : Continues b c) : Continues a c := by
  intro history ledger
  obtain ⟨later, ledger'⟩ := first history ledger
  obtain ⟨latest, ledger''⟩ := second _ ledger'
  exact ⟨latest ++ later, by rwa [List.append_assoc]⟩

theorem continues_recorded (t next : HandleTable) (continues : Continues t next) (recorded : Recorded t) : Recorded next := by
  obtain ⟨history, ledger⟩ := recorded
  obtain ⟨later, ledger'⟩ := continues history ledger
  exact ⟨_, ledger'⟩

theorem insert_continues (t next : HandleTable) (h : Handle) (block : BlockId) (room : t.slots.size < UInt32.size)
    (ran : HandleTable.insert block t = .ok h next) : Continues t next := by
  intro history ledger
  obtain ⟨issued, after, ran', _, ledger'⟩ := insert_ledger t history block ledger room
  rw [ran] at ran'
  cases ran'
  exact ⟨[.issued h block], ledger'⟩

theorem vacate_continues (t : HandleTable) (h : Handle) (block : BlockId) (known : t.get? h = some block) (counted : 1 ≤ t.live) :
    Continues t (vacate t h) := by
  intro history ledger
  obtain ⟨after, ran, _, ledger'⟩ := remove_ledger t history h ledger
  have same : EStateM.Result.ok (t.get? h) after = .ok (some block) (vacate t h) :=
    ran.symm.trans (remove_some t h block known counted)
  rw [show after = vacate t h by injection same] at ledger'
  exact ⟨[.removed h], ledger'⟩

theorem spent_unknown (t : HandleTable) (h : Handle) (spent : Spent t h) : t.get? h = none := by
  obtain ⟨history, block, later, earlier, ledger, whole, gone⟩ := spent
  exact ledger.accountable.ended h block later earlier whole gone

theorem spent_stays (t next : HandleTable) (h : Handle) (continues : Continues t next) (spent : Spent t h) : Spent next h := by
  obtain ⟨history, block, later, earlier, ledger, rfl, gone⟩ := spent
  obtain ⟨latest, ledger'⟩ := continues _ ledger
  exact ⟨_, block, latest ++ later, earlier, ledger', (List.append_assoc _ _ _).symm, List.mem_append_right _ gone⟩

-- A handle that resolves goes on to resolve to its block until it is spent.
theorem resolving_or_spent (t next : HandleTable) (h : Handle) (block : BlockId) (recorded : Recorded t)
    (continues : Continues t next) (known : t.get? h = some block) : next.get? h = some block ∨ Spent next h := by
  obtain ⟨history, ledger⟩ := recorded
  obtain ⟨later, ledger'⟩ := continues history ledger
  obtain ⟨since, earlier, rfl, kept⟩ := (ledger.accountable.resolves h block).mp known
  by_cases gone : .removed h ∈ later
  · exact .inr ⟨_, block, later ++ since, earlier, ledger', (List.append_assoc _ _ _).symm, List.mem_append_left _ gone⟩
  · refine .inl ((ledger'.accountable.resolves h block).mpr ⟨later ++ since, earlier, (List.append_assoc _ _ _).symm, ?_⟩)
    intro member
    rcases List.mem_append.mp member with now | before
    · exact gone now
    · exact kept before

-- A call takes a used block away from the handle it is made with and from no other.
structure Passage (config : PoolConfig) (subject : Option Handle) (heap : Heap) (blocks : List LinkedSpan) (next : Heap)
    (blocks' : List LinkedSpan) : Prop where
  sound : Sound config next blocks'
  continues : Continues heap.handles next.handles
  gives : ∀ place ∈ places config.headerOverhead 0 blocks, place ∈ places config.headerOverhead 0 blocks' ∨
    ∃ h, subject = some h ∧ heap.resolve h = some place.id ∧ next.resolve h = none

theorem passage_same (config : PoolConfig) (subject : Option Handle) (heap next : Heap) (blocks : List LinkedSpan)
    (sound : Sound config next blocks) (handles : next.handles = heap.handles) :
    Passage config subject heap blocks next blocks := by
  refine ⟨sound, ?_, fun place member => .inl member⟩
  rw [handles]
  exact continues_same heap.handles

theorem passage_trans (config : PoolConfig) (subject : Option Handle) (heap middle next : Heap)
    (blocks blocks' blocks'' : List LinkedSpan) (first : Passage config none heap blocks middle blocks')
    (second : Passage config subject middle blocks' next blocks'')
    (same : ∀ h, subject = some h → middle.resolve h = heap.resolve h) :
    Passage config subject heap blocks next blocks'' := by
  refine ⟨second.sound, continues_trans _ _ _ first.continues second.continues, fun place member => ?_⟩
  rcases first.gives place member with kept | ⟨_, nobody, _⟩
  · rcases second.gives place kept with still | ⟨h, named, known, gone⟩
    · exact .inl still
    · exact .inr ⟨h, named, (same h named).symm.trans known, gone⟩
  · cases nobody

theorem served_passage (config : PoolConfig) (heap next : Heap) (size whole : Nat) (before after : List LinkedSpan)
    (id created : BlockId) (h : Handle) (served : Served config heap size before after id created whole h next)
    (room : heap.handles.slots.size < UInt32.size) :
    Passage config none heap (before ++ (id, ⟨whole, true⟩) :: after) next
      (config.takenBlocks size whole before after id created) := by
  refine ⟨served.sound, insert_continues _ _ h id room served.issued, fun place member => .inl ?_⟩
  exact taken_kept config size whole before after id created place member

theorem freed_passage (config : PoolConfig) (heap next : Heap) (h : Handle) (before after ahead behind : List LinkedSpan)
    (id survivor : BlockId) (size whole merges : Nat) (sound : Sound config heap (before ++ (id, ⟨size, false⟩) :: after))
    (freed : Freed config heap h before after ahead behind id survivor size whole merges next) :
    Passage config (some h) heap (before ++ (id, ⟨size, false⟩) :: after) next
      (ahead ++ (survivor, ⟨whole, true⟩) :: behind) := by
  have gone : next.resolve h = none := by
    rw [freed_answers config heap next h before after ahead behind id survivor size whole merges freed h, if_pos rfl]
  refine ⟨freed.sound, ?_, fun place member => ?_⟩
  · rw [freed.handles]
    exact vacate_continues heap.handles h id freed.resolved (resolving_counted heap.handles h id freed.resolved sound.handles)
  · rw [freed_places config heap next h before after ahead behind id survivor size whole merges sound freed]
    by_cases here : place.id = id
    · exact .inr ⟨h, rfl, here ▸ freed.resolved, gone⟩
    · exact .inl (List.mem_filter.mpr ⟨member, decide_eq_true here⟩)

theorem alloc_passage (config : PoolConfig) (geometry : Geometry config) (heap : Heap) (blocks : List LinkedSpan) (size : Nat)
    (sound : Sound config heap blocks) (room : heap.handles.slots.size < UInt32.size) :
    ∃ blocks', Passage config none heap blocks ((Heap.alloc size).attempt heap).2 blocks' := by
  rcases alloc_block_cases config geometry heap blocks size sound with
    ⟨_, stopped⟩ | ⟨_, refused, kept⟩ | ⟨before, id, whole, after, created, h, next, rfl, served⟩
  · rw [attempt_error _ heap heap .overflow (alloc_stopped heap size .overflow stopped)]
    exact ⟨blocks, passage_same config none heap heap blocks sound rfl⟩
  · rw [attempt_ok _ heap _ _ (alloc_ran heap _ size _ refused)]
    exact ⟨blocks, passage_same config none heap _ blocks kept rfl⟩
  · rw [attempt_ok _ heap next _ (alloc_ran heap next size _ served.ran)]
    exact ⟨_, served_passage config heap next size whole before after id created h served room⟩

theorem free_passage (config : PoolConfig) (geometry : Geometry config) (heap : Heap) (blocks : List LinkedSpan) (h : Option Handle)
    (sound : Sound config heap blocks) : ∃ blocks', Passage config h heap blocks ((Heap.free h).attempt heap).2 blocks' := by
  rcases free_cases config geometry heap blocks h sound with
    ⟨_, stopped⟩ | ⟨_, ignored, kept⟩ | ⟨handle, before, after, ahead, behind, id, survivor, size, whole,
      merges, next, rfl, rfl, freed⟩
  · rw [attempt_error _ heap heap .overflow stopped]
    exact ⟨blocks, passage_same config h heap heap blocks sound rfl⟩
  · rw [attempt_ok _ heap _ _ ignored]
    exact ⟨blocks, passage_same config h heap _ blocks kept rfl⟩
  · rw [attempt_ok _ heap next _ freed.ran]
    exact ⟨_, freed_passage config heap next handle before after ahead behind id survivor size whole merges sound freed⟩

theorem sound_blocks_same (config : PoolConfig) (heap : Heap) (a b : List LinkedSpan) (sound : Sound config heap a)
    (sound' : Sound config heap b) : a = b := by
  have chain := charted_chain config heap.registry a sound.registry.charted
  rw [charted_chain config heap.registry b sound'.registry.charted] at chain
  rw [← entries_blocks config.headerOverhead none none 0 a, ← entries_blocks config.headerOverhead none none 0 b]
  exact congrArg (fun chain => chain.blocks.map linkedSpan) chain.symm

theorem copied_passage (config : PoolConfig) (heap next : Heap) (size whole : Nat) (place : Place) (before after : List LinkedSpan)
    (id created : BlockId) (h : Handle) (served : Served config heap size before after id created whole h next)
    (room : heap.handles.slots.size < UInt32.size) :
    Passage config none heap (before ++ (id, ⟨whole, true⟩) :: after)
      (copied next place (config.takenPlace size whole before id))
      (config.takenBlocks size whole before after id created) := by
  obtain ⟨sound, continues, gives⟩ := served_passage config heap next size whole before after id created h served room
  exact ⟨copied_sound config next _ place _ sound, continues, gives⟩

theorem move_passage (config : PoolConfig) (geometry : Geometry config) (heap : Heap) (blocks : List LinkedSpan) (h : Handle)
    (place : Place) (size : Nat) (sound : Sound config heap blocks) (room : heap.handles.slots.size < UInt32.size)
    (member : place ∈ places config.headerOverhead 0 blocks) (known : heap.resolve h = some place.id) (grows : place.size < size)
    (slack : heap.metrics.resizeInPlace + heap.metrics.resizeMoved + heap.metrics.resizeFailures < heap.metrics.resizeCalls) :
    ∃ blocks', Passage config (some h) heap blocks ((Heap.move h place.start place.size size).attempt heap).2 blocks' := by
  -- a handle that moves stands for the old block until that is given back
  have still (before after : List LinkedSpan) (id created : BlockId) (whole : Nat) (n : Handle) (next : Heap)
      (sound : Sound config heap (before ++ (id, ⟨whole, true⟩) :: after))
      (served : Served config heap size before after id created whole n next) (k : Handle) (named : some h = some k) :
      (copied next place (config.takenPlace size whole before id)).resolve k = heap.resolve k := by
    cases named
    rw [known]
    exact served_keeps config geometry heap next size whole before after id created place.id n h sound served known
  cases move_cases config geometry heap blocks h place size sound member known grows slack with
  | uncounted _ full goes =>
      rw [goes]
      exact ⟨blocks, passage_same config (some h) heap heap blocks sound rfl⟩
  | refused _ unserved goes kept =>
      rw [goes]
      exact ⟨blocks, passage_same config (some h) heap _ blocks kept rfl⟩
  | unreleased before after id created whole n next served full goes filled =>
      have first := copied_passage config heap next size whole place before after id created n served room
      rw [goes]
      exact ⟨_, passage_trans config (some h) heap _ _ _ _ _ first (passage_same config (some h) _ _ _ filled rfl)
        (still before after id created whole n next sound served)⟩
  | moved before after before' after' ahead behind id created survivor whole size' whole' merges n next freed served
      filled frees goes kept =>
      have first := copied_passage config heap next size whole place before after id created n served room
      rw [sound_blocks_same config _ _ _ first.sound filled] at first
      obtain ⟨_, continues, gives⟩ :=
        freed_passage config _ freed h before' after' ahead behind place.id survivor size' whole' merges
        filled frees
      rw [goes]
      exact ⟨_, passage_trans config (some h) heap _ _ _ _ _ first ⟨kept, continues, gives⟩
        (still before after id created whole n next sound served)⟩

theorem resize_passage (config : PoolConfig) (geometry : Geometry config) (heap : Heap) (blocks : List LinkedSpan)
    (h : Option Handle) (size : Nat) (sound : Sound config heap blocks) (room : heap.handles.slots.size < UInt32.size) :
    ∃ blocks', Passage config h heap blocks ((Heap.resize h size).attempt heap).2 blocks' := by
  rcases resize_cases config geometry heap blocks h size sound with ⟨_, stopped⟩ | ⟨counted, outcome⟩
  · rw [stopped]
    exact ⟨blocks, passage_same config h heap heap blocks sound rfl⟩
  · have first := passage_same config none heap (resizing heap) blocks counted rfl
    cases outcome with
    | allocates goes =>
        rw [goes]
        obtain ⟨blocks', second⟩ := alloc_passage config geometry (resizing heap) blocks size counted room
        exact ⟨blocks', passage_trans config none heap _ _ _ _ _ first second fun _ _ => rfl⟩
    | frees h zero goes =>
        rw [goes]
        obtain ⟨blocks', second⟩ := free_passage config geometry (resizing heap) blocks (some h) counted
        exact ⟨blocks', passage_trans config (some h) heap _ _ _ _ _ first second fun _ _ => rfl⟩
    | ignores h nonzero unknown goes =>
        rw [goes]
        exact ⟨blocks, passage_same config (some h) heap _ blocks counted rfl⟩
    | stays h place nonzero member known fits goes kept =>
        rw [goes]
        exact ⟨blocks, passage_same config (some h) heap _ blocks kept rfl⟩
    | moves h place nonzero member known grows slack goes =>
        rw [goes]
        obtain ⟨blocks', second⟩ :=
          move_passage config geometry (resizing heap) blocks h place size counted room member known grows slack
        exact ⟨blocks', passage_trans config (some h) heap _ _ _ _ _ first second fun _ _ => rfl⟩

theorem arena_only_passage {α : Type} (config : PoolConfig) (subject : Option Handle) (heap : Heap) (blocks : List LinkedSpan)
    (step : Step Heap α) (only : ArenaOnly step) (sound : Sound config heap blocks) :
    ∃ blocks', Passage config subject heap blocks (step.attempt heap).2 blocks' := by
  obtain ⟨arena, same, capacity⟩ := only heap
  rw [same]
  exact ⟨blocks, passage_same config subject heap _ blocks (sound_arena config heap blocks arena sound capacity) rfl⟩

def PoolRequest.subject {α : Type} : PoolRequest α → Option Handle
  | .act call => call.subject
  | _ => none

theorem request_passage {α : Type} (config : PoolConfig) (geometry : Geometry config) (heap : Heap) (blocks : List LinkedSpan)
    (request : PoolRequest α) (sound : Sound config heap blocks) (room : heap.handles.slots.size < UInt32.size) :
    ∃ blocks', Passage config request.subject heap blocks (request.work.attempt heap).2 blocks' := by
  cases request with
  | act call =>
      cases call with
      | alloc size => exact alloc_passage config geometry heap blocks size sound room
      | free h => exact free_passage config geometry heap blocks h sound
      | resize h size => exact resize_passage config geometry heap blocks h size sound room
      | read h offset len => exact arena_only_passage config _ heap blocks _ (read_arena_only h offset len) sound
      | write h offset data => exact arena_only_passage config _ heap blocks _ (write_arena_only h offset data) sound
      | withPayload h look => exact arena_only_passage config _ heap blocks _ (with_payload_arena_only h look) sound
      | editPayload h edit => exact arena_only_passage config _ heap blocks _ (edit_payload_arena_only h edit) sound
      | usableSize h => exact arena_only_passage config _ heap blocks _ (arena_only_query _) sound
      | deinit => exact ⟨blocks, passage_same config _ heap heap blocks sound rfl⟩
  | isInitialized => exact ⟨blocks, passage_same config _ heap heap blocks sound rfl⟩
  | liveAllocations => exact ⟨blocks, passage_same config _ heap heap blocks sound rfl⟩
  | _ => exact arena_only_passage config _ heap blocks _ (arena_only_query _) sound

def Holding (config : PoolConfig) (heap : Heap) (h : Handle) (place : Place) : Prop :=
  ∃ blocks, Sound config heap blocks ∧ place ∈ places config.headerOverhead 0 blocks ∧ heap.resolve h = some place.id

theorem holding_or_spent (config : PoolConfig) (subject : Option Handle) (heap next : Heap)
    (blocks blocks' : List LinkedSpan) (h : Handle) (place : Place) (sound : Sound config heap blocks)
    (recorded : Recorded heap.handles) (passage : Passage config subject heap blocks next blocks')
    (holding : Holding config heap h place) :
    Holding config next h place ∨ Spent next.handles h := by
  obtain ⟨blocks'', sound'', member, known⟩ := holding
  cases sound_blocks_same config heap blocks blocks'' sound sound''
  rcases resolving_or_spent heap.handles next.handles h place.id recorded passage.continues known with still | spent
  · rcases passage.gives place member with kept | ⟨k, _, resolved, gone⟩
    · exact .inl ⟨blocks', passage.sound, kept, still⟩
    · by_cases same : k = h
      · rw [Heap.resolve, same, still] at gone
        cases gone
      · exact absurd rfl (sound_distinct config heap blocks sound k h same _ _ resolved known)
  · exact .inr spent

end BlockPool
