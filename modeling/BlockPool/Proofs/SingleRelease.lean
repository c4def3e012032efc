import BlockPool.Proofs.HeapViews
import BlockPool.Proofs.IssuedHandles
import BlockPool.Proofs.PoolMemory

set_option autoImplicit false

namespace BlockPool

def usedBlocks (pool : Pool) : List BlockInfo :=
  match (Pool.blocks.attempt pool).1 with
  | .ok infos => infos.filter fun info => !info.free
  | .error _ => []

def PoolRequest.released {α : Type} (request : PoolRequest α) (pool : Pool) : List BlockInfo :=
  (usedBlocks pool).filter fun info => !(usedBlocks (request.after pool)).contains info

-- The blocks that are released, in a run of requests, by those that are made with `h`.
def releasedFor {α : Type} (h : Handle) : Pool → List (PoolRequest α) → List BlockInfo
  | _, [] => []
  | pool, request :: rest =>
    (if request.subject = some h then request.released pool else []) ++ releasedFor h (request.after pool) rest

def PoolRequest.issued {α : Type} : (request : PoolRequest α) → request.Answer → Option Handle
  | .act (.alloc _), answer => answer
  | .act (.resize _ _), answer => answer
  | _, _ => none

def HandsOut {α : Type} (request : PoolRequest α) (pool : Pool) (h : Handle) : Prop :=
  ∃ answer, (request.perform.attempt pool).1 = .ok answer ∧ request.issued answer = some h

def RoomAlong {α : Type} : Pool → List (PoolRequest α) → Prop
  | pool, [] => RoomForHandles pool
  | pool, request :: rest => RoomForHandles pool ∧ RoomAlong (request.after pool) rest

def Place.info (overhead : Nat) (place : Place) : BlockInfo := ⟨place.start - overhead, place.start, place.size, false⟩

theorem described_used (overhead offset : Nat) (blocks : List LinkedSpan) :
    (describeSpans overhead offset (spansOf blocks)).filter (fun info => !info.free) =
      (places overhead offset blocks).map (Place.info overhead) := by
  induction blocks generalizing offset with
  | nil => rfl
  | cons block rest ih =>
      obtain ⟨id, size, free⟩ := block
      cases free with
      | true => simp only [spans_of_cons, describeSpans, List.filter_cons, Bool.not_true, Bool.false_eq_true,
          if_false, places_free, ih]
      | false =>
          simp only [spans_of_cons, describeSpans, List.filter_cons, Bool.not_false, if_true, places_used,
            List.map_cons, ih, Place.info,
            Nat.add_sub_cancel]

theorem used_blocks_places (config : PoolConfig) (geometry : Geometry config) (pool : Pool) (heap : Heap) (blocks : List LinkedSpan)
    (opened : pool.heap = some heap) (sound : Sound config heap blocks) :
    usedBlocks pool = (places config.headerOverhead 0 blocks).map (Place.info config.headerOverhead) := by
  obtain ⟨answer, _⟩ := on_heap_open [] (Step.query fun heap => heap.registry.blocks) pool heap opened
  have shown : (Pool.blocks.attempt pool).1 = .ok (describeSpans config.headerOverhead 0 (spansOf blocks)) := by
    refine Eq.trans answer ?_
    rw [query_answer]
    exact charted_blocks config geometry heap.registry blocks sound.registry.charted
  rw [usedBlocks, shown]
  exact described_used config.headerOverhead 0 blocks

theorem used_blocks_closed (pool : Pool) (closed : pool.heap = none) : usedBlocks pool = [] := by
  obtain ⟨answer, _⟩ := on_heap_closed [] (Step.query fun heap : Heap => heap.registry.blocks) pool closed
  have shown : (Pool.blocks.attempt pool).1 = .ok [] := answer
  rw [usedBlocks, shown]
  rfl

theorem filter_single {β : Type} (values : List β) (value : β) (keep : β → Bool) (distinct : values.Nodup)
    (only : ∀ other ∈ values, keep other = true → other = value) :
    values.filter keep = [] ∨ values.filter keep = [value] := by
  have same : ∀ other ∈ values.filter keep, other = value := by
    intro other member
    obtain ⟨inside, kept⟩ := List.mem_filter.mp member
    exact only other inside kept
  have once := distinct.filter keep
  cases kept : values.filter keep with
  | nil => exact .inl rfl
  | cons first rest =>
      rw [kept] at same once
      cases rest with
      | nil => exact .inr (congrArg (fun other => [other]) (same first List.mem_cons_self))
      | cons second others =>
          have equal : first = second := (same first (by simp)).trans (same second (by simp)).symm
          exact absurd equal (fun equal => (List.nodup_cons.mp once).1 (equal ▸ List.mem_cons_self))

theorem request_released (config : PoolConfig) (geometry : Geometry config) {α : Type} (request : PoolRequest α)
    (pool : Pool) (heap : Heap) (blocks blocks' : List LinkedSpan) (going : request ≠ .act .deinit)
    (opened : pool.heap = some heap) (sound : Sound config heap blocks)
    (passage : Passage config request.subject heap blocks (request.work.attempt heap).2 blocks') :
    request.released pool = ((places config.headerOverhead 0 blocks).filter fun place =>
      !((places config.headerOverhead 0 blocks').map (Place.info config.headerOverhead)).contains
        (place.info config.headerOverhead)).map (Place.info config.headerOverhead) := by
  obtain ⟨_, left⟩ := request_open request going pool heap opened
  rw [PoolRequest.released, used_blocks_places config geometry pool heap blocks opened sound,
    used_blocks_places config geometry _ _ blocks' left passage.sound, List.filter_map]
  rfl

-- Whoever makes a request with a handle releases the block it stands for or none, and in the first case the handle is gone.
theorem release_by_holder {α : Type} (config : PoolConfig) (geometry : Geometry config) (request : PoolRequest α)
    (pool : Pool) (heap : Heap) (blocks blocks' : List LinkedSpan) (h : Handle) (place : Place)
    (going : request ≠ .act .deinit) (opened : pool.heap = some heap) (sound : Sound config heap blocks)
    (passage : Passage config request.subject heap blocks (request.work.attempt heap).2 blocks')
    (named : request.subject = some h) (known : heap.resolve h = some place.id)
    (member : place ∈ places config.headerOverhead 0 blocks) :
    request.released pool = [] ∨
      (request.released pool = [place.info config.headerOverhead] ∧ (request.work.attempt heap).2.resolve h = none) := by
  have distinct := charted_places_distinct config heap.registry blocks sound.registry.charted
  have losing : ∀ other ∈ places config.headerOverhead 0 blocks, other ∉ places config.headerOverhead 0 blocks' →
      other = place ∧ (request.work.attempt heap).2.resolve h = none := by
    intro other inside lost
    rcases passage.gives other inside with kept | ⟨k, same, resolved, gone⟩
    · exact absurd kept lost
    · rw [named] at same
      cases same
      rw [known] at resolved
      exact ⟨List.inj_on_of_nodup_map distinct inside member (Option.some.inj resolved).symm, gone⟩
  have missing : ∀ other ∈ places config.headerOverhead 0 blocks,
      (!((places config.headerOverhead 0 blocks').map (Place.info config.headerOverhead)).contains
        (other.info config.headerOverhead)) = true →
        other ∉ places config.headerOverhead 0 blocks' := by
    intro other _ absent inside
    simp only [Bool.not_eq_true', List.contains_eq_mem, decide_eq_false_iff_not] at absent
    exact absent (List.mem_map_of_mem inside)
  rw [request_released config geometry request pool heap blocks blocks' going opened sound passage]
  by_cases lost : place ∈ places config.headerOverhead 0 blocks'
  · refine .inl ?_
    rw [List.map_eq_nil_iff, List.filter_eq_nil_iff]
    intro other inside absent
    have outside := missing other inside absent
    exact outside ((losing other inside outside).1 ▸ lost)
  · obtain ⟨_, gone⟩ := losing place member lost
    rcases filter_single (places config.headerOverhead 0 blocks) place _ distinct.of_map
        (fun other inside absent => (losing other inside (missing other inside absent)).1) with nothing | single
    · exact .inl (by rw [nothing, List.map_nil])
    · exact .inr ⟨by rw [single, List.map_cons, List.map_nil], gone⟩

theorem release_by_other {α : Type} (config : PoolConfig) (geometry : Geometry config) (request : PoolRequest α)
    (pool : Pool) (heap : Heap) (blocks blocks' : List LinkedSpan) (h : Handle) (going : request ≠ .act .deinit)
    (opened : pool.heap = some heap) (sound : Sound config heap blocks)
    (passage : Passage config request.subject heap blocks (request.work.attempt heap).2 blocks')
    (named : request.subject = some h) (unknown : heap.resolve h = none) : request.released pool = [] := by
  rw [request_released config geometry request pool heap blocks blocks' going opened sound passage, List.map_eq_nil_iff,
    List.filter_eq_nil_iff]
  intro place member absent
  simp only [Bool.not_eq_true', List.contains_eq_mem, decide_eq_false_iff_not] at absent
  rcases passage.gives place member with kept | ⟨k, same, resolved, _⟩
  · exact absent (List.mem_map_of_mem kept)
  · rw [named] at same
    cases same
    rw [unknown] at resolved
    cases resolved

theorem closed_releases {α : Type} (request : PoolRequest α) (pool : Pool) (closed : pool.heap = none) :
    request.released pool = [] := by
  rw [PoolRequest.released, used_blocks_closed pool closed]
  rfl

theorem subject_goes_on {α : Type} (request : PoolRequest α) (h : Handle) (named : request.subject = some h) :
    request ≠ .act .deinit := by
  rintro rfl
  cases named

-- Where a pool is with a handle it has issued: it holds the place for it, or the handle is spent.
def Keeps (config : PoolConfig) (pool : Pool) (h : Handle) (place : Place) : Prop :=
  ∀ heap, pool.heap = some heap → Recorded heap.handles ∧ (Holding config heap h place ∨ Spent heap.handles h)

theorem request_keeps {α : Type} (config : PoolConfig) (geometry : Geometry config) (request : PoolRequest α)
    (pool : Pool) (h : Handle) (place : Place) (room : RoomForHandles pool) (maintained : Maintained config pool)
    (keeps : Keeps config pool h place) :
    Keeps config (request.after pool) h place := by
  intro next left
  obtain ⟨heap, opened, _, rfl⟩ := request_left request pool next left
  obtain ⟨blocks, sound⟩ := maintained heap opened
  obtain ⟨recorded, state⟩ := keeps heap opened
  obtain ⟨blocks', passage⟩ := request_passage config geometry heap blocks request sound (room heap opened)
  refine ⟨continues_recorded _ _ passage.continues recorded, ?_⟩
  rcases state with holding | spent
  · exact holding_or_spent config request.subject heap _ blocks blocks' h place sound recorded passage holding
  · exact .inr (spent_stays _ _ h passage.continues spent)

theorem spent_releases {α : Type} (config : PoolConfig) (geometry : Geometry config) (requests : List (PoolRequest α))
    (pool : Pool) (h : Handle) (room : RoomAlong pool requests) (maintained : Maintained config pool)
    (spent : ∀ heap, pool.heap = some heap → Spent heap.handles h) : releasedFor h pool requests = [] := by
  induction requests generalizing pool with
  | nil => rfl
  | cons request rest ih =>
      obtain ⟨here, along⟩ := room
      have next := request_kept config geometry request pool maintained
      have still : ∀ heap, (request.after pool).heap = some heap → Spent heap.handles h := by
        intro after left
        obtain ⟨heap, opened, _, rfl⟩ := request_left request pool after left
        obtain ⟨blocks, sound⟩ := maintained heap opened
        obtain ⟨blocks', passage⟩ := request_passage config geometry heap blocks request sound (here heap opened)
        exact spent_stays _ _ h passage.continues (spent heap opened)
      rw [releasedFor, ih (request.after pool) along next still, List.append_nil]
      by_cases named : request.subject = some h
      · rw [if_pos named]
        cases opened : pool.heap with
        | none => exact closed_releases request pool opened
        | some heap =>
            obtain ⟨blocks, sound⟩ := maintained heap opened
            obtain ⟨blocks', passage⟩ := request_passage config geometry heap blocks request sound (here heap opened)
            exact release_by_other config geometry request pool heap blocks blocks' h (subject_goes_on request h named)
              opened sound passage
              named (spent_unknown heap.handles h (spent heap opened))
      · rw [if_neg named]

theorem kept_releases_once {α : Type} (config : PoolConfig) (geometry : Geometry config)
    (requests : List (PoolRequest α)) (pool : Pool) (h : Handle) (place : Place) (room : RoomAlong pool requests)
    (maintained : Maintained config pool) (keeps : Keeps config pool h place) :
    releasedFor h pool requests = [] ∨ releasedFor h pool requests = [place.info config.headerOverhead] := by
  induction requests generalizing pool with
  | nil => exact .inl rfl
  | cons request rest ih =>
      obtain ⟨here, along⟩ := room
      have next := request_kept config geometry request pool maintained
      have still := request_keeps config geometry request pool h place here maintained keeps
      have later := ih (request.after pool) along next still
      by_cases named : request.subject = some h
      · rw [releasedFor, if_pos named]
        have going := subject_goes_on request h named
        cases opened : pool.heap with
        | none =>
            rw [closed_releases request pool opened, List.nil_append]
            exact later
        | some heap =>
            obtain ⟨blocks, sound⟩ := maintained heap opened
            obtain ⟨recorded, state⟩ := keeps heap opened
            obtain ⟨blocks', passage⟩ := request_passage config geometry heap blocks request sound (here heap opened)
            rcases state with ⟨blocks'', sound'', member, known⟩ | spent
            · cases sound_blocks_same config heap blocks blocks'' sound sound''
              rcases release_by_holder config geometry request pool heap blocks blocks' h place going opened sound
                passage named known member
                with nothing | ⟨single, gone⟩
              · rw [nothing, List.nil_append]
                exact later
              · -- once it has released its block the handle is spent
                have left := (request_open request going pool heap opened).2
                have exhausted : ∀ heap, (request.after pool).heap = some heap → Spent heap.handles h := by
                  intro heap' opened'
                  rw [left] at opened'
                  cases opened'
                  rcases (still _ left).2 with ⟨_, _, _, resolved⟩ | spent
                  · rw [gone] at resolved
                    cases resolved
                  · exact spent
                rw [single, spent_releases config geometry rest _ h along next exhausted, List.append_nil]
                exact .inr rfl
            · rw [release_by_other config geometry request pool heap blocks blocks' h going opened sound passage named
                (spent_unknown heap.handles h spent), List.nil_append]
              exact later
      · rw [releasedFor, if_neg named, List.nil_append]
        exact later

theorem moved_entry (config : PoolConfig) (made : Nat) (memory memory' : Memory) (h : Option Handle) (size : Nat) (n : Handle)
    (agrees : ResizeAgrees config made memory h size (.ok (some n)) memory') : ∃ bytes, memory' n = some bytes := by
  cases h with
  | none =>
      obtain ⟨_, _, bytes, _, _, rfl⟩ := agrees
      exact ⟨bytes, put_same memory n _⟩
  | some h =>
      simp only [ResizeAgrees] at agrees
      split at agrees
      · cases agrees.1
      · split at agrees
        · cases agrees.1
        · rename_i bytes held
          split at agrees
          · cases agrees.1
            exact ⟨bytes, by rw [agrees.2, held]⟩
          · obtain ⟨_, rest, _, _, rfl⟩ := agrees
            exact ⟨bytes ++ rest, put_same _ n _⟩

theorem issued_entry {α : Type} (config : PoolConfig) (geometry : Geometry config) (request : PoolRequest α) (heap : Heap)
    (blocks : List LinkedSpan) (answer : request.Answer) (h : Handle) (sound : Sound config heap blocks)
    (room : heap.handles.slots.size < UInt32.size) (answered : (request.work.attempt heap).1 = .ok answer)
    (handed : request.issued answer = some h) : ∃ bytes, contents (request.work.attempt heap).2 h = some bytes := by
  -- the reference machine says what is behind a handle that is answered, whatever was counted so far
  have counted : Counted (heap.metrics.allocCalls + heap.metrics.freeCalls + heap.metrics.resizeCalls) heap.metrics := by
    constructor <;> omega
  cases request with
  | act call =>
      cases call with
      | alloc size =>
          have agrees := alloc_agrees config geometry heap blocks size _ sound room counted.allocs
          have served : ((Heap.alloc size).attempt heap).1 = .ok (some h) := answered.trans (congrArg Except.ok handed)
          rw [served] at agrees
          obtain ⟨_, _, bytes, _, _, same⟩ := agrees
          exact ⟨bytes, (congrFun same h).trans (put_same _ h _)⟩
      | resize k size =>
          have agrees := resize_agrees config geometry heap blocks k size _ sound room counted
          have served : ((Heap.resize k size).attempt heap).1 = .ok (some h) := answered.trans (congrArg Except.ok handed)
          rw [served] at agrees
          exact moved_entry config _ _ _ k size h agrees
      | _ => cases handed
  | _ => cases handed

theorem handed_out_keeps {α : Type} (config : PoolConfig) (geometry : Geometry config) (request : PoolRequest α)
    (pool : Pool) (h : Handle) (room : RoomForHandles pool) (maintained : Maintained config pool)
    (recorded : ∀ heap, pool.heap = some heap → Recorded heap.handles) (handed : HandsOut request pool h) :
    ∃ place, Keeps config (request.after pool) h place ∧
      ((Pool.locate h).attempt (request.after pool)).1 = .ok (some (place.info config.headerOverhead)) := by
  obtain ⟨answer, answered, issued⟩ := handed
  cases opened : pool.heap with
  | none =>
      rw [(request_closed request pool opened).1] at answered
      cases answered
      cases request with
      | act call => cases call <;> cases issued
      | _ => cases issued
  | some heap =>
      by_cases closing : request = .act .deinit
      · subst closing
        cases issued
      · obtain ⟨same, left⟩ := request_open request closing pool heap opened
        obtain ⟨blocks, sound⟩ := maintained heap opened
        obtain ⟨blocks', passage⟩ := request_passage config geometry heap blocks request sound (room heap opened)
        obtain ⟨bytes, held⟩ :=
          issued_entry config geometry request heap blocks answer h sound (room heap opened) (same.symm.trans answered)
          issued
        rcases contents_cases config geometry _ blocks' h passage.sound with ⟨_, nothing⟩ | ⟨place, member, known, _⟩
        · rw [nothing] at held
          cases held
        · refine ⟨place, fun heap' opened' => ?_, ?_⟩
          · rw [left] at opened'
            cases opened'
            exact ⟨continues_recorded _ _ passage.continues (recorded heap opened),
              .inl ⟨blocks', passage.sound, member, known⟩⟩
          · obtain ⟨located, _⟩ := on_heap_open none (Step.query fun heap => heap.locate h) _ _ left
            refine Eq.trans located ?_
            rw [query_answer]
            exact locate_place config geometry _ blocks' h place passage.sound member known

end BlockPool
