import BlockPool.Proofs.LockRecovery
import BlockPool.Proofs.Preserved
import BlockPool.Proofs.Refusals

set_option autoImplicit false

namespace BlockPool

open Heap

-- The pools of a process in the order they were made, each at its number; a pool that was dropped leaves its place. Their ids
-- are drawn from one counter.
structure Process where
  counter : PoolCounter := {}
  pools : List (Option Pool) := []

inductive ProcessAct (α : Type) where
  | create (config : PoolConfig)
  | ask (number : Nat) (use : PoolUse α)
  | drop (number : Nat)

def Process.welcome (process : Process) : Except Abort (Except ConfigError Pool) × PoolCounter → Process
  | (.ok (.ok pool), counter) => ⟨counter, process.pools ++ [some pool]⟩
  | (_, counter) => ⟨counter, process.pools⟩

def ProcessAct.after {α : Type} (act : ProcessAct α) (process : Process) : Process :=
  match act with
  | .create config => process.welcome ((Pool.init config).attempt process.counter)
  | .ask number use => ⟨process.counter, process.pools.modify number (Option.map use.after)⟩
  | .drop number => ⟨process.counter, process.pools.set number none⟩

def afterActs {α : Type} (acts : List (ProcessAct α)) (process : Process) : Process :=
  acts.foldl (fun process act => act.after process) process

def Process.Alive (process : Process) (number : Nat) (pool : Pool) : Prop := process.pools[number]? = some (some pool)

-- In this run the pool with this number hands out `h`, whether or not it is dropped later.
def HandedBy {α : Type} (number : Nat) (h : Handle) : Process → List (ProcessAct α) → Prop
  | _, [] => False
  | process, act :: rest =>
    (∃ request pool, act = .ask number (.asks request) ∧ process.Alive number pool ∧ HandsOut request pool h) ∨
      HandedBy number h (act.after process) rest

-- A pool that has nothing for this handle: nothing resolves, is read, changed or moved through it.
structure Rejects (α : Type) (pool : Pool) (h : Handle) : Prop where
  unknown : ¬ Live pool h
  untouched : ∀ request : PoolRequest α, request.handle = some h → Untouched pool request
  unanswered : ∀ (request : PoolRequest α) (k : Handle), request.handle = some h → ¬ HandsOut request pool k

theorem insert_names (t next : HandleTable) (block : BlockId) (h : Handle) (orderly : Orderly t) (few : t.live + 1 < Word.bound)
    (ran : HandleTable.insert block t = .ok h next) : h.pool = t.pool := by
  rcases insert_cases t block orderly few with ⟨_, _, _, _, _, ran'⟩ | ⟨_, ran'⟩
  · cases ran.symm.trans ran'
    rfl
  · cases ran.symm.trans ran'
    rfl

section Names

variable (config : PoolConfig) (geometry : Geometry config) (heap : Heap) (blocks : List LinkedSpan)
  (sound : Sound config heap blocks)

include geometry sound

theorem alloc_names (size : Nat) (h : Handle) (answered : ((Heap.alloc size).attempt heap).1 = .ok (some h)) :
    h.pool = heap.handles.pool := by
  rcases alloc_block_cases config geometry heap blocks size sound with
    ⟨_, stopped⟩ | ⟨_, refused, _⟩ | ⟨before, id, whole, after, created, issued, next, rfl, served⟩
  · rw [attempt_error _ heap heap .overflow (alloc_stopped heap size .overflow stopped)] at answered
    cases answered
  · rw [attempt_ok _ heap _ _ (alloc_ran heap _ size _ refused)] at answered
    cases answered
  · rw [attempt_ok _ heap next _ (alloc_ran heap next size _ served.ran)] at answered
    cases answered
    exact insert_names heap.handles next.handles id issued sound.handles (sound_live config geometry heap _ sound) served.issued

theorem move_names (k : Handle) (place : Place) (size : Nat) (h : Handle) (member : place ∈ places config.headerOverhead 0 blocks)
    (known : heap.resolve k = some place.id) (grows : place.size < size)
    (slack : heap.metrics.resizeInPlace + heap.metrics.resizeMoved + heap.metrics.resizeFailures < heap.metrics.resizeCalls)
    (answered : ((Heap.move k place.start place.size size).attempt heap).1 = .ok (some h)) : h.pool = heap.handles.pool := by
  cases move_cases config geometry heap blocks k place size sound member known grows slack with
  | uncounted _ full goes =>
      rw [goes] at answered
      cases answered
  | refused _ unserved goes kept =>
      rw [goes] at answered
      cases answered
  | unreleased before after id created whole n next served full goes filled =>
      rw [goes] at answered
      cases answered
  | moved before after _ _ _ _ id created _ whole _ _ _ n next freed served filled frees goes kept =>
      rw [goes] at answered
      cases answered
      exact insert_names heap.handles next.handles id h sound.handles (sound_live config geometry heap _ sound) served.issued

theorem resize_names (k : Option Handle) (size : Nat) (h : Handle)
    (answered : ((Heap.resize k size).attempt heap).1 = .ok (some h)) :
    h.pool = heap.handles.pool ∧ ∀ n, k = some n → heap.resolve n ≠ none := by
  rcases resize_cases config geometry heap blocks k size sound with ⟨_, stopped⟩ | ⟨counted, outcome⟩
  · rw [stopped] at answered
    cases answered
  · cases outcome with
    | allocates goes =>
        rw [goes] at answered
        exact ⟨alloc_names config geometry (resizing heap) blocks counted size h answered, nofun⟩
    | frees k zero goes =>
        rw [goes] at answered
        cases freed : ((Heap.free (some k)).attempt (resizing heap)).1 <;> rw [freed] at answered <;> cases answered
    | ignores k nonzero unknown goes =>
        rw [goes] at answered
        cases answered
    | stays k place nonzero member known fits goes kept =>
        rw [goes] at answered
        cases answered
        refine ⟨((get_some_iff heap.handles h place.id).mp known).1, fun n same unknown => ?_⟩
        cases same
        cases unknown.symm.trans known
    | moves k place nonzero member known grows slack goes =>
        rw [goes] at answered
        refine ⟨move_names config geometry (resizing heap) blocks counted k place size h member known grows slack answered,
          fun n same unknown => ?_⟩
        cases same
        cases unknown.symm.trans known

end Names

def namedLaw (id : PoolId) : PoolLaw := fun _ t _ => t.pool = id

theorem name_preserved (config : PoolConfig) (geometry : Geometry config) (id : PoolId) : Preserved config (namedLaw id) where
  served := by
    intro heap next size whole before after block created h returned sound served named
    have live := sound_live config geometry heap _ sound
    exact (insert_orderly heap.handles block sound.handles live h next.handles served.issued).2.1.trans named
  freed := by
    intro heap next h before after ahead behind block survivor size whole merges returned sound freed named
    rw [freed.handles]
    exact named

structure Named (name : PoolId) (pool : Pool) : Prop where
  id : pool.id = name
  kept : ∃ config : PoolConfig, config.Valid ∧ ∀ heap, pool.heap = some heap → Obeys config (namedLaw name) heap

theorem use_keeps_name {α : Type} (name : PoolId) (use : PoolUse α) (pool : Pool) (named : Named name pool) :
    Named name (use.after pool) := by
  obtain ⟨id, config, valid, obeys⟩ := named
  have geometry := valid_geometry config valid
  refine ⟨(use_named use pool).1.trans id, config, valid, fun next left => ?_⟩
  cases use with
  | asks request =>
      obtain ⟨heap, opened, _, rfl⟩ := request_left request pool next left
      exact request_obeys config geometry (namedLaw name) (name_preserved config geometry name) request heap (obeys heap opened)
  | metrics =>
      cases opened : pool.heap with
      | none =>
          have closed := (on_heap_closed none (Step.query fun heap => .ok (some heap.metrics)) pool opened).2
          cases closed.symm.trans left
      | some heap =>
          have still := (on_heap_open none (Step.query fun heap => .ok (some heap.metrics)) pool heap opened).2
          cases still.symm.trans left
          exact obeys heap opened
  | text => exact obeys next left

theorem hands_out_cases {α : Type} (request : PoolRequest α) (pool : Pool) (h : Handle) (handed : HandsOut request pool h) :
    ∃ heap, pool.heap = some heap ∧
      ((∃ size, request = .act (.alloc size) ∧ ((Heap.alloc size).attempt heap).1 = .ok (some h)) ∨
        ∃ k size, request = .act (.resize k size) ∧ ((Heap.resize k size).attempt heap).1 = .ok (some h)) := by
  obtain ⟨answer, answered, issued⟩ := handed
  cases opened : pool.heap with
  | none =>
      rw [(request_closed request pool opened).1] at answered
      cases answered
      cases request with
      | act call => cases call <;> cases issued
      | _ => cases issued
  | some heap =>
      refine ⟨heap, rfl, ?_⟩
      cases request with
      | act call =>
          cases call with
          | alloc size =>
              rw [(request_open (.act (.alloc size)) (by simp) pool heap opened).1, show answer = some h from issued] at answered
              exact .inl ⟨size, rfl, answered⟩
          | resize k size =>
              rw [(request_open (.act (.resize k size)) (by simp) pool heap opened).1, show answer = some h from issued] at answered
              exact .inr ⟨k, size, rfl, answered⟩
          | _ => cases issued
      | _ => cases issued

theorem handed_name {α : Type} (name : PoolId) (request : PoolRequest α) (pool : Pool) (h : Handle) (named : Named name pool)
    (handed : HandsOut request pool h) : h.pool = name := by
  obtain ⟨_, config, valid, obeys⟩ := named
  have geometry := valid_geometry config valid
  obtain ⟨heap, opened, outcome⟩ := hands_out_cases request pool h handed
  obtain ⟨blocks, _, sound, _, same⟩ := obeys heap opened
  rcases outcome with ⟨size, _, answered⟩ | ⟨k, size, _, answered⟩
  · exact (alloc_names config geometry heap blocks sound size h answered).trans same
  · exact (resize_names config geometry heap blocks sound k size h answered).1.trans same

theorem foreign_rejected {α : Type} (name : PoolId) (pool : Pool) (h : Handle) (named : Named name pool)
    (foreign : h.pool ≠ name) :
    Rejects α pool h := by
  obtain ⟨_, config, valid, obeys⟩ := named
  have geometry := valid_geometry config valid
  have unknown : ¬ Live pool h := by
    intro ⟨heap, id, opened, known⟩
    obtain ⟨_, _, _, _, same⟩ := obeys heap opened
    exact foreign (((get_some_iff heap.handles h id).mp known).1.trans same)
  have maintained : Maintained config pool := by
    intro heap opened
    obtain ⟨blocks, _, sound, _⟩ := obeys heap opened
    exact ⟨blocks, sound⟩
  refine ⟨unknown, fun request asked => ?_, fun request k asked handed => ?_⟩
  · exact refused_untouched config geometry pool request maintained (.dead request h asked unknown)
  · obtain ⟨heap, opened, outcome⟩ := hands_out_cases request pool k handed
    obtain ⟨blocks, _, sound, _⟩ := obeys heap opened
    rcases outcome with ⟨size, rfl, _⟩ | ⟨other, size, rfl, answered⟩
    · cases asked
    · cases (show other = some h from asked)
      exact (resize_names config geometry heap blocks sound (some h) size k answered).2 h rfl
        (dead_unknown pool heap h opened unknown)

def PoolCounter.name (counter : PoolCounter) (number : Nat) : PoolId := ⟨counter.upcoming + UInt32.ofNat number⟩

theorem same_name_iff (counter : PoolCounter) (i j : Nat) :
    counter.name i = counter.name j ↔ i % UInt32.size = j % UInt32.size := by
  rw [PoolCounter.name, PoolCounter.name, PoolId.mk.injEq, UInt32.add_right_inj, ← UInt32.toNat_inj, UInt32.toNat_ofNat',
    UInt32.toNat_ofNat']

theorem next_name (counter : PoolCounter) (number : Nat) :
    counter.upcoming + UInt32.ofNat number + 1 = counter.upcoming + UInt32.ofNat (number + 1) := by
  rw [UInt32.ofNat_add, UInt32.add_assoc]
  rfl

theorem valid_draws (config : PoolConfig) (valid : config.Valid) (counter : PoolCounter) :
    ∃ pool, (Pool.init config).attempt counter = (.ok (.ok pool), ⟨counter.upcoming + 1⟩) ∧
      Named ⟨counter.upcoming⟩ pool := by
  obtain ⟨pool, next, heap, made, opened, id, _, handles, metrics, sound⟩ := init_pool config valid counter
  have drawn : next = ⟨counter.upcoming + 1⟩ := by
    have ran := made
    unfold Pool.init at ran
    obtain ⟨_, _, checked, ran⟩ := step_bind_ran _ _ _ _ _ ran
    rw [show config.validate.run = .ok (.ok ()) from valid] at checked
    cases checked
    obtain ⟨_, _, draws, ran⟩ := step_bind_ran _ _ _ _ _ ran
    cases draws
    obtain ⟨_, _, fresh, ran⟩ := step_bind_ran _ _ _ _ _ ran
    cases lift_ran _ _ _ _ fresh
    obtain ⟨_, _, counted, ran⟩ := step_bind_ran _ _ _ _ _ ran
    cases lift_ran _ _ _ _ counted
    cases ran
    rfl
  refine ⟨pool, drawn ▸ attempt_ok _ counter next _ made, id, config, valid, fun heap' opened' => ?_⟩
  cases opened.symm.trans opened'
  exact ⟨_, 0, sound, by rw [metrics], by rw [handles, namedLaw, id]; rfl⟩

theorem init_draws (config : PoolConfig) (counter : PoolCounter) :
    (∃ pool, (Pool.init config).attempt counter = (.ok (.ok pool), ⟨counter.upcoming + 1⟩) ∧
      Named ⟨counter.upcoming⟩ pool) ∨
      ∃ outcome, (Pool.init config).attempt counter = (outcome, counter) ∧ ∀ pool, outcome ≠ .ok (.ok pool) := by
  cases checked : config.validate.run with
  | error reason =>
      refine .inr ⟨.error reason, ?_, fun pool same => by cases same⟩
      have stopped : (Step.ofExcept config.validate.run : Step PoolCounter _) counter = .error reason counter := by
        rw [checked]
        rfl
      exact attempt_error _ counter counter reason (step_bind_error _ _ _ _ _ stopped)
  | ok verdict =>
      cases verdict with
      | error e =>
          have judged : (Step.ofExcept config.validate.run : Step PoolCounter _) counter = .ok (.error e) counter := by
            rw [checked]
            rfl
          exact .inr ⟨.ok (.error e), attempt_ok _ counter counter _ (step_bind_ok _ _ _ _ _ judged),
            fun pool same => by cases same⟩
      | ok _ => exact .inl (valid_draws config checked counter)

-- The pools of a process that began with this counter go by their numbers.
structure Numbered (counter : PoolCounter) (process : Process) : Prop where
  upcoming : process.counter.upcoming = counter.upcoming + UInt32.ofNat process.pools.length
  named : ∀ number pool, process.Alive number pool → Named (counter.name number) pool

theorem create_numbered (counter : PoolCounter) (process : Process) (config : PoolConfig) (numbered : Numbered counter process) :
    Numbered counter (process.welcome ((Pool.init config).attempt process.counter)) := by
  obtain ⟨upcoming, named⟩ := numbered
  rcases init_draws config process.counter with ⟨made, drawn, newest⟩ | ⟨outcome, refused, nothing⟩
  · rw [drawn, Process.welcome]
    refine ⟨?_, fun number pool alive => ?_⟩
    · rw [List.length_append, List.length_singleton]
      exact (congrArg (· + 1) upcoming).trans (next_name counter process.pools.length)
    · obtain ⟨bound, _⟩ := List.getElem?_eq_some_iff.mp alive
      rw [List.length_append, List.length_singleton] at bound
      rcases Nat.lt_or_eq_of_le (Nat.le_of_lt_succ bound) with earlier | last
      · exact named number pool ((List.getElem?_append_left earlier).symm.trans alive)
      · cases last
        cases List.getElem?_concat_length.symm.trans alive
        rw [PoolCounter.name, ← upcoming]
        exact newest
  · have same : process.welcome (outcome, process.counter) = process := by
      unfold Process.welcome
      split <;> rename_i same <;> cases same
      · exact absurd rfl (nothing _)
      · rfl
    rw [refused, same]
    exact ⟨upcoming, named⟩

theorem act_numbered {α : Type} (counter : PoolCounter) (act : ProcessAct α) (process : Process)
    (numbered : Numbered counter process) :
    Numbered counter (act.after process) := by
  cases act with
  | create config => exact create_numbered counter process config numbered
  | ask place use =>
      obtain ⟨upcoming, named⟩ := numbered
      refine ⟨by rw [ProcessAct.after, List.length_modify]; exact upcoming, fun number pool alive => ?_⟩
      rw [Process.Alive, ProcessAct.after, List.getElem?_modify] at alive
      obtain ⟨before, found, used⟩ := Option.map_eq_some_iff.mp alive
      split at used
      · obtain ⟨other, rfl, rfl⟩ := Option.map_eq_some_iff.mp used
        exact use_keeps_name (counter.name number) use other (named number other found)
      · cases used
        exact named number pool found
  | drop place =>
      obtain ⟨upcoming, named⟩ := numbered
      refine ⟨by rw [ProcessAct.after, List.length_set]; exact upcoming, fun number pool alive => ?_⟩
      rw [Process.Alive, ProcessAct.after] at alive
      by_cases here : place = number
      · subst here
        rw [List.getElem?_set_self'] at alive
        obtain ⟨_, _, gone⟩ := Option.map_eq_some_iff.mp alive
        cases gone
      · rw [List.getElem?_set_ne here] at alive
        exact named number pool alive

theorem acts_numbered {α : Type} (counter : PoolCounter) (acts : List (ProcessAct α)) (process : Process)
    (numbered : Numbered counter process) : Numbered counter (afterActs acts process) := by
  induction acts generalizing process with
  | nil => exact numbered
  | cons act rest ih => exact ih (act.after process) (act_numbered counter act process numbered)

theorem handed_by_name {α : Type} (counter : PoolCounter) (acts : List (ProcessAct α)) (process : Process)
    (number : Nat) (h : Handle) (numbered : Numbered counter process) (handed : HandedBy number h process acts) :
    h.pool = counter.name number := by
  induction acts generalizing process with
  | nil => cases handed
  | cons act rest ih =>
      rcases handed with ⟨request, pool, rfl, alive, out⟩ | later
      · exact handed_name (counter.name number) request pool h (numbered.named number pool alive) out
      · exact ih (act.after process) (act_numbered counter act process numbered) later

theorem start_numbered (counter : PoolCounter) : Numbered counter ⟨counter, []⟩ :=
  ⟨(UInt32.add_zero _).symm, fun _ _ alive => by cases alive⟩

-- Ids come round after 2 ^ 32 pools. Two pools share one exactly if a multiple of so many were made from one to the other, and
-- otherwise neither takes a handle of the other.
theorem ids_come_round {α : Type} (counter : PoolCounter) (acts : List (ProcessAct α)) (i j : Nat) (p q : Pool)
    (first : (afterActs acts ⟨counter, []⟩).Alive i p) (second : (afterActs acts ⟨counter, []⟩).Alive j q) :
    (p.id = q.id ↔ i % UInt32.size = j % UInt32.size) ∧
      (i % UInt32.size ≠ j % UInt32.size → ∀ h, HandedBy j h ⟨counter, []⟩ acts → Rejects α p h) := by
  have numbered := acts_numbered counter acts _ (start_numbered counter)
  have ours := numbered.named i p first
  have theirs := numbered.named j q second
  refine ⟨?_, fun apart h handed => ?_⟩
  · rw [ours.id, theirs.id]
    exact same_name_iff counter i j
  · have issued := handed_by_name counter acts _ j h (start_numbered counter) handed
    refine foreign_rejected (counter.name i) p h ours fun same => apart ?_
    exact (same_name_iff counter i j).mp (same.symm.trans issued)

-- The second pool hands out a handle that the first one, which has a block at the same slot and generation, does not take.
theorem ids_come_round_second :
    ∃ p q,
      (afterActs
        ([.create ⟨24, 16, 8, .firstFit, false⟩, .ask 0 (.asks (.act (.alloc 8))),
          .create ⟨24, 16, 8, .firstFit, false⟩,
        .ask 1 (.asks (.act (.alloc 8)))] : List (ProcessAct Unit)) ⟨⟨1⟩, []⟩).Alive 0 p ∧
      (afterActs
        ([.create ⟨24, 16, 8, .firstFit, false⟩, .ask 0 (.asks (.act (.alloc 8))),
          .create ⟨24, 16, 8, .firstFit, false⟩,
        .ask 1 (.asks (.act (.alloc 8)))] : List (ProcessAct Unit)) ⟨⟨1⟩, []⟩).Alive 1 q ∧
      p.id ≠ q.id ∧ Live p ⟨⟨1⟩, 0, 0⟩ ∧ Rejects Unit p ⟨⟨2⟩, 0, 0⟩ := by
  generalize taken :
    ([.create ⟨24, 16, 8, .firstFit, false⟩, .ask 0 (.asks (.act (.alloc 8))),
      .create ⟨24, 16, 8, .firstFit, false⟩,
    .ask 1 (.asks (.act (.alloc 8)))] : List (ProcessAct Unit)) = acts
  have alive : ∃ p q, (afterActs acts ⟨⟨1⟩, []⟩).Alive 0 p ∧ (afterActs acts ⟨⟨1⟩, []⟩).Alive 1 q ∧
      Live p ⟨⟨1⟩, 0, 0⟩ := by
    cases taken
    exact ⟨_, _, rfl, rfl, _, _, rfl, rfl⟩
  have handed : HandedBy 1 ⟨⟨2⟩, 0, 0⟩ ⟨⟨1⟩, []⟩ acts := by
    cases taken
    exact .inr (.inr (.inr (.inl ⟨_, _, rfl, rfl, _, rfl, rfl⟩)))
  obtain ⟨p, q, first, second, live⟩ := alive
  obtain ⟨same, rejects⟩ := ids_come_round ⟨1⟩ acts 0 1 p q first second
  exact ⟨p, q, first, second, fun equal => absurd (same.mp equal) (by decide), live, rejects (by decide) _ handed⟩

theorem after_acts_append {α : Type} (earlier later : List (ProcessAct α)) (process : Process) :
    afterActs (earlier ++ later) process = afterActs later (afterActs earlier process) := by
  rw [afterActs, List.foldl_append]
  rfl

theorem handed_later {α : Type} (number : Nat) (h : Handle) (earlier later : List (ProcessAct α)) (process : Process)
    (handed : HandedBy number h (afterActs earlier process) later) : HandedBy number h process (earlier ++ later) := by
  induction earlier generalizing process with
  | nil => exact handed
  | cons act rest ih => exact .inr (ih (act.after process) handed)

theorem newcomer_hands_out {α : Type} (config : PoolConfig) (process : Process) (pool : Pool) (next : PoolCounter)
    (request : PoolRequest α) (h : Handle) (drawn : (Pool.init config).attempt process.counter = (.ok (.ok pool), next))
    (handed : HandsOut request pool h) :
    afterActs [.create config, .ask process.pools.length (.asks request)] process =
      ⟨next, process.pools ++ [some (request.after pool)]⟩ ∧
      HandedBy process.pools.length h process [.create config, .ask process.pools.length (.asks request)] := by
  have made : (ProcessAct.create config : ProcessAct α).after process = ⟨next, process.pools ++ [some pool]⟩ := by
    rw [ProcessAct.after, drawn]
    rfl
  constructor
  · change (ProcessAct.ask _ _ : ProcessAct α).after ((ProcessAct.create config : ProcessAct α).after process) = _
    rw [made, ProcessAct.after, List.modify_eq_take_drop, List.take_left, List.drop_left]
    rfl
  · refine .inr (.inl ⟨request, pool, rfl, ?_, handed⟩)
    rw [made]
    exact List.getElem?_concat_length

-- Pools that are dropped as soon as they are made leave nothing but their ids behind.
theorem ids_used_up {α : Type} (config : PoolConfig) (valid : config.Valid) (count : Nat) (process : Process) :
    ∃ acts : List (ProcessAct α), afterActs acts process =
      ⟨⟨process.counter.upcoming + UInt32.ofNat count⟩, process.pools ++ List.replicate count none⟩ := by
  induction count with
  | zero => exact ⟨[], by simp [afterActs]⟩
  | succ count ih =>
      obtain ⟨acts, before⟩ := ih
      obtain ⟨pool, drawn, _⟩ := valid_draws config valid (afterActs acts process).counter
      have made : (ProcessAct.create config : ProcessAct α).after (afterActs acts process) =
          ⟨⟨(afterActs acts process).counter.upcoming + 1⟩, (afterActs acts process).pools ++ [some pool]⟩ := by
        rw [ProcessAct.after, drawn]
        rfl
      refine ⟨acts ++ [.create config, .drop (process.pools.length + count)], ?_⟩
      rw [after_acts_append]
      change (ProcessAct.drop _ : ProcessAct α).after
        ((ProcessAct.create config : ProcessAct α).after (afterActs acts process)) = _
      have place : process.pools.length + count = (process.pools ++ List.replicate count none).length := by
        rw [List.length_append, List.length_replicate]
      rw [made, before, ProcessAct.after, place, List.set_append_right _ _ (Nat.le_refl _), Nat.sub_self, next_name,
        List.replicate_succ',
        ← List.append_assoc]
      rfl

theorem ids_meet_again {α : Type} (config : PoolConfig) (valid : config.Valid) (process : Process) (i : Nat) (p : Pool)
    (alive : process.Alive i p) (request : PoolRequest α) (h : Handle)
    (handed : ∀ pool next, (Pool.init config).attempt ⟨p.id.number⟩ = (.ok (.ok pool), next) → HandsOut request pool h) :
    ∃ (acts : List (ProcessAct α)) (j : Nat) (q : Pool), i ≠ j ∧ (afterActs acts process).Alive i p ∧
      (afterActs acts process).Alive j q ∧
      p.id = q.id ∧ HandedBy j h process acts := by
  obtain ⟨between, used_up⟩ := @ids_used_up α config valid (p.id.number - process.counter.upcoming).toNat process
  rw [UInt32.ofNat_toNat, UInt32.add_comm, UInt32.sub_add_cancel] at used_up
  obtain ⟨pool, drawn, named⟩ := valid_draws config valid ⟨p.id.number⟩
  generalize shape : process.pools ++ List.replicate (p.id.number - process.counter.upcoming).toNat none = pools at used_up
  have older : pools[i]? = some (some p) := by
    rw [← shape]
    exact (List.getElem?_append_left (List.getElem?_eq_some_iff.mp alive).1).trans alive
  have inside : i < pools.length := (List.getElem?_eq_some_iff.mp older).1
  obtain ⟨last, out⟩ := newcomer_hands_out config ⟨⟨p.id.number⟩, pools⟩ pool _ request h drawn (handed pool _ drawn)
  have run : afterActs (between ++ [.create config, .ask pools.length (.asks request)]) process =
      ⟨⟨p.id.number + 1⟩, pools ++ [some (request.after pool)]⟩ := by
    rw [after_acts_append, used_up]
    exact last
  refine ⟨between ++ [.create config, .ask pools.length (.asks request)], pools.length, request.after pool,
    inside.ne, ?_, ?_, ?_, ?_⟩
  · rw [run]
    exact (List.getElem?_append_left inside).trans older
  · rw [run]
    exact List.getElem?_concat_length
  · exact (use_keeps_name ⟨p.id.number⟩ (.asks request) pool named).id.symm
  · apply handed_later
    rw [used_up]
    exact out

-- A pool with one block, as many pools more as bring its id round again, and then one that hands out the handle of that block.
theorem pools_share_an_id :
    ∃ (acts : List (ProcessAct Unit)) (i j : Nat) (p q : Pool) (h : Handle), i ≠ j ∧ (afterActs acts {}).Alive i p ∧
      (afterActs acts {}).Alive j q ∧ p.id = q.id ∧ HandedBy j h {} acts ∧ Live p h ∧
      (PoolRequest.act (.free (some h)) : PoolRequest Unit).released p = usedBlocks p ∧ usedBlocks p ≠ [] := by
  obtain ⟨p, begun, id, live, released, used⟩ : ∃ p,
      afterActs ([.create ⟨24, 16, 8, .firstFit, false⟩, .ask 0 (.asks (.act (.alloc 8)))] : List (ProcessAct Unit))
          {} = ⟨⟨2⟩, [some p]⟩ ∧
        p.id = ⟨1⟩ ∧ Live p ⟨⟨1⟩, 0, 0⟩ ∧
        (PoolRequest.act (.free (some ⟨⟨1⟩, 0, 0⟩)) : PoolRequest Unit).released p = usedBlocks p ∧ usedBlocks p ≠ [] :=
    ⟨_, rfl, rfl, ⟨_, _, rfl, rfl⟩, by decide, by decide⟩
  have handed :
      ∀ pool next, (Pool.init (PoolConfig.mk 24 16 8 .firstFit false)).attempt ⟨p.id.number⟩ = (.ok (.ok pool), next) →
        HandsOut (.act (.alloc 8) : PoolRequest Unit) pool ⟨⟨1⟩, 0, 0⟩ := by
    intro pool next drawn
    rw [id] at drawn
    cases drawn
    exact ⟨_, rfl, rfl⟩
  obtain ⟨acts, j, q, apart, first, second, same, out⟩ :=
    ids_meet_again (PoolConfig.mk 24 16 8 .firstFit false) rfl ⟨⟨2⟩, [some p]⟩ 0 p rfl (.act (.alloc 8))
      ⟨⟨1⟩, 0, 0⟩ handed
  rw [← begun, ← after_acts_append] at first second
  rw [← begun] at out
  exact ⟨_, 0, j, p, q, ⟨⟨1⟩, 0, 0⟩, apart, first, second, same, handed_later j _ _ acts {} out, live, released, used⟩

end BlockPool
