import BlockPool.Proofs.ListAtomicity
import BlockPool.Proofs.PoolViews
import BlockPool.Proofs.ShadowSteps
import Mathlib.Algebra.BigOperators.Fin
import Mathlib.Data.Fintype.BigOperators

set_option autoImplicit false

namespace BlockPool

open ShadowHeap

inductive ShadowDeed (n : Nat) where
  | apply (which : Fin n) (op : Op)
  | verify (which : Fin n)
  | release (which : Fin n)

namespace ShadowDeed

variable {n : Nat}

def perform {σ : Type} [BlockAllocator σ] (shadows : Fin n → ShadowHeap) :
    ShadowDeed n → Step σ ((Fin n → ShadowHeap) × Verdict)
  | .apply which op => do
    let (s, verdict) ← (shadows which).apply op
    return (Function.update shadows which s, verdict)
  | .verify which => do
    let verdict ← (shadows which).verify
    return (shadows, verdict)
  | .release which => do
    let (s, verdict) ← (shadows which).releaseAll
    return (Function.update shadows which s, verdict)

-- The deeds in their order, up to the first in which a shadow finds something wrong.
def run {σ : Type} [BlockAllocator σ] :
    (Fin n → ShadowHeap) → List (ShadowDeed n) → Step σ ((Fin n → ShadowHeap) × Verdict)
  | shadows, [] => return (shadows, .ok ())
  | shadows, deed :: rest => do
    match ← deed.perform shadows with
    | (shadows, .error d) => return (shadows, .error d)
    | (shadows, .ok ()) => run shadows rest

def operates : ShadowDeed n → Bool
  | .apply _ _ => true
  | _ => false

end ShadowDeed

structure InStep {n : Nat} (config : PoolConfig) (pool : Pool) (shadows : Fin n → ShadowHeap) : Prop where
  verified : ∀ i, ((shadows i).verify.attempt pool).1 = .ok (.ok ())
  released : ∀ i, ∃ s pool', (shadows i).releaseAll pool = .ok (s, .ok ()) pool' ∧ s.liveCount = 0
  distinct : ∀ i, (shadows i).handles.Nodup
  apart : ∀ i j, i ≠ j → (shadows i).handles.Disjoint (shadows j).handles
  together : ∀ h, Live pool h ↔ ∃ i, h ∈ (shadows i).handles
  counted : (Pool.liveAllocations.attempt pool).1 = .ok (∑ i, (shadows i).liveCount)
  drained : ∀ order : List (Fin n), (∀ i, i ∈ order) →
    ∃ shadows' pool', ShadowDeed.run shadows (order.map .release) pool = .ok (shadows', .ok ()) pool' ∧
      (∀ i, (shadows' i).liveCount = 0) ∧ (Pool.blocks.attempt pool').1 = .ok [config.vacantBlock]

-- Each shadow is right about its part of the pool, and nothing is in no shadow's part.
structure Accompanied {n : Nat} (config : PoolConfig) (made : Nat) (pool : Pool) (shadows : Fin n → ShadowHeap)
    (acc : Account) : Prop where
  housed : Housed config made pool acc
  right : ∀ i, Shadows acc (shadows i)
  apart : ∀ i j, i ≠ j → ∀ h ∈ (shadows i).handles, h ∉ (shadows j).handles
  covers : ∀ h bytes, acc.memory h = some bytes → ∃ i, h ∈ (shadows i).handles
  -- an operation makes one call that counts, and leaves at most one block to be freed later
  calls : acc.calls + ∑ i, (shadows i).liveCount ≤ 2 * made

-- A shadow that only lets go of allocations may do so in two turns.
theorem turned_twice (acc acc' acc'' : Account) (s s' s'' : ShadowHeap) (fewer : ∀ h ∈ s'.handles, h ∈ s.handles)
    (first : Turned acc acc' s s') (second : Turned acc' acc'' s' s'') : Turned acc acc'' s s'' := by
  refine ⟨fun h outside outside' => ?_, fun h inside outside' => ?_, fun h inside outside fresh => ?_, fun h old => ?_⟩
  · have absent : h ∉ s'.handles := fun there => outside (fewer h there)
    rw [second.elsewhere h absent outside', first.elsewhere h outside absent]
  · by_cases between : h ∈ s'.handles
    · exact second.left h between outside'
    · rw [second.elsewhere h between outside', first.left h inside between]
  · have absent : h ∉ s'.handles := fun there => outside (fewer h there)
    exact second.entered h inside absent (first.issued h fresh)
  · exact second.issued h (first.issued h old)

theorem release_each_passes (config : PoolConfig) (geometry : Geometry config) (slots : Nat) (room : slots < UInt32.size)
    (handles : List Handle) (pool : Pool) (acc : Account) (s : ShadowHeap) (housed : Housed config slots pool acc)
    (shadows : Shadows acc s) (few : acc.calls + s.liveCount ≤ Word.greatest) (distinct : handles.Nodup)
    (members : ∀ h ∈ handles, h ∈ s.handles) :
    ∃ s' acc' pool', s.releaseEach handles pool = .ok (s', .ok ()) pool' ∧ Housed config slots pool' acc' ∧
      Shadows acc' s' ∧
      Turned acc acc' s s' ∧ acc'.calls + s'.liveCount ≤ acc.calls + s.liveCount ∧
      ∀ h, h ∈ s'.handles ↔ h ∈ s.handles ∧ h ∉ handles := by
  induction handles generalizing pool acc s with
  | nil => exact ⟨s, acc, pool, rfl, housed, shadows, turned_same acc acc s rfl fun _ old => old, Nat.le_refl _, by simp⟩
  | cons h rest ih =>
      obtain ⟨new, distinct'⟩ := List.nodup_cons.mp distinct
      have member := members h List.mem_cons_self
      have fewer := without_count s h member
      obtain ⟨live, freed, gave, housed'⟩ := free_housed config geometry slots pool acc housed room (by omega) (some h)
      obtain ⟨parted, retired, housed'', shadows', turned⟩ :=
        retiring_turns config geometry slots freed acc s shadows h live member housed'
      have without (k : Handle) : k ∈ (s.without h).handles ↔ k ∈ s.handles ∧ k ≠ h := dropped_handles s h k
      obtain ⟨s', acc', pool', ran, housed''', shadows'', turned', calls, left⟩ :=
        ih parted (acc.freed h live) (s.without h) housed'' shadows'
        (by simp only [Account.freed]; omega) distinct'
        (fun k inside => (without k).mpr ⟨members k (List.mem_cons_of_mem _ inside), fun same => new (same ▸ inside)⟩)
      refine ⟨s', acc', pool', ?_, housed''', shadows'', ?_, ?_, fun k => ?_⟩
      · rw [releaseEach, step_bind_ok _ _ pool freed _ gave, step_bind_ok _ _ freed parted _ retired]
        exact ran
      · exact turned_twice acc _ acc' s _ s' (fun k inside => ((without k).mp inside).1) turned turned'
      · simp only [Account.freed] at calls
        omega
      · rw [left, without, List.mem_cons, not_or, and_assoc]

theorem release_passes (config : PoolConfig) (geometry : Geometry config) (slots : Nat) (room : slots < UInt32.size)
    (pool : Pool) (acc : Account) (s : ShadowHeap) (housed : Housed config slots pool acc) (shadows : Shadows acc s)
    (few : acc.calls + s.liveCount ≤ Word.greatest) :
    ∃ s' acc' pool', s.releaseAll pool = .ok (s', .ok ()) pool' ∧ Housed config slots pool' acc' ∧
      Shadows acc' s' ∧ Turned acc acc' s s' ∧ acc'.calls + s'.liveCount ≤ acc.calls + s.liveCount ∧ s'.liveCount = 0 := by
  obtain ⟨s', acc', pool', ran, housed', shadows', turned, calls, left⟩ :=
    release_each_passes config geometry slots room s.handles pool acc s
    housed shadows few shadows.distinct fun _ member => member
  have none : s'.handles = [] := List.eq_nil_iff_forall_not_mem.mpr fun h member => ((left h).mp member).2 ((left h).mp member).1
  exact ⟨s', acc', pool', ran, housed', shadows', turned,
    calls, by rw [liveCount, List.map_eq_nil_iff.mp none, List.length_nil]⟩

section Several

variable {n : Nat} (config : PoolConfig) (geometry : Geometry config) (made : Nat) (pool : Pool) (shadows : Fin n → ShadowHeap)
  (acc : Account) (companions : Accompanied config made pool shadows acc)

theorem counts_split (which : Fin n) :
    ∑ i, (shadows i).liveCount = (shadows which).liveCount + ∑ i ∈ Finset.univ.erase which, (shadows i).liveCount :=
  (Finset.add_sum_erase Finset.univ (fun i => (shadows i).liveCount) (Finset.mem_univ which)).symm

theorem counts_updated (which : Fin n) (s : ShadowHeap) :
    ∑ i, (Function.update shadows which s i).liveCount + (shadows which).liveCount =
      ∑ i, (shadows i).liveCount + s.liveCount := by
  have others : ∑ i ∈ Finset.univ.erase which, (Function.update shadows which s i).liveCount =
      ∑ i ∈ Finset.univ.erase which, (shadows i).liveCount :=
    Finset.sum_congr rfl fun i member => by rw [Function.update_of_ne (Finset.ne_of_mem_erase member)]
  rw [counts_split (Function.update shadows which s) which, counts_split shadows which, others, Function.update_self]
  omega

include companions

section Turn

variable (which : Fin n) (acc' : Account) (s' : ShadowHeap) (turned : Turned acc acc' (shadows which) s')

include turned

theorem stranger_outside (i : Fin n) (differs : i ≠ which) (h : Handle) (member : h ∈ (shadows i).handles) :
    h ∉ (shadows which).handles ∧ h ∉ s'.handles := by
  have outside := companions.apart i which differs h member
  exact ⟨outside, fun inside => turned.entered h inside outside ((companions.right i).issued h member)⟩

theorem stranger_right (i : Fin n) (differs : i ≠ which) : Shadows acc' (shadows i) := by
  have before := companions.right i
  refine ⟨before.distinct, fun entry inside => ?_, fun h member => turned.issued h (before.issued h member), fun h member => ?_⟩
  · obtain ⟨outside, outside'⟩ :=
      stranger_outside config made pool shadows acc companions which acc' s' turned i differs entry.1
      (listed_handle (shadows i) entry inside)
    rw [turned.elsewhere entry.1 outside outside']
    exact before.holds entry inside
  · -- what is retired is nowhere held, and does not come back
    obtain ⟨nothing, old⟩ := before.retired h member
    refine ⟨?_, turned.issued h old⟩
    by_cases inside : h ∈ (shadows which).handles
    · obtain ⟨entry, listed, same⟩ := List.mem_map.mp inside
      obtain ⟨rest, held⟩ := (companions.right which).holds entry listed
      rw [same, nothing] at held
      cases held
    · rw [turned.elsewhere h inside fun entered => turned.entered h entered inside old]
      exact nothing

theorem turned_right (right : Shadows acc' s') (i : Fin n) : Shadows acc' (Function.update shadows which s' i) := by
  by_cases here : i = which
  · rw [here, Function.update_self]
    exact right
  · rw [Function.update_of_ne here]
    exact stranger_right config made pool shadows acc companions which acc' s' turned i here

theorem turned_apart (i j : Fin n) (differs : i ≠ j) (h : Handle) (member : h ∈ (Function.update shadows which s' i).handles) :
    h ∉ (Function.update shadows which s' j).handles := by
  have alien := stranger_outside config made pool shadows acc companions which acc' s' turned
  by_cases here : i = which
  · have there : j ≠ which := fun same => differs (here.trans same.symm)
    rw [here, Function.update_self] at member
    rw [Function.update_of_ne there]
    exact fun other => (alien j there h other).2 member
  · rw [Function.update_of_ne here] at member
    by_cases there : j = which
    · rw [there, Function.update_self]
      exact (alien i here h member).2
    · rw [Function.update_of_ne there]
      exact companions.apart i j differs h member

theorem turned_covers (h : Handle) (bytes : List UInt8) (held : acc'.memory h = some bytes) :
    ∃ i, h ∈ (Function.update shadows which s' i).handles := by
  by_cases inside : h ∈ s'.handles
  · exact ⟨which, by rwa [Function.update_self]⟩
  · have outside : h ∉ (shadows which).handles := fun before => by
      rw [turned.left h before inside] at held
      cases held
    rw [turned.elsewhere h outside inside] at held
    obtain ⟨i, member⟩ := companions.covers h bytes held
    have other : i ≠ which := fun same => outside (same ▸ member)
    exact ⟨i, by rwa [Function.update_of_ne other]⟩

theorem accompanied_turns (made' cost : Nat) (pool' : Pool) (housed : Housed config made' pool' acc') (right : Shadows acc' s')
    (calls : acc'.calls + s'.liveCount ≤ acc.calls + (shadows which).liveCount + cost) (paid : 2 * made + cost ≤ 2 * made') :
    Accompanied config made' pool' (Function.update shadows which s') acc' := by
  have balance := counts_updated shadows which s'
  have before := companions.calls
  exact {
    housed
    right := turned_right config made pool shadows acc companions which acc' s' turned right
    apart := turned_apart config made pool shadows acc companions which acc' s' turned
    covers := turned_covers config made pool shadows acc companions which acc' s' turned
    calls := by omega }

end Turn

variable (room : made < UInt32.size)

include room

theorem accompanied_few (which : Fin n) : acc.calls + (shadows which).liveCount < Word.greatest := by
  have calls := companions.calls
  have part := counts_split shadows which
  simp only [Word.greatest, Word.bound, UInt64.size, UInt32.size] at room ⊢
  omega

include geometry

theorem deed_passes (deed : ShadowDeed n) :
    ∃ shadows' acc' pool', deed.perform shadows pool = .ok (shadows', .ok ()) pool' ∧
      Accompanied config (made + if deed.operates then 1 else 0) pool' shadows' acc' := by
  cases deed with
  | apply which op =>
      have few := accompanied_few config made pool shadows acc companions room which
      obtain ⟨s', acc', pool', ran, housed, right, turned, calls⟩ := apply_passes config geometry made pool acc (shadows which)
        (companions.right which) companions.housed room (Nat.lt_of_le_of_lt (Nat.le_add_right _ _) few) op
      refine ⟨Function.update shadows which s', acc', pool', ?_, ?_⟩
      · rw [ShadowDeed.perform, step_bind_ok _ _ pool pool' _ ran]
        rfl
      · exact accompanied_turns config made pool shadows acc companions which acc' s' turned (made + 1) 2 pool' housed
          right calls (by omega)
  | verify which =>
      obtain ⟨pool', ran, still⟩ := verify_all_passes config geometry made pool acc (shadows which).live companions.housed
        (companions.right which).holds
      refine ⟨shadows, acc, pool', ?_, housed_heap config made pool pool' acc still companions.housed,
        companions.right, companions.apart,
        companions.covers, companions.calls⟩
      rw [ShadowDeed.perform, ShadowHeap.verify, step_bind_ok _ _ pool pool' _ ran]
      rfl
  | release which =>
      have few := accompanied_few config made pool shadows acc companions room which
      obtain ⟨s', acc', pool', ran, housed, right, turned, calls, _⟩ :=
        release_passes config geometry made room pool acc (shadows which)
        companions.housed (companions.right which) few.le
      refine ⟨Function.update shadows which s', acc', pool', ?_, ?_⟩
      · rw [ShadowDeed.perform, step_bind_ok _ _ pool pool' _ ran]
        rfl
      · exact accompanied_turns config made pool shadows acc companions which acc' s' turned made 0 pool' housed
          right calls (Nat.le_refl _)

omit room companions in
theorem run_passes (deeds : List (ShadowDeed n)) (companions : Accompanied config made pool shadows acc)
    (room : made + deeds.countP ShadowDeed.operates < UInt32.size) :
    ∃ shadows' acc' pool', ShadowDeed.run shadows deeds pool = .ok (shadows', .ok ()) pool' ∧
      Accompanied config (made + deeds.countP ShadowDeed.operates) pool' shadows' acc' := by
  induction deeds generalizing made pool shadows acc with
  | nil => exact ⟨shadows, acc, pool, rfl, companions⟩
  | cons deed rest ih =>
      rw [List.countP_cons, Nat.add_comm (rest.countP _), ← Nat.add_assoc] at room ⊢
      obtain ⟨middle, acc', pool', done, companions'⟩ :=
        deed_passes config geometry made pool shadows acc companions (by omega) deed
      obtain ⟨shadows', acc'', pool'', ran, companions''⟩ := ih _ pool' middle acc' companions' room
      refine ⟨shadows', acc'', pool'', ?_, companions''⟩
      rw [ShadowDeed.run, step_bind_ok _ _ pool pool' _ done]
      exact ran

theorem releases_drain (order : List (Fin n)) :
    ∃ shadows' acc' pool', ShadowDeed.run shadows (order.map .release) pool = .ok (shadows', .ok ()) pool' ∧
      Accompanied config made pool' shadows' acc' ∧ ∀ i, i ∈ order ∨ (shadows i).liveCount = 0 →
        (shadows' i).liveCount = 0 := by
  induction order generalizing pool shadows acc with
  | nil => exact ⟨shadows, acc, pool, rfl, companions, fun i empty => empty.resolve_left List.not_mem_nil⟩
  | cons which rest ih =>
      have few := accompanied_few config made pool shadows acc companions room which
      obtain ⟨s', acc', pool', ran, housed, right, turned, calls, empty⟩ :=
        release_passes config geometry made room pool acc (shadows which)
        companions.housed (companions.right which) few.le
      have companions' :=
        accompanied_turns config made pool shadows acc companions which acc' s' turned made 0 pool' housed right calls
        (Nat.le_refl _)
      obtain ⟨shadows', acc'', pool'', drained, companions'', emptied⟩ := ih pool' _ acc' companions'
      refine ⟨shadows', acc'', pool'', ?_, companions'', fun i named => emptied i ?_⟩
      · have done : (ShadowDeed.release which).perform shadows pool = .ok (Function.update shadows which s', .ok ()) pool' := by
          rw [ShadowDeed.perform, step_bind_ok _ _ pool pool' _ ran]
          rfl
        rw [List.map_cons, ShadowDeed.run, step_bind_ok _ _ pool pool' _ done]
        exact drained
      · by_cases here : i = which
        · rw [here, Function.update_self]
          exact .inr empty
        · rw [Function.update_of_ne here]
          cases named with
          | inl member => exact .inl ((List.mem_cons.mp member).resolve_left here)
          | inr before => exact .inr before

omit geometry room in
theorem accompanied_held (h : Handle) : (∃ i, h ∈ (shadows i).handles) ↔ ∃ bytes, acc.memory h = some bytes := by
  constructor
  · rintro ⟨i, member⟩
    obtain ⟨entry, listed, rfl⟩ := List.mem_map.mp member
    obtain ⟨rest, held⟩ := (companions.right i).holds entry listed
    exact ⟨_, held⟩
  · rintro ⟨bytes, held⟩
    exact companions.covers h bytes held

omit room in
theorem accompanied_live : acc.live = ∑ i, (shadows i).liveCount := by
  have distinct : ((List.finRange n).flatMap fun i => (shadows i).handles).Nodup := by
    refine List.nodup_flatMap.mpr ⟨fun i _ => (companions.right i).distinct, ?_⟩
    exact (List.nodup_finRange n).imp fun differs h member other => companions.apart _ _ differs h member other
  have complete (h : Handle) : (h ∈ (List.finRange n).flatMap fun i => (shadows i).handles) ↔
      ∃ bytes, acc.memory h = some bytes := by
    rw [← accompanied_held config made pool shadows acc companions h]
    simp
  rw [live_length config geometry pool acc (housed_stocked config made pool acc companions.housed) _ distinct complete,
    List.length_flatMap,
    Fin.sum_univ_def]
  simp only [handles, List.length_map, liveCount]

omit geometry room in
theorem accompanied_nothing (empty : ∀ i, (shadows i).liveCount = 0) (h : Handle) : acc.memory h = none := by
  cases held : acc.memory h with
  | none => rfl
  | some bytes =>
      obtain ⟨i, member⟩ := companions.covers h bytes held
      rw [handles, List.length_eq_zero_iff.mp (empty i)] at member
      cases member

theorem accompanied_in_step : InStep config pool shadows := by
  have stocked := housed_stocked config made pool acc companions.housed
  have telling := stocked_telling config geometry
  refine ⟨fun i => ?_, fun i => ?_, fun i => (companions.right i).distinct, fun i j differs h member other => ?_, fun h => ?_, ?_,
    fun order all => ?_⟩
  · obtain ⟨pool', ran, _⟩ :=
      verify_all_passes config geometry made pool acc (shadows i).live companions.housed (companions.right i).holds
    exact congrArg Prod.fst (attempt_ok _ pool pool' _ ran)
  · have few := accompanied_few config made pool shadows acc companions room i
    obtain ⟨s', _, pool', ran, _, _, _, _, empty⟩ :=
      release_passes config geometry made room pool acc (shadows i) companions.housed
      (companions.right i) few.le
    exact ⟨s', pool', ran, empty⟩
  · exact companions.apart i j differs h member other
  · rw [telling.live pool acc h stocked, accompanied_held config made pool shadows acc companions h]
  · rw [telling.counted pool acc stocked, accompanied_live config geometry made pool shadows acc companions]
  · obtain ⟨shadows', acc', pool', ran, companions', empty⟩ :=
      releases_drain config geometry made pool shadows acc companions room order
    have emptied (i : Fin n) : (shadows' i).liveCount = 0 := empty i (.inl (all i))
    have nothing := accompanied_nothing config made pool' shadows' acc' companions' emptied
    exact ⟨shadows', pool', ran, emptied,
      emptied_blocks config geometry pool' acc' (housed_stocked config made pool' acc' companions'.housed) nothing⟩

end Several

theorem start_accompanied (config : PoolConfig) (valid : config.Valid) (counter : PoolCounter) (n : Nat) :
    ∃ pool next, Pool.init config counter = .ok (.ok pool) next ∧
      Accompanied config 0 pool (fun _ : Fin n => {}) ⟨fun _ => none, 0, [], 0⟩ := by
  obtain ⟨pool, next, heap, made, opened, _, _, handles, _, _⟩ := init_pool config valid counter
  obtain ⟨pool', next', made', heap', opened', inventory⟩ := init_stocked config valid counter
  cases made.symm.trans made'
  cases opened.symm.trans opened'
  have right : Shadows ⟨fun _ => none, 0, [], 0⟩ {} :=
    ⟨List.nodup_nil, fun _ inside => absurd inside List.not_mem_nil, fun _ inside => absurd inside List.not_mem_nil,
      fun h inside => absurd inside (Array.not_mem_empty h)⟩
  refine ⟨pool, next, made, ⟨heap, opened, inventory, ?_⟩, fun _ => right,
    fun _ _ _ _ inside => absurd inside List.not_mem_nil, nofun, ?_⟩
  · rw [handles]
    rfl
  · simp [liveCount]

-- Fewer operations than handles can have slots; each of them makes one call of the pool at least.
theorem shadows_never_alarm (config : PoolConfig) (valid : config.Valid) (counter : PoolCounter) (n : Nat) :
    ∃ pool next, Pool.init config counter = .ok (.ok pool) next ∧
      ∀ deeds : List (ShadowDeed n), deeds.countP ShadowDeed.operates < UInt32.size →
        ∃ shadows pool', ShadowDeed.run (fun _ => {}) deeds pool = .ok (shadows, .ok ()) pool' ∧
          InStep config pool' shadows := by
  have geometry := valid_geometry config valid
  obtain ⟨pool, next, made, companions⟩ := start_accompanied config valid counter n
  refine ⟨pool, next, made, fun deeds few => ?_⟩
  obtain ⟨shadows, acc, pool', ran, companions'⟩ := run_passes config geometry 0 pool _ _ deeds companions (by omega)
  exact ⟨shadows, pool', ran, accompanied_in_step config geometry _ pool' shadows acc companions' (by omega)⟩

-- Two shadows that take turns, with a size of zero, a move, a handle that is freed once more, and a release.
theorem shadows_never_alarm_in_turns :
    (PoolConfig.mk 200 8 8 .bestFit false).Valid ∧
      ([.apply 0 (.alloc 5), .apply 1 (.resize 3 40), .verify 0, .apply 0 (.resize 1 60), .apply 1 (.alloc 0), .release 0,
        .apply 0 (.free 2), .verify 1] : List (ShadowDeed 2)).countP ShadowDeed.operates < UInt32.size ∧
      ∃ pool next shadows pool', Pool.init (PoolConfig.mk 200 8 8 .bestFit false) ⟨3⟩ = .ok (.ok pool) next ∧
        ShadowDeed.run (fun _ : Fin 2 => {}) [.apply 0 (.alloc 5), .apply 1 (.resize 3 40), .verify 0, .apply 0 (.resize 1 60),
          .apply 1 (.alloc 0), .release 0, .apply 0 (.free 2), .verify 1] pool = .ok (shadows, .ok ()) pool' ∧
        InStep (PoolConfig.mk 200 8 8 .bestFit false) pool' shadows := by
  have valid : (PoolConfig.mk 200 8 8 .bestFit false).Valid := by rfl
  obtain ⟨pool, next, made, passes⟩ := shadows_never_alarm (PoolConfig.mk 200 8 8 .bestFit false) valid ⟨3⟩ 2
  obtain ⟨shadows, pool', ran, inStep⟩ :=
    passes [.apply 0 (.alloc 5), .apply 1 (.resize 3 40), .verify 0, .apply 0 (.resize 1 60),
    .apply 1 (.alloc 0), .release 0, .apply 0 (.free 2), .verify 1] (by decide)
  exact ⟨valid, by decide, pool, next, shadows, pool', made, ran, inStep⟩

end BlockPool
