import BlockPool.Proofs.HousedPool
import BlockPool.Shadow.Heap

set_option autoImplicit false

namespace BlockPool

open ShadowHeap

-- A shadow that is right about its part of the memory.
structure Shadows (acc : Account) (s : ShadowHeap) : Prop where
  distinct : s.handles.Nodup
  holds : ∀ entry ∈ s.live, ∃ rest, acc.memory entry.1 = some (entry.2 ++ rest)
  issued : ∀ h ∈ s.handles, h ∈ acc.issued
  retired : ∀ h ∈ s.retired, acc.memory h = none ∧ h ∈ acc.issued

def Account.freed (acc : Account) (h : Handle) (live : Nat) :
    Account := ⟨acc.memory.put h none, live, acc.issued, acc.calls + 1⟩

-- What becomes of the memory while a shadow turns into another: nothing happens to what is
-- neither's, and what comes in was never handed out before.
structure Turned (acc acc' : Account) (s s' : ShadowHeap) : Prop where
  elsewhere : ∀ h, h ∉ s.handles → h ∉ s'.handles → acc'.memory h = acc.memory h
  left : ∀ h ∈ s.handles, h ∉ s'.handles → acc'.memory h = none
  entered : ∀ h ∈ s'.handles, h ∉ s.handles → h ∉ acc.issued
  issued : ∀ h ∈ acc.issued, h ∈ acc'.issued

-- The shadow has found nothing wrong. Calls are weighed with the allocations that are left, each of which stands for one more.
def Passed (config : PoolConfig) (slots cost : Nat) (acc : Account) (s : ShadowHeap)
    (result : EStateM.Result Abort Pool (ShadowHeap × Verdict)) :
    Prop :=
  ∃ s' acc' pool', result = .ok (s', .ok ()) pool' ∧ Housed config slots pool' acc' ∧ Shadows acc' s' ∧
    Turned acc acc' s s' ∧
    acc'.calls + s'.liveCount ≤ acc.calls + s.liveCount + cost

def ShadowHeap.without (s : ShadowHeap) (h : Handle) : ShadowHeap := { s.drop h with retired := s.retired.push h }

theorem kept_handles (s : ShadowHeap) (h : Handle) (contents : List UInt8) :
    (s.refill.keep h contents).handles = s.handles ++ [h] :=
  List.map_append

theorem kept_count (s : ShadowHeap) (h : Handle) (contents : List UInt8) : (s.refill.keep h contents).liveCount = s.liveCount + 1 :=
  List.length_append

theorem dropped_handles (s : ShadowHeap) (h k : Handle) : k ∈ (s.drop h).handles ↔ k ∈ s.handles ∧ k ≠ h := by
  simp only [handles, drop, List.mem_map, List.mem_filter, decide_eq_true_eq]
  constructor
  · rintro ⟨entry, ⟨inside, differs⟩, rfl⟩
    exact ⟨⟨entry, inside, rfl⟩, differs⟩
  · rintro ⟨⟨entry, inside, rfl⟩, differs⟩
    exact ⟨entry, ⟨inside, differs⟩, rfl⟩

theorem drop_again (s : ShadowHeap) (h : Handle) : (s.drop h).drop h = s.drop h := by
  simp only [drop, List.filter_filter, Bool.and_self]

theorem dropped_count (s : ShadowHeap) (h : Handle) (member : h ∈ s.handles) : (s.drop h).liveCount + 1 ≤ s.liveCount := by
  obtain ⟨entry, inside, same⟩ := List.mem_map.mp member
  have fewer : (s.live.filter fun entry => entry.1 ≠ h).length < s.live.length :=
    List.length_filter_lt_length_iff_exists.mpr ⟨entry, inside, by simp [same]⟩
  exact fewer

theorem without_count (s : ShadowHeap) (h : Handle) (member : h ∈ s.handles) : (s.without h).liveCount + 1 ≤ s.liveCount :=
  dropped_count s h member

theorem holds_iff (s : ShadowHeap) (h : Handle) : s.holds h = true ↔ h ∈ s.handles := by
  simp [ShadowHeap.holds, handles]

theorem picked_member (s : ShadowHeap) (number : Nat) (entry : Handle × List UInt8) (picked : s.pick number = some entry) :
    entry ∈ s.live := List.mem_of_getElem? picked

theorem listed_handle (s : ShadowHeap) (entry : Handle × List UInt8) (inside : entry ∈ s.live) : entry.1 ∈ s.handles :=
  List.mem_map_of_mem inside

theorem shadows_elsewhere (acc acc' : Account) (s : ShadowHeap) (shadows : Shadows acc s)
    (same : ∀ h ∈ acc.issued, acc'.memory h = acc.memory h) (issued : ∀ h ∈ acc.issued, h ∈ acc'.issued) :
    Shadows acc' s := by
  refine ⟨shadows.distinct, fun entry inside => ?_, fun h member => issued h (shadows.issued h member), fun h member => ?_⟩
  · rw [same entry.1 (shadows.issued entry.1 (listed_handle s entry inside))]
    exact shadows.holds entry inside
  · obtain ⟨nothing, old⟩ := shadows.retired h member
    exact ⟨(same h old).trans nothing, issued h old⟩

theorem shadows_dropped (acc : Account) (s : ShadowHeap) (h : Handle) (shadows : Shadows acc s) : Shadows acc (s.drop h) := by
  refine ⟨?_, fun entry inside => shadows.holds entry (List.mem_filter.mp inside).1, fun k member => ?_, shadows.retired⟩
  · exact shadows.distinct.sublist (List.filter_sublist.map Prod.fst)
  · exact shadows.issued k ((dropped_handles s h k).mp member).1

theorem shadows_gone (acc acc' : Account) (s : ShadowHeap) (h : Handle) (shadows : Shadows acc s) (issued : h ∈ acc.issued)
    (memory : acc'.memory = acc.memory.put h none) (kept : ∀ k ∈ acc.issued, k ∈ acc'.issued) :
    Shadows acc' (s.without h) := by
  have dropped := shadows_dropped acc s h shadows
  refine ⟨dropped.distinct, fun entry inside => ?_, fun k member => kept k (dropped.issued k member), fun k member => ?_⟩
  · have differs := ((dropped_handles s h entry.1).mp (listed_handle (s.drop h) entry inside)).2
    rw [memory, put_other acc.memory h entry.1 none differs]
    exact dropped.holds entry inside
  · cases Array.mem_push.mp member with
    | inl before =>
        obtain ⟨nothing, old⟩ := shadows.retired k before
        refine ⟨?_, kept k old⟩
        rw [memory]
        by_cases same : k = h
        · rw [same, put_same]
        · rw [put_other acc.memory h k none same, nothing]
    | inr now =>
        rw [now, memory, put_same]
        exact ⟨rfl, kept h issued⟩

theorem shadows_kept (acc acc' : Account) (s : ShadowHeap) (h : Handle) (bytes contents rest : List UInt8) (shadows : Shadows acc s)
    (held : acc.memory h = some bytes) (new : h ∉ s.handles) (issued : h ∈ acc.issued)
    (memory : acc'.memory = acc.memory.put h (some (contents ++ rest))) (same : acc'.issued = acc.issued) :
    Shadows acc' (s.refill.keep h contents) := by
  refine ⟨?_, fun entry inside => ?_, fun k member => ?_, fun k member => ?_⟩
  · rw [kept_handles]
    exact List.nodup_append.mpr ⟨shadows.distinct, List.nodup_singleton h, fun a member b last => by
      rw [List.mem_singleton.mp last]
      exact fun equal => new (equal ▸ member)⟩
  · rw [memory]
    cases List.mem_append.mp inside with
    | inl before =>
        have differs : entry.1 ≠ h := fun equal => new (equal ▸ listed_handle s entry before)
        rw [put_other acc.memory h entry.1 _ differs]
        exact shadows.holds entry before
    | inr last =>
        rw [List.mem_singleton.mp last, put_same]
        exact ⟨rest, rfl⟩
  · rw [kept_handles] at member
    rw [same]
    cases List.mem_append.mp member with
    | inl before => exact shadows.issued k before
    | inr last => exact List.mem_singleton.mp last ▸ issued
  · obtain ⟨nothing, old⟩ := shadows.retired k member
    have differs : k ≠ h := by
      rintro rfl
      rw [held] at nothing
      cases nothing
    rw [memory, put_other acc.memory h k _ differs, same]
    exact ⟨nothing, old⟩

theorem turned_same (acc acc' : Account) (s : ShadowHeap) (memory : acc'.memory = acc.memory)
    (issued : ∀ h ∈ acc.issued, h ∈ acc'.issued) :
    Turned acc acc' s s :=
  ⟨fun h _ _ => congrFun memory h, fun _ inside outside => absurd inside outside,
    fun _ inside outside => absurd inside outside, issued⟩

theorem turned_kept (acc acc' : Account) (s : ShadowHeap) (h : Handle) (contents : List UInt8) (fresh : h ∉ acc.issued)
    (same : ∀ k, k ≠ h → acc'.memory k = acc.memory k) (issued : ∀ k ∈ acc.issued, k ∈ acc'.issued) :
    Turned acc acc' s (s.refill.keep h contents) := by
  have members (k : Handle) : k ∈ (s.refill.keep h contents).handles ↔ k ∈ s.handles ∨ k = h := by
    rw [kept_handles, List.mem_append, List.mem_singleton]
  refine ⟨fun k _ outside => ?_, fun k inside outside => ?_, fun k inside outside => ?_, issued⟩
  · exact same k fun equal => outside ((members k).mpr (.inr equal))
  · exact absurd ((members k).mpr (.inl inside)) outside
  · cases (members k).mp inside with
    | inl before => exact absurd before outside
    | inr now => exact now ▸ fresh

theorem turned_gone (acc acc' : Account) (s : ShadowHeap) (h : Handle) (member : h ∈ s.handles)
    (memory : acc'.memory = acc.memory.put h none) (issued : ∀ k ∈ acc.issued, k ∈ acc'.issued) :
    Turned acc acc' s (s.without h) := by
  refine ⟨fun k outside _ => ?_, fun k inside outside => ?_, fun k inside outside => ?_, issued⟩
  · rw [memory, put_other acc.memory h k none fun same => outside (same ▸ member)]
  · have same : k = h := Classical.byContradiction fun differs => outside ((dropped_handles s h k).mpr ⟨inside, differs⟩)
    rw [memory, same, put_same]
  · exact absurd ((dropped_handles s h k).mp inside).1 outside

-- The allocation behind `h` is now the one behind `n`, which may be the same.
theorem turned_exchanged (acc acc' : Account) (s s' : ShadowHeap) (h n : Handle) (contents : List UInt8) (member : h ∈ s.handles)
    (handles : s'.handles = (s.drop h).handles) (same : ∀ k, k ≠ h → k ≠ n → acc'.memory k = acc.memory k)
    (fresh : n = h ∨ (n ∉ acc.issued ∧ acc'.memory h = none)) (issued : ∀ k ∈ acc.issued, k ∈ acc'.issued) :
    Turned acc acc' s (s'.refill.keep n contents) := by
  have members (k : Handle) : k ∈ (s'.refill.keep n contents).handles ↔ (k ∈ s.handles ∧ k ≠ h) ∨ k = n := by
    rw [kept_handles, handles, List.mem_append, List.mem_singleton, dropped_handles]
  refine ⟨fun k before after => ?_, fun k before after => ?_, fun k after before => ?_, issued⟩
  · exact same k (fun equal => before (equal ▸ member)) fun equal => after ((members k).mpr (.inr equal))
  · have gone : k = h := Classical.byContradiction fun differs => after ((members k).mpr (.inl ⟨before, differs⟩))
    cases fresh with
    | inl stays => exact absurd ((members k).mpr (.inr (gone.trans stays.symm))) after
    | inr moves => exact gone ▸ moves.2
  · cases (members k).mp after with
    | inl kept => exact absurd kept.1 before
    | inr new =>
        cases fresh with
        | inl stays => exact absurd (new.trans stays ▸ member) before
        | inr moves => exact new ▸ moves.1

theorem difference_none (position : Nat) (bytes : List UInt8) : difference position bytes bytes = none := by
  induction bytes generalizing position with
  | nil => rfl
  | cons byte rest ih => rw [difference, if_pos rfl, ih]

section Checks

variable (config : PoolConfig) (geometry : Geometry config) (slots : Nat) (pool : Pool) (acc : Account)

include geometry

theorem check_passes (h : Handle) (expected rest : List UInt8) (housed : Housed config slots pool acc)
    (held : acc.memory h = some (expected ++ rest)) :
    ∃ pool', checkContents h expected pool = .ok (.ok ()) pool' ∧ pool'.heap = pool.heap := by
  have inside : expected.length ≤ (expected ++ rest).length := by
    rw [List.length_append]
    exact Nat.le_add_right _ _
  obtain ⟨found, pool', ran, still, same⟩ := pool_reads config geometry slots pool acc housed h _ _ held inside
  rw [List.take_left] at same
  refine ⟨pool', ?_, still⟩
  rw [checkContents, step_bind_ok _ _ pool pool' _ ran]
  simp only [same, difference_none]
  rfl

theorem verify_all_passes (entries : List (Handle × List UInt8)) (housed : Housed config slots pool acc)
    (holds : ∀ entry ∈ entries, ∃ rest, acc.memory entry.1 = some (entry.2 ++ rest)) :
    ∃ pool', verifyAll entries pool = .ok (.ok ()) pool' ∧ pool'.heap = pool.heap := by
  induction entries generalizing pool with
  | nil => exact ⟨pool, rfl, rfl⟩
  | cons entry remaining ih =>
      obtain ⟨rest, held⟩ := holds entry List.mem_cons_self
      obtain ⟨middle, checked, still⟩ := check_passes config geometry slots pool acc entry.1 entry.2 rest housed held
      obtain ⟨pool', verified, still'⟩ := ih middle (housed_heap config slots pool middle acc still housed)
        fun other member => holds other (List.mem_cons_of_mem _ member)
      refine ⟨pool', ?_, still'.trans still⟩
      rw [verifyAll, step_bind_ok _ _ pool middle _ checked]
      exact verified

theorem install_passes (s : ShadowHeap) (h : Handle) (bytes kept : List UInt8) (size : Nat) (housed : Housed config slots pool acc)
    (shadows : Shadows acc s) (held : acc.memory h = some bytes) (issued : h ∈ acc.issued) (new : h ∉ s.handles)
    (enough : size ≤ bytes.length) (part : kept.length ≤ size) :
    ∃ contents memory pool', s.install h kept size pool = .ok (s.refill.keep h contents, .ok ()) pool' ∧
      Housed config slots pool' { acc with memory } ∧ Shadows { acc with memory } (s.refill.keep h contents) ∧
      ∀ k, k ≠ h → memory k = acc.memory k := by
  obtain ⟨asked, usable, still⟩ := pool_usable config geometry slots pool acc housed h
  rw [held, Option.map_some] at usable
  have absent : s.holds h = false := Bool.eq_false_iff.mpr fun there => new ((holds_iff s h).mp there)
  have length : (kept ++ List.replicate (size - kept.length) s.refill.fill).length = size := by
    rw [List.length_append, List.length_replicate]
    omega
  obtain ⟨pool', wrote, housed'⟩ :=
    pool_writes config geometry slots asked acc (housed_heap config slots pool asked acc still housed) h bytes
    (kept ++ List.replicate (size - kept.length) s.refill.fill) held (length.le.trans enough)
  refine ⟨kept ++ List.replicate (size - kept.length) s.refill.fill, _, pool', ?_, housed', ?_,
    fun k => put_other acc.memory h k _⟩
  · rw [ShadowHeap.install, step_bind_ok _ _ pool asked _ usable]
    simp only [if_neg (Nat.not_lt.mpr enough), absent, Bool.false_eq_true, if_false]
    exact step_bind_ok _ _ asked pool' _ wrote
  · refine shadows_kept acc _ s h bytes _ (bytes.drop size) shadows held new issued ?_ rfl
    rw [splice, List.take_zero, List.nil_append, Nat.zero_add, length]

theorem retire_passes (s : ShadowHeap) (h : Handle) (housed : Housed config slots pool acc) (gone : acc.memory h = none) :
    ∃ pool', s.retire h pool = .ok ((s.without h), .ok ()) pool' ∧ pool'.heap = pool.heap := by
  obtain ⟨pool', usable, still⟩ := pool_usable config geometry slots pool acc housed h
  rw [gone] at usable
  exact ⟨pool', step_bind_ok _ _ pool pool' _ usable, still⟩

end Checks

theorem passed_looser (config : PoolConfig) (slots slots' cost cost' : Nat) (acc : Account) (s : ShadowHeap)
    (result : EStateM.Result Abort Pool (ShadowHeap × Verdict)) (passed : Passed config slots cost acc s result)
    (more : slots ≤ slots') (dearer : cost ≤ cost') : Passed config slots' cost' acc s result := by
  obtain ⟨s', acc', pool', ran, housed, shadows, turned, calls⟩ := passed
  exact ⟨s', acc', pool', ran, housed_larger config slots slots' pool' acc' housed more, shadows, turned,
    calls.trans (by omega)⟩

theorem kept_ahead (contents rest : List UInt8) (size : Nat) :
    contents ++ rest = contents.take size ++ (contents.drop size ++ rest) := by
  rw [← List.append_assoc, List.take_append_drop]

section Operations

variable (config : PoolConfig) (geometry : Geometry config) (slots : Nat) (pool : Pool) (acc : Account) (s : ShadowHeap)
  (shadows : Shadows acc s)

include geometry shadows

theorem granted_passes (step : Step Pool (Option Handle)) (size : Nat) (b : Breach)
    (granted : Granted config slots acc size (step pool)) :
    Passed config slots 2 acc s ((do
      match ← step with
      | none => return (s, .ok ())
      | some h =>
        if size = 0 then
          return s.breach h b
        s.install h [] size : Step Pool (ShadowHeap × Verdict)) pool) := by
  generalize ran : step pool = result at granted
  cases granted with
  | refused live pool' housed =>
      rw [step_bind_ok _ _ pool pool' _ ran]
      refine ⟨s, _, pool', rfl, housed, shadows_elsewhere acc _ s shadows (fun _ _ => rfl) (fun _ old => old),
        turned_same acc _ s rfl (fun _ old => old), ?_⟩
      simp only
      omega
  | granted h bytes live pool' positive vacant fresh enough housed =>
      have spared (k : Handle) (old : k ∈ acc.issued) : k ≠ h := fun same => fresh (same ▸ old)
      have shadows' : Shadows ⟨acc.memory.put h (some bytes), live, h :: acc.issued, acc.calls + 1⟩ s :=
        shadows_elsewhere acc _ s shadows (fun k old => put_other acc.memory h k _ (spared k old)) fun k old =>
          List.mem_cons_of_mem _ old
      have new : h ∉ s.handles := fun member => fresh (shadows.issued h member)
      obtain ⟨contents, memory, final, filled, housed', shadows'', same⟩ :=
        install_passes config geometry slots pool' _ s h bytes []
        size housed shadows' (put_same acc.memory h _) List.mem_cons_self new enough (Nat.zero_le size)
      rw [step_bind_ok _ _ pool pool' _ ran]
      simp only [if_neg (Nat.ne_of_gt positive)]
      refine ⟨_, _, final, filled, housed', shadows'', ?_, ?_⟩
      · refine turned_kept acc _ s h contents fresh (fun k differs => ?_) fun k old => List.mem_cons_of_mem _ old
        exact (same k differs).trans (put_other acc.memory h k _ differs)
      · rw [kept_count]
        simp only
        omega

theorem retiring_turns (h : Handle) (live : Nat) (member : h ∈ s.handles) (housed : Housed config slots pool (acc.freed h live)) :
    ∃ pool', s.retire h pool = .ok (s.without h, .ok ()) pool' ∧ Housed config slots pool' (acc.freed h live) ∧
      Shadows (acc.freed h live) (s.without h) ∧ Turned acc (acc.freed h live) s (s.without h) := by
  obtain ⟨pool', retired, still⟩ := retire_passes config geometry slots pool _ s h housed (put_same acc.memory h none)
  exact ⟨pool', retired, housed_heap config slots pool pool' _ still housed,
    shadows_gone acc _ s h shadows (shadows.issued h member) rfl (fun _ old => old),
    turned_gone acc _ s h member rfl (fun _ old => old)⟩

theorem retiring_passes (h : Handle) (live : Nat) (member : h ∈ s.handles)
    (housed : Housed config slots pool (acc.freed h live)) :
    Passed config slots 0 acc s (s.retire h pool) := by
  obtain ⟨pool', retired, housed', shadows', turned⟩ :=
    retiring_turns config geometry slots pool acc s shadows h live member housed
  have fewer := without_count s h member
  refine ⟨_, _, pool', retired, housed', shadows', turned, ?_⟩
  simp only [Account.freed]
  omega

theorem staying_passes (h : Handle) (contents rest : List UInt8) (size live : Nat) (member : h ∈ s.handles)
    (held : acc.memory h = some (contents ++ rest)) (fits : size ≤ (contents ++ rest).length)
    (housed : Housed config slots pool ⟨acc.memory, live, h :: acc.issued, acc.calls + 1⟩) :
    Passed config slots 2 acc s (s.resized h h contents size pool) := by
  rw [kept_ahead contents rest size] at held fits
  obtain ⟨checked, ran, still⟩ := check_passes config geometry slots pool _ h (contents.take size) _ housed held
  have shadows' : Shadows ⟨acc.memory, live, h :: acc.issued, acc.calls + 1⟩ (s.drop h) :=
    shadows_elsewhere acc _ _ (shadows_dropped acc s h shadows) (fun _ _ => rfl) fun k old => List.mem_cons_of_mem _ old
  have new : h ∉ (s.drop h).handles := fun inside => ((dropped_handles s h h).mp inside).2 rfl
  obtain ⟨filling, memory, final, filled, housed', shadows'', same⟩ :=
    install_passes config geometry slots checked _ (s.drop h) h _
    (contents.take size) size (housed_heap config slots pool checked _ still housed) shadows' held List.mem_cons_self new fits
    (List.length_take_le size contents)
  have fewer := dropped_count s h member
  rw [ShadowHeap.resized, step_bind_ok _ _ pool checked _ ran]
  simp only [if_true]
  refine ⟨_, _, final, filled, housed', shadows'', ?_, ?_⟩
  · exact turned_exchanged acc _ s (s.drop h) h h filling member rfl (fun k differs _ => same k differs) (.inl rfl)
      fun k old => List.mem_cons_of_mem _ old
  · rw [kept_count]
    simp only
    omega

theorem moving_passes (h n : Handle) (contents rest : List UInt8) (size live : Nat) (member : h ∈ s.handles) (differs : n ≠ h)
    (fresh : n ∉ acc.issued) (fits : size ≤ (contents ++ rest).length)
    (housed : Housed config slots pool
      ⟨(acc.memory.put h none).put n (some (contents ++ rest)), live, n :: acc.issued, acc.calls + 1⟩) :
    Passed config slots 2 acc s (s.resized h n contents size pool) := by
  have spared (k : Handle) (old : k ∈ acc.issued) : k ≠ n := fun same => fresh (same ▸ old)
  have held : (acc.memory.put h none).put n (some (contents ++ rest)) n =
      some (contents.take size ++ (contents.drop size ++ rest)) := by
    rw [put_same, kept_ahead contents rest size]
  have gone : (acc.memory.put h none).put n (some (contents ++ rest)) h = none := by
    rw [put_other _ n h _ (Ne.symm differs), put_same]
  obtain ⟨checked, ran, still⟩ := check_passes config geometry slots pool _ n (contents.take size) _ housed held
  have housed' := housed_heap config slots pool checked _ still housed
  obtain ⟨parted, retired, still'⟩ := retire_passes config geometry slots checked _ (s.drop h) h housed' gone
  rw [ShadowHeap.without, drop_again] at retired
  have without : Shadows ⟨acc.memory.put h none, live, acc.issued, acc.calls⟩ (s.without h) :=
    shadows_gone acc _ s h shadows (shadows.issued h member) rfl fun _ old => old
  have shadows' : Shadows ⟨(acc.memory.put h none).put n (some (contents ++ rest)), live, n :: acc.issued, acc.calls + 1⟩
      (s.without h) :=
    shadows_elsewhere _ _ _ without (fun k old => put_other _ n k _ (spared k old)) fun k old => List.mem_cons_of_mem _ old
  have new : n ∉ (s.drop h).handles := fun inside => fresh (shadows.issued n ((dropped_handles s h n).mp inside).1)
  rw [kept_ahead contents rest size] at fits
  obtain ⟨filling, memory, final, filled, housed'', shadows'', same⟩ := install_passes config geometry slots parted _ _ n _
    (contents.take size) size (housed_heap config slots checked parted _ still' housed') shadows' held List.mem_cons_self new fits
    (List.length_take_le size contents)
  have fewer := without_count s h member
  rw [ShadowHeap.resized, step_bind_ok _ _ pool checked _ ran]
  simp only [if_neg differs]
  rw [step_bind_ok _ _ checked parted _ retired]
  refine ⟨_, _, final, filled, housed'', shadows'', ?_, ?_⟩
  · refine turned_exchanged acc _ s _ h n filling member rfl (fun k other another => ?_) (.inr ⟨fresh, ?_⟩)
      fun k old => List.mem_cons_of_mem _ old
    · exact (same k another).trans ((put_other _ n k _ another).trans (put_other _ h k none other))
    · exact (same h (Ne.symm differs)).trans gone
  · rw [kept_count]
    simp only
    omega

variable (housed : Housed config slots pool acc) (room : slots < UInt32.size) (few : acc.calls < Word.greatest)

include housed room few

theorem alloc_passes (size : Nat) : Passed config (slots + 1) 2 acc s (s.alloc size pool) :=
  granted_passes config geometry (slots + 1) pool acc s shadows (BlockAllocator.alloc size) size .zeroSizeIssued
    (alloc_granted config geometry slots pool acc housed room few size)

theorem resize_nothing_passes (size : Nat) : Passed config (slots + 1) 2 acc s (s.resizeNone size pool) :=
  granted_passes config geometry (slots + 1) pool acc s shadows (BlockAllocator.resize none size) size .zeroResizeIssued
    (resize_nothing_granted config geometry slots pool acc housed room few size)

theorem idle_free_passes (h : Option Handle) (known : ∀ k, h = some k → k ∈ s.retired) :
    Passed config slots 2 acc s ((do BlockAllocator.free h; return (s, .ok ()) : Step Pool (ShadowHeap × Verdict)) pool) := by
  obtain ⟨live, pool', freed, housed'⟩ := free_housed config geometry slots pool acc housed room few h
  have same : (h.elim acc.memory fun h => acc.memory.put h none) = acc.memory := by
    cases h with
    | none => rfl
    | some k =>
        funext other
        by_cases here : other = k
        · rw [here, Option.elim_some, put_same, (shadows.retired k (known k rfl)).1]
        · exact put_other acc.memory k other none here
  rw [same] at housed'
  rw [step_bind_ok _ _ pool pool' _ freed]
  refine ⟨s, _, pool', rfl, housed', shadows_elsewhere acc _ s shadows (fun _ _ => rfl) (fun _ old => old),
    turned_same acc _ s rfl (fun _ old => old), ?_⟩
  simp only
  omega

theorem free_passes (number : Nat) : Passed config slots 2 acc s (s.free number pool) := by
  rw [ShadowHeap.free]
  cases picked : s.pick number with
  | none =>
      refine idle_free_passes config geometry slots pool acc s shadows housed room few _ fun k found => ?_
      exact Array.mem_of_getElem? found
  | some entry =>
      obtain ⟨live, pool', freed, housed'⟩ := free_housed config geometry slots pool acc housed room few (some entry.1)
      have member := listed_handle s entry (picked_member s number entry picked)
      simp only
      rw [step_bind_ok _ _ pool pool' _ freed]
      exact passed_looser config slots slots 0 2 acc s _
        (retiring_passes config geometry slots pool' acc s shadows entry.1 live member housed') (Nat.le_refl _) (Nat.zero_le _)

theorem resize_some_passes (h : Handle) (contents : List UInt8) (size : Nat) (inside : (h, contents) ∈ s.live) :
    Passed config (slots + 1) 2 acc s (s.resizeSome h contents size pool) := by
  obtain ⟨rest, held⟩ := shadows.holds (h, contents) inside
  have member : h ∈ s.handles := listed_handle s (h, contents) inside
  have outcome := resize_reshaped config geometry slots pool acc housed room few h (contents ++ rest) size held
  generalize ran : BlockAllocator.resize (some h) size pool = result at outcome
  rw [ShadowHeap.resizeSome]
  cases outcome with
  | freed live pool' zero housed' =>
      rw [step_bind_ok _ _ pool pool' _ ran]
      simp only [if_pos zero]
      exact passed_looser config _ _ 0 2 acc s _
        (retiring_passes config geometry (slots + 1) pool' acc s shadows h live member housed') (Nat.le_refl _) (Nat.zero_le _)
  | refused live pool' nonzero housed' =>
      obtain ⟨final, checked, still⟩ := check_passes config geometry (slots + 1) pool' _ h contents rest housed' held
      rw [step_bind_ok _ _ pool pool' _ ran]
      simp only [if_neg nonzero]
      rw [step_bind_ok _ _ pool' final _ checked]
      refine ⟨s, _, final, rfl, housed_heap config (slots + 1) pool' final _ still housed',
        shadows_elsewhere acc _ s shadows (fun _ _ => rfl) (fun _ old => old), turned_same acc _ s rfl (fun _ old => old), ?_⟩
      simp only
      omega
  | stayed live pool' nonzero fits housed' =>
      rw [step_bind_ok _ _ pool pool' _ ran]
      simp only [if_neg nonzero]
      exact staying_passes config geometry (slots + 1) pool' acc s shadows h contents rest size live member held fits housed'
  | moved n more live pool' nonzero differs vacant fresh enough housed' =>
      rw [List.append_assoc] at enough housed'
      rw [step_bind_ok _ _ pool pool' _ ran]
      simp only [if_neg nonzero]
      exact moving_passes config geometry (slots + 1) pool' acc s shadows h n contents (rest ++ more) size live
        member differs fresh enough
        housed'

theorem resize_passes (number size : Nat) : Passed config (slots + 1) 2 acc s (s.resize number size pool) := by
  rw [ShadowHeap.resize]
  cases picked : s.pick number with
  | none => exact resize_nothing_passes config geometry slots pool acc s shadows housed room few size
  | some entry =>
      exact resize_some_passes config geometry slots pool acc s shadows housed room few entry.1 entry.2 size
        (picked_member s number entry picked)

theorem apply_passes (op : Op) : Passed config (slots + 1) 2 acc s (s.apply op pool) := by
  cases op with
  | alloc size => exact alloc_passes config geometry slots pool acc s shadows housed room few size
  | free number =>
      exact passed_looser config slots (slots + 1) 2 2 acc s _
        (free_passes config geometry slots pool acc s shadows housed room few number)
        (Nat.le_succ _) (Nat.le_refl _)
  | resize number size => exact resize_passes config geometry slots pool acc s shadows housed room few number size

end Operations

end BlockPool
