import BlockPool.FaultyPool
import BlockPool.Proofs.ShadowRuns

set_option autoImplicit false

namespace BlockPool

open ShadowHeap

variable {σ : Type} [BlockAllocator σ]

theorem became_retired (s s' : ShadowHeap) (op : Op) (a : σ) (became : Became s op a s') :
    (∀ h ∈ s'.retired, h ∈ s.retired ∨ (h ∈ s.handles ∧ Ended h a)) ∧
      ∀ h, h ∈ s.handles ∨ h ∈ s.retired → h ∈ s'.handles ∨ h ∈ s'.retired := by
  have without (h : Handle) (ended : Ended h a) (member : h ∈ s.handles) :
      (∀ k ∈ (s.without h).retired, k ∈ s.retired ∨ (k ∈ s.handles ∧ Ended k a)) ∧
        ∀ k, k ∈ s.handles ∨ k ∈ s.retired → k ∈ (s.without h).handles ∨ k ∈ (s.without h).retired := by
    refine ⟨fun k inside => ?_, fun k known => ?_⟩
    · cases Array.mem_push.mp inside with
      | inl before => exact .inl before
      | inr now => exact .inr (now ▸ ⟨member, ended⟩)
    · by_cases same : k = h
      · exact .inr (Array.mem_push.mpr (.inr same))
      · cases known with
        | inl live => exact .inl ((dropped_handles s h k).mpr ⟨live, same⟩)
        | inr before => exact .inr (Array.mem_push.mpr (.inl before))
  have installed (t : ShadowHeap) (h k : Handle) (kept : List UInt8) (size : Nat) (known : k ∈ t.handles ∨ k ∈ t.retired) :
      k ∈ (t.installed h kept size).handles ∨ k ∈ (t.installed h kept size).retired := by
    rw [installed_handles]
    exact known.imp_left (List.mem_append_left _)
  cases became with
  | still => exact ⟨fun h member => .inl member, fun h known => known⟩
  | entered h size asks new => exact ⟨fun k member => .inl member, fun k => installed s h k [] size⟩
  | left h member ended => exact without h ended member
  | reshaped h contents size asks inside =>
      refine ⟨fun k member => .inl member, fun k known => ?_⟩
      rw [installed_handles, List.mem_append, List.mem_singleton, dropped_handles]
      by_cases same : k = h
      · exact .inl (.inr same)
      · exact known.imp_left fun live => .inl ⟨live, same⟩
  | moved h n contents size asks inside new differs ended =>
      obtain ⟨origin, kept⟩ := without h ended (listed_handle s (h, contents) inside)
      exact ⟨origin, fun k known => installed (s.without h) n k _ size (kept k known)⟩

theorem run_keeps (ops : List Op) (s s' : ShadowHeap) (a b : σ) (h : Handle) (known : h ∈ s.handles ∨ h ∈ s.retired)
    (ran : s.run ops a = .ok (s', .ok ()) b) : h ∈ s'.handles ∨ h ∈ s'.retired := by
  induction ops generalizing s a with
  | nil =>
      cases ran
      exact known
  | cons op rest ih =>
      obtain ⟨middle, c, applied, final⟩ := run_ran s s' a b op rest ran
      exact ih middle c ((became_retired s middle op a (apply_ran s middle a c op applied)).2 h known) final

theorem run_retires (ops : List Op) (s s' : ShadowHeap) (a b : σ) (h : Handle) (member : h ∈ s'.retired)
    (ran : s.run ops a = .ok (s', .ok ()) b) :
    h ∈ s.retired ∨ ∃ before op rest earlier c, ops = before ++ op :: rest ∧ s.run before a = .ok (earlier, .ok ()) c ∧
      h ∈ earlier.handles ∧ Ended h c := by
  induction ops generalizing s a with
  | nil =>
      cases ran
      exact .inl member
  | cons op rest ih =>
      obtain ⟨middle, c, applied, final⟩ := run_ran s s' a b op rest ran
      rcases ih middle c final with early | ⟨before, later, others, earlier, d, rfl, ran', live, ended⟩
      · rcases (became_retired s middle op a (apply_ran s middle a c op applied)).1 h early with old | ⟨live, ended⟩
        · exact .inl old
        · exact .inr ⟨[], op, rest, s, a, rfl, rfl, live, ended⟩
      · refine .inr ⟨op :: before, later, others, earlier, d, rfl, ?_, live, ended⟩
        exact (step_bind_ok _ _ a c _ applied).trans ran'

def ShadowHeap.recalling (s : ShadowHeap) (past : Array Handle) : ShadowHeap := { s with retired := past ++ s.retired }

def recalled (past : Array Handle) (step : Step σ (ShadowHeap × Verdict)) : Step σ (ShadowHeap × Verdict) := do
  let (s, verdict) ← step
  return (s.recalling past, verdict)

-- No free along a run meets a shadow with nothing live, which would free a retired handle once more.
def NeverIdle : ShadowHeap → List Op → σ → Prop
  | _, [], _ => True
  | s, op :: rest, a => (op.asks = true ∨ s.live ≠ []) ∧ ∀ middle b, s.apply op a = .ok (middle, .ok ()) b →
      NeverIdle middle rest b

section Recalling

variable (past : Array Handle)

omit [BlockAllocator σ] in
theorem recalled_bind {α : Type} (first : Step σ α) (next next' : α → Step σ (ShadowHeap × Verdict))
    (same : ∀ value, next' value = recalled past (next value)) : (first >>= next') = recalled past (first >>= next) := by
  funext a
  rw [funext same]
  cases ran : first a with
  | ok value b => simp only [recalled, step_bind, EStateM.bind, ran]
  | error reason b => simp only [recalled, step_bind, EStateM.bind, ran]

omit [BlockAllocator σ] in
theorem recalled_ite (p : Prop) [Decidable p] (x y x' y' : Step σ (ShadowHeap × Verdict)) (yes : x' = recalled past x)
    (no : y' = recalled past y) : (if p then x' else y') = recalled past (if p then x else y) := by
  split
  · exact yes
  · exact no

omit [BlockAllocator σ] in
theorem recalled_then (step : Step σ (ShadowHeap × Verdict))
    (next next' : ShadowHeap × Verdict → Step σ (ShadowHeap × Verdict))
    (same : ∀ answer, next' (answer.1.recalling past, answer.2) = recalled past (next answer)) :
    (recalled past step >>= next') = recalled past (step >>= next) := by
  rw [recalled, bind_assoc]
  exact recalled_bind past step _ _ same

omit [BlockAllocator σ] in
theorem recalled_at (step step' : Step σ (ShadowHeap × Verdict)) (a b : σ) (same : step a = step' b) :
    recalled past step a = recalled past step' b := by
  simp only [recalled, step_bind, EStateM.bind, same]

theorem recalling_without (s : ShadowHeap) (h : Handle) : (s.recalling past).without h = (s.without h).recalling past := by
  simp only [ShadowHeap.without, ShadowHeap.recalling, drop, Array.append_push]

theorem recalling_install (s : ShadowHeap) (h : Handle) (kept : List UInt8) (size : Nat) :
    (s.recalling past).install h kept size = recalled past (s.install h kept size : Step σ _) := by
  refine recalled_bind past _ _ _ fun answer => ?_
  cases answer with
  | none => rfl
  | some usable =>
      refine recalled_ite past _ _ _ _ _ rfl ?_
      refine recalled_ite past _ _ _ _ _ rfl ?_
      refine recalled_bind past _ _ _ fun written => ?_
      cases written <;> rfl

theorem recalling_retire (s : ShadowHeap) (h : Handle) : (s.recalling past).retire h = recalled past (s.retire h : Step σ _) := by
  refine recalled_bind past _ _ _ fun answer => ?_
  cases answer with
  | some usable => rfl
  | none => exact congrArg (fun gone => (pure (gone, .ok ()) : Step σ (ShadowHeap × Verdict))) (recalling_without past s h)

theorem recalling_grant (s : ShadowHeap) (step : Step σ (Option Handle)) (size : Nat) (breached : Breach) :
    ((do
      match ← step with
      | none => return (s.recalling past, .ok ())
      | some h =>
        if size = 0 then
          return (s.recalling past).breach h breached
        (s.recalling past).install h [] size : Step σ (ShadowHeap × Verdict))) =
    recalled past (do
      match ← step with
      | none => return (s, .ok ())
      | some h =>
        if size = 0 then
          return s.breach h breached
        s.install h [] size) := by
  refine recalled_bind past _ _ _ fun answer => ?_
  cases answer with
  | none => rfl
  | some h => exact recalled_ite past _ _ _ _ _ rfl (recalling_install past s h [] size)

theorem recalling_resized (s : ShadowHeap) (h fresh : Handle) (contents : List UInt8) (size : Nat) :
    (s.recalling past).resized h fresh contents size = recalled past (s.resized h fresh contents size : Step σ _) := by
  refine recalled_bind past _ _ _ fun verdict => ?_
  cases verdict with
  | error found => rfl
  | ok done =>
      refine recalled_ite past _ _ _ _ _ (recalling_install past (s.drop h) fresh _ size) ?_
      refine Eq.trans (congrArg (· >>= _) (recalling_retire past (s.drop h) h)) (recalled_then past _ _ _ fun answer => ?_)
      obtain ⟨parted, verdict⟩ := answer
      cases verdict with
      | error found => rfl
      | ok done => exact recalling_install past parted fresh _ size

theorem recalling_resize (s : ShadowHeap) (number size : Nat) :
    (s.recalling past).resize number size = recalled past (s.resize number size : Step σ _) := by
  rw [ShadowHeap.resize, ShadowHeap.resize, show (s.recalling past).pick number = s.pick number from rfl]
  cases s.pick number with
  | none => exact recalling_grant past s _ size _
  | some entry =>
      obtain ⟨h, contents⟩ := entry
      refine recalled_bind past _ _ _ fun answer => ?_
      cases answer with
      | none =>
          refine recalled_ite past _ _ _ _ _ (recalling_retire past s h) ?_
          exact recalled_bind past _ _ _ fun verdict => rfl
      | some fresh => exact recalled_ite past _ _ _ _ _ rfl (recalling_resized past s h fresh contents size)

-- Only a free that finds nothing live looks at what is retired.
theorem recalling_apply (s : ShadowHeap) (op : Op) (busy : op.asks = true ∨ s.live ≠ []) :
    (s.recalling past).apply op = recalled past (s.apply op : Step σ _) := by
  cases op with
  | alloc size => exact recalling_grant past s _ size _
  | resize number size => exact recalling_resize past s number size
  | free number =>
      have some : 0 < s.live.length := List.length_pos_iff.mpr (busy.resolve_left nofun)
      rw [ShadowHeap.apply, ShadowHeap.apply, ShadowHeap.free, ShadowHeap.free,
        show (s.recalling past).pick number = s.pick number from rfl,
        ShadowHeap.pick, List.getElem?_eq_getElem (Nat.mod_lt number some)]
      exact recalled_bind past _ _ _ fun _ => recalling_retire past s _

theorem recalling_run (ops : List Op) (s : ShadowHeap) (a : σ) (busy : NeverIdle (s.recalling past) ops a) :
    (s.recalling past).run ops a = recalled past (s.run ops) a := by
  induction ops generalizing s a with
  | nil => rfl
  | cons op rest ih =>
      obtain ⟨now, later⟩ := busy
      have applies : (s.recalling past).apply op a = recalled past (s.apply op) a := congrFun (recalling_apply past s op now) a
      cases ran : s.apply op a with
      | error reason b =>
          have stopped : (s.recalling past).apply op a = .error reason b := applies.trans (step_bind_error _ _ a b reason ran)
          exact (step_bind_error _ _ a b reason stopped).trans
            (step_bind_error _ _ a b reason (step_bind_error _ _ a b reason ran)).symm
      | ok answer b =>
          obtain ⟨middle, verdict⟩ := answer
          have ran' : (s.recalling past).apply op a = .ok (middle.recalling past, verdict) b :=
            applies.trans (step_bind_ok _ _ a b _ ran)
          refine (step_bind_ok _ _ a b _ ran').trans (Eq.trans ?_ (recalled_at past _ _ b a (step_bind_ok _ _ a b _ ran).symm))
          cases verdict with
          | error found => rfl
          | ok done => exact ih middle b (later _ b ran')

end Recalling

-- But for a free that meets nothing live, nobody asks whether a handle was retired: a shadow that has
-- forgotten all of them goes on in the same way.
theorem retired_handles_are_forgotten (ops : List Op) (a b : σ) (s : ShadowHeap)
    (ran : ({} : ShadowHeap).run ops a = .ok (s, .ok ()) b) :
    s.handles.Nodup ∧
      (∀ h ∈ s.retired, ∃ before op rest earlier c, ops = before ++ op :: rest ∧
        ({} : ShadowHeap).run before a = .ok (earlier, .ok ()) c ∧ h ∈ earlier.handles ∧ Ended h c) ∧
      (∀ before rest earlier c, ops = before ++ rest → ({} : ShadowHeap).run before a = .ok (earlier, .ok ()) c →
        ∀ h ∈ earlier.handles, h ∈ s.handles ∨ h ∈ s.retired) ∧
      (∀ more, NeverIdle s more b → s.run more b = recalled s.retired (({ s with retired := #[] } : ShadowHeap).run more) b) ∧
      s.verify b = ({ s with retired := #[] } : ShadowHeap).verify b := by
  refine ⟨run_distinct ops {} s a b List.nodup_nil ran, fun h member => ?_, ?_, fun more busy => ?_, rfl⟩
  · exact (run_retires ops {} s a b h member ran).resolve_left (Array.not_mem_empty h)
  · rintro before rest earlier c rfl ran' h member
    obtain ⟨middle, d, first, final⟩ := run_split {} s a b before rest ran
    cases ran'.symm.trans first
    exact run_keeps rest earlier s c b h (.inl member) final
  · have same : ({ s with retired := #[] } : ShadowHeap).recalling s.retired = s := by
      simp only [ShadowHeap.recalling, Array.append_empty]
    rw [← same] at busy
    refine Eq.trans ?_ (recalling_run s.retired more { s with retired := #[] } b busy)
    rw [same]

-- A free is lost, and the size asked for right after it is held back: the handle is retired, and the run may go on.
theorem retired_handles_are_forgotten_lost_free :
    (PoolConfig.mk 64 16 8 .bestFit true).Valid ∧
      ∃ pool next h, Pool.init (PoolConfig.mk 64 16 8 .bestFit true) ⟨1⟩ = .ok (.ok pool) next ∧
        ∃ s f, ({} : ShadowHeap).run [.alloc 8, .free 0] (FaultyPool.mk pool { dropFree := [1], hideUsable := [2] } {} none) =
          .ok (s, .ok ()) f ∧ s.retired.toList = [h] ∧ NeverIdle s [.alloc 8] f ∧
          s.run [.alloc 8] f = recalled s.retired (({ s with retired := #[] } : ShadowHeap).run [.alloc 8]) f := by
  have forgotten (start : FaultyPool) (h : Handle)
      (retires : ((({} : ShadowHeap).run [.alloc 8, .free 0]).attempt start).1.map
        (fun answer => (answer.1.retired.toList, answer.2)) =
        .ok ([h], .ok ())) :
      ∃ s f, ({} : ShadowHeap).run [.alloc 8, .free 0] start = .ok (s, .ok ()) f ∧ s.retired.toList = [h] ∧
        NeverIdle s [.alloc 8] f ∧
        s.run [.alloc 8] f = recalled s.retired (({ s with retired := #[] } : ShadowHeap).run [.alloc 8]) f := by
    obtain ⟨⟨s, verdict⟩, ran, shown⟩ := attempt_found _ _ start _ retires
    obtain ⟨retired, rfl⟩ := Prod.mk.inj shown
    obtain ⟨_, _, _, forgets, _⟩ := retired_handles_are_forgotten _ _ _ _ ran
    have busy (f : FaultyPool) : NeverIdle s [.alloc 8] f := ⟨.inl rfl, fun _ _ _ => trivial⟩
    exact ⟨s, _, ran, retired, busy _, forgets [.alloc 8] (busy _)⟩
  refine ⟨by rfl, _, _, ⟨⟨1⟩, 0, 0⟩, rfl, forgotten _ _ ?_⟩
  decide +kernel

theorem retired_handle_comes_back :
    (PoolConfig.mk 64 16 8 .bestFit true).Valid ∧
      ∃ pool next h, Pool.init (PoolConfig.mk 64 16 8 .bestFit true) ⟨1⟩ = .ok (.ok pool) next ∧
        ((do
          let (s, first) ← ({} : ShadowHeap).run [.alloc 8, .free 0]
          let (t, second) ← s.run [.alloc 8]
          let verified ← t.verify
          return (s.retired.toList, t.handles, [first, second, verified]) : Step FaultyPool _).attempt
            ⟨pool, { repeatAlloc := [2], dropFree := [1], hideUsable := [2] }, {}, none⟩).1 =
          .ok ([h], [h], [.ok (), .ok (), .ok ()]) := by
  refine ⟨by rfl, _, _, ⟨⟨1⟩, 0, 0⟩, rfl, ?_⟩
  decide +kernel

end BlockPool
