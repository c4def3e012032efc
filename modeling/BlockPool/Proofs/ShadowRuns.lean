import BlockPool.Proofs.ShadowSteps

set_option autoImplicit false

namespace BlockPool

open ShadowHeap

-- Steps of a shadow on any allocator that found nothing wrong, and what became of the shadow.

def Op.asks : Op → Bool
  | .free _ => false
  | _ => true

def ShadowHeap.installed (s : ShadowHeap) (h : Handle) (kept : List UInt8) (size : Nat) : ShadowHeap :=
  s.refill.keep h (kept ++ List.replicate (size - kept.length) s.refill.fill)

variable {σ : Type} [BlockAllocator σ]

-- How an allocation comes to its end: a call gives it up, and asked for its size right after that it does not resolve.
inductive Ended (h : Handle) (a : σ) : Prop where
  | freed (b c : σ) (called : BlockAllocator.free (some h) a = .ok () c) (asked : BlockAllocator.usableSize h c = .ok none b)
  | emptied (b c : σ) (called : BlockAllocator.resize (some h) 0 a = .ok none c)
      (asked : BlockAllocator.usableSize h c = .ok none b)
  | moved (n : Handle) (kept : List UInt8) (size : Nat) (b c d : σ)
      (called : BlockAllocator.resize (some h) size a = .ok (some n) c)
      (differs : n ≠ h) (checked : checkContents n kept c = .ok (.ok ()) d) (asked : BlockAllocator.usableSize h d = .ok none b)

inductive Became (s : ShadowHeap) (op : Op) (a : σ) : ShadowHeap → Prop where
  | still : Became s op a s
  | entered (h : Handle) (size : Nat) (asks : op.asks = true) (new : h ∉ s.handles) : Became s op a (s.installed h [] size)
  | left (h : Handle) (member : h ∈ s.handles) (ended : Ended h a) : Became s op a (s.without h)
  | reshaped (h : Handle) (contents : List UInt8) (size : Nat) (asks : op.asks = true) (inside : (h, contents) ∈ s.live) :
      Became s op a ((s.drop h).installed h (contents.take size) size)
  | moved (h n : Handle) (contents : List UInt8) (size : Nat) (asks : op.asks = true) (inside : (h, contents) ∈ s.live)
      (new : n ∉ (s.without h).handles) (differs : n ≠ h) (ended : Ended h a) :
      Became s op a ((s.without h).installed n (contents.take size) size)

section Inversion

variable (s s' : ShadowHeap) (a b : σ)

theorem install_ran (h : Handle) (kept : List UInt8) (size : Nat) (ran : s.install h kept size a = .ok (s', .ok ()) b) :
    h ∉ s.handles ∧ s' = s.installed h kept size := by
  obtain ⟨answer, c, _, rest⟩ := step_bind_ran _ _ a b _ ran
  cases answer with
  | none => cases rest
  | some usable =>
      by_cases small : usable < size
      · simp only [if_pos small] at rest
        cases rest
      · simp only [if_neg small] at rest
        by_cases known : s.holds h = true
        · simp only [if_pos known] at rest
          cases rest
        · simp only [if_neg known] at rest
          obtain ⟨written, d, _, final⟩ := step_bind_ran _ _ c b _ rest
          cases written with
          | error e => cases final
          | ok done =>
              cases final
              exact ⟨fun member => known ((holds_iff s h).mpr member), rfl⟩

theorem retire_ran (h : Handle) (ran : s.retire h a = .ok (s', .ok ()) b) :
    BlockAllocator.usableSize h a = .ok none b ∧ s' = s.without h := by
  obtain ⟨answer, c, asked, rest⟩ := step_bind_ran _ _ a b _ ran
  cases answer with
  | some usable => cases rest
  | none =>
      cases rest
      exact ⟨asked, rfl⟩

theorem granted_ran (step : Step σ (Option Handle)) (op : Op) (size : Nat) (breached : Breach) (asks : op.asks = true)
    (ran : (do
      match ← step with
      | none => return (s, .ok ())
      | some h =>
        if size = 0 then
          return s.breach h breached
        s.install h [] size : Step σ (ShadowHeap × Verdict)) a = .ok (s', .ok ()) b) : Became s op a s' := by
  obtain ⟨answer, c, _, rest⟩ := step_bind_ran _ _ a b _ ran
  cases answer with
  | none =>
      cases rest
      exact .still
  | some h =>
      by_cases zero : size = 0
      · simp only [if_pos zero] at rest
        cases rest
      · simp only [if_neg zero] at rest
        obtain ⟨new, rfl⟩ := install_ran s s' c b h [] size rest
        exact .entered h size asks new

theorem free_ran (number : Nat) (ran : s.free number a = .ok (s', .ok ()) b) : Became s (.free number) a s' := by
  rw [ShadowHeap.free] at ran
  cases picked : s.pick number with
  | none =>
      simp only [picked] at ran
      obtain ⟨_, c, _, rest⟩ := step_bind_ran _ _ a b _ ran
      cases rest
      exact .still
  | some entry =>
      simp only [picked] at ran
      obtain ⟨_, c, called, rest⟩ := step_bind_ran _ _ a b _ ran
      obtain ⟨asked, rfl⟩ := retire_ran s s' c b entry.1 rest
      exact .left entry.1 (listed_handle s entry (picked_member s number entry picked)) (.freed b c called asked)

theorem resized_ran (op : Op) (h fresh : Handle) (contents : List UInt8) (size : Nat) (c : σ) (asks : op.asks = true)
    (inside : (h, contents) ∈ s.live) (called : BlockAllocator.resize (some h) size a = .ok (some fresh) c)
    (ran : s.resized h fresh contents size c = .ok (s', .ok ()) b) : Became s op a s' := by
  obtain ⟨verdict, d, checked, rest⟩ := step_bind_ran _ _ c b _ ran
  cases verdict with
  | error found => cases rest
  | ok done =>
      by_cases same : fresh = h
      · simp only [if_pos same] at rest
        obtain ⟨new, rfl⟩ := install_ran (s.drop h) s' d b fresh _ size rest
        rw [same]
        exact .reshaped h contents size asks inside
      · simp only [if_neg same] at rest
        obtain ⟨⟨parted, verdict⟩, e, retired, final⟩ := step_bind_ran _ _ d b _ rest
        cases verdict with
        | error found => cases final
        | ok done =>
            obtain ⟨asked, rfl⟩ := retire_ran (s.drop h) parted d e h retired
            obtain ⟨new, rfl⟩ := install_ran _ s' e b fresh _ size final
            rw [ShadowHeap.without, drop_again] at new ⊢
            exact .moved h fresh contents size asks inside new same (.moved fresh _ size e c d called same checked asked)

theorem resize_ran (number size : Nat) (ran : s.resize number size a = .ok (s', .ok ()) b) :
    Became s (.resize number size) a s' := by
  rw [ShadowHeap.resize] at ran
  cases picked : s.pick number with
  | none =>
      simp only [picked] at ran
      exact granted_ran s s' a b _ _ size _ rfl ran
  | some entry =>
      obtain ⟨h, contents⟩ := entry
      have inside := picked_member s number (h, contents) picked
      simp only [picked] at ran
      obtain ⟨answer, c, called, rest⟩ := step_bind_ran _ _ a b _ ran
      cases answer with
      | none =>
          by_cases zero : size = 0
          · subst zero
            simp only [if_true] at rest
            obtain ⟨asked, rfl⟩ := retire_ran s s' c b h rest
            exact .left h (listed_handle s (h, contents) inside) (.emptied b c called asked)
          · simp only [if_neg zero] at rest
            obtain ⟨verdict, d, _, final⟩ := step_bind_ran _ _ c b _ rest
            cases final
            exact .still
      | some fresh =>
          by_cases zero : size = 0
          · simp only [if_pos zero] at rest
            cases rest
          · simp only [if_neg zero] at rest
            exact resized_ran s s' a b _ h fresh contents size c rfl inside called rest

theorem apply_ran (op : Op) (ran : s.apply op a = .ok (s', .ok ()) b) : Became s op a s' := by
  cases op with
  | alloc size => exact granted_ran s s' a b _ _ size _ rfl ran
  | free number => exact free_ran s s' a b number ran
  | resize number size => exact resize_ran s s' a b number size ran

theorem run_ran (op : Op) (rest : List Op) (ran : s.run (op :: rest) a = .ok (s', .ok ()) b) :
    ∃ middle c, s.apply op a = .ok (middle, .ok ()) c ∧ middle.run rest c = .ok (s', .ok ()) b := by
  obtain ⟨⟨middle, verdict⟩, c, applied, final⟩ := step_bind_ran _ _ a b _ ran
  cases verdict with
  | error found => cases final
  | ok done => exact ⟨middle, c, applied, final⟩

theorem run_split (before rest : List Op) (ran : s.run (before ++ rest) a = .ok (s', .ok ()) b) :
    ∃ middle c, s.run before a = .ok (middle, .ok ()) c ∧ middle.run rest c = .ok (s', .ok ()) b := by
  induction before generalizing s a with
  | nil => exact ⟨s, a, rfl, ran⟩
  | cons op others ih =>
      obtain ⟨next, c, applied, final⟩ := run_ran s s' a b op (others ++ rest) ran
      obtain ⟨middle, d, ran', final'⟩ := ih next c final
      exact ⟨middle, d, (step_bind_ok _ _ a c _ applied).trans ran', final'⟩

end Inversion

theorem installed_handles (s : ShadowHeap) (h : Handle) (kept : List UInt8) (size : Nat) :
    (s.installed h kept size).handles = s.handles ++ [h] := kept_handles s h _

theorem dropped_distinct (s : ShadowHeap) (h : Handle) (distinct : s.handles.Nodup) : (s.drop h).handles.Nodup :=
  distinct.sublist (List.filter_sublist.map Prod.fst)

theorem installed_distinct (s : ShadowHeap) (h : Handle) (kept : List UInt8) (size : Nat) (distinct : s.handles.Nodup)
    (new : h ∉ s.handles) : (s.installed h kept size).handles.Nodup := by
  rw [installed_handles]
  exact (List.perm_append_singleton h s.handles).nodup_iff.mpr (List.nodup_cons.mpr ⟨new, distinct⟩)

theorem became_distinct (s s' : ShadowHeap) (op : Op) (a : σ) (became : Became s op a s') (distinct : s.handles.Nodup) :
    s'.handles.Nodup := by
  cases became with
  | still => exact distinct
  | entered h size asks new => exact installed_distinct s h [] size distinct new
  | left h member ended => exact dropped_distinct s h distinct
  | reshaped h contents size asks inside =>
      have new : h ∉ (s.drop h).handles := fun member => ((dropped_handles s h h).mp member).2 rfl
      exact installed_distinct (s.drop h) h _ size (dropped_distinct s h distinct) new
  | moved h n contents size asks inside new differs ended =>
      exact installed_distinct (s.without h) n _ size (dropped_distinct s h distinct) new

theorem run_distinct (ops : List Op) (s s' : ShadowHeap) (a b : σ) (distinct : s.handles.Nodup)
    (ran : s.run ops a = .ok (s', .ok ()) b) : s'.handles.Nodup := by
  induction ops generalizing s a with
  | nil =>
      cases ran
      exact distinct
  | cons op rest ih =>
      obtain ⟨middle, c, applied, final⟩ := run_ran s s' a b op rest ran
      exact ih middle c (became_distinct s middle op a (apply_ran s middle a c op applied) distinct) final

end BlockPool
