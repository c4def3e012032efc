import BlockPool.Proofs.HandleSteps

set_option autoImplicit false

namespace BlockPool

inductive HandleCall where
  | insert (block : BlockId)
  | get (h : Handle)
  | remove (h : Handle)
deriving DecidableEq, Repr

inductive HandleEvent where
  | issued (h : Handle) (block : BlockId)
  | removed (h : Handle)
deriving DecidableEq, Repr

-- A history has its newest event first. A handle stands for the block it was
-- issued for until a call to remove it.
def Outstanding (history : List HandleEvent) (h : Handle) (block : BlockId) : Prop :=
  ∃ later earlier, history = later ++ .issued h block :: earlier ∧ .removed h ∉ later

structure Accountable (t : HandleTable) (history : List HandleEvent) : Prop where
  resolves : ∀ h block, t.get? h = some block ↔ Outstanding history h block
  -- removed once, a handle resolves at no later time
  ended : ∀ h block later earlier, history = later ++ .issued h block :: earlier → .removed h ∈ later → t.get? h = none
  counted : ∃ resolving : List Handle, resolving.Nodup ∧ (∀ h, h ∈ resolving ↔ (t.get? h).isSome) ∧
    t.live = resolving.length

def Recounted : HandleTable → List HandleEvent → List HandleCall → Prop
  | t, history, [] => Accountable t history
  | t, history, .insert block :: rest =>
    Accountable t history ∧
      (t.slots.size < UInt32.size →
        ∃ h next, HandleTable.insert block t = .ok h next ∧ (∀ old other, .issued old other ∈ history → h ≠ old) ∧
          Recounted next (.issued h block :: history) rest)
  | t, history, .get _ :: rest => Accountable t history ∧ Recounted t history rest
  | t, history, .remove h :: rest =>
    Accountable t history ∧
      ∃ next, HandleTable.remove h t = .ok (t.get? h) next ∧ (t.get? h = none → next = t) ∧
        Recounted next (.removed h :: history) rest

theorem outstanding_issued (history : List HandleEvent) (h k : Handle) (block other : BlockId) :
    Outstanding (.issued h block :: history) k other ↔ (k = h ∧ other = block) ∨ Outstanding history k other := by
  constructor
  · rintro ⟨later, earlier, same, kept⟩
    cases later with
    | nil =>
        cases same
        exact .inl ⟨rfl, rfl⟩
    | cons event later =>
        cases same
        exact .inr ⟨later, earlier, rfl, fun gone => kept (List.mem_cons_of_mem _ gone)⟩
  · rintro (⟨rfl, rfl⟩ | ⟨later, earlier, rfl, kept⟩)
    · exact ⟨[], history, rfl, List.not_mem_nil⟩
    · refine ⟨.issued h block :: later, earlier, rfl, fun gone => ?_⟩
      rcases List.mem_cons.mp gone with impossible | before
      · cases impossible
      · exact kept before

theorem outstanding_removed (history : List HandleEvent) (h k : Handle) (block : BlockId) :
    Outstanding (.removed h :: history) k block ↔ k ≠ h ∧ Outstanding history k block := by
  constructor
  · rintro ⟨later, earlier, same, kept⟩
    cases later with
    | nil => cases same
    | cons event later =>
        cases same
        refine ⟨fun removed => kept (removed ▸ List.mem_cons_self), later, earlier, rfl, fun gone => ?_⟩
        exact kept (List.mem_cons_of_mem _ gone)
  · rintro ⟨other, later, earlier, rfl, kept⟩
    refine ⟨.removed h :: later, earlier, rfl, fun gone => ?_⟩
    rcases List.mem_cons.mp gone with same | before
    · cases same
      exact other rfl
    · exact kept before

theorem outstanding_was_issued (history : List HandleEvent) (h : Handle) (block : BlockId)
    (outstanding : Outstanding history h block) : .issued h block ∈ history := by
  obtain ⟨later, earlier, rfl, _⟩ := outstanding
  simp

theorem removal_before (event : HandleEvent) (history later earlier : List HandleEvent) (h : Handle) (block : BlockId)
    (whole : event :: history = later ++ .issued h block :: earlier) (gone : .removed h ∈ later) :
    event = .removed h ∨ ∃ between, history = between ++ .issued h block :: earlier ∧ .removed h ∈ between := by
  cases later with
  | nil => cases gone
  | cons newest between =>
      cases whole
      rcases List.mem_cons.mp gone with same | before
      · exact .inl same.symm
      · exact .inr ⟨between, rfl, before⟩

theorem issued_accountable (t next : HandleTable) (history : List HandleEvent) (h : Handle) (block : BlockId)
    (accountable : Accountable t history) (fresh : ∀ old other, .issued old other ∈ history → h ≠ old)
    (unknown : t.get? h = none) (answers : ∀ k, next.get? k = if k = h then some block else t.get? k)
    (live : next.live = t.live + 1) :
    Accountable next (.issued h block :: history) := by
  obtain ⟨resolves, ended, resolving, distinct, complete, counted⟩ := accountable
  have never (other : BlockId) : ¬ Outstanding history h other :=
    fun outstanding => fresh h other (outstanding_was_issued history h other outstanding) rfl
  refine ⟨?_, ?_, h :: resolving, ?_, ?_, ?_⟩
  · intro k other
    rw [answers, outstanding_issued]
    by_cases same : k = h
    · simp [same, never, eq_comm]
    · simp [same, resolves]
  · intro k other later earlier whole gone
    rcases removal_before _ history later earlier k other whole gone with impossible | ⟨between, rfl, before⟩
    · cases impossible
    · have different : k ≠ h := fun same => fresh k other (by simp) same.symm
      rw [answers, if_neg different]
      exact ended k other between earlier rfl before
  · refine List.nodup_cons.mpr ⟨fun member => ?_, distinct⟩
    have known := (complete h).mp member
    rw [unknown] at known
    cases known
  · intro k
    rw [answers, List.mem_cons, complete]
    by_cases same : k = h
    · simp [same]
    · simp [same]
  · rw [live, counted, List.length_cons]

theorem ignored_accountable (t : HandleTable) (history : List HandleEvent) (h : Handle) (accountable : Accountable t history)
    (unknown : t.get? h = none) : Accountable t (.removed h :: history) := by
  obtain ⟨resolves, ended, counted⟩ := accountable
  refine ⟨?_, ?_, counted⟩
  · intro k block
    rw [outstanding_removed, ← resolves]
    refine ⟨fun found => ⟨fun same => ?_, found⟩, And.right⟩
    rw [same, unknown] at found
    cases found
  · intro k block later earlier whole gone
    rcases removal_before _ history later earlier k block whole gone with same | ⟨between, rfl, before⟩
    · cases same
      exact unknown
    · exact ended k block between earlier rfl before

theorem removed_accountable (t next : HandleTable) (history : List HandleEvent) (h : Handle) (accountable : Accountable t history)
    (known : (t.get? h).isSome) (answers : ∀ k, next.get? k = if k = h then none else t.get? k) (live : next.live = t.live - 1) :
    Accountable next (.removed h :: history) := by
  obtain ⟨resolves, ended, resolving, distinct, complete, counted⟩ := accountable
  refine ⟨?_, ?_, resolving.erase h, distinct.erase h, ?_, ?_⟩
  · intro k other
    rw [answers, outstanding_removed, ← resolves]
    by_cases same : k = h
    · simp [same]
    · simp [same]
  · intro k other later earlier whole gone
    rw [answers]
    rcases removal_before _ history later earlier k other whole gone with same | ⟨between, rfl, before⟩
    · cases same
      exact if_pos rfl
    · rw [ended k other between earlier rfl before, ite_self]
  · intro k
    rw [answers, distinct.mem_erase_iff, complete]
    by_cases same : k = h
    · simp [same]
    · simp [same]
  · rw [List.length_erase_of_mem ((complete h).mpr known), live, counted]

-- No later occupant of the slot can have the generation of the handle: it is empty for good, or its
-- generation is larger, or the handle is the one in it now.
def GonePast (t : HandleTable) (h : Handle) (slot : Slot) : Prop :=
  (slot.block = none ∧ h.slot ∉ t.vacated) ∨ h.generation.toNat < slot.generation.toNat ∨
    (h.generation = slot.generation ∧ slot.block.isSome)

structure Ledger (t : HandleTable) (history : List HandleEvent) : Prop where
  orderly : Orderly t
  past : ∀ h block, .issued h block ∈ history → ∃ slot, t.slots[h.slot.toNat]? = some slot ∧ GonePast t h slot
  accountable : Accountable t history

theorem empty_ledger (pool : PoolId) : Ledger (HandleTable.empty pool) [] := by
  have unknown (h : Handle) : (HandleTable.empty pool).get? h = none := get_unoccupied _ h (by simp [HandleTable.empty])
  refine ⟨empty_orderly pool, by simp, ?_, ?_, [], List.nodup_nil, ?_, rfl⟩
  · intro h block
    rw [unknown]
    constructor
    · intro known
      cases known
    · intro outstanding
      exact absurd (outstanding_was_issued [] h block outstanding) List.not_mem_nil
  · exact fun h _ _ _ _ _ => unknown h
  · intro h
    simp [unknown]

theorem recycled_past (t : HandleTable) (block : BlockId) (history : List HandleEvent) (ledger : Ledger t history)
    (index : UInt32) (rest : List UInt32) (generation : UInt32) (vacated : t.vacated = index :: rest)
    (read : t.slots[index.toNat]? = some ⟨generation, none⟩) (k : Handle) (other : BlockId)
    (issued : .issued k other ∈ history) :
    ⟨t.pool, index, generation⟩ ≠ k ∧
      ∃ slot, (t.slots.setIfInBounds index.toNat ⟨generation, some block⟩)[k.slot.toNat]? = some slot ∧
        GonePast ⟨t.pool, t.slots.setIfInBounds index.toNat ⟨generation, some block⟩, rest, t.live + 1⟩ k slot := by
  have bound : index.toNat < t.slots.size := (Array.getElem?_eq_some_iff.mp read).1
  obtain ⟨slot, found, past⟩ := ledger.past k other issued
  by_cases here : k.slot = index
  · rw [here, read] at found
    cases found
    -- the slot is empty and waits, so of the three ways to be past a handle only the larger generation is left
    have smaller : k.generation.toNat < generation.toNat := by
      rcases past with ⟨_, unused⟩ | smaller | ⟨_, occupied⟩
      · exact absurd (by rw [here, vacated]; exact List.mem_cons_self) unused
      · exact smaller
      · cases occupied
    refine ⟨fun same => Nat.ne_of_lt smaller ?_, ⟨generation, some block⟩, ?_, .inr (.inl smaller)⟩
    · rw [← same]
    · rw [here]
      exact Array.getElem?_setIfInBounds_self_of_lt bound
  · have different : index.toNat ≠ k.slot.toNat := fun equal => here (UInt32.toNat_inj.mp equal).symm
    refine ⟨fun same => here (congrArg Handle.slot same).symm,
      slot, by rw [Array.getElem?_setIfInBounds_ne different, found], ?_⟩
    rcases past with ⟨empty, unused⟩ | others
    · rw [vacated] at unused
      exact .inl ⟨empty, fun member => unused (List.mem_cons_of_mem _ member)⟩
    · exact .inr others

theorem grown_past (t : HandleTable) (block : BlockId) (history : List HandleEvent) (ledger : Ledger t history)
    (room : t.slots.size < UInt32.size) (k : Handle) (other : BlockId) (issued : .issued k other ∈ history) :
    ⟨t.pool, t.slots.size.toUInt32, 0⟩ ≠ k ∧
      ∃ slot, (t.slots.push ⟨0, some block⟩)[k.slot.toNat]? = some slot ∧
        GonePast ⟨t.pool, t.slots.push ⟨0, some block⟩, [], t.live + 1⟩ k slot := by
  have index : t.slots.size.toUInt32.toNat = t.slots.size := UInt32.toNat_ofNat_of_lt' room
  obtain ⟨slot, found, past⟩ := ledger.past k other issued
  have bound : k.slot.toNat < t.slots.size := (Array.getElem?_eq_some_iff.mp found).1
  refine ⟨fun same => Nat.ne_of_lt bound ?_, slot, by rw [Array.getElem?_push, if_neg (Nat.ne_of_lt bound), found], ?_⟩
  · rw [← same]
    exact index
  · rcases past with ⟨empty, _⟩ | others
    · exact .inl ⟨empty, List.not_mem_nil⟩
    · exact .inr others

theorem insert_past (t : HandleTable) (block : BlockId) (history : List HandleEvent) (ledger : Ledger t history)
    (few : t.live + 1 < Word.bound) (room : t.slots.size < UInt32.size) (h : Handle) (next : HandleTable)
    (ran : HandleTable.insert block t = .ok h next) :
    (∀ old other, .issued old other ∈ history → h ≠ old) ∧
      ∀ k other, .issued k other ∈ HandleEvent.issued h block :: history →
        ∃ slot, next.slots[k.slot.toNat]? = some slot ∧ GonePast next k slot := by
  rcases insert_cases t block ledger.orderly few with ⟨index, rest, generation, vacated, read, ran'⟩ | ⟨vacated, ran'⟩
  · rw [ran'] at ran
    cases ran
    have bound : index.toNat < t.slots.size := (Array.getElem?_eq_some_iff.mp read).1
    have before := recycled_past t block history ledger index rest generation vacated read
    refine ⟨fun old other issued => (before old other issued).1, fun k other issued => ?_⟩
    rcases List.mem_cons.mp issued with now | earlier
    · cases now
      exact ⟨⟨generation, some block⟩, Array.getElem?_setIfInBounds_self_of_lt bound, .inr (.inr ⟨rfl, rfl⟩)⟩
    · exact (before k other earlier).2
  · rw [ran'] at ran
    cases ran
    have index : t.slots.size.toUInt32.toNat = t.slots.size := UInt32.toNat_ofNat_of_lt' room
    have before := grown_past t block history ledger room
    refine ⟨fun old other issued => (before old other issued).1, fun k other issued => ?_⟩
    rcases List.mem_cons.mp issued with now | earlier
    · cases now
      exact ⟨⟨0, some block⟩, by simp [index], .inr (.inr ⟨rfl, rfl⟩)⟩
    · exact (before k other earlier).2

theorem raised_generation (generation : UInt32) (going : generation + 1 ≠ 0) : (generation + 1).toNat = generation.toNat + 1 := by
  have small := generation.toNat_lt
  have nonzero : (generation + 1).toNat ≠ 0 := fun zero => going (UInt32.toNat_inj.mp zero)
  rw [UInt32.toNat_add] at nonzero ⊢
  simp only [UInt32.toNat_one] at nonzero ⊢
  omega

theorem vacate_waiting (t : HandleTable) (h : Handle) (index : UInt32) (waiting : index ∈ (vacate t h).vacated) :
    (index = h.slot ∧ h.generation + 1 ≠ 0) ∨ index ∈ t.vacated := by
  by_cases wraps : h.generation + 1 = 0
  · simp only [vacate, wraps, ne_eq, not_true_eq_false, if_false] at waiting
    exact .inr waiting
  · simp only [vacate, wraps, ne_eq, not_false_eq_true, if_true] at waiting
    rcases List.mem_cons.mp waiting with same | before
    · exact .inl ⟨same, wraps⟩
    · exact .inr before

theorem vacate_past (t : HandleTable) (h : Handle) (block : BlockId) (history : List HandleEvent) (ledger : Ledger t history)
    (known : t.get? h = some block) (k : Handle) (other : BlockId) (issued : .issued k other ∈ history) :
    ∃ slot, (vacate t h).slots[k.slot.toNat]? = some slot ∧ GonePast (vacate t h) k slot := by
  obtain ⟨_, read⟩ := (get_some_iff t h block).mp known
  obtain ⟨slot, found, past⟩ := ledger.past k other issued
  by_cases here : k.slot = h.slot
  · refine ⟨⟨h.generation + 1, none⟩, by rw [here, vacate_slot t h block known], ?_⟩
    rw [here, read] at found
    cases found
    have notAfter : k.generation.toNat ≤ h.generation.toNat := by
      rcases past with ⟨occupied, _⟩ | smaller | ⟨same, _⟩
      · cases occupied
      · exact Nat.le_of_lt smaller
      · exact Nat.le_of_eq (congrArg UInt32.toNat same)
    by_cases wraps : h.generation + 1 = 0
    · -- the slot is at generation zero again and must not be waiting to be issued from
      refine .inl ⟨rfl, fun waiting => ?_⟩
      rcases vacate_waiting t h k.slot waiting with ⟨_, going⟩ | before
      · exact going wraps
      · obtain ⟨generation, empty⟩ := ledger.orderly.vacant k.slot before
        rw [here, read] at empty
        cases empty
    · refine .inr (.inl (Nat.lt_of_le_of_lt notAfter ?_))
      rw [raised_generation h.generation wraps]
      exact Nat.lt_succ_self _
  · have different : h.slot.toNat ≠ k.slot.toNat := fun equal => here (UInt32.toNat_inj.mp equal).symm
    refine ⟨slot, by rw [vacate, Array.getElem?_setIfInBounds_ne different, found], ?_⟩
    rcases past with ⟨empty, unused⟩ | others
    · refine .inl ⟨empty, fun waiting => ?_⟩
      rcases vacate_waiting t h k.slot waiting with ⟨same, _⟩ | before
      · exact here same
      · exact unused before
    · exact .inr others

theorem insert_ledger (t : HandleTable) (history : List HandleEvent) (block : BlockId) (ledger : Ledger t history)
    (room : t.slots.size < UInt32.size) :
    ∃ h next, HandleTable.insert block t = .ok h next ∧ (∀ old other, .issued old other ∈ history → h ≠ old) ∧
      Ledger next (.issued h block :: history) := by
  have few : t.live + 1 < Word.bound := by
    have live := orderly_live t ledger.orderly
    simp only [UInt32.size, Word.bound, UInt64.size] at room ⊢
    omega
  obtain ⟨h, next, ran, live⟩ := insert_succeeds t block ledger.orderly few
  obtain ⟨orderly, _⟩ := insert_orderly t block ledger.orderly few h next ran
  obtain ⟨fresh, past⟩ := insert_past t block history ledger few room h next ran
  obtain ⟨unknown, answers⟩ := insert_get t block ledger.orderly few room h next ran
  exact ⟨h, next, ran, fresh, orderly, past, issued_accountable t next history h block ledger.accountable fresh
    unknown answers live⟩

theorem remove_ledger (t : HandleTable) (history : List HandleEvent) (h : Handle) (ledger : Ledger t history) :
    ∃ next, HandleTable.remove h t = .ok (t.get? h) next ∧ (t.get? h = none → next = t) ∧
      Ledger next (.removed h :: history) := by
  have issued (k : Handle) (block : BlockId) (event : .issued k block ∈ HandleEvent.removed h :: history) :
      .issued k block ∈ history := by
    rcases List.mem_cons.mp event with impossible | before
    · cases impossible
    · exact before
  cases known : t.get? h with
  | none =>
      refine ⟨t, remove_none t h known, fun _ => rfl, ledger.orderly, ?_,
        ignored_accountable t history h ledger.accountable known⟩
      exact fun k block event => ledger.past k block (issued k block event)
  | some block =>
      obtain ⟨orderly, _⟩ := vacate_orderly t h block known ledger.orderly
      have live : 1 ≤ t.live := by
        obtain ⟨resolving, _, complete, counted⟩ := ledger.accountable.counted
        rw [counted]
        exact List.length_pos_of_mem ((complete h).mpr (by rw [known]; rfl))
      refine ⟨vacate t h, remove_some t h block known live, fun absent => (Option.some_ne_none block absent).elim,
        orderly, ?_, ?_⟩
      · exact fun k other event => vacate_past t h block history ledger known k other (issued k other event)
      · exact removed_accountable t (vacate t h) history h ledger.accountable (by rw [known]; rfl)
          (fun k => vacate_get t h k block known) rfl

theorem ledger_recounted (calls : List HandleCall) (t : HandleTable) (history : List HandleEvent) (ledger : Ledger t history) :
    Recounted t history calls := by
  induction calls generalizing t history with
  | nil => exact ledger.accountable
  | cons call rest ih =>
      cases call with
      | insert block =>
          refine ⟨ledger.accountable, fun room => ?_⟩
          obtain ⟨h, next, ran, fresh, kept⟩ := insert_ledger t history block ledger room
          exact ⟨h, next, ran, fresh, ih next _ kept⟩
      | get h => exact ⟨ledger.accountable, ih t history ledger⟩
      | remove h =>
          obtain ⟨next, ran, unchanged, kept⟩ := remove_ledger t history h ledger
          exact ⟨ledger.accountable, next, ran, unchanged, ih next _ kept⟩

theorem handles_never_return (pool : PoolId) (calls : List HandleCall) : Recounted (HandleTable.empty pool) [] calls :=
  ledger_recounted calls _ [] (empty_ledger pool)

end BlockPool
