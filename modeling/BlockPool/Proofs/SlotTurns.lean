import BlockPool.Proofs.HandleHistory
import Mathlib.Algebra.Order.Ring.Nat

set_option autoImplicit false

namespace BlockPool

-- An empty slot at generation zero has been through all of them and is not issued from again.
def Slot.isRetired (slot : Slot) : Bool := slot.generation == 0 && slot.block.isNone

def Slot.turns (slot : Slot) : Nat := if slot.isRetired then UInt32.size else slot.generation.toNat

def HandleTable.retired (t : HandleTable) : Nat := t.slots.toList.countP Slot.isRetired

def HandleTable.turns (t : HandleTable) : Nat := (t.slots.toList.map Slot.turns).sum

theorem occupied_turns (generation : UInt32) (block : BlockId) : Slot.turns ⟨generation, some block⟩ = generation.toNat := by
  simp [Slot.turns, Slot.isRetired]

theorem waiting_turns (generation : UInt32) (later : generation ≠ 0) : Slot.turns ⟨generation, none⟩ = generation.toNat := by
  simp [Slot.turns, Slot.isRetired, later]

theorem vacated_turns (generation : UInt32) : Slot.turns ⟨generation + 1, none⟩ = generation.toNat + 1 := by
  by_cases wraps : generation + 1 = 0
  · have raised := congrArg UInt32.toNat wraps
    have small := generation.toNat_lt
    rw [UInt32.toNat_add] at raised
    simp only [UInt32.toNat_one, UInt32.toNat_zero] at raised
    simp only [Slot.turns, Slot.isRetired, wraps, beq_self_eq_true, Option.isNone_none, Bool.and_self, if_true, UInt32.size]
    omega
  · rw [waiting_turns _ wraps, raised_generation generation wraps]

theorem slot_issues (slot : Slot) : slot.turns + (if slot.block.isSome then 1 else 0) ≤ UInt32.size := by
  obtain ⟨generation, block⟩ := slot
  have small := generation.toNat_lt
  cases block with
  | some block =>
      rw [occupied_turns]
      exact small
  | none =>
      unfold Slot.turns
      split
      · exact Nat.le_refl _
      · exact Nat.le_of_lt small

-- How the slots hang together with the number of blocks that were given back.
structure Revolved (t : HandleTable) (returned : Nat) : Prop where
  waiting : ∀ index ∈ t.vacated, ∀ slot ∈ t.slots[index.toNat]?, slot.generation ≠ 0
  whole : t.slots.size = t.live + t.vacated.length + t.retired
  turns : t.turns = returned

theorem empty_revolved (pool : PoolId) : Revolved (.empty pool) 0 :=
  ⟨fun _ member => absurd member List.not_mem_nil, rfl, rfl⟩

section Set

variable (slots : Array Slot) (index : Nat) (old slot : Slot) (read : slots[index]? = some old)

include read

theorem set_turns :
    ((slots.setIfInBounds index slot).toList.map Slot.turns).sum + old.turns = (slots.toList.map Slot.turns).sum + slot.turns := by
  obtain ⟨before, after, whole, changed⟩ := set_around slots.toList index old slot (by rwa [Array.getElem?_toList])
  rw [Array.toList_setIfInBounds, changed, whole]
  simp only [List.map_append, List.map_cons, List.sum_append, List.sum_cons]
  omega

theorem set_retired :
    (slots.setIfInBounds index slot).toList.countP Slot.isRetired + (if old.isRetired then 1 else 0) =
      slots.toList.countP Slot.isRetired + if slot.isRetired then 1 else 0 := by
  obtain ⟨before, after, whole, changed⟩ := set_around slots.toList index old slot (by rwa [Array.getElem?_toList])
  rw [Array.toList_setIfInBounds, changed, whole]
  simp only [List.countP_append, List.countP_cons]
  omega

end Set

theorem recycled_revolved (t : HandleTable) (block : BlockId) (returned : Nat) (index : UInt32) (rest : List UInt32)
    (generation : UInt32) (distinct : t.vacated.Nodup) (vacated : t.vacated = index :: rest)
    (read : t.slots[index.toNat]? = some ⟨generation, none⟩) (revolved : Revolved t returned) :
    Revolved ⟨t.pool, t.slots.setIfInBounds index.toNat ⟨generation, some block⟩, rest, t.live + 1⟩ returned := by
  obtain ⟨waiting, whole, turns⟩ := revolved
  have later : generation ≠ 0 := waiting index (by rw [vacated]; exact List.mem_cons_self) _ read
  have sum := set_turns t.slots index.toNat _ ⟨generation, some block⟩ read
  have count := set_retired t.slots index.toNat _ ⟨generation, some block⟩ read
  rw [waiting_turns generation later, occupied_turns] at sum
  simp only [Slot.isRetired, beq_eq_false_iff_ne.mpr later, Option.isNone_some, Bool.false_and, Bool.and_false, Bool.false_eq_true,
    if_false] at count
  rw [vacated] at distinct
  refine ⟨fun other member slot found => ?_, ?_, ?_⟩
  · have different : index.toNat ≠ other.toNat :=
      fun same => (List.nodup_cons.mp distinct).1 (UInt32.toNat_inj.mp same ▸ member)
    rw [Array.getElem?_setIfInBounds_ne different] at found
    exact waiting other (by rw [vacated]; exact List.mem_cons_of_mem _ member) slot found
  · rw [vacated, List.length_cons] at whole
    simp only [HandleTable.retired, Array.size_setIfInBounds] at whole ⊢
    omega
  · simp only [HandleTable.turns] at turns ⊢
    omega

theorem grown_revolved (t : HandleTable) (block : BlockId) (returned : Nat) (vacated : t.vacated = [])
    (revolved : Revolved t returned) :
    Revolved ⟨t.pool, t.slots.push ⟨0, some block⟩, [], t.live + 1⟩ returned := by
  obtain ⟨_, whole, turns⟩ := revolved
  refine ⟨fun _ member => absurd member List.not_mem_nil, ?_, ?_⟩
  · have busy : Slot.isRetired ⟨0, some block⟩ = false := rfl
    rw [vacated] at whole
    simp only [HandleTable.retired, Array.size_push, Array.toList_push, List.countP_append,
      List.countP_singleton, busy] at whole ⊢
    simp only [List.length_nil, Bool.false_eq_true, if_false] at whole ⊢
    omega
  · have unturned : Slot.turns ⟨0, some block⟩ = 0 := occupied_turns 0 block
    simp only [HandleTable.turns, Array.toList_push, List.map_append, List.sum_append, List.map_singleton,
      List.sum_singleton, unturned]
    exact turns

theorem insert_revolved (t next : HandleTable) (block : BlockId) (h : Handle) (returned : Nat) (orderly : Orderly t)
    (few : t.live + 1 < Word.bound) (ran : HandleTable.insert block t = .ok h next) (revolved : Revolved t returned) :
    Revolved next returned := by
  rcases insert_cases t block orderly few with ⟨index, rest, generation, vacated, read, ran'⟩ | ⟨vacated, ran'⟩
  · cases ran.symm.trans ran'
    exact recycled_revolved t block returned index rest generation orderly.distinct vacated read revolved
  · cases ran.symm.trans ran'
    exact grown_revolved t block returned vacated revolved

theorem vacate_revolved (t : HandleTable) (h : Handle) (block : BlockId) (returned : Nat) (orderly : Orderly t)
    (known : t.get? h = some block) (revolved : Revolved t returned) : Revolved (vacate t h) (returned + 1) := by
  obtain ⟨waiting, whole, turns⟩ := revolved
  obtain ⟨_, read⟩ := (get_some_iff t h block).mp known
  have counted := resolving_counted t h block known orderly
  have sum := set_turns t.slots h.slot.toNat _ ⟨h.generation + 1, none⟩ read
  have count := set_retired t.slots h.slot.toNat _ ⟨h.generation + 1, none⟩ read
  rw [vacated_turns, occupied_turns] at sum
  simp only [Slot.isRetired, Option.isNone_some, Option.isNone_none, Bool.and_false, Bool.and_true, Bool.false_eq_true, if_false,
    beq_iff_eq] at count
  refine ⟨fun other member slot found => ?_, ?_, ?_⟩
  · rcases vacate_waiting t h other member with ⟨rfl, raised⟩ | before
    · cases (vacate_slot t h block known).symm.trans found
      exact raised
    · obtain ⟨generation, empty⟩ := orderly.vacant other before
      have different : h.slot.toNat ≠ other.toNat := by
        intro same
        rw [← same, read] at empty
        cases empty
      rw [vacate, Array.getElem?_setIfInBounds_ne different] at found
      exact waiting other before slot found
  · -- the slot waits, or it has come round and is retired
    by_cases wraps : h.generation + 1 = 0
    · rw [if_pos wraps] at count
      simp only [vacate, HandleTable.retired, if_neg (not_not_intro wraps), Array.size_setIfInBounds] at whole ⊢
      omega
    · rw [if_neg wraps] at count
      simp only [vacate, HandleTable.retired, if_pos wraps, List.length_cons, Array.size_setIfInBounds] at whole ⊢
      omega
  · simp only [vacate, HandleTable.turns] at turns ⊢
    omega

theorem issued_within_generations (slots : List Slot) :
    (slots.map Slot.turns).sum + (slots.filterMap Slot.block).length ≤ UInt32.size * slots.length := by
  induction slots with
  | nil => exact Nat.le_refl _
  | cons slot rest ih =>
      have issues := slot_issues slot
      rw [List.map_cons, List.sum_cons, List.length_cons, Nat.mul_succ]
      cases occupied : slot.block with
      | none =>
          rw [List.filterMap_cons_none occupied]
          omega
      | some block =>
          rw [List.filterMap_cons_some occupied, List.length_cons]
          rw [occupied, Option.isSome_some, if_pos rfl] at issues
          omega

-- Each block that was given back, and each that is in use, has had a handle of its own.
theorem revolved_issued (t : HandleTable) (returned : Nat) (orderly : Orderly t) (revolved : Revolved t returned) :
    returned + t.live ≤ UInt32.size * t.slots.size := by
  rw [orderly.counted, ← revolved.turns]
  exact issued_within_generations t.slots.toList

theorem retired_turns (slots : List Slot) : UInt32.size * slots.countP Slot.isRetired ≤ (slots.map Slot.turns).sum := by
  induction slots with
  | nil => exact Nat.le_refl _
  | cons slot rest ih =>
      rw [List.map_cons, List.sum_cons, List.countP_cons, Nat.mul_add]
      cases retired : slot.isRetired with
      | false => exact Nat.le_add_left_of_le ih
      | true =>
          simp only [Slot.turns, retired, if_true]
          omega

theorem revolved_retired (t : HandleTable) (returned : Nat) (revolved : Revolved t returned) :
    t.retired ≤ returned / UInt32.size := by
  rw [Nat.le_div_iff_mul_le (by decide), Nat.mul_comm, ← revolved.turns]
  exact retired_turns t.slots.toList

end BlockPool
