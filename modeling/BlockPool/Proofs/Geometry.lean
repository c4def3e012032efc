import BlockPool.Config
import BlockPool.Proofs.Steps
import Mathlib.Algebra.Order.Ring.Nat
import Mathlib.Data.Nat.Log
import Mathlib.Order.Bounds.Basic

set_option autoImplicit false

namespace BlockPool

def PoolConfig.Valid (config : PoolConfig) : Prop := config.validate.run = .ok (.ok ())

-- What an accepted configuration is in plain arithmetic.
structure Geometry (config : PoolConfig) : Prop where
  power : ∃ exponent, config.alignment = 2 ^ exponent
  headerAligned : config.alignment ∣ config.headerOverhead
  roomy : config.headerOverhead < config.capacity
  limited : config.capacity ≤ PoolConfig.capacityLimit
  spanWord : config.headerOverhead + config.alignment < Word.bound
  fewBlocks : config.capacity / (config.headerOverhead + config.alignment) + 1 ≤ PoolConfig.blockLimit

theorem power_of_two_iff (n : Nat) : isPowerOfTwo n = true ↔ ∃ exponent, n = 2 ^ exponent := by
  simp only [isPowerOfTwo, beq_iff_eq, Nat.one_shiftLeft]
  constructor
  · intro power
    exact ⟨n.log2, power⟩
  · rintro ⟨exponent, rfl⟩
    rw [Nat.log2_two_pow]

theorem max_blocks_some (config : PoolConfig) (blocks : Nat) (counted : config.maxBlocks = .ok blocks) :
    config.headerOverhead + config.alignment < Word.bound ∧
      blocks = config.capacity / (config.headerOverhead + config.alignment) + 1 := by
  simp only [PoolConfig.maxBlocks, Word.add, Word.div, bind, Except.bind] at counted
  grind

theorem valid_geometry (config : PoolConfig) (valid : config.Valid) : Geometry config := by
  unfold PoolConfig.Valid PoolConfig.validate at valid
  simp only [check_throw_bind] at valid
  split at valid
  · rename_i power
    obtain ⟨exponent, alignment⟩ := (power_of_two_iff _).mp power
    have positive : config.alignment ≠ 0 := by
      rw [alignment]
      exact (Nat.two_pow_pos exponent).ne'
    rw [Word.mod, if_neg positive, check_lift_bind] at valid
    split at valid
    · rename_i divides
      split at valid
      · rename_i limited
        split at valid
        · rename_i roomy
          cases counted : config.maxBlocks with
          | error reason =>
              rw [counted, check_abort_bind] at valid
              cases valid
          | ok blocks =>
              rw [counted, check_lift_bind] at valid
              obtain ⟨spanWord, total⟩ := max_blocks_some config blocks counted
              split at valid
              · rename_i few
                refine ⟨⟨exponent, alignment⟩, Nat.dvd_of_mod_eq_zero divides, ?_, limited, spanWord, total ▸ few⟩
                simp only [PoolConfig.minimumCapacity, Word.addCapped, Word.greatest, Word.bound, UInt64.size,
                  PoolConfig.capacityLimit] at roomy limited
                omega
              · cases valid
        · cases valid
      · cases valid
    · cases valid
  · cases valid

theorem capacity_word (config : PoolConfig) (geometry : Geometry config) : config.capacity < Word.bound := by
  have limited := geometry.limited
  simp only [PoolConfig.capacityLimit, Word.bound, UInt64.size] at limited ⊢
  omega

theorem alignment_positive (config : PoolConfig) (geometry : Geometry config) : 0 < config.alignment := by
  obtain ⟨exponent, alignment⟩ := geometry.power
  rw [alignment]
  exact Nat.two_pow_pos exponent

-- The worst-case block count has a word also where it is more than there are names for slots.
theorem max_blocks_counted (config : PoolConfig) (positive : 0 < config.alignment)
    (limited : config.capacity ≤ PoolConfig.capacityLimit)
    (spanWord : config.headerOverhead + config.alignment < Word.bound) :
    config.maxBlocks = .ok (config.capacity / (config.headerOverhead + config.alignment) + 1) := by
  have span : config.headerOverhead + config.alignment ≠ 0 := by omega
  have few : config.capacity / (config.headerOverhead + config.alignment) ≤ config.capacity := Nat.div_le_self _ _
  have word : config.capacity / (config.headerOverhead + config.alignment) + 1 < Word.bound := by
    simp only [PoolConfig.capacityLimit, Word.bound, UInt64.size] at limited ⊢
    omega
  simp only [PoolConfig.maxBlocks, word_add_ok _ _ spanWord, Word.div, if_neg span, bind, Except.bind, word_add_ok _ _ word]

theorem max_blocks_exact (config : PoolConfig) (geometry : Geometry config) :
    config.maxBlocks = .ok (config.capacity / (config.headerOverhead + config.alignment) + 1) :=
  max_blocks_counted config (alignment_positive config geometry) geometry.limited geometry.spanWord

theorem word_units (exponent : Nat) (within : exponent ≤ 64) : Word.bound = 2 ^ (64 - exponent) * 2 ^ exponent := by
  rw [← Nat.pow_add, Nat.sub_add_cancel within]
  rfl

theorem clear_low_bits (a exponent : Nat) (word : a < Word.bound) (within : exponent ≤ 64) :
    Word.clear a (2 ^ exponent - 1) = a / 2 ^ exponent * 2 ^ exponent := by
  have positive : 0 < 2 ^ exponent := Nat.two_pow_pos exponent
  have mask : Word.greatest - (2 ^ exponent - 1) = (2 ^ (64 - exponent) - 1) * 2 ^ exponent := by
    rw [Nat.sub_mul, ← word_units exponent within, Word.greatest]
    omega
  apply Nat.eq_of_testBit_eq
  intro i
  rw [Word.clear, mask, Nat.testBit_and, Nat.testBit_mul_two_pow, Nat.testBit_mul_two_pow, Nat.testBit_two_pow_sub_one]
  by_cases low : exponent ≤ i
  · rw [Nat.testBit_div_two_pow, Nat.sub_add_cancel low]
    by_cases high : i < 64
    · have inside : i - exponent < 64 - exponent := by omega
      simp [low, inside]
    · have beyond : 2 ^ 64 ≤ 2 ^ i := Nat.pow_le_pow_right Nat.two_pos (Nat.le_of_not_lt high)
      have absent : a.testBit i = false := Nat.testBit_lt_two_pow (Nat.lt_of_lt_of_le word beyond)
      simp [absent]
  · simp [low]

def PoolConfig.roundUp (config : PoolConfig) (size : Nat) : Nat :=
  (size + (config.alignment - 1)) / config.alignment * config.alignment

-- That the alignment is a power of two with a word is all that the masks need.
theorem align_up_masks (config : PoolConfig) (exponent size : Nat) (alignment : config.alignment = 2 ^ exponent)
    (within : exponent ≤ 64) :
    config.alignUp size =
      .ok (if size + (config.alignment - 1) < Word.bound then some (config.roundUp size) else none) := by
  have positive : 0 < config.alignment := alignment ▸ Nat.two_pow_pos exponent
  rw [PoolConfig.alignUp, word_sub_ok _ _ positive]
  simp only [bind, Except.bind, pure, Except.pure, Word.add?]
  split
  · rename_i word
    simp only [Option.map_some, PoolConfig.roundUp]
    rw [alignment] at word ⊢
    rw [clear_low_bits _ exponent word within]
  · rfl

theorem alignment_word (config : PoolConfig) (geometry : Geometry config) :
    ∃ exponent, config.alignment = 2 ^ exponent ∧ exponent ≤ 64 := by
  obtain ⟨exponent, alignment⟩ := geometry.power
  refine ⟨exponent, alignment, ?_⟩
  have word : 2 ^ exponent < 2 ^ 64 := by
    have spanWord := geometry.spanWord
    rw [← alignment]
    exact Nat.lt_of_le_of_lt (Nat.le_add_left _ _) spanWord
  exact Nat.le_of_lt ((Nat.pow_lt_pow_iff_right (by decide)).mp word)

theorem align_up_rounds (config : PoolConfig) (geometry : Geometry config) (size : Nat) :
    config.alignUp size =
      .ok (if size + (config.alignment - 1) < Word.bound then some (config.roundUp size) else none) := by
  obtain ⟨exponent, alignment, within⟩ := alignment_word config geometry
  exact align_up_masks config exponent size alignment within

theorem round_up_aligned (config : PoolConfig) (size : Nat) : config.alignment ∣ config.roundUp size :=
  Nat.dvd_mul_left _ _

theorem round_up_is_least (config : PoolConfig) (positive : 0 < config.alignment) (size : Nat) :
    IsLeast {multiple | config.alignment ∣ multiple ∧ size ≤ multiple} (config.roundUp size) := by
  constructor
  · refine ⟨round_up_aligned config size, ?_⟩
    have parts := Nat.div_add_mod (size + (config.alignment - 1)) config.alignment
    have excess := Nat.mod_lt (size + (config.alignment - 1)) positive
    rw [PoolConfig.roundUp, Nat.mul_comm]
    omega
  · rintro _ ⟨⟨units, rfl⟩, holds⟩
    have few : (size + (config.alignment - 1)) / config.alignment < units + 1 := by
      refine (Nat.div_lt_iff_lt_mul positive).mpr ?_
      rw [Nat.succ_mul, Nat.mul_comm units]
      omega
    rw [PoolConfig.roundUp, Nat.mul_comm]
    exact Nat.mul_le_mul_left _ (Nat.le_of_lt_succ few)

theorem round_up_holds (config : PoolConfig) (geometry : Geometry config) (size : Nat) : size ≤ config.roundUp size :=
  (round_up_is_least config (alignment_positive config geometry) size).1.2

theorem round_up_least (config : PoolConfig) (geometry : Geometry config) (size whole : Nat) (aligned : config.alignment ∣ whole)
    (holds : size ≤ whole) : config.roundUp size ≤ whole :=
  (round_up_is_least config (alignment_positive config geometry) size).2 ⟨aligned, holds⟩

-- The bound of the words is a multiple itself, so no multiple lies between the padded size and it.
theorem padding_word (config : PoolConfig) (exponent size : Nat) (alignment : config.alignment = 2 ^ exponent)
    (within : exponent ≤ 64) :
    size + (config.alignment - 1) < Word.bound ↔ config.roundUp size < Word.bound := by
  have positive : 0 < config.alignment := alignment ▸ Nat.two_pow_pos exponent
  rw [word_units exponent within, ← alignment, PoolConfig.roundUp, ← Nat.div_lt_iff_lt_mul positive,
    Nat.mul_lt_mul_right positive]

theorem align_up_is_exact (config : PoolConfig) (exponent size : Nat) (alignment : config.alignment = 2 ^ exponent)
    (within : exponent ≤ 63) :
    ∃ least, IsLeast {multiple | config.alignment ∣ multiple ∧ size ≤ multiple} least ∧
      config.alignUp size = .ok (if least ≤ 2 ^ 64 - 1 then some least else none) := by
  have positive : 0 < config.alignment := alignment ▸ Nat.two_pow_pos exponent
  have narrow : exponent ≤ 64 := Nat.le_succ_of_le within
  refine ⟨config.roundUp size, round_up_is_least config positive size, ?_⟩
  have word : size + (config.alignment - 1) < Word.bound ↔ config.roundUp size ≤ 2 ^ 64 - 1 :=
    (padding_word config exponent size alignment narrow).trans Nat.lt_succ_iff
  simp only [align_up_masks config exponent size alignment narrow, word]

-- The widest alignment: its first multiple is rounded to itself, and one byte more has no multiple that is a word.
theorem align_up_is_exact_widest :
    (PoolConfig.mk 64 0 (2 ^ 63) .bestFit true).alignment = 2 ^ 63 ∧ 63 ≤ 63 ∧
      (PoolConfig.mk 64 0 (2 ^ 63) .bestFit true).alignUp (2 ^ 63) = .ok (some (2 ^ 63)) ∧
      (PoolConfig.mk 64 0 (2 ^ 63) .bestFit true).alignUp (2 ^ 63 + 1) = .ok none := by
  refine ⟨rfl, Nat.le_refl 63, ?_, ?_⟩
  · obtain ⟨least, smallest, rounded⟩ :=
      align_up_is_exact (PoolConfig.mk 64 0 (2 ^ 63) .bestFit true) 63 (2 ^ 63) rfl (Nat.le_refl 63)
    have itself : least = 2 ^ 63 := smallest.unique ⟨⟨Nat.dvd_refl _, Nat.le_refl _⟩, fun _ multiple => multiple.2⟩
    rw [rounded, itself]
    rfl
  · obtain ⟨least, smallest, rounded⟩ :=
      align_up_is_exact (PoolConfig.mk 64 0 (2 ^ 63) .bestFit true) 63 (2 ^ 63 + 1) rfl (Nat.le_refl 63)
    have beyond : ¬ least ≤ 2 ^ 64 - 1 := by
      obtain ⟨⟨units, rfl⟩, holds⟩ := smallest.1
      simp only at holds ⊢
      omega
    rw [rounded, if_neg beyond]

def PoolConfig.roundDown (config : PoolConfig) (size : Nat) : Nat := size / config.alignment * config.alignment

theorem round_down_within (config : PoolConfig) (size : Nat) : config.roundDown size ≤ size := Nat.div_mul_le_self _ _

theorem round_up_fits (config : PoolConfig) (geometry : Geometry config) (size limit : Nat) :
    config.roundUp size ≤ limit ↔ size ≤ config.roundDown limit := by
  have positive := alignment_positive config geometry
  constructor
  · intro fits
    obtain ⟨units, rounded⟩ := round_up_aligned config size
    rw [rounded, Nat.mul_comm] at fits
    have whole : config.roundUp size ≤ config.roundDown limit := by
      rw [rounded, PoolConfig.roundDown, Nat.mul_comm]
      exact Nat.mul_le_mul_right _ ((Nat.le_div_iff_mul_le positive).mpr fits)
    exact Nat.le_trans (round_up_holds config geometry size) whole
  · intro fits
    have whole := round_up_least config geometry size _ (Nat.dvd_mul_left _ _) fits
    exact Nat.le_trans whole (round_down_within config limit)

theorem round_down_aligned (config : PoolConfig) (size : Nat) : size ≤ config.roundDown size ↔ config.alignment ∣ size := by
  constructor
  · intro within
    have same := Nat.le_antisymm within (round_down_within config size)
    rw [same]
    exact Nat.dvd_mul_left _ _
  · intro aligned
    exact Nat.le_of_eq (Nat.div_mul_cancel aligned).symm

end BlockPool
