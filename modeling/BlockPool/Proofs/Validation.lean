import BlockPool.Proofs.Geometry

set_option autoImplicit false

namespace BlockPool

-- A condition on a configuration, and what is reported where it is the first one that is not met.
structure Requirement where
  met : Prop
  objection : ConfigError

namespace PoolConfig

def requirements (config : PoolConfig) : List Requirement :=
  [⟨∃ exponent, config.alignment = 2 ^ exponent, .alignmentNotPowerOfTwo config.alignment⟩,
   ⟨config.alignment ∣ config.headerOverhead, .headerMisaligned config.headerOverhead config.alignment⟩,
   ⟨config.capacity ≤ 2 ^ 63 - 1, .capacityOverflow config.capacity⟩,
   ⟨config.headerOverhead < config.capacity,
    .capacityTooSmall config.capacity (min (config.headerOverhead + 1) (2 ^ 64 - 1))⟩,
   ⟨config.capacity / (config.headerOverhead + config.alignment) + 1 ≤ 2 ^ 32 - 1,
    .tooManyBlocks (config.capacity / (config.headerOverhead + config.alignment) + 1)⟩]

end PoolConfig

inductive Judged : List Requirement → Except ConfigError Unit → Prop where
  | accepted : Judged [] (.ok ())
  | refused (first : Requirement) (rest : List Requirement) (unmet : ¬ first.met) : Judged (first :: rest) (.error first.objection)
  | later (first : Requirement) (rest : List Requirement) (verdict : Except ConfigError Unit) (met : first.met)
      (judged : Judged rest verdict) : Judged (first :: rest) verdict

theorem judged_accepted (requirements : List Requirement) :
    Judged requirements (.ok ()) ↔ ∀ requirement ∈ requirements, requirement.met := by
  induction requirements with
  | nil => exact ⟨fun _ _ member => absurd member List.not_mem_nil, fun _ => .accepted⟩
  | cons first rest ih =>
      rw [List.forall_mem_cons, ← ih]
      constructor
      · intro judged
        cases judged with
        | later _ _ _ met judged => exact ⟨met, judged⟩
      · exact fun ⟨met, judged⟩ => .later first rest _ met judged

theorem judged_refused (requirements : List Requirement) (e : ConfigError) :
    Judged requirements (.error e) ↔ ∃ before unmet after, requirements = before ++ unmet :: after ∧
      (∀ requirement ∈ before, requirement.met) ∧ ¬ unmet.met ∧ unmet.objection = e := by
  constructor
  · intro judged
    generalize given : (Except.error e : Except ConfigError Unit) = verdict at judged
    induction judged with
    | accepted => cases given
    | refused first rest unmet =>
        cases given
        exact ⟨[], first, rest, rfl, fun _ member => absurd member List.not_mem_nil, unmet, rfl⟩
    | later first rest verdict met judged ih =>
        obtain ⟨before, unmet, after, rfl, earlier, fails, objects⟩ := ih given
        exact ⟨first :: before, unmet, after, rfl, List.forall_mem_cons.mpr ⟨met, earlier⟩, fails, objects⟩
  · rintro ⟨before, unmet, after, rfl, earlier, fails, rfl⟩
    induction before with
    | nil => exact .refused unmet after fails
    | cons first rest ih =>
        obtain ⟨met, others⟩ := List.forall_mem_cons.mp earlier
        exact .later first _ _ met (ih others)

theorem judged_once (requirements : List Requirement) (verdict other : Except ConfigError Unit)
    (judged : Judged requirements verdict) (again : Judged requirements other) : verdict = other := by
  induction judged with
  | accepted =>
      cases again
      rfl
  | refused first rest unmet =>
      cases again with
      | refused => rfl
      | later _ _ _ met _ => exact absurd met unmet
  | later first rest verdict met judged ih =>
      cases again with
      | refused _ _ unmet => exact absurd met unmet
      | later _ _ _ _ again => exact ih again

def Judges (check : ExceptT ConfigError (Except Abort) Unit) (requirements : List Requirement) : Prop :=
  ∃ verdict, check.run = .ok verdict ∧ Judged requirements verdict

theorem judges_nothing : Judges (pure ()) [] := ⟨.ok (), rfl, .accepted⟩

-- What comes behind a guard is looked at only where the guard lets pass.
theorem judges_guard (test met : Prop) [Decidable test] (objection : ConfigError) (rest : List Requirement)
    (check : ExceptT ConfigError (Except Abort) Unit) (tells : test ↔ met) (goesOn : met → Judges check rest) :
    Judges (if test then check else throw objection) (⟨met, objection⟩ :: rest) := by
  by_cases passes : test
  · obtain ⟨verdict, ran, judged⟩ := goesOn (tells.mp passes)
    rw [if_pos passes]
    exact ⟨verdict, ran, .later ⟨met, objection⟩ rest verdict (tells.mp passes) judged⟩
  · rw [if_neg passes]
    exact ⟨.error objection, rfl, .refused ⟨met, objection⟩ rest fun holds => passes (tells.mpr holds)⟩

-- A header and one unit of the alignment have a word together once the header lies inside the capacity.
theorem span_word (overhead alignment exponent capacity : Nat) (power : alignment = 2 ^ exponent) (word : alignment < Word.bound)
    (limited : capacity ≤ 2 ^ 63 - 1) (roomy : overhead < capacity) : overhead + alignment < Word.bound := by
  have small : exponent < 64 := by
    rw [power] at word
    exact (Nat.pow_lt_pow_iff_right (by decide)).mp (show 2 ^ exponent < 2 ^ 64 from word)
  have half : alignment ≤ 2 ^ 63 := power ▸ Nat.pow_le_pow_right Nat.two_pos (Nat.le_of_lt_succ small)
  simp only [Word.bound, UInt64.size]
  omega

theorem minimum_fits (config : PoolConfig) (limited : config.capacity ≤ 2 ^ 63 - 1) :
    config.minimumCapacity ≤ config.capacity ↔ config.headerOverhead < config.capacity := by
  simp only [PoolConfig.minimumCapacity, Word.addCapped, Word.greatest, Word.bound, UInt64.size]
  omega

theorem validate_judges (config : PoolConfig) (word : config.alignment < Word.bound) :
    Judges config.validate config.requirements := by
  unfold PoolConfig.validate PoolConfig.requirements
  simp only [check_throw_bind]
  apply judges_guard
  case tells => exact power_of_two_iff config.alignment
  rintro ⟨exponent, alignment⟩
  have positive : 0 < config.alignment := by
    rw [alignment]
    exact Nat.two_pow_pos exponent
  rw [Word.mod, if_neg positive.ne', check_lift_bind]
  apply judges_guard
  case tells => exact (Nat.dvd_iff_mod_eq_zero ..).symm
  intro divides
  apply judges_guard
  case tells => exact Iff.rfl
  intro limited
  apply judges_guard
  case tells => exact minimum_fits config limited
  intro roomy
  have spanWord := span_word config.headerOverhead config.alignment exponent config.capacity alignment word limited roomy
  rw [max_blocks_counted config positive limited spanWord, check_lift_bind]
  apply judges_guard
  case tells => exact Iff.rfl
  exact fun few => judges_nothing

-- That the alignment is a word is all that is needed for this.
theorem validation_tells_sound_geometries (config : PoolConfig) (word : config.alignment < Word.bound) :
    ∃ verdict, config.validate.run = .ok verdict ∧
      (verdict = .ok () ↔ (∃ exponent, config.alignment = 2 ^ exponent) ∧ config.alignment ∣ config.headerOverhead ∧
        config.headerOverhead < config.capacity ∧ config.capacity ≤ 2 ^ 63 - 1 ∧
        config.capacity / (config.headerOverhead + config.alignment) + 1 ≤ 2 ^ 32 - 1) ∧
      ∀ e, verdict = .error e ↔ ∃ before unmet after, config.requirements = before ++ unmet :: after ∧
        (∀ requirement ∈ before, requirement.met) ∧ ¬ unmet.met ∧ unmet.objection = e := by
  obtain ⟨verdict, ran, judged⟩ := validate_judges config word
  have decides (other : Except ConfigError Unit) : verdict = other ↔ Judged config.requirements other := by
    constructor
    · rintro rfl
      exact judged
    · exact judged_once config.requirements verdict other judged
  refine ⟨verdict, ran, ?_, fun e => (decides _).trans (judged_refused config.requirements e)⟩
  rw [decides, judged_accepted]
  simp only [PoolConfig.requirements, List.forall_mem_cons, List.not_mem_nil, false_imp_iff, implies_true, and_true]
  constructor
  · exact fun ⟨power, divides, limited, roomy, few⟩ => ⟨power, divides, roomy, limited, few⟩
  · exact fun ⟨power, divides, roomy, limited, few⟩ => ⟨power, divides, limited, roomy, few⟩

-- A header as large as a word can be, in an arena as large as one can be: the least capacity is not the header and one byte.
theorem validation_tells_sound_geometries_widest :
    1 < Word.bound ∧ (PoolConfig.mk (2 ^ 63 - 1) (2 ^ 64 - 1) 1 .firstFit false).validate.run =
      .ok (.error (.capacityTooSmall (2 ^ 63 - 1) (2 ^ 64 - 1))) := by
  have word : (PoolConfig.mk (2 ^ 63 - 1) (2 ^ 64 - 1) 1 .firstFit false).alignment < Word.bound := by decide
  obtain ⟨verdict, ran, _, refused⟩ :=
    validation_tells_sound_geometries (PoolConfig.mk (2 ^ 63 - 1) (2 ^ 64 - 1) 1 .firstFit false) word
  refine ⟨word, ran.trans (congrArg Except.ok ((refused _).mpr ⟨[_, _, _], _, [_], rfl, ?_, by decide, rfl⟩))⟩
  simp only [List.forall_mem_cons, List.not_mem_nil, false_imp_iff, implies_true, and_true]
  exact ⟨⟨0, rfl⟩, Nat.one_dvd _, Nat.le_refl _⟩

end BlockPool
