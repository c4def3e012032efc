import BlockPool.Workload

set_option autoImplicit false

namespace BlockPool

open BlockPool.Random BlockPool.Workload

def Gives {α : Type} (draw : StateM Source α) (property : α → Prop) : Prop := ∀ source, property (draw source).1

theorem gives_pure {α : Type} (property : α → Prop) (value : α) (holds : property value) : Gives (pure value) property :=
  fun _ => holds

theorem gives_bind {α β : Type} (first : StateM Source α) (next : α → StateM Source β) (early : α → Prop)
    (late : β → Prop) (drawn : Gives first early) (rest : ∀ value, early value → Gives (next value) late) :
    Gives (first >>= next) late :=
  fun source => rest _ (drawn source) (first source).2

theorem gives_weaker {α : Type} (draw : StateM Source α) (strong weak : α → Prop) (drawn : Gives draw strong)
    (implies : ∀ value, strong value → weak value) : Gives draw weak :=
  fun source => implies _ (drawn source)

theorem draw_below_span (width : Width) : Gives (draw width) fun drawn => drawn < width.span := by
  cases width with
  | word => exact fun source => UInt32.toNat_lt_size _
  | double => exact fun source => UInt64.toNat_lt_size _

theorem scaled_below (drawn range span : Nat) (positive : 0 < range) (fits : drawn < span) : drawn * range / span < range :=
  Nat.div_lt_of_lt_mul ((Nat.mul_lt_mul_right positive).mpr fits)

-- The greatest draw leaves no low part that could carry over the end of the range.
theorem carried_below (drawn range span : Nat) (positive : 0 < range) (fits : drawn < span)
    (carries : span - range < drawn * range % span) : drawn * range / span + 1 < range := by
  have scaled := scaled_below drawn range span positive fits
  have parts := Nat.div_add_mod (drawn * range) span
  have room : drawn * range + range ≤ span * range := by
    rw [← Nat.succ_mul]
    exact Nat.mul_le_mul_right range fits
  generalize drawn * range / span = quotient at scaled parts ⊢
  generalize drawn * range % span = low at carries parts
  refine Nat.lt_of_not_le fun last => ?_
  have same : range = quotient + 1 := by omega
  rw [← parts, same, Nat.mul_succ] at room
  omega

theorem below_range (width : Width) (range : Nat) (positive : 0 < range) :
    Gives (below width range) fun drawn => drawn < range := by
  refine gives_bind _ _ _ _ (draw_below_span width) fun drawn fits => ?_
  by_cases whole : range % width.span = 0
  · rw [if_pos whole]
    exact gives_pure _ _ (Nat.lt_of_lt_of_le fits (Nat.le_of_dvd positive (Nat.dvd_of_mod_eq_zero whole)))
  · rw [if_neg whole]
    by_cases plain : drawn * range % width.span ≤ width.span - range
    · rw [if_pos plain]
      exact gives_pure _ _ (scaled_below drawn range width.span positive fits)
    · rw [if_neg plain]
      refine gives_bind _ _ _ _ (draw_below_span width) fun again _ => gives_pure _ _ ?_
      have carried := carried_below drawn range width.span positive fits (Nat.lt_of_not_le plain)
      split
      · exact carried
      · exact Nat.lt_of_succ_lt carried

theorem between_ends (width : Width) (least greatest : Nat) (ordered : least ≤ greatest) :
    Gives (between width least greatest) fun drawn => least ≤ drawn ∧ drawn ≤ greatest := by
  refine gives_bind _ _ _ _ (below_range width (greatest - least + 1) (Nat.succ_pos _)) fun drawn inside => gives_pure _ _ ?_
  omega

def Op.Within (largest : Nat) : Op → Prop
  | .alloc size => size ≤ largest
  | .free pick => pick < Word.greatest
  | .resize pick size => pick < Word.greatest ∧ size ≤ largest

theorem draw_size_within (maxSize : Nat) : Gives (drawSize maxSize) fun size => size ≤ max maxSize 1 := by
  refine gives_bind _ _ _ _ (between_ends .word 0 19 (Nat.zero_le _)) fun twentieth _ => ?_
  by_cases zero : twentieth = 0
  · rw [if_pos zero]
    exact gives_pure _ _ (Nat.zero_le _)
  · rw [if_neg zero]
    exact gives_weaker _ _ _ (between_ends (.holding (max maxSize 1)) 1 (max maxSize 1) (Nat.le_max_right _ _)) fun _ => And.right

theorem draw_op_within (maxSize : Nat) : Gives (drawOp maxSize) (Op.Within (max maxSize 1)) := by
  refine gives_bind _ _ _ _ (between_ends .word 0 9 (Nat.zero_le _)) fun roll _ => ?_
  refine gives_bind _ _ _ _ (between_ends .double 0 (Word.greatest - 1) (Nat.zero_le _)) fun pick picked => ?_
  have chosen : pick < Word.greatest := Nat.lt_of_le_of_lt picked.2 (by decide)
  by_cases allocates : roll ≤ 4
  · rw [if_pos allocates]
    exact gives_bind _ _ _ _ (draw_size_within maxSize) fun size sized => gives_pure _ _ sized
  · rw [if_neg allocates]
    by_cases frees : roll ≤ 7
    · rw [if_pos frees]
      exact gives_pure _ _ chosen
    · rw [if_neg frees]
      exact gives_bind _ _ _ _ (draw_size_within maxSize) fun size sized => gives_pure _ _ ⟨chosen, sized⟩

theorem draw_ops_within (maxSize count : Nat) :
    Gives (drawOps maxSize count) fun ops => ops.length = count ∧ ∀ op ∈ ops, op.Within (max maxSize 1) := by
  induction count with
  | zero => exact gives_pure _ _ ⟨rfl, fun _ member => absurd member List.not_mem_nil⟩
  | succ count ih =>
      refine gives_bind _ _ _ _ (draw_op_within maxSize) fun op inside => ?_
      refine gives_bind _ _ _ _ ih fun rest drawn => gives_pure _ _ ?_
      exact ⟨congrArg Nat.succ drawn.1, List.forall_mem_cons.mpr ⟨inside, drawn.2⟩⟩

theorem draw_ops_length (maxSize count : Nat) (source : Source) : (drawOps maxSize count source).1.length = count :=
  (draw_ops_within maxSize count source).1

theorem draw_ops_zero_bound (count : Nat) : drawOps 0 count = drawOps 1 count := by
  induction count with
  | zero => rfl
  | succ count ih =>
      rw [drawOps, drawOps, ih]
      rfl

-- The bound is at least one, because sizes that are not zero are drawn from a range that begins there.
theorem drawn_operations_keep_bounds (seed : UInt64) (count maxSize : Nat) :
    (Workload.random seed count maxSize).length = count ∧
      (∀ op ∈ Workload.random seed count maxSize, op.Within (max maxSize 1)) ∧
      Workload.random seed count 0 = Workload.random seed count 1 := by
  obtain ⟨length, within⟩ := draw_ops_within maxSize count (Source.ofSeed seed)
  refine ⟨length, within, ?_⟩
  rw [Workload.random, Workload.random, draw_ops_zero_bound]

theorem drawn_operations_keep_bounds_wide :
    .resize 9151184802281065782 961831967499 ∈ Workload.random 1 3 1099511627776 ∧
      (Op.resize 9151184802281065782 961831967499).Within (max 1099511627776 1) := by
  have drawn : .resize 9151184802281065782 961831967499 ∈ Workload.random 1 3 1099511627776 := by decide +kernel
  exact ⟨drawn, (drawn_operations_keep_bounds 1 3 1099511627776).2.1 _ drawn⟩

theorem zero_bound_exceeded :
    ¬ ∀ (seed : UInt64) (count maxSize : Nat), ∀ op ∈ Workload.random seed count maxSize, op.Within maxSize := by
  intro bounded
  have drawn : .alloc 1 ∈ Workload.random 2 1 0 := by decide +kernel
  exact absurd (bounded 2 1 0 _ drawn) (by simp [Op.Within])

end BlockPool
