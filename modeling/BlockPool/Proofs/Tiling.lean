import BlockPool.Proofs.Geometry
import BlockPool.Proofs.Spans
import Mathlib.Algebra.Order.BigOperators.Group.List
import Mathlib.Data.List.Chain

set_option autoImplicit false

namespace BlockPool

def extent (overhead : Nat) (spans : List Span) : Nat := (spans.map fun span => overhead + span.size).sum

@[simp] theorem extent_nil (overhead : Nat) : extent overhead [] = 0 := rfl

@[simp] theorem extent_cons (overhead : Nat) (span : Span) (rest : List Span) :
    extent overhead (span :: rest) = overhead + span.size + extent overhead rest := by
  simp [extent]

@[simp] theorem extent_append (overhead : Nat) (a b : List Span) :
    extent overhead (a ++ b) = extent overhead a + extent overhead b := by
  simp [extent]

@[simp] theorem extent_reverse (overhead : Nat) (spans : List Span) :
    extent overhead spans.reverse = extent overhead spans := by
  simp [extent, List.sum_reverse]

-- What may stand ahead of what: only the last block has a size out of step with
-- the alignment, and free blocks do not touch.
def Follows (config : PoolConfig) (first second : Span) : Prop :=
  config.alignment ∣ first.size ∧ (first.free && second.free) = false

structure Tiling (config : PoolConfig) (spans : List Span) : Prop where
  covers : extent config.headerOverhead spans = config.capacity
  positive : ∀ span ∈ spans, 0 < span.size
  joined : spans.IsChain (Follows config)

theorem tiling_single (config : PoolConfig) (geometry : Geometry config) :
    Tiling config [⟨config.capacity - config.headerOverhead, true⟩] := by
  have roomy := geometry.roomy
  refine ⟨?_, ?_, List.isChain_singleton _⟩
  · simp only [extent_cons, extent_nil]
    omega
  · simp only [List.mem_singleton, forall_eq]
    omega

theorem joined_around (config : PoolConfig) (before after : List Span) (span : Span) :
    (before ++ span :: after).IsChain (Follows config) ↔
      before.IsChain (Follows config) ∧ after.IsChain (Follows config) ∧
        (∀ ahead ∈ before.getLast?, Follows config ahead span) ∧ ∀ behind ∈ after.head?, Follows config span behind := by
  simp only [List.isChain_append, List.isChain_cons, List.head?_cons, Option.mem_some_iff, forall_eq']
  exact ⟨fun ⟨front, ⟨next, rest⟩, last⟩ => ⟨front, rest, last, next⟩,
    fun ⟨front, rest, last, next⟩ => ⟨front, ⟨next, rest⟩, last⟩⟩

theorem used_follows (config : PoolConfig) (span : Span) (size whole : Nat) (ahead : Follows config span ⟨whole, true⟩) :
    Follows config span ⟨size, false⟩ := ⟨ahead.1, Bool.and_false _⟩

theorem tiling_split (config : PoolConfig) (geometry : Geometry config) (before after : List Span) (size whole : Nat)
    (tiling : Tiling config (before ++ ⟨whole, true⟩ :: after)) (aligned : config.alignment ∣ size) (positive : 0 < size)
    (splits : size + config.headerOverhead < whole) :
    Tiling config (before ++ ⟨size, false⟩ :: ⟨whole - size - config.headerOverhead, true⟩ :: after) := by
  obtain ⟨covers, sizes, joined⟩ := tiling
  obtain ⟨front, rest, last, next⟩ := (joined_around config before after _).mp joined
  refine ⟨?_, ?_, ?_⟩
  · simp only [extent_append, extent_cons] at covers ⊢
    omega
  · intro span member
    simp only [List.mem_append, List.mem_cons] at member sizes
    rcases member with ahead | rfl | rfl | behind
    · exact sizes span (.inl ahead)
    · exact positive
    · change 0 < whole - size - config.headerOverhead
      omega
    · exact sizes span (.inr (.inr behind))
  · apply (joined_around config before _ ⟨size, false⟩).mpr
    refine ⟨front, ?_, fun span member => used_follows config span size whole (last span member), ?_⟩
    · refine List.isChain_cons.mpr ⟨fun span member => ?_, rest⟩
      obtain ⟨divides, apart⟩ := next span member
      exact ⟨Nat.dvd_sub (Nat.dvd_sub divides aligned) geometry.headerAligned, apart⟩
    · intro span member
      cases Option.mem_some_iff.mp member
      exact ⟨aligned, rfl⟩

theorem tiling_taken (config : PoolConfig) (before after : List Span) (whole : Nat)
    (tiling : Tiling config (before ++ ⟨whole, true⟩ :: after)) : Tiling config (before ++ ⟨whole, false⟩ :: after) := by
  obtain ⟨covers, sizes, joined⟩ := tiling
  obtain ⟨front, rest, last, next⟩ := (joined_around config before after _).mp joined
  refine ⟨?_, ?_, ?_⟩
  · simpa only [extent_append, extent_cons] using covers
  · intro span member
    simp only [List.mem_append, List.mem_cons] at member sizes
    rcases member with ahead | rfl | behind
    · exact sizes span (.inl ahead)
    · exact sizes ⟨whole, true⟩ (.inr (.inl rfl))
    · exact sizes span (.inr (.inr behind))
  · apply (joined_around config before _ ⟨whole, false⟩).mpr
    exact ⟨front, rest, fun span member => used_follows config span whole whole (last span member),
      fun span member => ⟨(next span member).1, rfl⟩⟩

theorem tiling_cut (config : PoolConfig) (geometry : Geometry config) (before after : List Span) (size whole : Nat)
    (tiling : Tiling config (before ++ ⟨whole, true⟩ :: after)) (aligned : config.alignment ∣ size) (positive : 0 < size) :
    Tiling config (before ++ cutSpan config.headerOverhead size whole ++ after) := by
  rw [List.append_assoc]
  unfold cutSpan
  split
  · rename_i splits
    exact tiling_split config geometry before after size whole tiling aligned positive splits
  · exact tiling_taken config before after whole tiling

theorem absorb_span_extent (overhead size : Nat) (neighbours : List Span) :
    (absorbSpan overhead size neighbours).1 + extent overhead (absorbSpan overhead size neighbours).2.2 =
      size + extent overhead neighbours := by
  rcases absorb_span_cases overhead size neighbours with ⟨more, rest, rfl, absorbed⟩ | ⟨_, absorbed⟩
  · simp only [absorbed, extent_cons]
    omega
  · rw [absorbed]

theorem absorb_span_subset (overhead size : Nat) (neighbours : List Span) :
    size ≤ (absorbSpan overhead size neighbours).1 ∧
      ∀ span ∈ (absorbSpan overhead size neighbours).2.2, span ∈ neighbours := by
  rcases absorb_span_cases overhead size neighbours with ⟨more, rest, rfl, absorbed⟩ | ⟨_, absorbed⟩
  · rw [absorbed]
    exact ⟨by omega, fun span member => List.mem_cons_of_mem _ member⟩
  · rw [absorbed]
    exact ⟨Nat.le_refl _, fun span member => member⟩

theorem absorb_behind (config : PoolConfig) (geometry : Geometry config) (size : Nat) (after : List Span)
    (rest : after.IsChain (Follows config)) (aligned : ∀ behind ∈ after.head?, config.alignment ∣ size) :
    let forward := absorbSpan config.headerOverhead size after
    forward.2.2.IsChain (Follows config) ∧ ∀ behind ∈ forward.2.2.head?, Follows config ⟨forward.1, true⟩ behind := by
  rcases absorb_span_cases config.headerOverhead size after with ⟨more, tail, rfl, absorbed⟩ | ⟨unfree, absorbed⟩
  · rw [absorbed]
    obtain ⟨next, tailJoined⟩ := List.isChain_cons.mp rest
    refine ⟨tailJoined, fun behind member => ?_⟩
    obtain ⟨divides, apart⟩ := next behind member
    have sizeAligned := aligned ⟨more, true⟩ rfl
    exact ⟨Nat.dvd_add (Nat.dvd_add sizeAligned geometry.headerAligned) divides, apart⟩
  · rw [absorbed]
    exact ⟨rest, fun behind member => ⟨aligned behind member, unfree behind member⟩⟩

-- The list ahead is handed over nearest block first. It takes no part in what
-- may stand behind the block, except that what was taken in is aligned.
theorem absorb_ahead (config : PoolConfig) (geometry : Geometry config) (size : Nat) (before : List Span)
    (front : before.IsChain (Follows config)) (aligned : ∀ ahead ∈ before.getLast?, config.alignment ∣ ahead.size) :
    let backward := absorbSpan config.headerOverhead size before.reverse
    backward.2.2.reverse.IsChain (Follows config) ∧
      (∀ ahead ∈ backward.2.2.reverse.getLast?, Follows config ahead ⟨backward.1, true⟩) ∧
      (config.alignment ∣ size → config.alignment ∣ backward.1) := by
  rcases absorb_span_cases config.headerOverhead size before.reverse with
    ⟨less, tail, reversed, absorbed⟩ | ⟨unfree, absorbed⟩
  · rw [absorbed]
    have split : before = tail.reverse ++ [⟨less, true⟩] := by
      rw [← List.reverse_cons, ← reversed, List.reverse_reverse]
    rw [split] at front aligned
    obtain ⟨tailJoined, _, apart⟩ := List.isChain_append.mp front
    have lessAligned : config.alignment ∣ less := aligned ⟨less, true⟩ (by simp)
    refine ⟨tailJoined, fun ahead member => ?_, fun divides => ?_⟩
    · exact apart ahead member ⟨less, true⟩ rfl
    · exact Nat.dvd_add (Nat.dvd_add divides geometry.headerAligned) lessAligned
  · rw [absorbed]
    simp only [List.reverse_reverse]
    refine ⟨front, fun ahead member => ⟨aligned ahead member, ?_⟩, id⟩
    have used := unfree ahead (by rwa [List.head?_reverse])
    simp only [used, Bool.false_and]

theorem tiling_merge (config : PoolConfig) (geometry : Geometry config) (before after : List Span) (size : Nat)
    (tiling : Tiling config (before ++ ⟨size, false⟩ :: after)) (merged : SpanMerge)
    (released : releaseSpan config.headerOverhead before.length (before ++ ⟨size, false⟩ :: after) = some merged) :
    Tiling config merged.spans := by
  obtain ⟨covers, sizes, joined⟩ := tiling
  obtain ⟨front, rest, last, next⟩ := (joined_around config before after _).mp joined
  rw [release_span_used] at released
  cases released
  obtain ⟨behindJoined, behindFollows⟩ :=
    absorb_behind config geometry size after rest (fun behind member => (next behind member).1)
  have forwardExtent := absorb_span_extent config.headerOverhead size after
  obtain ⟨forwardGrown, forwardKept⟩ := absorb_span_subset config.headerOverhead size after
  generalize absorbSpan config.headerOverhead size after = forward at *
  obtain ⟨aheadJoined, aheadFollows, aheadAligned⟩ :=
    absorb_ahead config geometry forward.1 before front (fun ahead member => (last ahead member).1)
  have backwardExtent := absorb_span_extent config.headerOverhead forward.1 before.reverse
  obtain ⟨backwardGrown, backwardKept⟩ := absorb_span_subset config.headerOverhead forward.1 before.reverse
  generalize absorbSpan config.headerOverhead forward.1 before.reverse = backward at *
  refine ⟨?_, ?_, ?_⟩
  · simp only [extent_append, extent_cons, extent_reverse] at covers backwardExtent ⊢
    omega
  · intro span member
    simp only [List.mem_append, List.mem_cons, List.mem_reverse] at member sizes backwardKept
    rcases member with ahead | rfl | behind
    · exact sizes span (.inl (backwardKept span ahead))
    · have sizePositive := sizes ⟨size, false⟩ (.inr (.inl rfl))
      exact Nat.lt_of_lt_of_le sizePositive (Nat.le_trans forwardGrown backwardGrown)
    · exact sizes span (.inr (.inr (forwardKept span behind)))
  · apply (joined_around config _ _ _).mpr
    refine ⟨aheadJoined, behindJoined, aheadFollows, fun behind member => ?_⟩
    obtain ⟨divides, apart⟩ := behindFollows behind member
    exact ⟨aheadAligned divides, apart⟩

theorem full_blocks_extent (config : PoolConfig) (first : Span) (rest : List Span)
    (positive : ∀ span ∈ first :: rest, 0 < span.size) (joined : (first :: rest).IsChain (Follows config)) :
    rest.length * (config.headerOverhead + config.alignment) ≤ extent config.headerOverhead (first :: rest) := by
  induction rest generalizing first with
  | nil => simp
  | cons second rest ih =>
      obtain ⟨⟨divides, _⟩, tail⟩ := List.isChain_cons_cons.mp joined
      have later := ih second (fun span member => positive span (List.mem_cons_of_mem _ member)) tail
      have unit : config.alignment ≤ first.size := Nat.le_of_dvd (positive first (by simp)) divides
      rw [extent_cons, List.length_cons, Nat.succ_mul]
      omega

theorem tiling_length (config : PoolConfig) (geometry : Geometry config) (spans : List Span) (tiling : Tiling config spans) :
    spans.length ≤ config.capacity / (config.headerOverhead + config.alignment) + 1 := by
  have alignment := alignment_positive config geometry
  cases spans with
  | nil => exact Nat.zero_le _
  | cons first rest =>
      have full := full_blocks_extent config first rest tiling.positive tiling.joined
      rw [tiling.covers] at full
      exact Nat.succ_le_succ ((Nat.le_div_iff_mul_le (by omega)).mpr full)

end BlockPool
