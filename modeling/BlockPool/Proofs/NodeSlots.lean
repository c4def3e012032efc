import BlockPool.LinkedList.Node
import BlockPool.Proofs.HeapContents
import BlockPool.Proofs.HeapViews
import Mathlib.Tactic.Ring

set_option autoImplicit false

namespace BlockPool

def PoolConfig.nodeSpan (config : PoolConfig) : Nat := config.headerOverhead + Node.encodedLength

-- An arena that so many nodes fill up, with nothing left over.
structure RoomForNodes (config : PoolConfig) (n : Nat) : Prop where
  capacity : config.capacity = config.nodeSpan * n
  whole : config.roundUp Node.encodedLength = Node.encodedLength
  word : Node.encodedLength + (config.alignment - 1) < Word.bound
  zeroed : config.zeroOnAlloc = true

-- A used block is one node, and a free one is a stretch that nodes fill up.
def Slotted (config : PoolConfig) (spans : List Span) : Prop :=
  ∀ span ∈ spans, (span.free = false → span.size = Node.encodedLength) ∧
    config.nodeSpan ∣ config.headerOverhead + span.size

theorem for_nodes_valid (count : Nat) (fit : FitPolicy) (valid : (PoolConfig.forNodes count).Valid) :
    ({ PoolConfig.forNodes count with fit } : PoolConfig).Valid := valid

theorem for_nodes_room (count : Nat) (fit : FitPolicy) (valid : (PoolConfig.forNodes count).Valid) :
    RoomForNodes { PoolConfig.forNodes count with fit } (max count 1) := by
  have limited := (valid_geometry _ valid).limited
  have whole : (16 + (8 - 1)) / 8 * 8 = 16 := by decide
  have word : 16 + (8 - 1) < Word.bound := by decide
  refine ⟨?_, whole, word, rfl⟩
  simp only [PoolConfig.forNodes, Word.mulCapped, PoolConfig.nodeSpan, PoolConfig.capacityLimit, Word.greatest,
    Word.bound, UInt64.size,
    PoolConfig.standard, Node.encodedLength] at limited ⊢
  omega

theorem slotted_append (config : PoolConfig) (a b : List Span) :
    Slotted config (a ++ b) ↔ Slotted config a ∧ Slotted config b :=
  List.forall_mem_append

theorem slotted_cons (config : PoolConfig) (span : Span) (rest : List Span) :
    Slotted config (span :: rest) ↔
      ((span.free = false → span.size = Node.encodedLength) ∧
        config.nodeSpan ∣ config.headerOverhead + span.size) ∧ Slotted config rest :=
  List.forall_mem_cons

theorem node_span_positive (config : PoolConfig) : 0 < config.nodeSpan := Nat.add_pos_right _ (by decide)

theorem slot_enough (config : PoolConfig) (size : Nat) (positive : 0 < size)
    (filled : config.nodeSpan ∣ config.headerOverhead + size) :
    Node.encodedLength ≤ size := by
  have least := Nat.le_of_dvd (Nat.add_pos_right _ positive) filled
  rw [PoolConfig.nodeSpan] at least
  omega

theorem slotted_extent (config : PoolConfig) (spans : List Span) (slotted : Slotted config spans)
    (positive : ∀ span ∈ spans, 0 < span.size) :
    ∃ vacant, extent config.headerOverhead spans = config.nodeSpan * ((usedSizes spans).length + vacant) ∧
      (0 < vacant ↔ ∃ span ∈ spans, span.free = true) := by
  induction spans with
  | nil => exact ⟨0, rfl, by simp⟩
  | cons span rest ih =>
      obtain ⟨⟨node, filled⟩, slotted'⟩ := (slotted_cons config span rest).mp slotted
      obtain ⟨vacant, total, some⟩ := ih slotted' fun other member => positive other (List.mem_cons_of_mem _ member)
      obtain ⟨size, free⟩ := span
      cases free with
      | false =>
          refine ⟨vacant, ?_, ?_⟩
          · have counted : (usedSizes (⟨size, false⟩ :: rest)).length = (usedSizes rest).length + 1 := by simp [usedSizes]
            rw [extent_cons, total, counted, show size = Node.encodedLength from node rfl, PoolConfig.nodeSpan]
            ring
          · rw [some]
            simp
      | true =>
          obtain ⟨slots, filled⟩ := filled
          have least : 0 < slots := Nat.pos_of_ne_zero fun none => by
            have size := positive ⟨size, true⟩ List.mem_cons_self
            rw [none] at filled
            simp only at filled size
            omega
          refine ⟨slots + vacant, ?_, ?_⟩
          · have counted : (usedSizes (⟨size, true⟩ :: rest)).length = (usedSizes rest).length := by simp [usedSizes]
            rw [extent_cons, total, counted, show config.headerOverhead + size = config.nodeSpan * slots from filled]
            ring
          · exact ⟨fun _ => ⟨⟨size, true⟩, List.mem_cons_self, rfl⟩, fun _ => Nat.add_pos_left least _⟩

section Heaps

variable (config : PoolConfig) (n : Nat) (room : RoomForNodes config n) (heap : Heap) (blocks : List LinkedSpan)
  (sound : Sound config heap blocks) (slotted : Slotted config (spansOf blocks))

include room sound slotted

theorem live_and_vacant :
    ∃ vacant, n = heap.handles.live + vacant ∧ (0 < vacant ↔ ∃ span ∈ spansOf blocks, span.free = true) := by
  obtain ⟨vacant, total, some⟩ := slotted_extent config (spansOf blocks) slotted sound.registry.tiling.positive
  rw [sound.registry.tiling.covers, room.capacity, ← live_used config heap blocks sound] at total
  exact ⟨vacant, Nat.eq_of_mul_eq_mul_left (node_span_positive config) total, some⟩

theorem live_at_most : heap.handles.live ≤ n := by
  obtain ⟨vacant, total, _⟩ := live_and_vacant config n room heap blocks sound slotted
  omega

-- There is a free block just as long as not all nodes are live.
theorem live_below : heap.handles.live < n ↔ ∃ span ∈ spansOf blocks, span.free = true := by
  obtain ⟨vacant, total, some⟩ := live_and_vacant config n room heap blocks sound slotted
  rw [← some]
  omega

theorem node_unserved : Unserved config Node.encodedLength blocks ↔ n ≤ heap.handles.live := by
  rw [← Nat.not_lt, live_below config n room heap blocks sound slotted]
  constructor
  · rintro (zero | large | unfit)
    · cases zero
    · exact absurd room.word (Nat.not_lt.mpr large)
    · rintro ⟨span, member, free⟩
      have enough := slot_enough config span.size (sound.registry.tiling.positive span member) (slotted span member).2
      have misfit := unfit span member
      simp [Span.fits, free, room.whole, enough] at misfit
  · intro full
    refine .inr (.inr fun span member => ?_)
    have used : span.free = false := Bool.eq_false_iff.mpr fun free => full ⟨span, member, free⟩
    rw [Span.fits, used, Bool.false_and]

end Heaps

theorem taken_slotted (config : PoolConfig) (n : Nat) (room : RoomForNodes config n) (whole : Nat)
    (before after : List LinkedSpan) (id created : BlockId)
    (slotted : Slotted config (spansOf (before ++ (id, ⟨whole, true⟩) :: after))) (positive : 0 < whole) :
    Slotted config (spansOf (config.takenBlocks Node.encodedLength whole before after id created)) := by
  rw [spans_of_append, spans_of_cons, slotted_append, slotted_cons] at slotted
  obtain ⟨front, ⟨_, filled⟩, back⟩ := slotted
  simp only at filled
  have enough := slot_enough config whole positive filled
  rw [PoolConfig.takenBlocks, room.whole, spans_of_append, spans_of_cons, spans_of_append, slotted_append,
    slotted_cons, slotted_append]
  by_cases splits : Node.encodedLength + config.headerOverhead < whole
  · have taken : takenSize config.headerOverhead Node.encodedLength whole = Node.encodedLength := if_pos splits
    have left : config.headerOverhead + (whole - Node.encodedLength - config.headerOverhead) =
        config.headerOverhead + whole - config.nodeSpan := by
      rw [PoolConfig.nodeSpan]
      omega
    refine ⟨front, ⟨fun _ => taken, by rw [taken]; exact Nat.dvd_refl _⟩, ?_, back⟩
    rw [remainder, if_pos splits, spans_of_cons, slotted_cons]
    refine ⟨⟨fun used => absurd used.symm Bool.false_ne_true, ?_⟩, fun span member => absurd member List.not_mem_nil⟩
    simp only [left]
    exact Nat.dvd_sub filled (Nat.dvd_refl _)
  · -- a stretch that is too short to be cut is one node long
    have single : whole = Node.encodedLength := by
      obtain ⟨slots, filled⟩ := filled
      have one : slots < 2 := Nat.lt_of_mul_lt_mul_left (a := config.nodeSpan) (by
        rw [← filled, PoolConfig.nodeSpan]
        have node : 0 < Node.encodedLength := by decide
        omega)
      have least : 0 < slots := Nat.pos_of_ne_zero fun none => by
        rw [none] at filled
        omega
      rw [show slots = 1 by omega, Nat.mul_one, PoolConfig.nodeSpan] at filled
      omega
    have taken : takenSize config.headerOverhead Node.encodedLength whole = whole := if_neg splits
    refine ⟨front, ⟨fun _ => taken.trans single, by rw [taken]; exact filled⟩, ?_, back⟩
    rw [remainder, if_neg splits]
    exact fun span member => absurd member List.not_mem_nil

theorem merged_slotted (config : PoolConfig) (before after ahead behind : List LinkedSpan) (id survivor : BlockId)
    (size whole : Nat)
    (aheadShape : (before = ahead ∧ survivor = id) ∨ ∃ less, before = ahead ++ [(survivor, ⟨less, true⟩)])
    (behindShape : after = behind ∨ ∃ taken more, after = (taken, ⟨more, true⟩) :: behind)
    (covered : extent config.headerOverhead (spansOf (before ++ (id, ⟨size, false⟩) :: after)) =
      extent config.headerOverhead (spansOf (ahead ++ (survivor, ⟨whole, true⟩) :: behind)))
    (slotted : Slotted config (spansOf (before ++ (id, ⟨size, false⟩) :: after))) :
    Slotted config (spansOf (ahead ++ (survivor, ⟨whole, true⟩) :: behind)) := by
  rw [spans_of_append, spans_of_cons, slotted_append, slotted_cons] at slotted ⊢
  rw [spans_of_append, spans_of_cons, spans_of_append, spans_of_cons, extent_append, extent_cons, extent_append,
    extent_cons] at covered
  obtain ⟨front, ⟨_, filled⟩, back⟩ := slotted
  have gathered : ∃ less, Slotted config (spansOf ahead) ∧ config.nodeSpan ∣ less ∧
      extent config.headerOverhead (spansOf before) = extent config.headerOverhead (spansOf ahead) + less := by
    obtain ⟨rfl, _⟩ | ⟨less, rfl⟩ := aheadShape
    · exact ⟨0, front, Nat.dvd_zero _, rfl⟩
    · rw [spans_of_append, slotted_append, spans_of_cons, slotted_cons] at front
      exact ⟨config.headerOverhead + less, front.1, front.2.1.2, by simp [spansOf]⟩
  have gathered' : ∃ more, Slotted config (spansOf behind) ∧ config.nodeSpan ∣ more ∧
      extent config.headerOverhead (spansOf after) = more + extent config.headerOverhead (spansOf behind) := by
    obtain rfl | ⟨taken, more, rfl⟩ := behindShape
    · exact ⟨0, back, Nat.dvd_zero _, (Nat.zero_add _).symm⟩
    · rw [spans_of_cons, slotted_cons] at back
      exact ⟨config.headerOverhead + more, back.2, back.1.2, by simp⟩
  obtain ⟨less, front', lessFilled, first⟩ := gathered
  obtain ⟨more, back', moreFilled, last⟩ := gathered'
  have sum : config.headerOverhead + whole = less + (config.headerOverhead + size) + more := by
    simp only at covered
    omega
  refine ⟨front', ⟨fun used => absurd used.symm Bool.false_ne_true, ?_⟩, back'⟩
  simp only [sum]
  exact Nat.dvd_add (Nat.dvd_add lessFilled filled) moreFilled

theorem node_length (config : PoolConfig) (geometry : Geometry config) (heap : Heap) (blocks : List LinkedSpan) (h : Handle)
    (bytes : List UInt8) (sound : Sound config heap blocks) (slotted : Slotted config (spansOf blocks))
    (held : contents heap h = some bytes) : bytes.length = Node.encodedLength := by
  obtain ⟨_, nothing⟩ | ⟨place, member, _, found, length, _⟩ := contents_cases config geometry heap blocks h sound
  · rw [nothing] at held
    cases held
  · obtain ⟨before, after, rfl, _⟩ := place_block _ _ _ _ member
    rw [found] at held
    cases held
    rw [length]
    exact (slotted ⟨place.size, false⟩ (by simp)).1 rfl

end BlockPool
