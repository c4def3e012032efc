import BlockPool.Proofs.Chart

set_option autoImplicit false

namespace BlockPool

open Registry

def entryFits (size : Nat) (entry : BlockId × Header) : Bool := entry.2.free && decide (size ≤ entry.2.size)

theorem smallest_none (found : List (BlockId × Header)) (none_left : smallest found = none) : found = [] := by
  cases found with
  | nil => rfl
  | cons entry rest =>
      simp only [smallest] at none_left
      split at none_left
      · cases none_left
      · split at none_left <;> cases none_left

theorem smallest_some (found : List (BlockId × Header)) (chosen : BlockId × Header) (least : smallest found = some chosen) :
    ∃ before after, found = before ++ chosen :: after ∧ (∀ entry ∈ before, chosen.2.size < entry.2.size) ∧
      ∀ entry ∈ after, chosen.2.size ≤ entry.2.size := by
  induction found generalizing chosen with
  | nil => cases least
  | cons entry rest ih =>
      rw [smallest] at least
      cases others : smallest rest with
      | none =>
          rw [others] at least
          cases least
          exact ⟨[], rest, rfl, by simp, by simp [smallest_none rest others]⟩
      | some other =>
          obtain ⟨before, after, split, earlier, later⟩ := ih other others
          simp only [others] at least
          by_cases smaller : other.2.size < entry.2.size
          · rw [if_pos smaller] at least
            cases least
            refine ⟨entry :: before, after, by rw [split]; rfl, fun first member => ?_, later⟩
            rcases List.mem_cons.mp member with rfl | inside
            · exact smaller
            · exact earlier first inside
          · rw [if_neg smaller] at least
            cases least
            have bound : entry.2.size ≤ other.2.size := Nat.le_of_not_lt smaller
            refine ⟨[], rest, rfl, by simp, fun last member => ?_⟩
            rw [split] at member
            rcases List.mem_append.mp member with ahead | here
            · exact Nat.le_trans bound (Nat.le_of_lt (earlier last ahead))
            · rcases List.mem_cons.mp here with rfl | behind
              · exact bound
              · exact Nat.le_trans bound (later last behind)

theorem smallest_splits (found : List (BlockId × Header)) (fits : BlockId × Header → Bool) (chosen : BlockId × Header)
    (least : smallest (found.filter fits) = some chosen) :
    ∃ before after, found = before ++ chosen :: after ∧ fits chosen = true ∧
      (∀ entry ∈ before, fits entry = true → chosen.2.size < entry.2.size) ∧
      ∀ entry ∈ after, fits entry = true → chosen.2.size ≤ entry.2.size := by
  obtain ⟨fitBefore, fitAfter, split, earlier, later⟩ := smallest_some _ chosen least
  obtain ⟨ahead, rest, rfl, rfl, behindSplit⟩ := List.filter_eq_append_iff.mp split
  obtain ⟨between, after, rfl, unfit, chosenFits, rfl⟩ := List.filter_eq_cons_iff.mp behindSplit
  refine ⟨ahead ++ between, after, by rw [List.append_assoc], chosenFits, fun entry member entryFits => ?_,
    fun entry member entryFits => ?_⟩
  · rcases List.mem_append.mp member with first | skipped
    · exact earlier entry (List.mem_filter.mpr ⟨first, entryFits⟩)
    · exact absurd entryFits (unfit entry skipped)
  · exact later entry (List.mem_filter.mpr ⟨member, entryFits⟩)

theorem find_filter_splits (found : List (BlockId × Header)) (fits exact : BlockId × Header → Bool)
    (chosen : BlockId × Header) (first : (found.filter fits).find? exact = some chosen) :
    ∃ before after, found = before ++ chosen :: after ∧ fits chosen = true ∧ exact chosen = true ∧
      ∀ entry ∈ before, fits entry = true → exact entry = false := by
  rw [List.find?_filter, List.find?_eq_some_iff_append] at first
  obtain ⟨suits, before, after, split, earlier⟩ := first
  obtain ⟨chosenFits, chosenExact⟩ := by simpa using suits
  refine ⟨before, after, split, chosenFits, chosenExact, fun entry member entryFits => ?_⟩
  have skipped := earlier entry member
  simpa [entryFits] using skipped

theorem entry_of_span (found : List (BlockId × Header)) (span : Span) (member : span ∈ spansOf (found.map linkedSpan)) :
    ∃ entry ∈ found, (linkedSpan entry).2 = span := by
  obtain ⟨block, inside, rfl⟩ := List.mem_map.mp member
  obtain ⟨entry, known, rfl⟩ := List.mem_map.mp inside
  exact ⟨entry, known, rfl⟩

theorem preferred_best (before after : List (BlockId × Header)) (chosen : BlockId × Header) (size : Nat)
    (earlier : ∀ entry ∈ before, entryFits size entry = true → chosen.2.size < entry.2.size)
    (later : ∀ entry ∈ after, entryFits size entry = true → chosen.2.size ≤ entry.2.size) :
    Preferred .bestFit size (spansOf (before.map linkedSpan)) (linkedSpan chosen).2 (spansOf (after.map linkedSpan)) := by
  refine ⟨fun span inside fits => ?_, fun span inside fits => ?_⟩
  · obtain ⟨entry, member, rfl⟩ := entry_of_span before span inside
    exact earlier entry member fits
  · obtain ⟨entry, member, rfl⟩ := entry_of_span after span inside
    exact later entry member fits

-- What the policy names comes first; the smallest block that fits stands in where it names none.
theorem find_fit_first (r : Registry) (found : List (BlockId × Header)) (size : Nat) (walk : r.chain = ⟨found, .complete⟩)
    (policy : r.fit = .firstFit) :
    r.findFit size = .ok (((found.filter (entryFits size)).head?.or (smallest (found.filter (entryFits size)))).map Prod.fst) := by
  simp only [Registry.findFit, walk, Chain.finish, policy]
  split
  · rename_i block settled
    rw [show (found.filter (entryFits size)).head? = some block from settled]
    rfl
  · rename_i settled
    rw [show (found.filter (entryFits size)).head? = none from settled]
    rfl

theorem find_fit_best (r : Registry) (found : List (BlockId × Header)) (size : Nat) (walk : r.chain = ⟨found, .complete⟩)
    (policy : r.fit = .bestFit) :
    r.findFit size = .ok ((((found.filter (entryFits size)).find? fun entry => entry.2.size == size).or
      (smallest (found.filter (entryFits size)))).map Prod.fst) := by
  simp only [Registry.findFit, walk, Chain.finish, policy]
  split
  · rename_i block settled
    rw [show ((found.filter (entryFits size)).find? fun entry => entry.2.size == size) = some block from settled]
    rfl
  · rename_i settled
    rw [show ((found.filter (entryFits size)).find? fun entry => entry.2.size == size) = none from settled]
    rfl

theorem find_fit_complete (r : Registry) (found : List (BlockId × Header)) (size : Nat)
    (walk : r.chain = ⟨found, .complete⟩) :
    (r.findFit size = .ok none ∧ ∀ entry ∈ found, entryFits size entry = false) ∨
    ∃ before chosen after, found = before ++ chosen :: after ∧ entryFits size chosen = true ∧
      Preferred r.fit size (spansOf (before.map linkedSpan)) (linkedSpan chosen).2 (spansOf (after.map linkedSpan)) ∧
      r.findFit size = .ok (some chosen.1) := by
  have absent (unfit : found.filter (entryFits size) = []) : ∀ entry ∈ found, entryFits size entry = false := by
    intro entry member
    exact Bool.eq_false_iff.mpr (List.filter_eq_nil_iff.mp unfit entry member)
  cases policy : r.fit with
  | firstFit =>
      rw [find_fit_first r found size walk policy]
      cases settled : (found.filter (entryFits size)).head? with
      | none =>
          have unfit := List.head?_eq_none_iff.mp settled
          exact .inl ⟨by rw [unfit]; rfl, absent unfit⟩
      | some chosen =>
          rw [List.head?_filter, List.find?_eq_some_iff_append] at settled
          obtain ⟨fits, before, after, split, earlier⟩ := settled
          refine .inr ⟨before, chosen, after, split, fits, ?_, rfl⟩
          intro span inside
          obtain ⟨entry, member, rfl⟩ := entry_of_span before span inside
          have unfit := earlier entry member
          exact Bool.not_eq_true' _ ▸ unfit
  | bestFit =>
      rw [find_fit_best r found size walk policy]
      cases settled : (found.filter (entryFits size)).find? fun entry => entry.2.size == size with
      | some chosen =>
          obtain ⟨before, after, split, fits, exact, earlier⟩ := find_filter_splits found _ _ chosen settled
          have same : chosen.2.size = size := beq_iff_eq.mp exact
          have large (entry : BlockId × Header) (entryFits : entryFits size entry = true) : size ≤ entry.2.size :=
            of_decide_eq_true (Bool.and_eq_true_iff.mp entryFits).2
          refine .inr ⟨before, chosen, after, split, fits, preferred_best before after chosen size ?_ ?_, rfl⟩
          · intro entry member entryFits
            have different : entry.2.size ≠ size := beq_eq_false_iff_ne.mp (earlier entry member entryFits)
            have bound := large entry entryFits
            omega
          · exact fun entry _ entryFits => same ▸ large entry entryFits
      | none =>
          rw [Option.none_or]
          cases least : smallest (found.filter (entryFits size)) with
          | none => exact .inl ⟨rfl, absent (smallest_none _ least)⟩
          | some chosen =>
              obtain ⟨before, after, split, fits, earlier, later⟩ := smallest_splits found _ chosen least
              exact .inr ⟨before, chosen, after, split, fits, preferred_best before after chosen size earlier later, rfl⟩

theorem find_fit_charted (config : PoolConfig) (r : Registry) (blocks : List LinkedSpan) (size : Nat)
    (charted : Charted config r blocks) :
    (r.findFit size = .ok none ∧ ∀ span ∈ spansOf blocks, span.fits size = false) ∨
    ∃ before id whole after, blocks = before ++ (id, ⟨whole, true⟩) :: after ∧ size ≤ whole ∧
      Preferred config.fit size (spansOf before) ⟨whole, true⟩ (spansOf after) ∧ r.findFit size = .ok (some id) := by
  have same := entries_blocks config.headerOverhead none none 0 blocks
  rcases find_fit_complete r _ size (charted_chain config r blocks charted) with
    ⟨nothing, unfit⟩ | ⟨before, chosen, after, split, fits, preferred, settled⟩
  · refine .inl ⟨nothing, ?_⟩
    rw [← same]
    intro span inside
    obtain ⟨entry, member, rfl⟩ := entry_of_span _ span inside
    exact unfit entry member
  · obtain ⟨isFree, large⟩ := Bool.and_eq_true_iff.mp fits
    have shape : linkedSpan chosen = (chosen.1, ⟨chosen.2.size, true⟩) := by rw [linkedSpan, isFree]
    rw [shape, charted.fit] at preferred
    refine .inr ⟨before.map linkedSpan, chosen.1, chosen.2.size, after.map linkedSpan, ?_, of_decide_eq_true large,
      preferred, settled⟩
    rw [← same, split, List.map_append, List.map_cons, shape]

end BlockPool
