import BlockPool.Proofs.Settled

set_option autoImplicit false

namespace BlockPool

open Registry

inductive RegistryCall where
  | allocate (size : Nat)
  | release (id : BlockId)
deriving DecidableEq, Repr

def describeSpans (overhead : Nat) : Nat → List Span → List BlockInfo
  | _, [] => []
  | offset, span :: rest =>
    ⟨offset, offset + overhead, span.size, span.free⟩ :: describeSpans overhead (offset + (overhead + span.size)) rest

theorem described_length (overhead offset : Nat) (spans : List Span) :
    (describeSpans overhead offset spans).length = spans.length := by
  induction spans generalizing offset with
  | nil => rfl
  | cons span rest ih => rw [describeSpans, List.length_cons, List.length_cons, ih]

def Registry.position (r : Registry) (id : BlockId) : Option Nat :=
  (r.chain.blocks.map Prod.fst).findIdx? fun other => other == id

-- The header pool and the list of blocks go through the same calls. At each of
-- them the views are the same, and so are the answers, with positions on the
-- list for header ids.
def Lockstep (config : PoolConfig) : Registry → List Span → List RegistryCall → Prop
  | r, spans, [] => r.blocks = .ok (describeSpans config.headerOverhead 0 spans)
  | r, spans, .allocate size :: rest =>
    r.blocks = .ok (describeSpans config.headerOverhead 0 spans) ∧
      (0 < size → config.alignment ∣ size →
        match allocateSpan config.fit config.headerOverhead size spans with
        | none => Registry.allocate size r = .ok none r ∧ Lockstep config r spans rest
        | some placed =>
          ∃ id next, Registry.allocate size r = .ok (some ⟨id, placed.split⟩) next ∧
            r.position id = some placed.position ∧ next.position id = some placed.position ∧
            Lockstep config next placed.spans rest)
  | r, spans, .release id :: rest =>
    r.blocks = .ok (describeSpans config.headerOverhead 0 spans) ∧
      (id < r.headers.size →
        match (r.position id).bind fun here => releaseSpan config.headerOverhead here spans with
        | none => Registry.release id r = .ok none r ∧ Lockstep config r spans rest
        | some merged =>
          ∃ survivor next, Registry.release id r = .ok (some ⟨survivor, merged.merges⟩) next ∧
            r.position survivor = some merged.survivor ∧ next.position survivor = some merged.survivor ∧
            Lockstep config next merged.spans rest)

theorem charted_position (config : PoolConfig) (r : Registry) (before after : List LinkedSpan) (id : BlockId) (span : Span)
    (charted : Charted config r (before ++ (id, span) :: after)) : r.position id = some before.length := by
  obtain ⟨beforeOther, _⟩ := charted_elsewhere config r before after id span charted
  rw [Registry.position, charted_chain_ids config r _ charted, ids_of_append, ids_of_cons, ← ids_of_length before]
  apply find_index_here
  · exact fun other member => beq_false_of_ne (beforeOther other member)
  · exact beq_self_eq_true id

theorem charted_position_none (config : PoolConfig) (r : Registry) (blocks : List LinkedSpan) (id : BlockId)
    (charted : Charted config r blocks) (absent : id ∉ idsOf blocks) : r.position id = none := by
  rw [Registry.position, charted_chain_ids config r _ charted, List.findIdx?_eq_none_iff]
  exact fun other member => beq_false_of_ne (fun same => absent (same ▸ member))

theorem described_entries (config : PoolConfig) (r : Registry) (prev after : Option BlockId) (offset : Nat)
    (blocks : List LinkedSpan) (overhead : r.headerOverhead = config.headerOverhead)
    (word : offset + extent config.headerOverhead (spansOf blocks) < Word.bound) :
    (entries config.headerOverhead prev offset blocks after).mapM r.describe =
      .ok (describeSpans config.headerOverhead offset (spansOf blocks)) := by
  induction blocks generalizing prev offset with
  | nil => rfl
  | cons block rest ih =>
      obtain ⟨id, span⟩ := block
      simp only [spans_of_cons, extent_cons] at word
      have tail := ih (some id) (offset + (config.headerOverhead + span.size)) (by omega)
      have described : r.describe (id, ⟨offset, span.size, span.free, prev, firstId rest after⟩) =
          .ok ⟨offset, offset + config.headerOverhead, span.size, span.free⟩ := by
        rw [Registry.describe, overhead, word_add_ok offset config.headerOverhead (by omega)]
        rfl
      rw [entries, List.mapM_cons, described, tail]
      rfl

theorem charted_blocks (config : PoolConfig) (geometry : Geometry config) (r : Registry) (blocks : List LinkedSpan)
    (charted : Charted config r blocks) :
    r.blocks = .ok (describeSpans config.headerOverhead 0 (spansOf blocks)) := by
  have word := capacity_word config geometry
  have whole : r.chain.whole = .ok (entries config.headerOverhead none 0 blocks none) := by
    rw [charted_chain config r blocks charted]
    rfl
  rw [Registry.blocks, whole]
  refine described_entries config r none none 0 blocks charted.overhead ?_
  rw [charted.covers, Nat.zero_add]
  exact word

theorem allocate_refines (config : PoolConfig) (geometry : Geometry config) (r : Registry) (blocks : List LinkedSpan)
    (size : Nat) (positive : 0 < size) (aligned : config.alignment ∣ size) (settled : Settled config r blocks) :
    (allocateSpan config.fit config.headerOverhead size (spansOf blocks) = none ∧ Registry.allocate size r = .ok none r) ∨
    ∃ placed id next blocks',
      allocateSpan config.fit config.headerOverhead size (spansOf blocks) = some placed ∧
      Registry.allocate size r = .ok (some ⟨id, placed.split⟩) next ∧
      r.position id = some placed.position ∧ next.position id = some placed.position ∧
      placed.spans = spansOf blocks' ∧ Settled config next blocks' := by
  rcases allocate_settled config geometry r blocks size positive aligned settled with
    ⟨refused, unfit⟩ | ⟨before, id, whole, after, created, next, rfl, enough, preferred, placed, final⟩
  · exact .inl ⟨allocate_span_none config.fit config.headerOverhead size _ unfit, refused⟩
  · have fits : (Span.mk whole true).fits size = true := by simp [Span.fits, enough]
    have chosen := allocate_span_some config.fit config.headerOverhead size (spansOf before) (spansOf after) _ fits preferred
    rw [← spans_of_cons (id, ⟨whole, true⟩), ← spans_of_append] at chosen
    refine .inr ⟨_, id, next, _, chosen, placed, ?_, ?_, ?_, final⟩
    · rw [spans_of_length]
      exact charted_position config r before after id _ settled.charted
    · rw [spans_of_length]
      exact charted_position config next before _ id _ final.charted
    · rw [cut_span_eq config.headerOverhead size whole created]
      simp only [spans_of_append, spans_of_cons, List.append_assoc, List.cons_append]

theorem release_refines (config : PoolConfig) (geometry : Geometry config) (r : Registry) (blocks : List LinkedSpan)
    (id : BlockId) (inside : id < r.headers.size) (settled : Settled config r blocks) :
    (((r.position id).bind fun here => releaseSpan config.headerOverhead here (spansOf blocks)) = none ∧
      Registry.release id r = .ok none r) ∨
    ∃ merged survivor next blocks',
      ((r.position id).bind fun here => releaseSpan config.headerOverhead here (spansOf blocks)) = some merged ∧
      Registry.release id r = .ok (some ⟨survivor, merged.merges⟩) next ∧
      r.position survivor = some merged.survivor ∧ next.position survivor = some merged.survivor ∧
      merged.spans = spansOf blocks' ∧ Settled config next blocks' := by
  -- a header that is on no chain is vacant, and vacant headers are marked free
  by_cases linked : id ∈ idsOf blocks
  · obtain ⟨before, ⟨size, free⟩, after, rfl⟩ := linked_around blocks id linked
    have here := charted_position config r before after id _ settled.charted
    simp only [here, Option.bind_some]
    cases free with
    | true =>
        refine .inl ⟨?_, ?_⟩
        · apply release_span_free
          simp
        · refine release_unused config r _ _ settled.charted inside (fun other used => ?_)
          cases charted_same config r _ settled.charted id ⟨size, true⟩ ⟨other, false⟩ (by simp) used
    | false =>
        obtain ⟨ahead, survivor, whole, behind, merges, next, ran, final, released, aheadShape, _⟩ :=
          release_settled config geometry r before after id size settled
        refine .inr ⟨_, survivor, next, _, released, ran, ?_, charted_position config next ahead behind survivor _ final.charted,
          rfl, final⟩
        rcases aheadShape with ⟨rfl, rfl⟩ | ⟨less, rfl⟩
        · exact here
        · have charted := settled.charted
          rw [List.append_assoc] at charted
          exact charted_position config r ahead _ survivor _ charted
  · refine .inl ⟨?_, ?_⟩
    · rw [charted_position_none config r blocks id settled.charted linked]
      rfl
    · exact release_unused config r blocks id settled.charted inside (fun size used => linked (List.mem_map_of_mem used))

theorem settled_lockstep (config : PoolConfig) (geometry : Geometry config) (calls : List RegistryCall) (r : Registry)
    (blocks : List LinkedSpan) (settled : Settled config r blocks) : Lockstep config r (spansOf blocks) calls := by
  induction calls generalizing r blocks with
  | nil => exact charted_blocks config geometry r blocks settled.charted
  | cons call rest ih =>
      cases call with
      | allocate size =>
          refine ⟨charted_blocks config geometry r blocks settled.charted, fun positive aligned => ?_⟩
          rcases allocate_refines config geometry r blocks size positive aligned settled with
            ⟨nothing, refused⟩ | ⟨placed, id, next, blocks', picked, ran, stood, stands, same, final⟩
          · rw [nothing]
            exact ⟨refused, ih r blocks settled⟩
          · rw [picked]
            exact ⟨id, next, ran, stood, stands, same ▸ ih next blocks' final⟩
      | release id =>
          refine ⟨charted_blocks config geometry r blocks settled.charted, fun inside => ?_⟩
          rcases release_refines config geometry r blocks id inside settled with
            ⟨nothing, refused⟩ | ⟨merged, survivor, next, blocks', taken, ran, stood, stands, same, final⟩
          · rw [nothing]
            exact ⟨refused, ih r blocks settled⟩
          · rw [taken]
            exact ⟨survivor, next, ran, stood, stands, same ▸ ih next blocks' final⟩

theorem registry_refines_spans (config : PoolConfig) (valid : config.Valid) (calls : List RegistryCall) :
    ∃ r, Registry.single config = .ok r ∧
      Lockstep config r [⟨config.capacity - config.headerOverhead, true⟩] calls := by
  have geometry := valid_geometry config valid
  obtain ⟨r, made, settled⟩ := single_settled config geometry
  exact ⟨r, made, settled_lockstep config geometry calls r _ settled⟩

theorem registry_refines_spans_small :
    (PoolConfig.mk 100 16 8 .bestFit true).Valid ∧
      ∃ r, Registry.single (PoolConfig.mk 100 16 8 .bestFit true) = .ok r ∧
        Lockstep (PoolConfig.mk 100 16 8 .bestFit true) r [⟨84, true⟩] [.allocate 16, .allocate 8, .release 0, .release 1] :=
  ⟨by rfl, registry_refines_spans (PoolConfig.mk 100 16 8 .bestFit true) (by rfl)
    [.allocate 16, .allocate 8, .release 0, .release 1]⟩

end BlockPool
