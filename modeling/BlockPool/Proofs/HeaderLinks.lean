import BlockPool.Proofs.ChainCheck

set_option autoImplicit false

namespace BlockPool

open Registry

-- Sizes come as whole units of the alignment, and ids name a header whether it is on the chain or waits.
def RegistryCall.Allowed (config : PoolConfig) (r : Registry) : RegistryCall → Prop
  | .allocate size => 0 < size ∧ config.alignment ∣ size
  | .release id => id < r.headers.size

instance (config : PoolConfig) (r : Registry) (call : RegistryCall) : Decidable (call.Allowed config r) :=
  match call with
  | .allocate size => inferInstanceAs (Decidable (0 < size ∧ config.alignment ∣ size))
  | .release id => inferInstanceAs (Decidable (id < r.headers.size))

def RegistryCall.after (r : Registry) : RegistryCall → Registry
  | .allocate size => ((Registry.allocate size).attempt r).2
  | .release id => ((Registry.release id).attempt r).2

inductive Registry.LeadsTo (config : PoolConfig) (start : Registry) : Registry → Prop where
  | start : LeadsTo config start start
  | call (r : Registry) (call : RegistryCall) (previous : LeadsTo config start r) (allowed : call.Allowed config r) :
      LeadsTo config start (call.after r)

def Registry.linkedIds (r : Registry) : List BlockId := r.chain.blocks.map Prod.fst

-- One chain from header 0 on through some of the headers, and nothing but waiting headers beside it.
structure WellLinked (r : Registry) : Prop where
  walk : Walk r.headers (some 0) r.chain.blocks
  steps : r.chain.blocks.length ≤ r.headers.size
  once : (r.linkedIds ++ r.vacant).Perm (List.range r.headers.size)
  head : ∃ h rest, r.chain.blocks = (0, h) :: rest ∧ h.offset = 0 ∧ h.prev = none
  kept : 0 ∉ r.vacant
  inverse : ∀ a b, r.successor a = some b ↔ r.predecessor b = some a
  inside : ∀ a b, r.successor a = some b → a ∈ r.linkedIds ∧ b ∈ r.linkedIds
  blank : ∀ id ∈ r.vacant, ∃ offset, r.headers[id]? = some ⟨offset, 0, true, none, none⟩
  -- nothing is given back, and nothing changes, exactly where the header waits or says that it is free
  released : ∀ id < r.headers.size, ∃ answer next, Registry.release id r = .ok answer next ∧
    (answer = none ↔ id ∈ r.vacant ∨ ∃ h, (id, h) ∈ r.chain.blocks ∧ h.free = true) ∧ (answer = none → next = r)

theorem charted_listed (config : PoolConfig) (r : Registry) (blocks : List LinkedSpan) (charted : Charted config r blocks)
    (id : BlockId) (free : Bool) :
    (∃ h, (id, h) ∈ r.chain.blocks ∧ h.free = free) ↔ ∃ size, (id, ⟨size, free⟩) ∈ blocks := by
  rw [charted_chain config r blocks charted]
  conv_rhs => rw [← entries_blocks config.headerOverhead none none 0 blocks]
  simp only [List.mem_map, linkedSpan, Prod.mk.injEq, Span.mk.injEq, Prod.exists]
  constructor
  · rintro ⟨h, member, rfl⟩
    exact ⟨h.size, id, h, member, rfl, rfl, rfl⟩
  · rintro ⟨size, _, h, member, rfl, rfl, rfl⟩
    exact ⟨h, member, rfl⟩

theorem release_answers (config : PoolConfig) (geometry : Geometry config) (r : Registry) (blocks : List LinkedSpan)
    (settled : Settled config r blocks) (id : BlockId) (inside : id < r.headers.size) :
    ∃ answer next, Registry.release id r = .ok answer next ∧
      (answer = none ↔ id ∈ r.vacant ∨ ∃ h, (id, h) ∈ r.chain.blocks ∧ h.free = true) ∧
      (answer = none → next = r) := by
  have charted := settled.charted
  rw [charted_listed config r blocks charted id true]
  by_cases used : ∃ size, (id, ⟨size, false⟩) ∈ blocks
  · obtain ⟨size, member⟩ := used
    obtain ⟨before, after, rfl⟩ := List.append_of_mem member
    obtain ⟨_, survivor, _, _, merges, next, ran, _⟩ := release_settled config geometry r before after id size settled
    refine ⟨_, next, ran, ⟨nofun, ?_⟩, nofun⟩
    rintro (waiting | ⟨other, listed⟩)
    · obtain ⟨_, _, vacantOther, _⟩ := charted_elsewhere config r before after id _ charted
      exact absurd rfl (vacantOther id waiting)
    · cases charted_same config r _ charted id _ _ member listed
  · have ran := release_unused config r blocks id charted inside fun size member => used ⟨size, member⟩
    refine ⟨none, r, ran, ⟨fun _ => ?_, fun _ => rfl⟩, fun _ => rfl⟩
    rcases charted_known config r blocks charted id inside with ⟨before, ⟨size, free⟩, after, rfl⟩ | waiting
    · cases free with
      | true => exact .inr ⟨size, by simp⟩
      | false => exact absurd ⟨size, by simp⟩ used
    · exact .inl waiting

theorem settled_links (config : PoolConfig) (geometry : Geometry config) (r : Registry) (blocks : List LinkedSpan)
    (settled : Settled config r blocks) : WellLinked r := by
  have charted := settled.charted
  have chain := charted_chain config r blocks charted
  have ids : r.linkedIds = idsOf blocks := charted_chain_ids config r blocks charted
  constructor
  case walk => exact walk_followed r.headers (some 0) (r.headers.size + 1) (congrArg Chain.ending chain)
  case steps =>
    have count := charted_count config r blocks charted
    rw [charted_chain_length config r blocks charted]
    omega
  case once => exact ids ▸ charted.ids
  case head =>
    obtain ⟨span, rest, rfl⟩ := charted_head config r blocks charted
    exact ⟨_, _, congrArg Chain.blocks chain, rfl, rfl⟩
  case kept =>
    obtain ⟨span, rest, rfl⟩ := charted_head config r blocks charted
    obtain ⟨_, _, vacantOther, _⟩ := charted_elsewhere config r [] rest 0 span charted
    exact fun waiting => vacantOther 0 waiting rfl
  case inverse => exact charted_inverse config r blocks charted
  case inside =>
    intro a b next
    rw [ids]
    exact neighbours_linked blocks a b ((successor_neighbours config r blocks charted a b).mp next)
  case blank => exact charted.blank
  case released => exact release_answers config geometry r blocks settled

theorem call_settled (config : PoolConfig) (geometry : Geometry config) (r : Registry) (blocks : List LinkedSpan)
    (call : RegistryCall) (allowed : call.Allowed config r) (settled : Settled config r blocks) :
    ∃ blocks', Settled config (call.after r) blocks' := by
  cases call with
  | allocate size =>
      obtain ⟨positive, aligned⟩ := allowed
      rcases allocate_refines config geometry r blocks size positive aligned settled with
        ⟨_, refused⟩ | ⟨_, id, next, blocks', _, ran, _, _, _, final⟩
      · rw [RegistryCall.after, attempt_ok _ r r _ refused]
        exact ⟨blocks, settled⟩
      · rw [RegistryCall.after, attempt_ok _ r next _ ran]
        exact ⟨blocks', final⟩
  | release id =>
      rcases release_refines config geometry r blocks id allowed settled with
        ⟨_, refused⟩ | ⟨_, survivor, next, blocks', _, ran, _, _, _, final⟩
      · rw [RegistryCall.after, attempt_ok _ r r _ refused]
        exact ⟨blocks, settled⟩
      · rw [RegistryCall.after, attempt_ok _ r next _ ran]
        exact ⟨blocks', final⟩

theorem run_settled (config : PoolConfig) (geometry : Geometry config) (start r : Registry) (blocks : List LinkedSpan)
    (settled : Settled config start blocks) (leads : Registry.LeadsTo config start r) : ∃ blocks', Settled config r blocks' := by
  induction leads with
  | start => exact ⟨blocks, settled⟩
  | call r call _ allowed ih =>
      obtain ⟨blocks', kept⟩ := ih
      exact call_settled config geometry r blocks' call allowed kept

theorem header_pool_stays_linked (config : PoolConfig) (valid : config.Valid) :
    ∃ start, Registry.single config = .ok start ∧ ∀ r, Registry.LeadsTo config start r → WellLinked r := by
  have geometry := valid_geometry config valid
  obtain ⟨start, made, settled⟩ := single_settled config geometry
  refine ⟨start, made, fun r leads => ?_⟩
  obtain ⟨blocks, kept⟩ := run_settled config geometry start r _ settled leads
  exact settled_links config geometry r blocks kept

-- Two blocks are made and given back. The second takes in the rest behind it and goes into the first, so that two headers wait.
theorem header_pool_stays_linked_merged :
    (PoolConfig.mk 100 16 8 .bestFit true).Valid ∧
      ∃ start, Registry.single (PoolConfig.mk 100 16 8 .bestFit true) = .ok start ∧
        Registry.LeadsTo (PoolConfig.mk 100 16 8 .bestFit true) start
          ⟨#[⟨0, 84, true, none, none⟩, ⟨32, 0, true, none, none⟩, ⟨56, 0, true, none, none⟩], [1, 2],
            100, 16, .bestFit⟩ ∧
        WellLinked
          ⟨#[⟨0, 84, true, none, none⟩, ⟨32, 0, true, none, none⟩, ⟨56, 0, true, none, none⟩], [1, 2],
            100, 16, .bestFit⟩ := by
  have valid : (PoolConfig.mk 100 16 8 .bestFit true).Valid := by rfl
  obtain ⟨start, made, linked⟩ := header_pool_stays_linked (PoolConfig.mk 100 16 8 .bestFit true) valid
  cases made
  have leads : Registry.LeadsTo (PoolConfig.mk 100 16 8 .bestFit true)
      ⟨#[⟨0, 84, true, none, none⟩], [], 100, 16, .bestFit⟩
      ⟨#[⟨0, 84, true, none, none⟩, ⟨32, 0, true, none, none⟩, ⟨56, 0, true, none, none⟩], [1, 2],
        100, 16, .bestFit⟩ :=
    .call _ (.release 1) (.call _ (.release 0) (.call _ (.allocate 8) (.call _ (.allocate 16) .start (by decide))
      (by decide)) (by decide)) (by decide)
  exact ⟨valid, _, rfl, leads, linked _ leads⟩

end BlockPool
