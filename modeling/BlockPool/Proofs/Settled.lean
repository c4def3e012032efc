import BlockPool.Proofs.FindFit
import BlockPool.Proofs.Relink

set_option autoImplicit false

namespace BlockPool

open Registry

-- A header pool between two calls: its blocks tile the arena, and there are no
-- more headers than blocks can ever be needed.
structure Settled (config : PoolConfig) (r : Registry) (blocks : List LinkedSpan) : Prop where
  charted : Charted config r blocks
  tiling : Tiling config (spansOf blocks)
  room : r.headers.size ≤ config.capacity / (config.headerOverhead + config.alignment) + 1

theorem single_settled (config : PoolConfig) (geometry : Geometry config) :
    ∃ r, Registry.single config = .ok r ∧ Settled config r [(0, ⟨config.capacity - config.headerOverhead, true⟩)] := by
  have roomy := geometry.roomy
  refine ⟨⟨#[⟨0, config.capacity - config.headerOverhead, true, none, none⟩], [], config.capacity, config.headerOverhead,
    config.fit⟩, ?_, ⟨⟨rfl, rfl, rfl, ?_, ?_, ?_, rfl, ?_⟩, tiling_single config geometry, Nat.le_add_left 1 _⟩⟩
  · rw [Registry.single, word_sub_ok _ _ (Nat.le_of_lt roomy)]
    rfl
  · simp [entries, laid_cons, laid_nil]
  · simp [List.range_succ]
  · simp
  · simp only [spans_of_cons, spans_of_nil, extent_cons, extent_nil]
    omega

theorem settled_few (config : PoolConfig) (geometry : Geometry config) (r : Registry) (blocks : List LinkedSpan)
    (settled : Settled config r blocks) : r.headers.size < UInt32.size := by
  have few := geometry.fewBlocks
  have room := settled.room
  simp only [PoolConfig.blockLimit, UInt32.size] at few ⊢
  omega

-- The bytes that a request gets out of a free block of `whole` bytes, and what is left behind them.
def takenSize (overhead size whole : Nat) : Nat := if size + overhead < whole then size else whole

def remainder (overhead size whole : Nat) (created : BlockId) : List LinkedSpan :=
  if size + overhead < whole then [(created, ⟨whole - size - overhead, true⟩)] else []

theorem cut_span_eq (overhead size whole : Nat) (created : BlockId) :
    cutSpan overhead size whole =
      ⟨takenSize overhead size whole, false⟩ :: spansOf (remainder overhead size whole created) := by
  unfold cutSpan takenSize remainder
  split <;> rfl

theorem split_cuts (config : PoolConfig) (geometry : Geometry config) (r : Registry) (before after : List LinkedSpan)
    (id : BlockId) (size whole : Nat) (free : Bool) (charted : Charted config r (before ++ (id, ⟨whole, free⟩) :: after))
    (few : r.headers.size < UInt32.size) (enough : size ≤ whole) :
    ∃ created next, Registry.split id size r = .ok (decide (size + config.headerOverhead < whole)) next ∧
      Charted config next (before ++ (id, ⟨takenSize config.headerOverhead size whole, free⟩) ::
        (remainder config.headerOverhead size whole created ++ after)) ∧
      (next.vacant = [] ∨ next.headers.size = r.headers.size) := by
  unfold takenSize remainder
  by_cases splits : size + config.headerOverhead < whole
  · obtain ⟨created, next, ran, final, grown⟩ :=
      split_charted config geometry r before after id size whole free charted few splits
    exact ⟨created, next, by rw [ran, decide_eq_true splits],
      by simpa only [if_pos splits, List.cons_append, List.nil_append] using final, grown⟩
  · have word := capacity_word config geometry
    have covers := charted.covers
    simp only [spans_of_append, spans_of_cons, extent_append, extent_cons] at covers
    refine ⟨0, r, ?_, by simpa only [if_neg splits, List.nil_append] using charted, .inr rfl⟩
    unfold Registry.split
    rw [header_bind r id _ _ (charted_header config r before after id _ charted), step_get_bind]
    simp only [charted.overhead]
    rw [word_add_ok _ _ (by omega), step_lift_bind, if_pos (Nat.le_of_not_lt splits), step_pure, decide_eq_false splits]

theorem allocate_settled (config : PoolConfig) (geometry : Geometry config) (r : Registry) (blocks : List LinkedSpan)
    (size : Nat) (positive : 0 < size) (aligned : config.alignment ∣ size) (settled : Settled config r blocks) :
    (Registry.allocate size r = .ok none r ∧ ∀ span ∈ spansOf blocks, span.fits size = false) ∨
    ∃ before id whole after created next, blocks = before ++ (id, ⟨whole, true⟩) :: after ∧ size ≤ whole ∧
      Preferred config.fit size (spansOf before) ⟨whole, true⟩ (spansOf after) ∧
      Registry.allocate size r = .ok (some ⟨id, decide (size + config.headerOverhead < whole)⟩) next ∧
      Settled config next (before ++ (id, ⟨takenSize config.headerOverhead size whole, false⟩) ::
        (remainder config.headerOverhead size whole created ++ after)) := by
  rcases find_fit_charted config r blocks size settled.charted with
    ⟨nothing, unfit⟩ | ⟨before, id, whole, after, rfl, enough, preferred, found⟩
  · refine .inl ⟨?_, unfit⟩
    unfold Registry.allocate
    rw [query_bind (fun r => r.findFit size) _ r none nothing]
    rfl
  · obtain ⟨created, middle, ran, charted, grown⟩ := split_cuts config geometry r before after id size whole true
      settled.charted (settled_few config geometry r _ settled) enough
    obtain ⟨next, marked, final, sameSize, sameVacant⟩ := mark_charted config middle before _ id _ true false charted
    have tiling := settled.tiling
    rw [spans_of_append, spans_of_cons] at tiling
    have cut := tiling_cut config geometry _ _ _ _ tiling aligned positive
    rw [cut_span_eq config.headerOverhead size whole created, List.append_assoc] at cut
    refine .inr ⟨before, id, whole, after, created, next, rfl, enough, preferred, ?_, final, ?_, ?_⟩
    · unfold Registry.allocate
      rw [query_bind (fun r => r.findFit size) _ r _ found]
      simp only
      rw [step_bind_ok _ _ _ _ _ ran, step_bind_ok _ _ _ _ _ marked, step_pure]
    · simpa using cut
    · rw [sameSize]
      rcases grown with empty | same
      · -- a header is made only when none is vacant, so there are as many headers as blocks
        have count := charted_count config middle _ charted
        have length := tiling_length config geometry _ cut
        simp only [empty, List.length_append, List.length_cons, List.length_nil, spans_of_length] at count length
        omega
      · rw [same]
        exact settled.room

theorem merge_forward_charted (config : PoolConfig) (geometry : Geometry config) (r : Registry) (before after : List LinkedSpan)
    (id : BlockId) (size : Nat) (charted : Charted config r (before ++ (id, ⟨size, true⟩) :: after)) :
    ∃ behind grown merges next, mergeForward id r = .ok merges next ∧
      Charted config next (before ++ (id, ⟨grown, true⟩) :: behind) ∧ next.headers.size = r.headers.size ∧
      absorbSpan config.headerOverhead size (spansOf after) = (grown, merges, spansOf behind) ∧
      (after = behind ∨ ∃ taken more, after = (taken, ⟨more, true⟩) :: behind) := by
  have read := charted_header config r before after id _ charted
  cases after with
  | nil =>
      refine ⟨[], size, 0, r, ?_, charted, rfl, rfl, .inl rfl⟩
      unfold mergeForward
      rw [header_bind r id _ _ read]
      rfl
  | cons block rest =>
      obtain ⟨taken, more, free⟩ := block
      have regrouped : before ++ (id, ⟨size, true⟩) :: (taken, ⟨more, free⟩) :: rest =
          (before ++ [(id, ⟨size, true⟩)]) ++ (taken, ⟨more, free⟩) :: rest := by simp
      have readTaken := charted_header config r _ rest taken _ (regrouped ▸ charted)
      cases free with
      | false =>
          refine ⟨(taken, ⟨more, false⟩) :: rest, size, 0, r, ?_, charted, rfl, rfl, .inl rfl⟩
          unfold mergeForward
          rw [header_bind r id _ _ read]
          simp only [first_id_cons]
          rw [header_bind r taken _ _ readTaken]
          rfl
      | true =>
          obtain ⟨next, ran, final, same⟩ := absorb_charted config geometry r before rest id taken size more true true charted
          refine ⟨rest, size + config.headerOverhead + more, 1, next, ?_, final, same, rfl, .inr ⟨taken, more, rfl⟩⟩
          unfold mergeForward
          rw [header_bind r id _ _ read]
          simp only [first_id_cons]
          rw [header_bind r taken _ _ readTaken]
          simp only [if_true]
          rw [step_bind_ok _ _ _ _ _ ran, step_pure]

theorem merge_backward_charted (config : PoolConfig) (geometry : Geometry config) (r : Registry) (before after : List LinkedSpan)
    (id : BlockId) (size : Nat) (charted : Charted config r (before ++ (id, ⟨size, true⟩) :: after)) :
    ∃ ahead survivor whole merges next, mergeBackward id r = .ok (survivor, merges) next ∧
      Charted config next (ahead ++ (survivor, ⟨whole, true⟩) :: after) ∧ next.headers.size = r.headers.size ∧
      absorbSpan config.headerOverhead size (spansOf before).reverse = (whole, merges, (spansOf ahead).reverse) ∧
      ((before = ahead ∧ survivor = id) ∨ ∃ less, before = ahead ++ [(survivor, ⟨less, true⟩)]) := by
  have read := charted_header config r before after id _ charted
  rcases List.eq_nil_or_concat' before with rfl | ⟨ahead, block, rfl⟩
  · refine ⟨[], id, size, 0, r, ?_, charted, rfl, rfl, .inl ⟨rfl, rfl⟩⟩
    unfold mergeBackward
    rw [header_bind r id _ _ read]
    rfl
  · obtain ⟨prev, less, free⟩ := block
    have regrouped : (ahead ++ [(prev, ⟨less, free⟩)]) ++ (id, ⟨size, true⟩) :: after =
        ahead ++ (prev, ⟨less, free⟩) :: (id, ⟨size, true⟩) :: after := by simp
    have charted' := regrouped ▸ charted
    have readPrev := charted_header config r ahead _ prev _ charted'
    have last : lastId none (ahead ++ [(prev, (⟨less, free⟩ : Span))]) = some prev := by simp [last_id_append]
    rw [last] at read
    cases free with
    | false =>
        refine ⟨ahead ++ [(prev, ⟨less, false⟩)], id, size, 0, r, ?_, charted, rfl, ?_, .inl ⟨rfl, rfl⟩⟩
        · unfold mergeBackward
          rw [header_bind r id _ _ read]
          simp only
          rw [header_bind r prev _ _ readPrev]
          rfl
        · simp [absorbSpan]
    | true =>
        obtain ⟨next, ran, final, same⟩ := absorb_charted config geometry r ahead after prev id less size true true charted'
        refine ⟨ahead, prev, less + config.headerOverhead + size, 1, next, ?_, final, same, ?_, .inr ⟨less, rfl⟩⟩
        · unfold mergeBackward
          rw [header_bind r id _ _ read]
          simp only
          rw [header_bind r prev _ _ readPrev]
          simp only [if_true]
          rw [step_bind_ok _ _ _ _ _ ran, step_pure]
        · simp only [spans_of_append, spans_of_cons, spans_of_nil, List.reverse_append, List.reverse_cons, List.reverse_nil,
            List.nil_append, List.cons_append, absorbSpan, Prod.mk.injEq, and_true]
          omega

def FreeAt (r : Registry) (id : BlockId) : Prop := ∃ h, r.headers[id]? = some h ∧ h.free = true

-- Holds whatever the links of the registry say, so no chart is asked for.
def KeepsFree {α : Type} (step : Step Registry α) : Prop :=
  ∀ r value next id, FreeAt r id → step r = .ok value next → FreeAt next id

theorem keeps_free_bind {α β : Type} (step : Step Registry α) (next : α → Step Registry β) (first : KeepsFree step)
    (rest : ∀ value, KeepsFree (next value)) : KeepsFree (step >>= next) := by
  intro r value final id free ran
  obtain ⟨middle, between, ranFirst, ranRest⟩ := step_bind_ran step next r final value ran
  exact rest middle between value final id (first r middle between id free ranFirst) ranRest

theorem keeps_free_unchanged {α : Type} (step : Step Registry α)
    (unchanged : ∀ r value next, step r = .ok value next → next = r) : KeepsFree step := by
  intro r value next id free ran
  rw [unchanged r value next ran]
  exact free

theorem keeps_free_pure {α : Type} (value : α) : KeepsFree (pure value) :=
  keeps_free_unchanged _ fun _ _ _ ran => by cases ran; rfl

theorem keeps_free_get : KeepsFree (get : Step Registry Registry) :=
  keeps_free_unchanged _ fun _ _ _ ran => by cases ran; rfl

theorem keeps_free_lift {α : Type} (result : Except Abort α) : KeepsFree (liftM result) :=
  keeps_free_unchanged _ fun r value next ran => lift_ran result r next value ran

theorem keeps_free_query {α : Type} (question : Registry → Except Abort α) : KeepsFree (Step.query question) :=
  keeps_free_unchanged _ fun r value next ran => (query_ran question r next value ran).2

theorem adjust_ran (r next : Registry) (id : BlockId) (change : Header → Header) (ran : adjust id change r = .ok () next) :
    id < r.headers.size ∧ next = { r with headers := r.headers.modify id change } := by
  by_cases bound : id < r.headers.size
  · rw [adjust_run r id change bound] at ran
    cases ran
    exact ⟨bound, rfl⟩
  · cases r
    rw [adjust, if_neg bound] at ran
    cases ran

theorem keeps_free_adjust (id : BlockId) (change : Header → Header) (keeps : ∀ h, h.free = true → (change h).free = true) :
    KeepsFree (adjust id change) := by
  intro r _ next other ⟨h, read, free⟩ ran
  obtain ⟨_, rfl⟩ := adjust_ran r next id change ran
  by_cases same : id = other
  · refine ⟨change h, ?_, keeps h free⟩
    rw [Array.getElem?_modify, if_pos same, read, Option.map_some]
  · refine ⟨h, ?_, free⟩
    rw [Array.getElem?_modify, if_neg same, read]

theorem link_back_keeps_free (target : Option BlockId) (prev : BlockId) : KeepsFree (linkBack target prev) := by
  cases target with
  | none => exact keeps_free_pure ()
  | some id => exact keeps_free_adjust id _ fun _ free => free

theorem retire_keeps_free (id : BlockId) : KeepsFree (retire id) := by
  refine keeps_free_bind _ _ (keeps_free_adjust id _ fun _ _ => rfl) fun _ => ?_
  intro r _ next other free ran
  cases ran
  exact free

theorem absorb_keeps_free (id : BlockId) : KeepsFree (absorbNext id) := by
  refine keeps_free_bind _ _ (keeps_free_query _) fun h => ?_
  cases h.next with
  | none => exact keeps_free_pure ()
  | some next =>
      refine keeps_free_bind _ _ (keeps_free_query _) fun absorbed => ?_
      refine keeps_free_bind _ _ (link_back_keeps_free absorbed.next id) fun _ => ?_
      refine keeps_free_bind _ _ keeps_free_get fun r => ?_
      refine keeps_free_bind _ _ (keeps_free_lift _) fun span => ?_
      refine keeps_free_bind _ _ (keeps_free_lift _) fun size => ?_
      exact keeps_free_bind _ _ (keeps_free_adjust id _ fun _ free => free) fun _ => retire_keeps_free next

theorem merge_forward_keeps_free (id : BlockId) : KeepsFree (mergeForward id) := by
  refine keeps_free_bind _ _ (keeps_free_query _) fun h => ?_
  cases h.next with
  | none => exact keeps_free_pure 0
  | some next =>
      refine keeps_free_bind _ _ (keeps_free_query _) fun behind => ?_
      by_cases free : behind.free = true
      · simp only [free, if_true]
        exact keeps_free_bind _ _ (absorb_keeps_free id) fun _ => keeps_free_pure 1
      · simp only [free, Bool.false_eq_true, if_false]
        exact keeps_free_pure 0

theorem merge_backward_survivor (r next : Registry) (id survivor : BlockId) (merges : Nat) (free : FreeAt r id)
    (ran : mergeBackward id r = .ok (survivor, merges) next) : FreeAt next survivor := by
  obtain ⟨h, _, read, rest⟩ := step_bind_ran _ _ _ _ _ ran
  obtain ⟨_, rfl⟩ := query_ran _ _ _ _ read
  cases link : h.prev with
  | none =>
      simp only [link] at rest
      cases rest
      exact free
  | some prev =>
      simp only [link] at rest
      obtain ⟨ahead, _, readPrev, merge⟩ := step_bind_ran _ _ _ _ _ rest
      obtain ⟨found, rfl⟩ := query_ran _ _ _ _ readPrev
      by_cases prevFree : ahead.free = true
      · simp only [prevFree, if_true] at merge
        obtain ⟨_, absorbed, ranAbsorb, told⟩ := step_bind_ran _ _ _ _ _ merge
        cases told
        exact absorb_keeps_free survivor _ _ _ survivor ⟨ahead, header_read _ survivor ahead found, prevFree⟩ ranAbsorb
      · simp only [prevFree, Bool.false_eq_true, if_false] at merge
        cases merge
        exact free

theorem release_leaves_free (r next : Registry) (id : BlockId) (coalesce : Coalesce)
    (ran : Registry.release id r = .ok (some coalesce) next) : FreeAt next coalesce.survivor := by
  obtain ⟨h, _, read, rest⟩ := step_bind_ran _ _ _ _ _ ran
  obtain ⟨found, rfl⟩ := query_ran _ _ _ _ read
  by_cases free : h.free = true
  · simp only [free, if_true] at rest
    cases rest
  · simp only [free, Bool.false_eq_true, if_false] at rest
    obtain ⟨_, marked, ranMark, merge⟩ := step_bind_ran _ _ _ _ _ rest
    obtain ⟨forward, merged, ranForward, ahead⟩ := step_bind_ran _ _ _ _ _ merge
    obtain ⟨⟨survivor, backward⟩, final, ranBackward, told⟩ := step_bind_ran _ _ _ _ _ ahead
    cases told
    have marks : FreeAt marked id := by
      obtain ⟨_, rfl⟩ := adjust_ran _ marked id _ ranMark
      refine ⟨{ h with free := true }, ?_, rfl⟩
      rw [Array.getElem?_modify, if_pos rfl, header_read _ id h found, Option.map_some]
    exact merge_backward_survivor merged next id survivor backward
      (merge_forward_keeps_free id marked forward merged id marks ranForward)
      ranBackward

theorem release_settled (config : PoolConfig) (geometry : Geometry config) (r : Registry) (before after : List LinkedSpan)
    (id : BlockId) (size : Nat) (settled : Settled config r (before ++ (id, ⟨size, false⟩) :: after)) :
    ∃ ahead survivor whole behind merges next, Registry.release id r = .ok (some ⟨survivor, merges⟩) next ∧
      Settled config next (ahead ++ (survivor, ⟨whole, true⟩) :: behind) ∧
      releaseSpan config.headerOverhead before.length (spansOf (before ++ (id, ⟨size, false⟩) :: after)) =
        some ⟨ahead.length, merges, spansOf (ahead ++ (survivor, ⟨whole, true⟩) :: behind)⟩ ∧
      ((before = ahead ∧ survivor = id) ∨ ∃ less, before = ahead ++ [(survivor, ⟨less, true⟩)]) ∧
      (after = behind ∨ ∃ taken more, after = (taken, ⟨more, true⟩) :: behind) := by
  have read := charted_header config r before after id _ settled.charted
  obtain ⟨marked, ranMark, chartedMark, sizeMark, _⟩ := mark_charted config r before after id size false true settled.charted
  obtain ⟨behind, grown, forward, middle, ranForward, chartedForward, sizeForward, absorbedForward, shapeForward⟩ :=
    merge_forward_charted config geometry marked before after id size chartedMark
  obtain ⟨ahead, survivor, whole, backward, next, ranBackward, final, sizeBackward, absorbedBackward, shapeBackward⟩ :=
    merge_backward_charted config geometry middle before behind id grown chartedForward
  have released : releaseSpan config.headerOverhead before.length (spansOf (before ++ (id, ⟨size, false⟩) :: after)) =
      some ⟨ahead.length, forward + backward, spansOf (ahead ++ (survivor, ⟨whole, true⟩) :: behind)⟩ := by
    have used := release_span_used config.headerOverhead size (spansOf before) (spansOf after)
    simp only [absorbedForward, absorbedBackward, spans_of_length, List.length_reverse, List.reverse_reverse] at used
    simpa using used
  refine ⟨ahead, survivor, whole, behind, forward + backward, next, ?_, ⟨final, ?_, ?_⟩, released,
    shapeBackward, shapeForward⟩
  · unfold Registry.release
    rw [header_bind r id _ _ read]
    simp only [Bool.false_eq_true, if_false]
    rw [step_bind_ok _ _ _ _ _ ranMark, step_bind_ok _ _ _ _ _ ranForward, step_bind_ok _ _ _ _ _ ranBackward]
    rfl
  · have tiling := settled.tiling
    simp only [spans_of_append, spans_of_cons] at tiling
    refine tiling_merge config geometry _ _ size tiling
      ⟨ahead.length, forward + backward, spansOf (ahead ++ (survivor, ⟨whole, true⟩) :: behind)⟩ ?_
    rw [spans_of_length, ← released, spans_of_append, spans_of_cons]
  · rw [sizeBackward, sizeForward, sizeMark]
    exact settled.room

theorem release_unused (config : PoolConfig) (r : Registry) (blocks : List LinkedSpan) (id : BlockId)
    (charted : Charted config r blocks) (inside : id < r.headers.size) (unused : ∀ size, (id, ⟨size, false⟩) ∉ blocks) :
    Registry.release id r = .ok none r := by
  have isFree : ∃ h, r.header id = .ok h ∧ h.free = true := by
    rcases charted_known config r blocks charted id inside with ⟨before, ⟨size, free⟩, after, rfl⟩ | waiting
    · refine ⟨_, charted_header config r before after id _ charted, ?_⟩
      cases free with
      | true => rfl
      | false => exact absurd (by simp) (unused size)
    · obtain ⟨offset, read⟩ := charted.blank id waiting
      exact ⟨⟨offset, 0, true, none, none⟩, by simp only [Registry.header, read], rfl⟩
  obtain ⟨h, read, free⟩ := isFree
  unfold Registry.release
  rw [header_bind r id _ _ read, if_pos free, step_pure]

end BlockPool
