import BlockPool.Proofs.Tiling
import BlockPool.Usage
import Mathlib.Data.List.Nodup

set_option autoImplicit false

namespace BlockPool

open Registry

abbrev LinkedSpan := BlockId × Span

def firstId (blocks : List LinkedSpan) (after : Option BlockId) : Option BlockId := (blocks.head?.map Prod.fst).or after

def lastId (prev : Option BlockId) (blocks : List LinkedSpan) : Option BlockId := (blocks.getLast?.map Prod.fst).or prev

-- The headers of a stretch of the chain that begins at `offset`, between `prev` and `after`.
def entries (overhead : Nat) : Option BlockId → Nat → List LinkedSpan → Option BlockId → List (BlockId × Header)
  | _, _, [], _ => []
  | prev, offset, (id, span) :: rest, after =>
    (id, ⟨offset, span.size, span.free, prev, firstId rest after⟩) ::
      entries overhead (some id) (offset + (overhead + span.size)) rest after

def spansOf (blocks : List LinkedSpan) : List Span := blocks.map Prod.snd

def idsOf (blocks : List LinkedSpan) : List BlockId := blocks.map Prod.fst

@[simp] theorem spans_of_nil : spansOf [] = [] := rfl
@[simp] theorem spans_of_cons (block : LinkedSpan) (rest : List LinkedSpan) :
    spansOf (block :: rest) = block.2 :: spansOf rest := rfl
@[simp] theorem spans_of_append (a b : List LinkedSpan) : spansOf (a ++ b) = spansOf a ++ spansOf b := List.map_append
@[simp] theorem spans_of_length (blocks : List LinkedSpan) : (spansOf blocks).length = blocks.length := List.length_map _
@[simp] theorem ids_of_nil : idsOf [] = [] := rfl
@[simp] theorem ids_of_cons (block : LinkedSpan) (rest : List LinkedSpan) : idsOf (block :: rest) = block.1 :: idsOf rest := rfl
@[simp] theorem ids_of_append (a b : List LinkedSpan) : idsOf (a ++ b) = idsOf a ++ idsOf b := List.map_append
@[simp] theorem ids_of_length (blocks : List LinkedSpan) : (idsOf blocks).length = blocks.length := List.length_map _

@[simp] theorem first_id_nil (after : Option BlockId) : firstId [] after = after := rfl
@[simp] theorem first_id_cons (block : LinkedSpan) (rest : List LinkedSpan) (after : Option BlockId) :
    firstId (block :: rest) after = some block.1 := rfl
@[simp] theorem last_id_nil (prev : Option BlockId) : lastId prev [] = prev := rfl

theorem first_id_member (blocks : List LinkedSpan) (id : BlockId) (first : firstId blocks none = some id) :
    id ∈ idsOf blocks := by
  cases blocks with
  | nil => cases first
  | cons block rest =>
      cases first
      exact List.mem_cons_self

theorem linked_around (blocks : List LinkedSpan) (id : BlockId) (linked : id ∈ idsOf blocks) :
    ∃ before span after, blocks = before ++ (id, span) :: after := by
  obtain ⟨⟨_, span⟩, member, rfl⟩ := List.mem_map.mp linked
  obtain ⟨before, after, around⟩ := List.append_of_mem member
  exact ⟨before, span, after, around⟩

theorem first_id_append (a b : List LinkedSpan) (after : Option BlockId) :
    firstId (a ++ b) after = firstId a (firstId b after) := by
  cases a <;> rfl

@[simp] theorem last_id_cons (prev : Option BlockId) (block : LinkedSpan) (rest : List LinkedSpan) :
    lastId prev (block :: rest) = lastId (some block.1) rest := by
  cases rest with
  | nil => rfl
  | cons second tail => simp [lastId, List.getLast?_cons]

theorem last_id_append (prev : Option BlockId) (a b : List LinkedSpan) :
    lastId prev (a ++ b) = lastId (lastId prev a) b := by
  induction a generalizing prev with
  | nil => rfl
  | cons block rest ih => simp [ih]

theorem entries_append (overhead : Nat) (prev after : Option BlockId) (offset : Nat) (a b : List LinkedSpan) :
    entries overhead prev offset (a ++ b) after =
      entries overhead prev offset a (firstId b after) ++
        entries overhead (lastId prev a) (offset + extent overhead (spansOf a)) b after := by
  induction a generalizing prev offset with
  | nil => rfl
  | cons block rest ih =>
      obtain ⟨id, span⟩ := block
      simp only [List.cons_append, entries, ih, first_id_append, last_id_cons, spans_of_cons, extent_cons, Nat.add_assoc]

def linkedSpan (entry : BlockId × Header) : LinkedSpan := (entry.1, ⟨entry.2.size, entry.2.free⟩)

theorem entries_blocks (overhead : Nat) (prev after : Option BlockId) (offset : Nat) (blocks : List LinkedSpan) :
    (entries overhead prev offset blocks after).map linkedSpan = blocks := by
  induction blocks generalizing prev offset with
  | nil => rfl
  | cons block rest ih => simp only [entries, List.map_cons, linkedSpan, ih]

theorem entries_ids (overhead : Nat) (prev after : Option BlockId) (offset : Nat) (blocks : List LinkedSpan) :
    (entries overhead prev offset blocks after).map Prod.fst = idsOf blocks := by
  rw [← congrArg idsOf (entries_blocks overhead prev after offset blocks), idsOf, List.map_map]
  rfl

def Laid (headers : Array Header) (found : List (BlockId × Header)) : Prop :=
  ∀ entry ∈ found, headers[entry.1]? = some entry.2

theorem laid_nil (headers : Array Header) : Laid headers [] := by simp [Laid]

theorem laid_cons (headers : Array Header) (id : BlockId) (h : Header) (rest : List (BlockId × Header)) :
    Laid headers ((id, h) :: rest) ↔ headers[id]? = some h ∧ Laid headers rest := List.forall_mem_cons

theorem laid_append (headers : Array Header) (a b : List (BlockId × Header)) :
    Laid headers (a ++ b) ↔ Laid headers a ∧ Laid headers b := List.forall_mem_append

theorem laid_frame (headers next : Array Header) (overhead : Nat) (prev after : Option BlockId) (offset : Nat)
    (blocks : List LinkedSpan) (kept : ∀ id ∈ idsOf blocks, next[id]? = headers[id]?)
    (laid : Laid headers (entries overhead prev offset blocks after)) :
    Laid next (entries overhead prev offset blocks after) := by
  intro entry member
  have known : entry.1 ∈ idsOf blocks := by
    rw [← entries_ids overhead prev after offset blocks]
    exact List.mem_map_of_mem member
  rw [kept entry.1 known]
  exact laid entry member

theorem follow_laid (headers : Array Header) (overhead bound : Nat) (prev : Option BlockId) (offset : Nat)
    (blocks : List LinkedSpan) (enough : blocks.length < bound)
    (laid : Laid headers (entries overhead prev offset blocks none)) :
    Chain.follow headers bound (firstId blocks none) = ⟨entries overhead prev offset blocks none, .complete⟩ := by
  induction blocks generalizing bound prev offset with
  | nil => cases bound <;> rfl
  | cons block rest ih =>
      obtain ⟨id, span⟩ := block
      cases bound with
      | zero => cases enough
      | succ bound =>
          obtain ⟨read, tail⟩ := (laid_cons headers id _ _).mp laid
          have walked := ih bound (some id) _ (Nat.lt_of_succ_lt_succ enough) tail
          simp only [first_id_cons, Chain.follow, read, walked, entries]

-- Sizes and the order of free and used blocks are a matter of the list alone.
structure Charted (config : PoolConfig) (r : Registry) (blocks : List LinkedSpan) : Prop where
  capacity : r.capacity = config.capacity
  overhead : r.headerOverhead = config.headerOverhead
  fit : r.fit = config.fit
  laid : Laid r.headers (entries config.headerOverhead none 0 blocks none)
  -- each header is on the chain or vacant, and not twice
  ids : (idsOf blocks ++ r.vacant).Perm (List.range r.headers.size)
  blank : ∀ id ∈ r.vacant, ∃ offset, r.headers[id]? = some ⟨offset, 0, true, none, none⟩
  first : firstId blocks none = some 0
  covers : extent config.headerOverhead (spansOf blocks) = config.capacity

theorem charted_count (config : PoolConfig) (r : Registry) (blocks : List LinkedSpan) (charted : Charted config r blocks) :
    blocks.length + r.vacant.length = r.headers.size := by
  simpa using charted.ids.length_eq

theorem charted_distinct (config : PoolConfig) (r : Registry) (blocks : List LinkedSpan) (charted : Charted config r blocks) :
    (idsOf blocks ++ r.vacant).Nodup := charted.ids.nodup_iff.mpr List.nodup_range

theorem charted_bound (config : PoolConfig) (r : Registry) (blocks : List LinkedSpan) (charted : Charted config r blocks)
    (id : BlockId) : id ∈ idsOf blocks ++ r.vacant ↔ id < r.headers.size := by
  rw [charted.ids.mem_iff, List.mem_range]

theorem charted_known (config : PoolConfig) (r : Registry) (blocks : List LinkedSpan) (charted : Charted config r blocks)
    (id : BlockId) (inside : id < r.headers.size) :
    (∃ before span after, blocks = before ++ (id, span) :: after) ∨ id ∈ r.vacant := by
  rcases List.mem_append.mp ((charted_bound config r blocks charted id).mpr inside) with linked | waiting
  · exact .inl (linked_around blocks id linked)
  · exact .inr waiting

theorem charted_chain (config : PoolConfig) (r : Registry) (blocks : List LinkedSpan) (charted : Charted config r blocks) :
    r.chain = ⟨entries config.headerOverhead none 0 blocks none, .complete⟩ := by
  have count := charted_count config r blocks charted
  rw [Registry.chain, ← charted.first]
  exact follow_laid r.headers config.headerOverhead (r.headers.size + 1) none 0 blocks (by omega) charted.laid

theorem charted_chain_ids (config : PoolConfig) (r : Registry) (blocks : List LinkedSpan) (charted : Charted config r blocks) :
    r.chain.blocks.map Prod.fst = idsOf blocks := by
  rw [charted_chain config r blocks charted, entries_ids]

theorem charted_chain_length (config : PoolConfig) (r : Registry) (blocks : List LinkedSpan) (charted : Charted config r blocks) :
    r.chain.blocks.length = blocks.length := by
  rw [← List.length_map Prod.fst, charted_chain_ids config r blocks charted, ids_of_length]

theorem charted_head (config : PoolConfig) (r : Registry) (blocks : List LinkedSpan) (charted : Charted config r blocks) :
    ∃ span rest, blocks = (0, span) :: rest := by
  have first := charted.first
  cases blocks with
  | nil => cases first
  | cons block rest =>
      obtain ⟨id, span⟩ := block
      cases first
      exact ⟨span, rest, rfl⟩

theorem charted_same (config : PoolConfig) (r : Registry) (blocks : List LinkedSpan) (charted : Charted config r blocks)
    (id : BlockId) (first second : Span) (one : (id, first) ∈ blocks) (other : (id, second) ∈ blocks) :
    first = second := by
  have distinct : (idsOf blocks).Nodup := (List.nodup_append.mp (charted_distinct config r blocks charted)).1
  exact congrArg Prod.snd (List.inj_on_of_nodup_map distinct one other rfl)

theorem charted_read (config : PoolConfig) (r : Registry) (before after : List LinkedSpan) (id : BlockId) (span : Span)
    (charted : Charted config r (before ++ (id, span) :: after)) :
    r.headers[id]? = some ⟨extent config.headerOverhead (spansOf before), span.size, span.free, lastId none before,
      firstId after none⟩ := by
  have laid := charted.laid
  rw [entries_append, laid_append, entries, laid_cons, Nat.zero_add] at laid
  exact laid.2.1

theorem charted_header (config : PoolConfig) (r : Registry) (before after : List LinkedSpan) (id : BlockId) (span : Span)
    (charted : Charted config r (before ++ (id, span) :: after)) :
    r.header id = .ok ⟨extent config.headerOverhead (spansOf before), span.size, span.free, lastId none before,
      firstId after none⟩ := by
  simp only [Registry.header, charted_read config r before after id span charted]

theorem charted_inside (config : PoolConfig) (r : Registry) (blocks : List LinkedSpan) (charted : Charted config r blocks)
    (id : BlockId) (member : id ∈ idsOf blocks) : id < r.headers.size :=
  (charted_bound config r blocks charted id).mp (List.mem_append_left _ member)

theorem charted_elsewhere (config : PoolConfig) (r : Registry) (before after : List LinkedSpan) (id : BlockId) (span : Span)
    (charted : Charted config r (before ++ (id, span) :: after)) :
    (∀ other ∈ idsOf before, other ≠ id) ∧ (∀ other ∈ idsOf after, other ≠ id) ∧
      (∀ other ∈ r.vacant, other ≠ id) ∧
      (∀ other ∈ idsOf before, other ∉ idsOf after) ∧ (∀ other ∈ r.vacant, other ∉ idsOf after) ∧
      (idsOf after).Nodup := by
  have distinct := charted_distinct config r _ charted
  simp only [ids_of_append, ids_of_cons, List.append_assoc, List.cons_append] at distinct
  obtain ⟨_, tail, apart⟩ := List.nodup_append.mp distinct
  obtain ⟨absent, rest⟩ := List.nodup_cons.mp tail
  obtain ⟨afterDistinct, _, afterApart⟩ := List.nodup_append.mp rest
  refine ⟨?_, ?_, ?_, ?_, ?_, afterDistinct⟩
  · exact fun other member => apart other member id (by simp)
  · exact fun other member same => absent (by simp [← same, member])
  · exact fun other member same => absent (by simp [← same, member])
  · exact fun other member inside => apart other member other (by simp [inside]) rfl
  · exact fun other member inside => afterApart other inside other member rfl

def Registry.successor (r : Registry) (id : BlockId) : Option BlockId := r.headers[id]?.bind Header.next

def Registry.predecessor (r : Registry) (id : BlockId) : Option BlockId := r.headers[id]?.bind Header.prev

def Neighbours (blocks : List LinkedSpan) (a b : BlockId) : Prop :=
  ∃ before first second after, blocks = before ++ (a, first) :: (b, second) :: after

theorem neighbours_linked (blocks : List LinkedSpan) (a b : BlockId) (neighbours : Neighbours blocks a b) :
    a ∈ idsOf blocks ∧ b ∈ idsOf blocks := by
  obtain ⟨before, first, second, after, rfl⟩ := neighbours
  simp

theorem charted_links (config : PoolConfig) (r : Registry) (before after : List LinkedSpan) (id : BlockId) (span : Span)
    (charted : Charted config r (before ++ (id, span) :: after)) :
    r.successor id = firstId after none ∧ r.predecessor id = lastId none before := by
  have read := charted_read config r before after id span charted
  simp only [Registry.successor, Registry.predecessor, read, Option.bind_some, and_self]

theorem charted_unlinked (config : PoolConfig) (r : Registry) (blocks : List LinkedSpan) (id : BlockId)
    (charted : Charted config r blocks) (absent : id ∉ idsOf blocks) :
    r.successor id = none ∧ r.predecessor id = none := by
  by_cases inside : id < r.headers.size
  · rcases charted_known config r blocks charted id inside with ⟨before, span, after, rfl⟩ | waiting
    · exact absurd (by simp) absent
    · obtain ⟨offset, read⟩ := charted.blank id waiting
      simp only [Registry.successor, Registry.predecessor, read, Option.bind_some, and_self]
  · have missing : r.headers[id]? = none := Array.getElem?_eq_none (Nat.le_of_not_lt inside)
    simp only [Registry.successor, Registry.predecessor, missing, Option.bind_none, and_self]

theorem successor_neighbours (config : PoolConfig) (r : Registry) (blocks : List LinkedSpan) (charted : Charted config r blocks)
    (a b : BlockId) : r.successor a = some b ↔ Neighbours blocks a b := by
  constructor
  · intro next
    by_cases linked : a ∈ idsOf blocks
    · obtain ⟨before, first, after, rfl⟩ := linked_around blocks a linked
      rw [(charted_links config r before after a first charted).1] at next
      cases after with
      | nil => cases next
      | cons block rest =>
          cases next
          exact ⟨before, first, block.2, rest, rfl⟩
    · rw [(charted_unlinked config r blocks a charted linked).1] at next
      cases next
  · rintro ⟨before, first, second, after, rfl⟩
    exact (charted_links config r before _ a first charted).1

theorem predecessor_neighbours (config : PoolConfig) (r : Registry) (blocks : List LinkedSpan) (charted : Charted config r blocks)
    (a b : BlockId) : r.predecessor b = some a ↔ Neighbours blocks a b := by
  constructor
  · intro prev
    by_cases linked : b ∈ idsOf blocks
    · obtain ⟨before, second, after, rfl⟩ := linked_around blocks b linked
      rw [(charted_links config r before after b second charted).2] at prev
      rcases List.eq_nil_or_concat' before with rfl | ⟨ahead, block, rfl⟩
      · cases prev
      · rw [last_id_append] at prev
        cases prev
        exact ⟨ahead, block.2, second, after, by simp⟩
    · rw [(charted_unlinked config r blocks b charted linked).2] at prev
      cases prev
  · rintro ⟨before, first, second, after, rfl⟩
    have regrouped : before ++ (a, first) :: (b, second) :: after = (before ++ [(a, first)]) ++ (b, second) :: after := by simp
    rw [(charted_links config r _ after b second (regrouped ▸ charted)).2, last_id_append]
    rfl

theorem charted_inverse (config : PoolConfig) (r : Registry) (blocks : List LinkedSpan) (charted : Charted config r blocks)
    (a b : BlockId) : r.successor a = some b ↔ r.predecessor b = some a :=
  (successor_neighbours config r blocks charted a b).trans (predecessor_neighbours config r blocks charted a b).symm

end BlockPool
