import BlockPool.Proofs.Settled
import Mathlib.Data.List.Nodup
import Mathlib.Tactic.Tauto

set_option autoImplicit false

namespace BlockPool

open Registry

-- The payload of a used block, by the offset of its first byte.
structure Place where
  id : BlockId
  start : Nat
  size : Nat
deriving DecidableEq, Repr

def places (overhead : Nat) : Nat → List LinkedSpan → List Place
  | _, [] => []
  | offset, (_, ⟨size, true⟩) :: rest => places overhead (offset + (overhead + size)) rest
  | offset, (id, ⟨size, false⟩) :: rest =>
    ⟨id, offset + overhead, size⟩ :: places overhead (offset + (overhead + size)) rest

@[simp] theorem places_nil (overhead offset : Nat) : places overhead offset [] = [] := rfl

@[simp] theorem places_free (overhead offset size : Nat) (id : BlockId) (rest : List LinkedSpan) :
    places overhead offset ((id, ⟨size, true⟩) :: rest) = places overhead (offset + (overhead + size)) rest := rfl

@[simp] theorem places_used (overhead offset size : Nat) (id : BlockId) (rest : List LinkedSpan) :
    places overhead offset ((id, ⟨size, false⟩) :: rest) =
      ⟨id, offset + overhead, size⟩ :: places overhead (offset + (overhead + size)) rest := rfl

theorem places_append (overhead offset : Nat) (a b : List LinkedSpan) :
    places overhead offset (a ++ b) =
      places overhead offset a ++ places overhead (offset + extent overhead (spansOf a)) b := by
  induction a generalizing offset with
  | nil => rfl
  | cons block rest ih =>
      obtain ⟨id, size, free⟩ := block
      cases free with
      | true => simp only [List.cons_append, places_free, ih, spans_of_cons, extent_cons, Nat.add_assoc]
      | false => simp only [List.cons_append, places_used, ih, spans_of_cons, extent_cons, Nat.add_assoc]

theorem place_block (overhead offset : Nat) (blocks : List LinkedSpan) (place : Place)
    (member : place ∈ places overhead offset blocks) :
    ∃ before after, blocks = before ++ (place.id, ⟨place.size, false⟩) :: after ∧
      place.start = offset + extent overhead (spansOf before) + overhead := by
  induction blocks generalizing offset with
  | nil => cases member
  | cons block rest ih =>
      obtain ⟨id, size, free⟩ := block
      have later (inside : place ∈ places overhead (offset + (overhead + size)) rest) :
          ∃ before after, (id, (⟨size, free⟩ : Span)) :: rest = before ++ (place.id, ⟨place.size, false⟩) :: after ∧
            place.start = offset + extent overhead (spansOf before) + overhead := by
        obtain ⟨before, after, rfl, start⟩ := ih _ inside
        refine ⟨(id, ⟨size, free⟩) :: before, after, rfl, ?_⟩
        rw [start, spans_of_cons, extent_cons, Nat.add_assoc offset]
      cases free with
      | true => exact later member
      | false =>
          rcases List.mem_cons.mp member with rfl | inside
          · exact ⟨[], rest, rfl, rfl⟩
          · exact later inside

theorem block_place (overhead : Nat) (before after : List LinkedSpan) (id : BlockId) (size : Nat) :
    (⟨id, extent overhead (spansOf before) + overhead, size⟩ : Place) ∈
      places overhead 0 (before ++ (id, ⟨size, false⟩) :: after) := by
  rw [places_append, Nat.zero_add, places_used]
  exact List.mem_append_right _ List.mem_cons_self

theorem places_ids_subset (overhead offset : Nat) (blocks : List LinkedSpan) :
    ((places overhead offset blocks).map Place.id).Sublist (idsOf blocks) := by
  induction blocks generalizing offset with
  | nil => exact List.Sublist.refl _
  | cons block rest ih =>
      obtain ⟨id, size, free⟩ := block
      cases free with
      | true => exact (ih _).cons id
      | false => exact (ih _).cons_cons id

theorem charted_places_distinct (config : PoolConfig) (r : Registry) (blocks : List LinkedSpan)
    (charted : Charted config r blocks) :
    ((places config.headerOverhead 0 blocks).map Place.id).Nodup :=
  (places_ids_subset _ _ blocks).nodup (List.nodup_append.mp (charted_distinct config r blocks charted)).1

theorem places_inside (overhead offset : Nat) (blocks : List LinkedSpan) (place : Place)
    (member : place ∈ places overhead offset blocks) :
    offset + overhead ≤ place.start ∧ place.start + place.size ≤ offset + extent overhead (spansOf blocks) := by
  obtain ⟨before, after, rfl, start⟩ := place_block overhead offset blocks place member
  simp only [spans_of_append, spans_of_cons, extent_append, extent_cons]
  omega

theorem place_in_arena (config : PoolConfig) (r : Registry) (blocks : List LinkedSpan) (charted : Charted config r blocks)
    (place : Place) (member : place ∈ places config.headerOverhead 0 blocks) :
    config.headerOverhead ≤ place.start ∧ place.start + place.size ≤ config.capacity := by
  have inside := places_inside config.headerOverhead 0 blocks place member
  rw [charted.covers] at inside
  omega

theorem places_apart (overhead offset : Nat) (blocks : List LinkedSpan) :
    (places overhead offset blocks).Pairwise fun a b => a.start + a.size ≤ b.start := by
  induction blocks generalizing offset with
  | nil => exact List.Pairwise.nil
  | cons block rest ih =>
      obtain ⟨id, size, free⟩ := block
      cases free with
      | true => exact ih _
      | false =>
          refine List.pairwise_cons.mpr ⟨fun other member => ?_, ih _⟩
          have inside := places_inside overhead _ rest other member
          simp only
          omega

theorem place_disjoint (overhead offset : Nat) (blocks : List LinkedSpan) (a b : Place)
    (first : a ∈ places overhead offset blocks) (second : b ∈ places overhead offset blocks)
    (different : a.id ≠ b.id) :
    a.start + a.size ≤ b.start ∨ b.start + b.size ≤ a.start := by
  have apart := places_apart overhead offset blocks
  generalize places overhead offset blocks = all at *
  induction all with
  | nil => cases first
  | cons place rest ih =>
      obtain ⟨ahead, tail⟩ := List.pairwise_cons.mp apart
      rcases List.mem_cons.mp first with rfl | firstIn
      · rcases List.mem_cons.mp second with rfl | secondIn
        · exact absurd rfl different
        · exact .inl (ahead b secondIn)
      · rcases List.mem_cons.mp second with rfl | secondIn
        · exact .inr (ahead a firstIn)
        · exact ih firstIn secondIn tail

theorem charted_payload (config : PoolConfig) (geometry : Geometry config) (r : Registry) (blocks : List LinkedSpan)
    (charted : Charted config r blocks) (place : Place) (member : place ∈ places config.headerOverhead 0 blocks) :
    r.payload place.id = .ok (place.start, place.size) := by
  have word := capacity_word config geometry
  have inside := place_in_arena config r blocks charted place member
  obtain ⟨before, after, rfl, start⟩ := place_block _ _ _ _ member
  rw [Nat.zero_add] at start
  unfold Registry.payload
  rw [charted_header config r before after place.id _ charted, charted.overhead]
  simp only [bind, Except.bind]
  rw [word_add_ok _ _ (by omega), ← start]
  rfl

theorem places_cut (overhead size whole : Nat) (before after : List LinkedSpan) (id created : BlockId) :
    places overhead 0
      (before ++ (id, ⟨takenSize overhead size whole, false⟩) :: (remainder overhead size whole created ++ after)) =
      places overhead 0 before ++ ⟨id, extent overhead (spansOf before) + overhead, takenSize overhead size whole⟩ ::
        places overhead (extent overhead (spansOf before) + (overhead + whole)) after := by
  rw [places_append, Nat.zero_add, places_used, places_append]
  unfold takenSize remainder
  by_cases splits : size + overhead < whole
  · have offset : extent overhead (spansOf before) + (overhead + size) +
        extent overhead (spansOf [(created, (⟨whole - size - overhead, true⟩ : Span))]) =
          extent overhead (spansOf before) + (overhead + whole) := by
      simp only [spans_of_cons, spans_of_nil, extent_cons, extent_nil]
      omega
    simp only [if_pos splits, offset, places_free, places_nil, List.nil_append]
  · simp only [if_neg splits, places_nil, spans_of_nil, extent_nil, Nat.add_zero, List.nil_append]

theorem places_single_free (overhead whole : Nat) (before after : List LinkedSpan) (id : BlockId) :
    places overhead 0 (before ++ (id, ⟨whole, true⟩) :: after) =
      places overhead 0 before ++ places overhead (extent overhead (spansOf before) + (overhead + whole)) after := by
  rw [places_append, Nat.zero_add, places_free]

theorem places_cut_iff (overhead size whole : Nat) (before after : List LinkedSpan) (id created : BlockId) (place : Place) :
    place ∈ places overhead 0
        (before ++ (id, ⟨takenSize overhead size whole, false⟩) :: (remainder overhead size whole created ++ after)) ↔
      place = ⟨id, extent overhead (spansOf before) + overhead, takenSize overhead size whole⟩ ∨
        place ∈ places overhead 0 (before ++ (id, ⟨whole, true⟩) :: after) := by
  rw [places_cut, places_single_free]
  simp only [List.mem_append, List.mem_cons]
  tauto

theorem places_merge (config : PoolConfig) (before ahead after behind : List LinkedSpan) (id survivor : BlockId) (size whole : Nat)
    (aheadShape : (before = ahead ∧ survivor = id) ∨ ∃ less, before = ahead ++ [(survivor, ⟨less, true⟩)])
    (behindShape : after = behind ∨ ∃ taken more, after = (taken, ⟨more, true⟩) :: behind)
    (covered : extent config.headerOverhead (spansOf (before ++ (id, ⟨size, false⟩) :: after)) =
      extent config.headerOverhead (spansOf (ahead ++ (survivor, ⟨whole, true⟩) :: behind))) :
    ∃ earlier later, places config.headerOverhead 0 (before ++ (id, ⟨size, false⟩) :: after) =
        earlier ++ ⟨id, extent config.headerOverhead (spansOf before) + config.headerOverhead, size⟩ :: later ∧
      places config.headerOverhead 0 (ahead ++ (survivor, ⟨whole, true⟩) :: behind) = earlier ++ later := by
  have aheadPlaces : places config.headerOverhead 0 before = places config.headerOverhead 0 ahead := by
    rcases aheadShape with ⟨rfl, _⟩ | ⟨less, rfl⟩
    · rfl
    · simp only [places_append, places_free, places_nil, List.append_nil]
  have behindPlaces :
    places config.headerOverhead (extent config.headerOverhead (spansOf before) + (config.headerOverhead + size)) after =
      places config.headerOverhead (extent config.headerOverhead (spansOf ahead) + (config.headerOverhead + whole)) behind := by
    simp only [spans_of_append, spans_of_cons, extent_append, extent_cons] at covered
    rcases behindShape with rfl | ⟨taken, more, rfl⟩
    · congr 1
      omega
    · rw [places_free]
      simp only [spans_of_cons, extent_cons] at covered
      congr 1
      omega
  refine ⟨places config.headerOverhead 0 before,
    places config.headerOverhead (extent config.headerOverhead (spansOf before) + (config.headerOverhead + size)) after, ?_, ?_⟩
  · rw [places_append, Nat.zero_add, places_used]
  · rw [places_single_free, aheadPlaces, ← behindPlaces]

end BlockPool
