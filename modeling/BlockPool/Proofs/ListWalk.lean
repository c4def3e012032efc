import BlockPool.Proofs.NodeStore
import Mathlib.Data.Finset.Card
import Mathlib.Data.Finset.Range

set_option autoImplicit false

namespace BlockPool

open LinkedList

-- A list as its users see it: the nodes in order, each with its value.
abbrev Sequence := List (NodeRef × UInt16)

def handlesOf (seq : Sequence) : List Handle := seq.map fun entry => entry.1.handle

def firstOf (seq : Sequence) (after : Option Handle) : Option Handle := (seq.head?.map fun entry => entry.1.handle).or after

-- The nodes of a stretch of a list, with `after` the node behind it.
def records : Sequence → Option Handle → List (Handle × Node)
  | [], _ => []
  | entry :: rest, after => (entry.1.handle, ⟨entry.2, firstOf rest after⟩) :: records rest after

@[simp] theorem handles_of_cons (entry : NodeRef × UInt16) (rest : Sequence) :
    handlesOf (entry :: rest) = entry.1.handle :: handlesOf rest := rfl
@[simp] theorem handles_of_append (a b : Sequence) : handlesOf (a ++ b) = handlesOf a ++ handlesOf b := List.map_append
@[simp] theorem first_of_nil (after : Option Handle) : firstOf [] after = after := rfl
@[simp] theorem first_of_cons (entry : NodeRef × UInt16) (rest : Sequence) (after : Option Handle) :
    firstOf (entry :: rest) after = some entry.1.handle := rfl
@[simp] theorem records_nil (after : Option Handle) : records [] after = [] := rfl
@[simp] theorem records_cons (entry : NodeRef × UInt16) (rest : Sequence) (after : Option Handle) :
    records (entry :: rest) after = (entry.1.handle, ⟨entry.2, firstOf rest after⟩) :: records rest after := rfl

theorem first_of_append (a b : Sequence) (after : Option Handle) : firstOf (a ++ b) after = firstOf a (firstOf b after) := by
  cases a with
  | nil => rfl
  | cons entry rest => rfl

theorem records_append (a b : Sequence) (after : Option Handle) :
    records (a ++ b) after = records a (firstOf b after) ++ records b after := by
  induction a with
  | nil => rfl
  | cons entry rest ih => simp only [List.cons_append, records_cons, ih, first_of_append]

theorem records_handles (seq : Sequence) (after : Option Handle) : (records seq after).map Prod.fst = handlesOf seq := by
  induction seq with
  | nil => rfl
  | cons entry rest ih => simp only [records_cons, List.map_cons, ih, handles_of_cons]

theorem records_last (front : Sequence) (n : NodeRef) (value : UInt16) (after : Option Handle) :
    (records (front ++ [(n, value)]) after).getLast? = some (n.handle, ⟨value, after⟩) := by
  rw [records_append, records_cons, records_nil, List.getLast?_concat, first_of_nil]

theorem first_ahead (front a b : Sequence) (entry : NodeRef × UInt16) (after : Option Handle) :
    firstOf (front ++ [entry] ++ a) after = firstOf (front ++ entry :: b) after := by
  rw [List.append_assoc, List.singleton_append, first_of_append, first_of_append, first_of_cons, first_of_cons]

theorem between_members (before after : Sequence) (n : NodeRef) (value : UInt16) (h : Handle) :
    h ∈ handlesOf (before ++ (n, value) :: after) ↔ h = n.handle ∨ h ∈ handlesOf (before ++ after) := by
  rw [handles_of_append, handles_of_cons, handles_of_append, List.mem_append, List.mem_cons, List.mem_append]
  exact or_left_comm

theorem between_distinct (before after : Sequence) (n : NodeRef) (value : UInt16) :
    (handlesOf (before ++ (n, value) :: after)).Nodup ↔ n.handle ∉ handlesOf (before ++ after) ∧
      (handlesOf (before ++ after)).Nodup := by
  rw [handles_of_append, handles_of_cons, handles_of_append]
  exact List.nodup_middle.trans List.nodup_cons

-- The memory holds the list: from its head on, each node with its value and the next one.
structure Spells (memory : Memory) (l : LinkedList) (seq : Sequence) : Prop where
  head : l.head = firstOf seq none
  distinct : (handlesOf seq).Nodup
  inscribed : ∀ record ∈ records seq none, Inscribed memory record.1 record.2

theorem spells_nothing (memory : Memory) :
    Spells memory {} [] := ⟨rfl, List.nodup_nil, fun _ member => absurd member List.not_mem_nil⟩

theorem listed_held (memory : Memory) (seq : Sequence) (after : Option Handle)
    (inscribed : ∀ record ∈ records seq after, Inscribed memory record.1 record.2) (h : Handle) (member : h ∈ handlesOf seq) :
    ∃ bytes, memory h = some bytes ∧ Node.encodedLength ≤ bytes.length := by
  rw [← records_handles seq after] at member
  obtain ⟨record, inside, rfl⟩ := List.mem_map.mp member
  obtain ⟨bytes, held, enough, _⟩ := inscribed record inside
  exact ⟨bytes, held, enough⟩

theorem spelled_held (memory : Memory) (l : LinkedList) (seq : Sequence) (spells : Spells memory l seq) (h : Handle)
    (member : h ∈ handlesOf seq) : ∃ bytes, memory h = some bytes ∧ Node.encodedLength ≤ bytes.length :=
  listed_held memory seq none spells.inscribed h member

theorem vacant_unlisted (memory : Memory) (seq : Sequence) (after : Option Handle)
    (inscribed : ∀ record ∈ records seq after, Inscribed memory record.1 record.2) (h : Handle) (vacant : memory h = none) :
    h ∉ handlesOf seq := by
  intro member
  obtain ⟨_, held, _⟩ := listed_held memory seq after inscribed h member
  rw [vacant] at held
  cases held

theorem spells_elsewhere (memory memory' : Memory) (l : LinkedList) (seq : Sequence) (spells : Spells memory l seq)
    (same : ∀ h ∈ handlesOf seq, memory' h = memory h) : Spells memory' l seq := by
  refine ⟨spells.head, spells.distinct, fun record inside => ?_⟩
  obtain ⟨bytes, held, kept⟩ := spells.inscribed record inside
  have member : record.1 ∈ handlesOf seq := by
    rw [← records_handles seq none]
    exact List.mem_map_of_mem inside
  exact ⟨bytes, (same record.1 member).trans held, kept⟩

def handleNumber (h : Handle) : Nat :=
  (h.pool.number.toNat * UInt32.size + h.slot.toNat) * UInt32.size + h.generation.toNat

theorem handle_number_injective (h k : Handle) (same : handleNumber h = handleNumber k) : h = k := by
  obtain ⟨⟨pool⟩, slot, generation⟩ := h
  obtain ⟨⟨pool'⟩, slot', generation'⟩ := k
  have bounds := And.intro slot.toNat_lt (And.intro slot'.toNat_lt (And.intro generation.toNat_lt generation'.toNat_lt))
  simp only [handleNumber, UInt32.size] at same
  have pools : pool.toNat = pool'.toNat := by omega
  have slots : slot.toNat = slot'.toNat := by omega
  have generations : generation.toNat = generation'.toNat := by omega
  rw [UInt32.toNat_inj.mp pools, UInt32.toNat_inj.mp slots, UInt32.toNat_inj.mp generations]

theorem handle_number_small (h : Handle) : handleNumber h < walkLimit := by
  have pool := h.pool.number.toNat_lt
  have slot := h.slot.toNat_lt
  have generation := h.generation.toNat_lt
  simp only [handleNumber, walkLimit, UInt32.size]
  omega

theorem distinct_handles_bound (handles : List Handle) (distinct : handles.Nodup) : handles.length ≤ walkLimit := by
  have numbers : (handles.map handleNumber).Nodup := distinct.map_on fun h _ k _ same => handle_number_injective h k same
  have inside : (handles.map handleNumber).toFinset ⊆ Finset.range walkLimit := by
    intro number member
    obtain ⟨h, _, rfl⟩ := List.mem_map.mp (List.mem_toFinset.mp member)
    exact Finset.mem_range.mpr (handle_number_small h)
  have count := Finset.card_le_card inside
  rwa [List.toFinset_card_of_nodup numbers, List.length_map, Finset.card_range] at count

def foldRecords {β : Type} (visit : β → Handle → Node → ForInStep β) : List (Handle × Node) → β → β
  | [], seen => seen
  | record :: rest, seen =>
    match visit seen record.1 record.2 with
    | .done seen => seen
    | .yield seen => foldRecords visit rest seen

section Walk

variable {σ β γ : Type} [BlockAllocator σ] [Journaled σ] {faulty : Prop} {Roomy : σ → Prop} {view : σ → γ}
  {Shows : σ → Account → Prop}

theorem walk_from_records (store : NodeStore faulty Roomy view Shows) (visit : β → Handle → Node → ForInStep β)
    (tail : Sequence) (limit : Nat) (seen : β) (s : σ) (acc : Account) (shows : Shows s acc)
    (inscribed : ∀ record ∈ records tail none, Inscribed acc.memory record.1 record.2) (short : tail.length ≤ limit) :
    ∃ s', walkFrom visit limit (firstOf tail none) seen s = .ok (foldRecords visit (records tail none) seen) s' ∧
      Shows s' acc ∧
      view s' = view s := by
  induction tail generalizing limit seen s with
  | nil =>
      refine ⟨s, ?_, shows, rfl⟩
      cases limit <;> rfl
  | cons entry rest ih =>
      cases limit with
      | zero => exact absurd short (Nat.not_succ_le_zero _)
      | succ limit =>
          obtain ⟨s', loaded, shows', still⟩ := load_inscribed store s acc entry.1.handle ⟨entry.2, firstOf rest none⟩ shows
            (inscribed _ List.mem_cons_self)
          rw [first_of_cons, walkFrom, step_bind_ok _ _ s s' _ loaded, records_cons, foldRecords]
          simp only
          cases visit seen entry.1.handle ⟨entry.2, firstOf rest none⟩ with
          | done final => exact ⟨s', rfl, shows', still⟩
          | yield next =>
              obtain ⟨s'', walked, shows'', still'⟩ := ih limit next s' shows'
                (fun record member => inscribed record (List.mem_cons_of_mem _ member)) (Nat.le_of_succ_le_succ short)
              exact ⟨s'', walked, shows'', still'.trans still⟩

theorem walk_spelled (store : NodeStore faulty Roomy view Shows) (visit : β → Handle → Node → ForInStep β)
    (start : β) (s : σ) (acc : Account) (l : LinkedList) (seq : Sequence) (shows : Shows s acc)
    (spells : Spells acc.memory l seq) :
    ∃ s', l.walk start visit s = .ok (foldRecords visit (records seq none) start) s' ∧ Shows s' acc ∧ view s' = view s := by
  have bound := distinct_handles_bound (handlesOf seq) spells.distinct
  rw [handlesOf, List.length_map] at bound
  rw [LinkedList.walk, spells.head]
  exact walk_from_records store visit seq walkLimit start s acc shows spells.inscribed bound

end Walk

theorem fold_search (accept : Handle → Node → Bool) (all : List (Handle × Node)) :
    foldRecords (fun _ h node => if accept h node then .done (some (h, node)) else .yield none) all none =
      all.find? fun record => accept record.1 record.2 := by
  induction all with
  | nil => rfl
  | cons record rest ih =>
      rw [foldRecords, List.find?_cons]
      cases accepted : accept record.1 record.2 with
      | true => simp only [if_true]
      | false =>
          simp only [Bool.false_eq_true, if_false]
          exact ih

theorem fold_link_found (accept : Handle → Node → Bool) (before after : List (Handle × Node)) (record : Handle × Node)
    (start : Option (Handle × Node)) (missed : ∀ other ∈ before, accept other.1 other.2 = false)
    (hit : accept record.1 record.2 = true) :
    foldRecords (fun (link : Option (Handle × Node) × Option (Handle × Node)) h node =>
        if accept h node then .done (link.1, some (h, node)) else .yield (some (h, node), none))
      (before ++ record :: after) (start, none) = (before.getLast?.or start, some record) := by
  induction before generalizing start with
  | nil =>
      rw [List.nil_append, foldRecords]
      simp only [hit, if_true]
      rfl
  | cons first rest ih =>
      have skipped := missed first List.mem_cons_self
      rw [List.cons_append, foldRecords]
      simp only [skipped, Bool.false_eq_true, if_false]
      rw [ih (some first) fun other member => missed other (List.mem_cons_of_mem _ member)]
      cases rest with
      | nil => rfl
      | cons second others => rw [List.getLast?_cons_cons, Option.or_of_isSome (by simp), Option.or_of_isSome (by simp)]

theorem fold_link_missed (accept : Handle → Node → Bool) (all : List (Handle × Node)) (start : Option (Handle × Node))
    (missed : ∀ other ∈ all, accept other.1 other.2 = false) :
    (foldRecords (fun (link : Option (Handle × Node) × Option (Handle × Node)) h node =>
        if accept h node then .done (link.1, some (h, node)) else .yield (some (h, node), none)) all (start, none)).2 = none := by
  induction all generalizing start with
  | nil => rfl
  | cons record rest ih =>
      have skipped := missed record List.mem_cons_self
      rw [foldRecords]
      simp only [skipped, Bool.false_eq_true, if_false]
      exact ih (some record) fun other member => missed other (List.mem_cons_of_mem _ member)

theorem fold_last (all : List (Handle × Node)) (start : Option (Handle × Node)) :
    foldRecords (fun _ h node => .yield (some (h, node))) all start = all.getLast?.or start := by
  induction all generalizing start with
  | nil => rfl
  | cons record rest ih =>
      simp only [foldRecords, ih]
      cases rest with
      | nil => rfl
      | cons second others => rw [List.getLast?_cons_cons, Option.or_of_isSome (by simp), Option.or_of_isSome (by simp)]

theorem fold_length (all : List (Handle × Node)) (start : Nat) :
    foldRecords (fun count _ _ => .yield (count + 1)) all start = start + all.length := by
  induction all generalizing start with
  | nil => rfl
  | cons record rest ih =>
      simp only [foldRecords, ih, List.length_cons]
      omega

theorem fold_values (all : List (Handle × Node)) (latest : List UInt16) :
    (foldRecords (fun latest _ node => .yield (node.value :: latest)) all latest).reverse =
      latest.reverse ++ all.map fun record => record.2.value := by
  induction all generalizing latest with
  | nil => simp [foldRecords]
  | cons record rest ih => rw [foldRecords, ih, List.reverse_cons, List.map_cons, List.append_assoc, List.singleton_append]

theorem fold_take (count : Nat) (all : List (Handle × Node)) (latest : List UInt16) (fewer : latest.length < count) :
    (foldRecords (fun (latest : List UInt16) _ node =>
        if (node.value :: latest).length < count then .yield (node.value :: latest) else .done (node.value :: latest))
          all latest).reverse =
      latest.reverse ++ (all.map fun record => record.2.value).take (count - latest.length) := by
  induction all generalizing latest with
  | nil => simp [foldRecords]
  | cons record rest ih =>
      obtain ⟨missing, enough⟩ : ∃ missing, count - latest.length = missing + 1 := ⟨count - latest.length - 1, by omega⟩
      rw [foldRecords, List.map_cons, enough, List.take_succ_cons]
      by_cases more : (record.2.value :: latest).length < count
      · have left : count - (record.2.value :: latest).length = missing := by
          rw [List.length_cons] at more ⊢
          omega
        simp only [if_pos more]
        rw [ih _ more, left, List.reverse_cons, List.append_assoc, List.singleton_append]
      · have none : missing = 0 := by
          rw [List.length_cons] at more
          omega
        simp only [if_neg more]
        rw [none, List.take_zero, List.reverse_cons]

end BlockPool
