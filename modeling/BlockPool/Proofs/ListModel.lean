import BlockPool.Proofs.ListWalk

set_option autoImplicit false

namespace BlockPool

open LinkedList

inductive ListOp where
  | pushBack (value : UInt16)
  | insertAfter (anchor : NodeRef) (value : UInt16)
  | insertBefore (anchor : NodeRef) (value : UInt16)
  | remove (value : UInt16)
  | find (value : UInt16)
  | valueAt (node : NodeRef)
  | first
  | length
  | isEmpty
  | values
  | take (count : Nat)
  | range (start stop : Option NodeRef)
  | clear
deriving DecidableEq, Repr

-- The entries from `start`, or the first, through `stop`, or the last.
def stretch (start stop : Option NodeRef) (seq : Sequence) : Sequence :=
  let begun := match start with
    | none => seq
    | some n => seq.dropWhile fun entry => entry.1 ≠ n
  begun.take (begun.findIdx (fun entry => some entry.1 = stop) + 1)

def placing (here : Option Nat) (value : UInt16) (fresh : Option NodeRef) (seq : Sequence) : Sequence × Option NodeRef :=
  match here, fresh with
  | some index, some n => (seq.insertIdx index (n, value), some n)
  | _, _ => (seq, none)

def indexOf (anchor : NodeRef) (seq : Sequence) : Option Nat := seq.findIdx? fun entry => entry.1 = anchor

namespace ListOp

def Answer : ListOp → Type
  | .pushBack _ => Option NodeRef
  | .insertAfter _ _ => Option NodeRef
  | .insertBefore _ _ => Option NodeRef
  | .remove _ => Bool
  | .find _ => Option NodeRef
  | .valueAt _ => Option UInt16
  | .first => Option NodeRef
  | .length => Nat
  | .isEmpty => Bool
  | .values => List UInt16
  | .take _ => List UInt16
  | .range _ _ => List UInt16
  | .clear => Unit

def perform {σ : Type} [BlockAllocator σ] [Journaled σ] : (op : ListOp) → LinkedList → Step σ (LinkedList × op.Answer)
  | .pushBack value, l => l.pushBack value
  | .insertAfter anchor value, l => l.insertAfter anchor value
  | .insertBefore anchor value, l => l.insertBefore anchor value
  | .remove value, l => l.remove value
  | .find value, l => do return (l, ← l.find value)
  | .valueAt node, l => do return (l, ← l.value node)
  | .first, l => return (l, l.first)
  | .length, l => do return (l, ← l.length)
  | .isEmpty, l => return (l, l.isEmpty)
  | .values, l => do return (l, ← l.values)
  | .take count, l => do return (l, ← l.take count)
  | .range start stop, l => do return (l, ← l.range start stop)
  | .clear, l => do return (← l.clear, ())

-- What an operation does to a vector, with the node that it gets if it wants one.
def model : (op : ListOp) → Option NodeRef → Sequence → Sequence × op.Answer
  | .pushBack value, fresh, seq => placing (some seq.length) value fresh seq
  | .insertAfter anchor value, fresh, seq => placing ((indexOf anchor seq).map (· + 1)) value fresh seq
  | .insertBefore anchor value, fresh, seq => placing (indexOf anchor seq) value fresh seq
  | .remove value, _, seq => (seq.eraseP fun entry => entry.2 = value, seq.any fun entry => entry.2 = value)
  | .find value, _, seq => (seq, (seq.find? fun entry => entry.2 = value).map Prod.fst)
  | .valueAt node, _, seq => (seq, (seq.find? fun entry => entry.1 = node).map Prod.snd)
  | .first, _, seq => (seq, seq.head?.map Prod.fst)
  | .length, _, seq => (seq, seq.length)
  | .isEmpty, _, seq => (seq, seq.isEmpty)
  | .values, _, seq => (seq, seq.map Prod.snd)
  | .take count, _, seq => (seq, (seq.map Prod.snd).take count)
  | .range start stop, _, seq => (seq, (stretch start stop seq).map Prod.snd)
  | .clear, _, _ => ([], ())

-- Whether an operation goes as far as to ask for a node.
def wants : ListOp → Sequence → Bool
  | .pushBack _, _ => true
  | .insertAfter anchor _, seq => (indexOf anchor seq).isSome
  | .insertBefore anchor _, seq => (indexOf anchor seq).isSome
  | _, _ => false

def Refuses : (op : ListOp) → op.Answer → Prop
  | .pushBack _, answer => answer = none
  | .insertAfter _ _, answer => answer = none
  | .insertBefore _ _, answer => answer = none
  | .remove _, answer => answer = false
  | _, _ => False

end ListOp

theorem record_value (before after : Sequence) (n : NodeRef) (value : UInt16) (rest : Option Handle) :
    records (before ++ (n, value) :: after) rest =
      records before (some n.handle) ++ (n.handle, ⟨value, firstOf after rest⟩) :: records after rest := by
  rw [records_append, records_cons, first_of_cons]

theorem find_records (accept : NodeRef → UInt16 → Bool) (seq : Sequence) (after : Option Handle) :
    ((records seq after).find? fun record => accept ⟨record.1⟩ record.2.value).map
      (fun record => (NodeRef.mk record.1, record.2.value)) =
      seq.find? fun entry => accept entry.1 entry.2 := by
  induction seq with
  | nil => rfl
  | cons entry rest ih =>
      obtain ⟨n, value⟩ := entry
      rw [records_cons, List.find?_cons, List.find?_cons]
      cases hit : accept n value with
      | true => rfl
      | false => exact ih

theorem record_values (seq : Sequence) (after : Option Handle) :
    (records seq after).map (fun record => record.2.value) = seq.map Prod.snd := by
  induction seq with
  | nil => rfl
  | cons entry rest ih => rw [records_cons, List.map_cons, List.map_cons, ih]

theorem records_length (seq : Sequence) (after : Option Handle) : (records seq after).length = seq.length := by
  rw [← List.length_map, records_handles, handlesOf, List.length_map]

theorem records_missed (accept : NodeRef → UInt16 → Bool) (seq : Sequence) (after : Option Handle)
    (missed : ∀ entry ∈ seq, accept entry.1 entry.2 = false) :
    ∀ record ∈ records seq after, accept ⟨record.1⟩ record.2.value = false := by
  induction seq with
  | nil => exact fun record member => absurd member List.not_mem_nil
  | cons entry rest ih =>
      intro record member
      rcases List.mem_cons.mp member with rfl | later
      · exact missed entry List.mem_cons_self
      · exact ih (fun other inside => missed other (List.mem_cons_of_mem _ inside)) record later

theorem fold_range_begun (start stop : Option NodeRef) (seq : Sequence) (after : Option Handle) (latest : List UInt16) :
    (foldRecords (fun (begun : Bool × List UInt16) h node =>
        let here := some (NodeRef.mk h)
        if begun.1 || here = start then
          let latest := node.value :: begun.2
          if here = stop then .done (true, latest) else .yield (true, latest)
        else .yield (false, begun.2)) (records seq after) (true, latest)).2.reverse =
      latest.reverse ++ (seq.take (seq.findIdx (fun entry => some entry.1 = stop) + 1)).map Prod.snd := by
  induction seq generalizing latest with
  | nil => simp [foldRecords]
  | cons entry rest ih =>
      rw [records_cons, foldRecords, List.take_succ_cons, List.findIdx_cons, List.map_cons]
      by_cases here : some entry.1 = stop
      · simp [here]
      · simp only [Bool.true_or, if_true, here, if_false, decide_false, cond_false]
        rw [ih, List.reverse_cons, List.append_assoc, List.singleton_append]

theorem fold_range (start stop : Option NodeRef) (seq : Sequence) (after : Option Handle) :
    (foldRecords (fun (begun : Bool × List UInt16) h node =>
        let here := some (NodeRef.mk h)
        if begun.1 || here = start then
          let latest := node.value :: begun.2
          if here = stop then .done (true, latest) else .yield (true, latest)
        else .yield (false, begun.2)) (records seq after) (start.isNone, [])).2.reverse =
      (stretch start stop seq).map Prod.snd := by
  cases start with
  | none => exact fold_range_begun none stop seq after []
  | some n =>
      induction seq with
      | nil => rfl
      | cons entry rest ih =>
          by_cases here : entry.1 = n
          · have begun := fold_range_begun (some n) stop (entry :: rest) after []
            simp only [records_cons, foldRecords, here] at begun ⊢
            simpa [stretch, here] using begun
          · have skipped : stretch (some n) stop (entry :: rest) = stretch (some n) stop rest := by simp [stretch, here]
            rw [skipped, ← ih, records_cons, foldRecords]
            simp [here]

theorem entry_cases (accept : NodeRef → UInt16 → Bool) (seq : Sequence) :
    (∀ entry ∈ seq, accept entry.1 entry.2 = false) ∨
    ∃ before n value after, seq = before ++ (n, value) :: after ∧ (∀ entry ∈ before, accept entry.1 entry.2 = false) ∧
      accept n value = true := by
  induction seq with
  | nil => exact .inl fun entry member => absurd member List.not_mem_nil
  | cons entry rest ih =>
      obtain ⟨n, value⟩ := entry
      by_cases hit : accept n value = true
      · exact .inr ⟨[], n, value, rest, rfl, fun entry member => absurd member List.not_mem_nil, hit⟩
      · have missed : accept n value = false := Bool.eq_false_iff.mpr hit
        rcases ih with none | ⟨before, m, other, after, rfl, ahead, hit'⟩
        · refine .inl fun entry member => ?_
          rcases List.mem_cons.mp member with rfl | later
          · exact missed
          · exact none entry later
        · refine .inr ⟨(n, value) :: before, m, other, after, rfl, fun entry member => ?_, hit'⟩
          rcases List.mem_cons.mp member with rfl | later
          · exact missed
          · exact ahead entry later

theorem fold_link_cases (accept : NodeRef → UInt16 → Bool) (seq : Sequence) (rest : Option Handle)
    (found : Option (Handle × Node) × Option (Handle × Node))
    (folded : foldRecords (fun (link : Option (Handle × Node) × Option (Handle × Node)) h node =>
      if accept ⟨h⟩ node.value then .done (link.1, some (h, node)) else .yield (some (h, node), none))
        (records seq rest) (none, none) = found) :
    ((∀ entry ∈ seq, accept entry.1 entry.2 = false) ∧ ∃ last, found = (last, none)) ∨
    ∃ before n value after, seq = before ++ (n, value) :: after ∧ (∀ entry ∈ before, accept entry.1 entry.2 = false) ∧
      accept n value = true ∧
      found = ((records before (some n.handle)).getLast?, some (n.handle, ⟨value, firstOf after rest⟩)) := by
  rcases entry_cases accept seq with missed | ⟨before, n, value, after, rfl, ahead, hit⟩
  · have nothing := fold_link_missed (fun h node => accept ⟨h⟩ node.value) (records seq rest) none
      (records_missed accept seq rest missed)
    exact .inl ⟨missed, found.1, Prod.ext rfl ((congrArg Prod.snd folded).symm.trans nothing)⟩
  · rw [record_value, fold_link_found (fun h node => accept ⟨h⟩ node.value) _ _ _ none
      (records_missed accept before (some n.handle) ahead) hit, Option.or_none] at folded
    exact .inr ⟨before, n, value, after, rfl, ahead, hit, folded.symm⟩

section Questions

variable {σ γ : Type} [BlockAllocator σ] [Journaled σ] {faulty : Prop} {Roomy : σ → Prop} {view : σ → γ}
  {Shows : σ → Account → Prop}

theorem search_spelled (store : NodeStore faulty Roomy view Shows) (accept : NodeRef → UInt16 → Bool) (s : σ)
    (acc : Account) (l : LinkedList) (seq : Sequence) (shows : Shows s acc) (spells : Spells acc.memory l seq) :
    ∃ s', l.search (fun h node => accept ⟨h⟩ node.value) s =
        .ok ((records seq none).find? fun record => accept ⟨record.1⟩ record.2.value) s' ∧ Shows s' acc ∧
        view s' = view s := by
  obtain ⟨s', walked, shows', still⟩ := walk_spelled store
    (fun _ h node => if accept ⟨h⟩ node.value then .done (some (h, node)) else .yield none) none s acc l seq shows spells
  rw [fold_search] at walked
  exact ⟨s', walked, shows', still⟩

theorem search_link_cases (store : NodeStore faulty Roomy view Shows) (accept : NodeRef → UInt16 → Bool) (s : σ)
    (acc : Account) (l : LinkedList) (seq : Sequence) (shows : Shows s acc) (spells : Spells acc.memory l seq) :
    ∃ s', Shows s' acc ∧ view s' = view s ∧
      (((∀ entry ∈ seq, accept entry.1 entry.2 = false) ∧
        ∃ last, l.searchLink (fun h node => accept ⟨h⟩ node.value) s = .ok (last, none) s') ∨
      ∃ before n value after, seq = before ++ (n, value) :: after ∧ (∀ entry ∈ before, accept entry.1 entry.2 = false) ∧
        accept n value = true ∧ l.searchLink (fun h node => accept ⟨h⟩ node.value) s =
          .ok ((records before (some n.handle)).getLast?, some (n.handle, ⟨value, firstOf after none⟩)) s') := by
  obtain ⟨s', walked, shows', still⟩ :=
    walk_spelled store (fun (link : Option (Handle × Node) × Option (Handle × Node)) h node =>
        if accept ⟨h⟩ node.value then .done (link.1, some (h, node)) else .yield (some (h, node), none))
      (none, none) s acc l seq shows spells
  refine ⟨s', shows', still, ?_⟩
  rcases fold_link_cases accept seq none _ rfl with
    ⟨missed, last, found⟩ | ⟨before, n, value, after, place, ahead, hit, found⟩
  · rw [found] at walked
    exact .inl ⟨missed, last, walked⟩
  · rw [found] at walked
    exact .inr ⟨before, n, value, after, place, ahead, hit, walked⟩

end Questions

end BlockPool
