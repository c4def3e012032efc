import BlockPool.Proofs.ListModel
import BlockPool.Proofs.PoolStore
import BlockPool.Proofs.TwinHeaps

set_option autoImplicit false

namespace BlockPool

open LinkedList

def TwinPools (n : Nat) (roomy : Prop) (p q : Pool) : Prop := ∃ a b, p.heap = some a ∧ q.heap = some b ∧ Twins n roomy a b

theorem twin_pools_weaker (n : Nat) (roomy roomy' : Prop) (less : roomy' → roomy) (p q : Pool) (twins : TwinPools n roomy p q) :
    TwinPools n roomy' p q := by
  obtain ⟨a, b, opened, opened', nodes, nodes', issue, same, allocs, frees, room⟩ := twins
  exact ⟨a, b, opened, opened', nodes, nodes', issue, same, allocs, frees, fun wanted => room (less wanted)⟩

section Steps

variable {σ α β : Type} {before between after : σ → σ → Prop}

theorem matched_pure (value : α) :
    Matched before before (pure value : Step σ α) := fun s t related => .inl ⟨value, s, t, rfl, rfl, related⟩

theorem matched_throw (reason : Abort) :
    Matched before after (throw reason : Step σ α) := fun s t _ => .inr ⟨reason, s, t, rfl, rfl⟩

theorem matched_bind (step : Step σ α) (next : α → Step σ β) (first : Matched before between step)
    (rest : ∀ value, Matched between after (next value)) : Matched before after (step >>= next) := by
  intro s t related
  obtain ⟨value, s', t', ran, ran', related'⟩ | ⟨reason, s', t', stopped, stopped'⟩ := first s t related
  · rw [step_bind_ok step next s s' value ran, step_bind_ok step next t t' value ran']
    exact rest value s' t' related'
  · exact .inr ⟨reason, s', t', step_bind_error step next s s' reason stopped, step_bind_error step next t t' reason stopped'⟩

theorem matched_weaker (step : Step σ α) (matched : Matched before between step) (weaker : ∀ s t, between s t → after s t) :
    Matched before after step := by
  intro s t related
  obtain ⟨value, s', t', ran, ran', related'⟩ | stopped := matched s t related
  · exact .inl ⟨value, s', t', ran, ran', weaker s' t' related'⟩
  · exact .inr stopped

end Steps

theorem on_heap_matched {α : Type} (n : Nat) (roomy roomy' : Prop) (absent : α) (step : Step Heap α)
    (matched : Matched (Twins n roomy) (Twins n roomy') step) :
    Matched (TwinPools n roomy) (TwinPools n roomy') (Pool.onHeap absent step) := by
  rintro p q ⟨a, b, opened, opened', twins⟩
  obtain ⟨value, a', b', ran, ran', twins'⟩ | ⟨reason, a', b', stopped, stopped'⟩ := matched a b twins
  · obtain ⟨p', answered, left⟩ := on_heap_ran absent value step p a a' opened ran
    obtain ⟨q', answered', left'⟩ := on_heap_ran absent value step q b b' opened' ran'
    exact .inl ⟨value, p', q', answered, answered', a', b', left, left', twins'⟩
  · obtain ⟨p', stays⟩ := on_heap_stopped absent step p a a' reason opened stopped
    obtain ⟨q', stays'⟩ := on_heap_stopped absent step q b b' reason opened' stopped'
    exact .inr ⟨reason, p', q', stays, stays'⟩

section Nodes

variable (n : Nat) (roomy : Prop)

theorem report_matched (event : Event) : Matched (TwinPools n roomy) (TwinPools n roomy) (report event) :=
  fun _ _ twins => .inl ⟨(), _, _, rfl, rfl, twins⟩

theorem load_matched (h : Handle) : Matched (TwinPools n roomy) (TwinPools n roomy) (load h : Step Pool _) := by
  apply matched_bind _ _ (on_heap_matched n roomy roomy _ _ (read_matched n roomy h 0 Node.encodedLength))
  intro found
  cases found with
  | error e => exact matched_pure _
  | ok bytes => exact matched_pure _

theorem store_matched (h : Handle) (node : Node) :
    Matched (TwinPools n roomy) (TwinPools n roomy) (store h node : Step Pool _) := by
  apply matched_bind _ _ (on_heap_matched n roomy roomy _ _ (write_matched n roomy h 0 node.encode.toList))
  intro answer
  cases answer with
  | error e => exact matched_pure _
  | ok done => exact matched_pure _

theorem give_matched (h : Handle) : Matched (TwinPools n roomy) (TwinPools n roomy) (BlockAllocator.free (some h) : Step Pool _) :=
  on_heap_matched n roomy roomy () _ (free_matched n roomy h)

theorem walk_from_matched {β : Type} (visit : β → Handle → Node → ForInStep β) (limit : Nat)
    (cursor : Option Handle) (seen : β) :
    Matched (TwinPools n roomy) (TwinPools n roomy) (walkFrom visit limit cursor seen : Step Pool β) := by
  induction limit generalizing cursor seen with
  | zero =>
      cases cursor with
      | none => exact matched_pure _
      | some h => exact matched_throw _
  | succ limit ih =>
      cases cursor with
      | none => exact matched_pure _
      | some h =>
          apply matched_bind _ _ (load_matched n roomy h)
          intro found
          cases found with
          | none => exact matched_pure _
          | some node =>
              simp only
              cases visit seen h node with
              | done seen => exact matched_pure _
              | yield seen => exact ih node.next seen

theorem release_from_matched (limit : Nat) (cursor : Option Handle) :
    Matched (TwinPools n roomy) (TwinPools n roomy) (releaseFrom limit cursor : Step Pool Unit) := by
  induction limit generalizing cursor with
  | zero =>
      cases cursor with
      | none => exact matched_pure _
      | some h => exact matched_throw _
  | succ limit ih =>
      cases cursor with
      | none => exact matched_pure _
      | some h =>
          apply matched_bind _ _ (load_matched n roomy h)
          intro node
          exact matched_bind _ _ (give_matched n roomy h) fun _ => ih (node.bind Node.next)

theorem walk_matched {β : Type} (l : LinkedList) (start : β) (visit : β → Handle → Node → ForInStep β) :
    Matched (TwinPools n roomy) (TwinPools n roomy) (l.walk start visit : Step Pool β) :=
  walk_from_matched n roomy visit walkLimit l.head start

theorem create_matched (node : Node) : Matched (TwinPools n True) (TwinPools n False) (create node : Step Pool _) := by
  apply matched_bind _ _ (on_heap_matched n True False none _ (alloc_matched n))
  intro found
  cases found with
  | none => exact matched_bind _ _ (report_matched n False _) fun _ => matched_pure _
  | some h =>
      apply matched_bind _ _ (store_matched n False h node)
      intro stored
      cases stored with
      | true => exact matched_pure _
      | false => exact matched_bind _ _ (give_matched n False h) fun _ => matched_pure _

theorem link_matched (l : LinkedList) (prev : Option (Handle × Node)) (h : Handle) :
    Matched (TwinPools n roomy) (TwinPools n roomy) (l.link prev h : Step Pool _) := by
  cases prev with
  | none => exact matched_pure _
  | some prev =>
      refine matched_bind _ _ ?_ fun attached => matched_pure _
      apply matched_bind _ _ (store_matched n roomy prev.1 _)
      intro stored
      cases stored with
      | true => exact matched_pure _
      | false => exact matched_bind _ _ (give_matched n roomy h) fun _ => matched_pure _

theorem question_matched {α β : Type} (l : LinkedList) (start : β) (visit : β → Handle → Node → ForInStep β)
    (tell : β → α) :
    Matched (TwinPools n roomy) (TwinPools n roomy) (l.walk start visit >>= fun seen => pure (tell seen) : Step Pool α) :=
  matched_bind _ _ (walk_matched n roomy l start visit) fun _ => matched_pure _

theorem insertion_matched (l : LinkedList) (node : Node) (prev : Option (Handle × Node)) :
    Matched (TwinPools n True) (TwinPools n False) (do
      match ← create node with
      | none => return (l, none)
      | some h => l.link prev h : Step Pool (LinkedList × Option NodeRef)) := by
  apply matched_bind _ _ (create_matched n node)
  intro made
  cases made with
  | none => exact matched_pure _
  | some h => exact link_matched n False l prev h

theorem push_back_matched (l : LinkedList) (value : UInt16) :
    Matched (TwinPools n True) (TwinPools n False) (l.pushBack value : Step Pool _) :=
  matched_bind _ _ (walk_matched n True l none _) fun tail => insertion_matched n l ⟨value, none⟩ tail

theorem insert_after_matched (l : LinkedList) (anchor : NodeRef) (value : UInt16) :
    Matched (TwinPools n True) (TwinPools n False) (l.insertAfter anchor value : Step Pool _) := by
  apply matched_bind _ _ (walk_matched n True l none _)
  intro found
  cases found with
  | none => exact matched_weaker _ (matched_pure _) (twin_pools_weaker n True False False.elim)
  | some here => exact insertion_matched n l ⟨value, here.2.next⟩ (some (anchor.handle, here.2))

theorem insert_before_matched (l : LinkedList) (anchor : NodeRef) (value : UInt16) :
    Matched (TwinPools n True) (TwinPools n False) (l.insertBefore anchor value : Step Pool _) := by
  apply matched_bind _ _ (walk_matched n True l (none, none) _)
  rintro ⟨prev, here⟩
  cases here with
  | none =>
      refine matched_weaker _ ?_ (twin_pools_weaker n True False False.elim)
      exact matched_bind _ _ (report_matched n True _) fun _ => matched_pure _
  | some here => exact insertion_matched n l ⟨value, some anchor.handle⟩ prev

theorem remove_matched (l : LinkedList) (value : UInt16) :
    Matched (TwinPools n roomy) (TwinPools n roomy) (l.remove value : Step Pool _) := by
  apply matched_bind _ _ (walk_matched n roomy l (none, none) _)
  rintro ⟨prev, here⟩
  cases here with
  | none => exact matched_pure _
  | some here =>
      cases prev with
      | none => exact matched_bind _ _ (give_matched n roomy here.1) fun _ => matched_pure _
      | some prev =>
          apply matched_bind _ _ (store_matched n roomy prev.1 _)
          intro stored
          cases stored with
          | true => exact matched_bind _ _ (give_matched n roomy here.1) fun _ => matched_pure _
          | false => exact matched_pure _

theorem clear_matched (l : LinkedList) : Matched (TwinPools n roomy) (TwinPools n roomy) (l.clear : Step Pool _) :=
  matched_bind _ _ (release_from_matched n roomy walkLimit l.head) fun _ => matched_pure _

theorem take_matched (l : LinkedList) (count : Nat) :
    Matched (TwinPools n roomy) (TwinPools n roomy) (l.take count : Step Pool _) := by
  by_cases nothing : count = 0
  · rw [LinkedList.take, if_pos nothing]
    exact matched_pure _
  · rw [LinkedList.take, if_neg nothing]
    exact question_matched n roomy l [] _ List.reverse

theorem op_matched (op : ListOp) (l : LinkedList) :
    Matched (TwinPools n True) (TwinPools n False) (op.perform l : Step Pool _) := by
  have kept {α : Type} (step : Step Pool α) (matched : Matched (TwinPools n True) (TwinPools n True) step) :
      Matched (TwinPools n True) (TwinPools n False) step := matched_weaker _ matched (twin_pools_weaker n True False False.elim)
  have asked {α : Type} (question : Step Pool α) (matched : Matched (TwinPools n True) (TwinPools n True) question) :
      Matched (TwinPools n True) (TwinPools n False) (question >>= fun found => pure (l, found)) :=
    kept _ (matched_bind _ _ matched fun _ => matched_pure _)
  cases op with
  | pushBack value => exact push_back_matched n l value
  | insertAfter anchor value => exact insert_after_matched n l anchor value
  | insertBefore anchor value => exact insert_before_matched n l anchor value
  | remove value => exact kept _ (remove_matched n True l value)
  | clear => exact kept _ (matched_bind _ _ (clear_matched n True l) fun _ => matched_pure _)
  | find value => exact asked _ (question_matched n True l none _ _)
  | valueAt node => exact asked _ (question_matched n True l none _ _)
  | length => exact asked _ (walk_matched n True l 0 _)
  | values => exact asked _ (question_matched n True l [] _ _)
  | take count => exact asked _ (take_matched n True l count)
  | range start stop => exact asked _ (question_matched n True l _ _ _)
  | first => exact kept _ (matched_pure _)
  | isEmpty => exact kept _ (matched_pure _)

end Nodes

end BlockPool
