import BlockPool.Proofs.ListAtomicity
import BlockPool.Proofs.SharedPool

set_option autoImplicit false

namespace BlockPool

open LinkedList

-- The index of the first value that is asked for. Without a start that is the head.
def opening (start : Option NodeRef) (seq : Sequence) : Option Nat :=
  match start with
  | none => some 0
  | some n => indexOf n seq

-- The index of the last one: that of `stop`, if it does not come ahead of the first, and otherwise that of the tail.
def closing (stop : Option NodeRef) (first : Nat) (seq : Sequence) : Nat :=
  match stop.bind fun n => indexOf n seq with
  | some last => if first ≤ last then last else seq.length - 1
  | none => seq.length - 1

theorem index_some (n : NodeRef) (seq : Sequence) (here : Nat) (found : indexOf n seq = some here) :
    seq.findIdx (fun entry => entry.1 = n) = here :=
  (List.findIdx?_eq_some_iff_findIdx_eq.mp found).2

theorem index_none (n : NodeRef) (seq : Sequence) (absent : indexOf n seq = none) :
    seq.findIdx (fun entry => entry.1 = n) = seq.length :=
  List.findIdx_eq_length_of_false (List.findIdx?_eq_none_iff.mp absent)

theorem stretch_begins (n : NodeRef) (seq : Sequence) :
    (seq.dropWhile fun entry => entry.1 ≠ n) = seq.drop (seq.findIdx fun entry => entry.1 = n) := by
  rw [List.dropWhile_eq_drop_findIdx_not]
  simp

theorem distinct_once (n : NodeRef) (ahead behind : Sequence) (here : Nat) (distinct : (handlesOf (ahead ++ behind)).Nodup)
    (found : indexOf n ahead = some here) : indexOf n behind = none := by
  refine List.findIdx?_eq_none_iff.mpr fun other inside => decide_eq_false fun same => ?_
  obtain ⟨bound, hit, _⟩ := List.findIdx?_eq_some_iff_getElem.mp found
  have member : n.handle ∈ handlesOf ahead :=
    List.mem_map.mpr ⟨ahead[here], List.getElem_mem bound, congrArg NodeRef.handle (of_decide_eq_true hit)⟩
  rw [handles_of_append] at distinct
  exact (List.nodup_append.mp distinct).2.2 n.handle member n.handle
    (List.mem_map.mpr ⟨other, inside, congrArg NodeRef.handle same⟩) rfl

-- A node that lies ahead of the first one does not end the stretch, and neither does one that is not in the list.
theorem stretch_ends (stop : Option NodeRef) (ahead behind : Sequence) (distinct : (handlesOf (ahead ++ behind)).Nodup) :
    behind.take (behind.findIdx (fun entry => some entry.1 = stop) + 1) =
      behind.take (closing stop ahead.length (ahead ++ behind) + 1 - ahead.length) := by
  have whole (k : Nat) (all : behind.length ≤ k) : behind.take k = behind := List.take_of_length_le all
  cases stop with
  | none =>
      have length : behind.findIdx (fun entry => some entry.1 = none) = behind.length :=
        List.findIdx_eq_length_of_false fun _ _ => decide_eq_false (Option.some_ne_none _)
      simp only [closing, Option.bind_none, List.length_append]
      rw [length, whole _ (Nat.le_succ _), whole _ (by omega)]
  | some n =>
      simp only [Option.some.injEq, closing, Option.bind_some]
      have split : indexOf n (ahead ++ behind) = (indexOf n ahead).or ((indexOf n behind).map (· + ahead.length)) :=
        List.findIdx?_append
      cases early : indexOf n ahead with
      | some here =>
          have bound := index_inside n ahead here early
          rw [index_none n behind (distinct_once n ahead behind here distinct early), split, early, Option.some_or]
          simp only [if_neg (Nat.not_le.mpr bound), List.length_append]
          rw [whole _ (Nat.le_succ _), whole _ (by omega)]
      | none =>
          rw [split, early, Option.none_or]
          cases late : indexOf n behind with
          | some there =>
              rw [index_some n behind there late]
              simp only [Option.map_some, Nat.le_add_left, if_true]
              congr 1
              omega
          | none =>
              rw [index_none n behind late]
              simp only [Option.map_none, List.length_append]
              rw [whole _ (Nat.le_succ _), whole _ (by omega)]

theorem stretch_slice (start stop : Option NodeRef) (seq : Sequence) (distinct : (handlesOf seq).Nodup) (first : Nat)
    (opens : opening start seq = some first) :
    stretch start stop seq = (seq.drop first).take (closing stop first seq + 1 - first) := by
  cases start with
  | none =>
      cases opens
      exact stretch_ends stop [] seq distinct
  | some n =>
      have inside : first ≤ seq.length := Nat.le_of_lt (index_inside n seq first opens)
      have ends := stretch_ends stop (seq.take first) (seq.drop first) (by rwa [List.take_append_drop])
      rw [List.take_append_drop, List.length_take_of_le inside] at ends
      unfold stretch
      simp only
      rw [stretch_begins, index_some n seq first opens]
      exact ends

theorem stretch_whole (seq : Sequence) (distinct : (handlesOf seq).Nodup) : stretch none none seq = seq := by
  rw [stretch_slice none none seq distinct 0 rfl, List.drop_zero]
  exact List.take_of_length_le (by simp only [closing, Option.bind_none]; omega)

section Texts

variable {Shows : Pool → Account → Prop} (store : NodeStore False RoomForHandles Pool.heap Shows) (pool : Pool) (acc : Account)
  (l : LinkedList) (seq : Sequence) (shows : Shows pool acc) (spells : Spells acc.memory l seq)

include store shows spells

theorem range_told (start stop : Option NodeRef) :
    ((l.displayRange start stop).attempt pool).1 = .ok (listing ((stretch start stop seq).map Prod.snd)) := by
  obtain ⟨pool', ranged, _⟩ := tells_spelled store _ _ (range_tells start stop) pool acc l seq shows spells
  have ran : l.displayRange start stop pool = .ok (listing ((stretch start stop seq).map Prod.snd)) pool' :=
    step_bind_ok _ _ pool pool' _ ranged
  exact congrArg Prod.fst (attempt_ok _ pool pool' _ ran)

end Texts

end BlockPool
