import BlockPool.Arena
import BlockPool.Proofs.Steps

set_option autoImplicit false

namespace BlockPool

open Arena

def segment (bytes : Array UInt8) (start len : Nat) : List UInt8 := (bytes.toList.drop start).take len

def splice (old : List UInt8) (offset : Nat) (data : List UInt8) : List UInt8 :=
  old.take offset ++ data ++ old.drop (offset + data.length)

theorem splice_whole (old data : List UInt8) (same : data.length = old.length) : splice old 0 data = data := by
  simp [splice, same]

theorem segment_length (bytes : Array UInt8) (start len : Nat) (inside : start + len ≤ bytes.size) :
    (segment bytes start len).length = len := by
  simp only [segment, List.length_take, List.length_drop, Array.length_toList]
  omega

theorem segment_get (bytes : Array UInt8) (start len i : Nat) :
    (segment bytes start len)[i]? = if i < len then bytes[start + i]? else none := by
  simp only [segment, List.getElem?_take, List.getElem?_drop, Array.getElem?_toList]

theorem segment_part (bytes : Array UInt8) (start size offset len : Nat) (inside : offset + len ≤ size) :
    segment bytes (start + offset) len = ((segment bytes start size).drop offset).take len := by
  apply List.ext_getElem?
  intro i
  simp only [segment_get, List.getElem?_take, List.getElem?_drop, Nat.add_assoc]
  by_cases early : i < len
  · rw [if_pos early, if_pos early, if_pos (by omega)]
  · rw [if_neg early, if_neg early]

theorem overwrite_get (bytes : Array UInt8) (offset : Nat) (data : List UInt8) (i : Nat)
    (fits : offset + data.length ≤ bytes.size) :
    (overwrite bytes offset data)[i]? =
      if offset ≤ i ∧ i < offset + data.length then data[i - offset]? else bytes[i]? := by
  induction data generalizing bytes offset with
  | nil =>
      rw [overwrite, if_neg]
      simp only [List.length_nil]
      omega
  | cons b rest ih =>
      simp only [List.length_cons] at fits ⊢
      rw [overwrite, ih _ _ (by rw [Array.size_setIfInBounds]; omega)]
      by_cases later : offset + 1 ≤ i ∧ i < offset + 1 + rest.length
      · have index : i - offset = i - (offset + 1) + 1 := by omega
        rw [if_pos later, if_pos (by omega), index, List.getElem?_cons_succ]
      · rw [if_neg later]
        by_cases here : i = offset
        · subst here
          rw [if_pos (by omega), Nat.sub_self, Array.getElem?_setIfInBounds_self_of_lt (by omega)]
          rfl
        · rw [Array.getElem?_setIfInBounds_ne (Ne.symm here), if_neg (by omega)]

theorem overwrite_size (bytes : Array UInt8) (offset : Nat) (data : List UInt8) :
    (overwrite bytes offset data).size = bytes.size := by
  induction data generalizing bytes offset with
  | nil => rfl
  | cons b rest ih => rw [overwrite, ih, Array.size_setIfInBounds]

theorem segment_apart (bytes : Array UInt8) (offset start len : Nat) (data : List UInt8)
    (fits : offset + data.length ≤ bytes.size) (apart : start + len ≤ offset ∨ offset + data.length ≤ start) :
    segment (overwrite bytes offset data) start len = segment bytes start len := by
  apply List.ext_getElem?
  intro i
  simp only [segment_get]
  by_cases early : i < len
  · rw [if_pos early, if_pos early, overwrite_get _ _ _ _ fits, if_neg (by omega)]
  · rw [if_neg early, if_neg early]

theorem segment_within (bytes : Array UInt8) (start size offset : Nat) (data : List UInt8) (inside : start + size ≤ bytes.size)
    (fits : offset + data.length ≤ size) :
    segment (overwrite bytes (start + offset) data) start size = splice (segment bytes start size) offset data := by
  have length := segment_length bytes start size inside
  apply List.ext_getElem?
  intro i
  rw [segment_get, overwrite_get _ _ _ _ (by omega), splice, List.append_assoc]
  by_cases ahead : i < offset
  · rw [if_pos (by omega), if_neg (by omega), List.getElem?_append_left (by rw [List.length_take]; omega),
      List.getElem?_take_of_lt ahead, segment_get, if_pos (by omega)]
  · have taken : ((segment bytes start size).take offset).length = offset := by
      rw [List.length_take]
      omega
    rw [List.getElem?_append_right (by omega), taken]
    by_cases written : i < offset + data.length
    · have index : start + i - (start + offset) = i - offset := by omega
      rw [if_pos (by omega), if_pos (by omega), index, List.getElem?_append_left (by omega)]
    · rw [List.getElem?_append_right (by omega), List.getElem?_drop, segment_get]
      have index : offset + data.length + (i - offset - data.length) = i := by omega
      have outside : ¬(start + offset ≤ start + i ∧ start + i < start + offset + data.length) := by omega
      rw [if_neg outside, index]

theorem slice_run (arena : Arena) (start len : Nat) (inside : start + len ≤ arena.capacity) :
    ∃ bytes : Vector UInt8 len, arena.slice start len = .ok bytes ∧ bytes.toList = segment arena.bytes start len := by
  refine ⟨_, dif_pos inside, ?_⟩
  simp [segment, Vector.toList, List.extract_eq_take_drop]

theorem write_run (arena : Arena) (offset : Nat) (data : List UInt8) (fits : offset + data.length ≤ arena.capacity) :
    Arena.write offset data arena = .ok () ⟨overwrite arena.bytes offset data⟩ := by
  obtain ⟨bytes⟩ := arena
  exact if_pos fits

theorem clear_run (arena : Arena) (offset len : Nat) (inside : offset + len ≤ arena.capacity) :
    Arena.clear offset len arena = .ok () ⟨overwrite arena.bytes offset (List.replicate len 0)⟩ := by
  rw [Arena.clear, if_pos (show offset + len ≤ arena.bytes.size from inside)]
  exact write_run arena offset _ (by rwa [List.length_replicate])

theorem copy_run (arena : Arena) (source target len : Nat) (readable : source + len ≤ arena.capacity)
    (fits : target + len ≤ arena.capacity) :
    Arena.copy source target len arena = .ok () ⟨overwrite arena.bytes target (segment arena.bytes source len)⟩ := by
  obtain ⟨bytes, read, same⟩ := slice_run arena source len readable
  unfold Arena.copy
  rw [query_bind (fun arena : Arena => arena.slice source len) _ arena bytes read, same]
  exact write_run arena target _ (by rwa [segment_length arena.bytes source len readable])

end BlockPool
