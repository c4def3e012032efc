import BlockPool.LinkedList.Node
import Mathlib.Algebra.Order.Ring.Nat

set_option autoImplicit false

namespace BlockPool

open Bytes

theorem join_byte (low byte width bound : Nat) (small : low < 2 ^ width) (fits : byte * 2 ^ width < bound) :
    low ||| (byte <<< width) % bound = low + byte * 2 ^ width := by
  rw [Nat.shiftLeft_eq, Nat.mod_eq_of_lt fits, ← Nat.shiftLeft_eq, Nat.or_comm, ← Nat.shiftLeft_add_eq_or_of_lt small,
    Nat.shiftLeft_eq,
    Nat.add_comm]

theorem half_value (b₀ b₁ : UInt8) : (half b₀ b₁).toNat = b₀.toNat + b₁.toNat * 2 ^ 8 := by
  have bound₀ := b₀.toNat_lt
  have bound₁ := b₁.toNat_lt
  simp only [half, UInt16.toNat_or, UInt8.toNat_toUInt16, UInt16.toNat_shiftLeft, UInt16.toNat_ofNat]
  rw [join_byte _ _ 8 _ (by omega) (by omega)]

theorem word_value (b₀ b₁ b₂ b₃ : UInt8) :
    (word b₀ b₁ b₂ b₃).toNat = b₀.toNat + b₁.toNat * 2 ^ 8 + b₂.toNat * 2 ^ 16 + b₃.toNat * 2 ^ 24 := by
  have bound₀ := b₀.toNat_lt
  have bound₁ := b₁.toNat_lt
  have bound₂ := b₂.toNat_lt
  have bound₃ := b₃.toNat_lt
  simp only [word, UInt32.toNat_or, UInt8.toNat_toUInt32, UInt32.toNat_shiftLeft, UInt32.toNat_ofNat]
  rw [join_byte _ _ 8 _ (by omega) (by omega), join_byte _ _ 16 _ (by omega) (by omega), join_byte _ _ 24 _ (by omega) (by omega)]

theorem half_of_bytes (w : UInt16) : half w.toUInt8 (w >>> 8).toUInt8 = w := by
  have bound := w.toNat_lt
  apply UInt16.toNat_inj.mp
  simp only [half_value, UInt16.toNat_toUInt8, UInt16.toNat_shiftRight, UInt16.toNat_ofNat,
    Nat.shiftRight_eq_div_pow, Nat.reduceMod,
    Nat.reducePow] at bound ⊢
  omega

theorem word_of_bytes (w : UInt32) : word w.toUInt8 (w >>> 8).toUInt8 (w >>> 16).toUInt8 (w >>> 24).toUInt8 = w := by
  have bound := w.toNat_lt
  apply UInt32.toNat_inj.mp
  simp only [word_value, UInt32.toNat_toUInt8, UInt32.toNat_shiftRight, UInt32.toNat_ofNat,
    Nat.shiftRight_eq_div_pow, Nat.reduceMod,
    Nat.reducePow] at bound ⊢
  omega

theorem bytes_of_half (b₀ b₁ : UInt8) : ofHalf (half b₀ b₁) = #v[b₀, b₁] := by
  have bound₀ := b₀.toNat_lt
  have bound₁ := b₁.toNat_lt
  simp only [ofHalf, Vector.mk.injEq, Array.mk.injEq, List.cons.injEq, and_true, ← UInt8.toNat_inj, UInt16.toNat_toUInt8,
    UInt16.toNat_shiftRight, half_value, UInt16.toNat_ofNat, Nat.shiftRight_eq_div_pow, Nat.reduceMod, Nat.reducePow]
  omega

theorem bytes_of_word (b₀ b₁ b₂ b₃ : UInt8) : ofWord (word b₀ b₁ b₂ b₃) = #v[b₀, b₁, b₂, b₃] := by
  have bound₀ := b₀.toNat_lt
  have bound₁ := b₁.toNat_lt
  have bound₂ := b₂.toNat_lt
  have bound₃ := b₃.toNat_lt
  simp only [ofWord, Vector.mk.injEq, Array.mk.injEq, List.cons.injEq, and_true, ← UInt8.toNat_inj, UInt32.toNat_toUInt8,
    UInt32.toNat_shiftRight, word_value, UInt32.toNat_ofNat, Nat.shiftRight_eq_div_pow, Nat.reduceMod, Nat.reducePow]
  omega

theorem handle_of_bytes (h : Handle) : Handle.ofBytes h.toBytes = h := by
  obtain ⟨⟨pool⟩, slot, generation⟩ := h
  have laid : Handle.toBytes ⟨⟨pool⟩, slot, generation⟩ =
      #v[pool.toUInt8, (pool >>> 8).toUInt8, (pool >>> 16).toUInt8, (pool >>> 24).toUInt8,
        slot.toUInt8, (slot >>> 8).toUInt8, (slot >>> 16).toUInt8, (slot >>> 24).toUInt8,
        generation.toUInt8, (generation >>> 8).toUInt8, (generation >>> 16).toUInt8, (generation >>> 24).toUInt8] := rfl
  rw [laid]
  exact congr (congr (congrArg (fun number => Handle.mk ⟨number⟩) (word_of_bytes pool)) (word_of_bytes slot))
    (word_of_bytes generation)

theorem bytes_of_handle (bytes : Vector UInt8 Handle.encodedLength) : (Handle.ofBytes bytes).toBytes = bytes := by
  simp only [Handle.toBytes, Handle.ofBytes, bytes_of_word]
  obtain ⟨⟨list⟩, size⟩ := bytes
  match list, size with
  | [_, _, _, _, _, _, _, _, _, _, _, _], _ => rfl

-- Where the parts of a record lie in its bytes.
def recordBytes (value : UInt16) (flag unused : UInt8) (link : Vector UInt8 Handle.encodedLength) :
    Vector UInt8 Node.encodedLength :=
  ofHalf value ++ #v[flag, unused] ++ link

def linkBytes (bytes : Vector UInt8 Node.encodedLength) : Vector UInt8 Handle.encodedLength := bytes.drop 4

theorem record_parts (value : UInt16) (flag unused : UInt8) (link : Vector UInt8 Handle.encodedLength)
    (bytes : Vector UInt8 Node.encodedLength) (laid : bytes = recordBytes value flag unused link) :
    bytes[0] = value.toUInt8 ∧ bytes[1] = (value >>> 8).toUInt8 ∧ bytes[2] = flag ∧ bytes[3] = unused ∧
    linkBytes bytes = link := by
  subst laid
  refine ⟨?_, ?_, ?_, ?_, ?_⟩
  · exact Vector.getElem_append_left (by decide)
  · exact Vector.getElem_append_left (by decide)
  · exact Vector.getElem_append_left (by decide)
  · exact Vector.getElem_append_left (by decide)
  · apply Vector.ext
    intro i inside
    refine (Vector.getElem_drop _).trans ((Vector.getElem_append_right _ (by omega)).trans ?_)
    congr 1
    omega

theorem record_whole (bytes : Vector UInt8 Node.encodedLength) :
    recordBytes (half bytes[0] bytes[1]) bytes[2] bytes[3] (linkBytes bytes) = bytes := by
  apply Vector.ext
  intro i inside
  by_cases ahead : i < 4
  · refine (Vector.getElem_append_left ahead).trans ?_
    rw [bytes_of_half]
    match i, ahead with
    | 0, _ | 1, _ | 2, _ | 3, _ => rfl
  · refine (Vector.getElem_append_right _ (Nat.le_of_not_lt ahead)).trans ((Vector.getElem_drop _).trans ?_)
    congr 1
    omega

-- With its value in place, a record is given back exactly if the other parts are those it has.
theorem record_restored (bytes : Vector UInt8 Node.encodedLength) (flag unused : UInt8) (link : Vector UInt8 Handle.encodedLength) :
    recordBytes (half bytes[0] bytes[1]) flag unused link = bytes ↔ bytes[2] = flag ∧ bytes[3] = unused ∧
      linkBytes bytes = link := by
  constructor
  · intro same
    obtain ⟨_, _, parts⟩ := record_parts _ flag unused link bytes same.symm
    exact parts
  · rintro ⟨rfl, rfl, rfl⟩
    exact record_whole bytes

theorem decode_parts (bytes : Vector UInt8 Node.encodedLength) :
    Node.decode bytes =
      ⟨half bytes[0] bytes[1], if bytes[2] = 0 then none else some (Handle.ofBytes (linkBytes bytes))⟩ := rfl

theorem decode_encode (node : Node) : Node.decode node.encode = node := by
  obtain ⟨value, next⟩ := node
  cases next with
  | none =>
      obtain ⟨first, second, flag, _⟩ :=
        record_parts value 0 0 (Vector.replicate Handle.encodedLength 0) (Node.encode ⟨value, none⟩) rfl
      rw [decode_parts, first, second, flag, half_of_bytes]
      rfl
  | some h =>
      obtain ⟨first, second, flag, _, link⟩ := record_parts value 1 0 h.toBytes (Node.encode ⟨value, some h⟩) rfl
      rw [decode_parts, first, second, flag, link, half_of_bytes, handle_of_bytes]
      rfl

-- What a record becomes that is read and written again: the flag of a link becomes one, the byte that is not used becomes zero,
-- and so does a link that was not announced.
theorem encode_decode_last (bytes : Vector UInt8 Node.encodedLength) (last : bytes[2] = 0) :
    (Node.decode bytes).encode = recordBytes (half bytes[0] bytes[1]) 0 0 (Vector.replicate Handle.encodedLength 0) := by
  rw [decode_parts, if_pos last]
  rfl

theorem encode_decode_linked (bytes : Vector UInt8 Node.encodedLength) (linked : bytes[2] ≠ 0) :
    (Node.decode bytes).encode = recordBytes (half bytes[0] bytes[1]) 1 0 (linkBytes bytes) := by
  rw [decode_parts, if_neg linked]
  conv_rhs => rw [← bytes_of_handle (linkBytes bytes)]
  rfl

theorem encode_restores (bytes : Vector UInt8 Node.encodedLength) :
    (Node.decode bytes).encode = bytes ↔
      bytes[3] = 0 ∧ (bytes[2] = 1 ∨ bytes[2] = 0 ∧ linkBytes bytes = Vector.replicate Handle.encodedLength 0) := by
  by_cases flag : bytes[2] = 0
  · rw [encode_decode_last bytes flag, record_restored]
    simp [flag]
  · rw [encode_decode_linked bytes flag, record_restored]
    simp [flag, and_comm]

theorem records_round_trip :
    (∀ h : Handle, Handle.ofBytes h.toBytes = h) ∧
      (∀ bytes : Vector UInt8 Handle.encodedLength, (Handle.ofBytes bytes).toBytes = bytes) ∧
      (∀ node : Node, Node.decode node.encode = node) ∧
      (∀ bytes : Vector UInt8 Node.encodedLength, (Node.decode bytes).encode = bytes ↔
        bytes[3] = 0 ∧ (bytes[2] = 1 ∨ bytes[2] = 0 ∧ bytes.drop 4 = Vector.replicate Handle.encodedLength 0)) ∧
      ∀ bytes : Vector UInt8 Node.encodedLength, Node.decode (Node.decode bytes).encode = Node.decode bytes :=
  ⟨handle_of_bytes, bytes_of_handle, decode_encode, encode_restores, fun bytes => decode_encode (Node.decode bytes)⟩

end BlockPool
