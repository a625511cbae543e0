import AuthsProof.CodecPrimitive

/-! How long the items the codec is made of are at most, and the maps made of them. -/

namespace AuthsProof

variable [Cbor] [CompactCbor]

theorem length_encodeKey (k : UInt8) : (encodeKey k).length ≤ 9 := CompactCbor.length_uint _

theorem length_encodeU8 (value : UInt8) : (encodeU8 value).length ≤ 9 := CompactCbor.length_uint _

theorem length_encodeU16 (value : UInt16) : (encodeU16 value).length ≤ 9 :=
  CompactCbor.length_uint _

theorem length_encodeU64 (value : UInt64) : (encodeU64 value).length ≤ 9 :=
  CompactCbor.length_uint _

theorem length_encodeDigest (digest : Digest) : (encodeDigest digest).length ≤ 41 := by
  have h := CompactCbor.length_bytes digest.bytes
  rw [digest.length_eq] at h
  exact h

theorem length_encodeOptional {α : Type} {encode : α → Bytes} {bound : Nat} (hbound : 9 ≤ bound)
    (h : ∀ a, (encode a).length ≤ bound) (value : Option α) :
    (encodeOptional encode value).length ≤ bound := by
  cases value with
  | none => exact CompactCbor.length_null.trans hbound
  | some a => exact h a

theorem length_encodeList {α : Type} {encode : α → Bytes} {bound : Nat} {items : List α}
    (h : ∀ a ∈ items, (encode a).length ≤ bound) :
    (encodeList encode items).length ≤ 9 + items.length * bound := by
  have harray := CompactCbor.length_array items.length
  have hitems : (items.flatMap encode).length ≤ items.length * bound := by
    clear harray
    induction items with
    | nil => simp
    | cons a items ih =>
      have hfirst := h a List.mem_cons_self
      have hrest := ih fun b hb => h b (List.mem_cons_of_mem a hb)
      rw [List.flatMap_cons, List.length_append, List.length_cons, Nat.succ_mul]
      omega
  rw [encodeList, List.length_append]
  omega

theorem length_object {n bound : Nat} {css : List Bytes} (h : css.flatten.length ≤ bound) :
    (Cbor.map n :: css).flatten.length ≤ 9 + bound := by
  have hmap := CompactCbor.length_map n
  rw [List.flatten_cons, List.length_append]
  omega

theorem length_field (k : UInt8) {bs : Bytes} {css : List Bytes} {size bound : Nat}
    (hsize : bs.length ≤ size) (h : css.flatten.length ≤ bound) :
    (encodeKey k :: bs :: css).flatten.length ≤ 9 + (size + bound) := by
  have hkey := length_encodeKey k
  rw [List.flatten_cons, List.flatten_cons, List.length_append, List.length_append]
  omega

theorem length_lastField (k : UInt8) {bs : Bytes} {size : Nat} (hsize : bs.length ≤ size) :
    [encodeKey k, bs].flatten.length ≤ 9 + size := by
  have hnone : ([] : List Bytes).flatten.length ≤ 0 := Nat.le_refl 0
  exact length_field k hsize hnone

end AuthsProof
