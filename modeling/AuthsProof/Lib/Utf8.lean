import Mathlib.Data.List.Basic
import Mathlib.Tactic.NormNum

/-! Texts as the bytes of their characters. -/

namespace Utf8

/-- The bytes of a text. -/
def encode (text : List Char) : List UInt8 := text.flatMap String.utf8EncodeChar

/-- The bytes of some text. -/
def IsText (bs : List UInt8) : Prop := ∃ text, bs = encode text

@[simp] theorem encode_nil : encode [] = [] := rfl

theorem encode_cons (c : Char) (text : List Char) :
    encode (c :: text) = String.utf8EncodeChar c ++ encode text := rfl

theorem encode_append (text other : List Char) : encode (text ++ other) = encode text ++ encode other :=
  List.flatMap_append

theorem encode_singleton (c : Char) : encode [c] = String.utf8EncodeChar c := by
  rw [encode_cons, encode_nil, List.append_nil]

theorem toByteArray_encode (text : List Char) : (⟨⟨encode text⟩⟩ : ByteArray) = text.utf8Encode := by
  rw [List.utf8Encode]
  apply ByteArray.ext
  rw [List.data_toByteArray]
  rfl

theorem encode_toList (s : String) : encode s.toList = s.toUTF8.data.toList := by
  have h := toByteArray_encode s.toList
  have hbytes : s.toList.utf8Encode = s.toUTF8 := by
    rw [← String.toByteArray_ofList, String.ofList_toList]
    rfl
  rw [hbytes] at h
  rw [← h]

/-- Where a character ends can be told from its bytes. -/
theorem encodeChar_append_inj {c d : Char} {xs ys : List UInt8}
    (h : String.utf8EncodeChar c ++ xs = String.utf8EncodeChar d ++ ys) : c = d ∧ xs = ys := by
  have hbytes : [c].utf8Encode ++ (⟨⟨xs⟩⟩ : ByteArray) = [d].utf8Encode ++ (⟨⟨ys⟩⟩ : ByteArray) := by
    rw [List.utf8Encode_singleton, List.utf8Encode_singleton]
    apply ByteArray.ext
    simp only [ByteArray.data_append, List.data_toByteArray]
    apply Array.ext'
    simpa using h
  have hchar := congrArg (fun bs => ByteArray.utf8DecodeChar? bs 0) hbytes
  simp only [List.utf8DecodeChar?_utf8Encode_singleton_append, Option.some.injEq] at hchar
  subst hchar
  exact ⟨rfl, List.append_cancel_left h⟩

theorem encodeChar_ne_nil (c : Char) : String.utf8EncodeChar c ≠ [] := by
  intro h
  have hlength := String.length_utf8EncodeChar c
  have hpos := c.utf8Size_pos
  rw [h, List.length_nil] at hlength
  omega

/-- What is left of a text after its first character. -/
theorem encodeChar_append_eq_encode {c : Char} {bs : List UInt8} {text : List Char}
    (h : String.utf8EncodeChar c ++ bs = encode text) : ∃ rest, text = c :: rest ∧ bs = encode rest := by
  cases text with
  | nil =>
    rw [encode_nil, List.append_eq_nil_iff] at h
    exact absurd h.1 (encodeChar_ne_nil c)
  | cons d rest =>
    rw [encode_cons] at h
    obtain ⟨rfl, hrest⟩ := encodeChar_append_inj h
    exact ⟨rest, rfl, hrest⟩

theorem encode_injective : Function.Injective encode := by
  intro text other h
  induction text generalizing other with
  | nil =>
    cases other with
    | nil => rfl
    | cons d other =>
      rw [encode_nil, encode_cons, eq_comm, List.append_eq_nil_iff] at h
      exact absurd h.1 (encodeChar_ne_nil d)
  | cons c text ih =>
    rw [encode_cons] at h
    obtain ⟨rest, rfl, hrest⟩ := encodeChar_append_eq_encode h
    rw [ih hrest]

theorem encodeChar_ascii {c : Char} (h : c.toNat < 0x80) :
    String.utf8EncodeChar c = [UInt8.ofNat c.toNat] := by
  have hsmall : c.val.toNat ≤ 0x7F := Nat.le_of_lt_succ h
  rw [String.utf8EncodeChar, if_pos hsmall]
  rfl

/-- Beyond ASCII, every byte has its top bit set. -/
theorem high_of_mem_encodeChar {c : Char} (h : 0x80 ≤ c.toNat) {b : UInt8}
    (hb : b ∈ String.utf8EncodeChar c) : 0x80 ≤ b.toNat := by
  have hbig : ¬c.val.toNat ≤ 0x7F := Nat.not_le.mpr h
  have hmax : c.val.toNat ≤ 0x10FFFF := by
    have hvalid : c.val.toNat < 0xD800 ∨ 0xDFFF < c.val.toNat ∧ c.val.toNat < 0x110000 := c.valid
    omega
  have hbyte : ∀ n, 0x80 ≤ n → n < 0x100 → 0x80 ≤ (UInt8.ofNat n).toNat := by
    intro n hlow hhigh
    rw [UInt8.toNat_ofNat', Nat.mod_eq_of_lt hhigh]
    exact hlow
  rw [String.utf8EncodeChar, if_neg hbig] at hb
  split at hb
  · simp only [List.mem_cons, List.not_mem_nil, or_false] at hb
    rcases hb with rfl | rfl <;> exact hbyte _ (by omega) (by omega)
  · split at hb
    · simp only [List.mem_cons, List.not_mem_nil, or_false] at hb
      rcases hb with rfl | rfl | rfl <;> exact hbyte _ (by omega) (by omega)
    · simp only [List.mem_cons, List.not_mem_nil, or_false] at hb
      rcases hb with rfl | rfl | rfl | rfl <;> exact hbyte _ (by omega) (by omega)

theorem isText_nil : IsText [] := ⟨[], rfl⟩

theorem isText_encode (text : List Char) : IsText (encode text) := ⟨text, rfl⟩

theorem IsText.append {xs ys : List UInt8} (hx : IsText xs) (hy : IsText ys) : IsText (xs ++ ys) := by
  obtain ⟨text, rfl⟩ := hx
  obtain ⟨other, rfl⟩ := hy
  exact ⟨text ++ other, (encode_append text other).symm⟩

/-- The standard decoder accepts exactly the texts. -/
theorem fromUTF8?_eq_some {bs : List UInt8} {s : String} :
    String.fromUTF8? ⟨⟨bs⟩⟩ = some s ↔ bs = encode s.toList := by
  rw [encode_toList]
  constructor
  · intro h
    unfold String.fromUTF8? at h
    split at h
    · rw [← Option.some.inj h]
      rfl
    · cases h
  · intro h
    subst h
    show String.fromUTF8? s.toUTF8 = some s
    simp [String.fromUTF8?, String.fromUTF8, String.toUTF8, s.isValidUTF8]

end Utf8
