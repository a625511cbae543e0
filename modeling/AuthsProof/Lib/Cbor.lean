import Mathlib.Data.List.Basic
import Mathlib.Tactic.NormNum

/-! Definite-length CBOR items. `Cbor` is a library of writers and readers of single items,
`LawfulCbor` says that it reads back what it writes, and `rfc8949` is the deterministic encoding. -/

/-- Writers and readers of single items. A reader returns the unread rest, `none` where the input
does not start with an item of its kind; an array or map header carries no length when the item is
of indefinite length. -/
class Cbor where
  uint : UInt64 → List UInt8
  bytes : List UInt8 → List UInt8
  text : String → List UInt8
  array : Nat → List UInt8
  map : Nat → List UInt8
  bool : Bool → List UInt8
  null : List UInt8
  readUint : List UInt8 → Option (UInt64 × List UInt8)
  readBytes : List UInt8 → Option (List UInt8 × List UInt8)
  readText : List UInt8 → Option (String × List UInt8)
  readArray : List UInt8 → Option (Option Nat × List UInt8)
  readMap : List UInt8 → Option (Option Nat × List UInt8)
  readBool : List UInt8 → Option (Bool × List UInt8)
  readNull : List UInt8 → Option (Unit × List UInt8)
  isNull : List UInt8 → Option Bool

/-- What is written is read back, whatever follows it; lengths are 64-bit. -/
class LawfulCbor [Cbor] : Prop where
  readUint_uint : ∀ n rest, Cbor.readUint (Cbor.uint n ++ rest) = some (n, rest)
  readBytes_bytes : ∀ bs rest, bs.length < 2 ^ 64 →
    Cbor.readBytes (Cbor.bytes bs ++ rest) = some (bs, rest)
  readText_text : ∀ s rest, s.utf8ByteSize < 2 ^ 64 →
    Cbor.readText (Cbor.text s ++ rest) = some (s, rest)
  readArray_array : ∀ n rest, n < 2 ^ 64 → Cbor.readArray (Cbor.array n ++ rest) = some (some n, rest)
  readMap_map : ∀ n rest, n < 2 ^ 64 → Cbor.readMap (Cbor.map n ++ rest) = some (some n, rest)
  readBool_bool : ∀ b rest, Cbor.readBool (Cbor.bool b ++ rest) = some (b, rest)
  readNull_null : ∀ rest, Cbor.readNull (Cbor.null ++ rest) = some ((), rest)
  isNull_null : ∀ rest, Cbor.isNull (Cbor.null ++ rest) = some true
  isNull_bytes : ∀ bs rest, bs.length < 2 ^ 64 → Cbor.isNull (Cbor.bytes bs ++ rest) = some false
  isNull_text : ∀ s rest, s.utf8ByteSize < 2 ^ 64 → Cbor.isNull (Cbor.text s ++ rest) = some false
  isNull_map : ∀ n rest, n < 2 ^ 64 → Cbor.isNull (Cbor.map n ++ rest) = some false
  isNull_uint : ∀ n rest, Cbor.isNull (Cbor.uint n ++ rest) = some false

/-- A reader of one type of item refuses the items of the other types. -/
class TypedCbor [Cbor] : Prop where
  readUint_bytes : ∀ bs rest, bs.length < 2 ^ 64 → Cbor.readUint (Cbor.bytes bs ++ rest) = none
  readUint_text : ∀ s rest, s.utf8ByteSize < 2 ^ 64 → Cbor.readUint (Cbor.text s ++ rest) = none
  readBytes_text : ∀ s rest, s.utf8ByteSize < 2 ^ 64 → Cbor.readBytes (Cbor.text s ++ rest) = none

/-- The head of an item is at most nine bytes. -/
class CompactCbor [Cbor] : Prop where
  length_uint : ∀ n, (Cbor.uint n).length ≤ 9
  length_bytes : ∀ bs, (Cbor.bytes bs).length ≤ 9 + bs.length
  length_text : ∀ s, (Cbor.text s).length ≤ 9 + s.utf8ByteSize
  length_array : ∀ n, (Cbor.array n).length ≤ 9
  length_map : ∀ n, (Cbor.map n).length ≤ 9
  length_null : Cbor.null.length ≤ 9

namespace Rfc8949

/-- The `width` big-endian bytes of a number. -/
def bigEndian : Nat → Nat → List UInt8
  | 0, _ => []
  | width + 1, n => bigEndian width (n / 256) ++ [UInt8.ofNat n]

def fromBigEndian (bs : List UInt8) : Nat := bs.foldl (fun n b => n * 256 + b.toNat) 0

@[simp] theorem bigEndian_length (width n : Nat) : (bigEndian width n).length = width := by
  induction width generalizing n with
  | zero => rfl
  | succ width ih => simp [bigEndian, ih]

theorem fromBigEndian_bigEndian {width n : Nat} (h : n < 256 ^ width) :
    fromBigEndian (bigEndian width n) = n := by
  induction width generalizing n with
  | zero =>
    have hzero : n = 0 := by simpa using h
    simp [hzero, fromBigEndian, bigEndian]
  | succ width ih =>
    have hdiv : n / 256 < 256 ^ width := by
      rw [Nat.div_lt_iff_lt_mul (by norm_num)]
      rwa [pow_succ] at h
    have hinit := ih hdiv
    simp only [fromBigEndian] at hinit
    simp only [bigEndian, fromBigEndian, List.foldl_append, hinit, List.foldl_cons, List.foldl_nil,
      UInt8.toNat_ofNat']
    omega

/-- The initial byte of an item: its major type and its additional information. -/
def initial (major info : Nat) : UInt8 := UInt8.ofNat (major * 32 + info)

/-- The shortest head of a major type and its argument. -/
def head (major n : Nat) : List UInt8 :=
  if n < 24 then [initial major n]
  else if n < 256 then initial major 24 :: bigEndian 1 n
  else if n < 256 ^ 2 then initial major 25 :: bigEndian 2 n
  else if n < 256 ^ 4 then initial major 26 :: bigEndian 4 n
  else initial major 27 :: bigEndian 8 n

def take (width : Nat) (input : List UInt8) : Option (List UInt8 × List UInt8) :=
  if width ≤ input.length then some (input.take width, input.drop width) else none

theorem take_append {bs rest : List UInt8} : take bs.length (bs ++ rest) = some (bs, rest) := by
  simp [take]

def argument (width : Nat) (input : List UInt8) : Option (Option Nat × List UInt8) :=
  (take width input).map fun (bs, rest) => (some (fromBigEndian bs), rest)

theorem argument_bigEndian {width n : Nat} (h : n < 256 ^ width) (rest : List UInt8) :
    argument width (bigEndian width n ++ rest) = some (some n, rest) := by
  have htake := @take_append (bigEndian width n) rest
  rw [bigEndian_length] at htake
  simp [argument, htake, fromBigEndian_bigEndian h]

/-- Reads a head of the major type, in any of its widths; `none` as argument is the indefinite
length. -/
def readHead (major : Nat) : List UInt8 → Option (Option Nat × List UInt8)
  | [] => none
  | b :: rest =>
    if b.toNat / 32 ≠ major then none
    else if b.toNat % 32 < 24 then some (some (b.toNat % 32), rest)
    else if b.toNat % 32 = 24 then argument 1 rest
    else if b.toNat % 32 = 25 then argument 2 rest
    else if b.toNat % 32 = 26 then argument 4 rest
    else if b.toNat % 32 = 27 then argument 8 rest
    else if b.toNat % 32 = 31 then some (none, rest)
    else none

theorem initial_toNat {major info : Nat} (hmajor : major < 8) (hinfo : info < 32) :
    (initial major info).toNat = major * 32 + info := by
  rw [initial, UInt8.toNat_ofNat', Nat.mod_eq_of_lt]
  norm_num
  omega

theorem length_head (major n : Nat) : (head major n).length ≤ 9 := by
  unfold head
  split_ifs <;> simp

/-- The widths a head comes in, by their additional information. -/
def widths : List (Nat × Nat) := [(24, 1), (25, 2), (26, 4), (27, 8)]

theorem head_eq (major : Nat) {n : Nat} (hn : n < 2 ^ 64) :
    (n < 24 ∧ head major n = [initial major n]) ∨
      ∃ w ∈ widths, n < 256 ^ w.2 ∧ head major n = initial major w.1 :: bigEndian w.2 n := by
  unfold head
  split_ifs with h24 h1 h2 h4
  · exact Or.inl ⟨h24, rfl⟩
  · exact Or.inr ⟨(24, 1), by simp [widths], by simpa using h1, rfl⟩
  · exact Or.inr ⟨(25, 2), by simp [widths], h2, rfl⟩
  · exact Or.inr ⟨(26, 4), by simp [widths], h4, rfl⟩
  · exact Or.inr ⟨(27, 8), by simp [widths], by norm_num at hn ⊢; exact hn, rfl⟩

theorem readHead_wide {major : Nat} (hmajor : major < 8) {w : Nat × Nat} (hw : w ∈ widths)
    (rest : List UInt8) : readHead major (initial major w.1 :: rest) = argument w.2 rest := by
  have hdiv : ∀ info < 32, (major * 32 + info) / 32 = major := by
    intro info hinfo
    omega
  simp only [widths, List.mem_cons, List.not_mem_nil, or_false] at hw
  rcases hw with rfl | rfl | rfl | rfl <;>
    simp [readHead, initial_toNat hmajor, hdiv, Nat.add_mod]

theorem readHead_head {major n : Nat} (hmajor : major < 8) (hn : n < 2 ^ 64) (rest : List UInt8) :
    readHead major (head major n ++ rest) = some (some n, rest) := by
  rcases head_eq major hn with ⟨h24, heq⟩ | ⟨w, hw, hlt, heq⟩
  · have hinfo : n < 32 := by omega
    have hdiv : (major * 32 + n) / 32 = major := by omega
    have hmod : (major * 32 + n) % 32 = n := by omega
    simp [heq, readHead, initial_toNat hmajor hinfo, hdiv, hmod, h24]
  · rw [heq, List.cons_append, readHead_wide hmajor hw, argument_bigEndian hlt]

/-- A head of one major type is refused by the readers of the others. -/
theorem readHead_other {major other n : Nat} (hother : other < 8) (hne : other ≠ major)
    (hn : n < 2 ^ 64) (rest : List UInt8) : readHead major (head other n ++ rest) = none := by
  have hdiv (info : Nat) (hinfo : info < 32) : (initial other info).toNat / 32 ≠ major := by
    rw [initial_toNat hother hinfo]
    omega
  have hwidth : ∀ w ∈ widths, w.1 < 32 := by decide
  rcases head_eq other hn with ⟨h24, heq⟩ | ⟨w, hw, -, heq⟩
  · simp [heq, readHead, hdiv n (by omega)]
  · simp [heq, readHead, hdiv w.1 (hwidth w hw)]

/-- The byte string of a head that was just read. -/
def payload : Option (Option Nat × List UInt8) → Option (List UInt8 × List UInt8)
  | some (some n, rest) => take n rest
  | _ => none

def isNullByte : List UInt8 → Option Bool
  | [] => none
  | b :: _ => some (b = 0xF6)

theorem isNullByte_head {major n : Nat} (hmajor : major < 7) (hn : n < 2 ^ 64) (rest : List UInt8) :
    isNullByte (head major n ++ rest) = some false := by
  have hne : ∀ info < 32, initial major info ≠ 0xF6 := by
    intro info hinfo heq
    have hnat := congrArg UInt8.toNat heq
    rw [initial_toNat (by omega) hinfo] at hnat
    have h246 : (0xF6 : UInt8).toNat = 246 := rfl
    omega
  have hwidth : ∀ w ∈ widths, w.1 < 32 := by decide
  rcases head_eq major hn with ⟨h24, heq⟩ | ⟨w, hw, -, heq⟩
  · simp [heq, isNullByte, hne n (by omega)]
  · simp [heq, isNullByte, hne w.1 (hwidth w hw)]

end Rfc8949

open Rfc8949 in
/-- The preferred serialization of RFC 8949: heads of the shortest form on the way out, heads of
any form on the way in. -/
@[reducible] def rfc8949 : Cbor where
  uint n := head 0 n.toNat
  bytes bs := head 2 bs.length ++ bs
  text s := head 3 s.utf8ByteSize ++ s.toUTF8.data.toList
  array n := head 4 n
  map n := head 5 n
  bool b := [if b then 0xF5 else 0xF4]
  null := [0xF6]
  readUint input :=
    match readHead 0 input with
    | some (some n, rest) => some (UInt64.ofNat n, rest)
    | _ => none
  readBytes input := payload (readHead 2 input)
  readText input :=
    match payload (readHead 3 input) with
    | some (bs, rest) => (String.fromUTF8? ⟨⟨bs⟩⟩).map fun s => (s, rest)
    | none => none
  readArray := readHead 4
  readMap := readHead 5
  readBool input :=
    match input with
    | 0xF4 :: rest => some (false, rest)
    | 0xF5 :: rest => some (true, rest)
    | _ => none
  readNull input :=
    match input with
    | 0xF6 :: rest => some ((), rest)
    | _ => none
  isNull := isNullByte

open Rfc8949 in
theorem rfc8949_lawful : @LawfulCbor rfc8949 :=
  @LawfulCbor.mk rfc8949
    (by
      intro n rest
      show (match readHead 0 (head 0 n.toNat ++ rest) with
        | some (some n, rest) => some (UInt64.ofNat n, rest)
        | _ => none) = _
      rw [readHead_head (by norm_num) n.toNat_lt]
      simp)
    (by
      intro bs rest h
      show payload (readHead 2 (head 2 bs.length ++ bs ++ rest)) = _
      rw [List.append_assoc, readHead_head (by norm_num) h]
      exact take_append)
    (by
      intro s rest h
      have htake : take s.utf8ByteSize (s.toUTF8.data.toList ++ rest) =
        some (s.toUTF8.data.toList, rest) := @take_append s.toUTF8.data.toList rest
      have hvalid : String.fromUTF8? s.toUTF8 = some s := by
        simp [String.fromUTF8?, String.fromUTF8, String.toUTF8, s.isValidUTF8]
      show (match payload (readHead 3 (head 3 s.utf8ByteSize ++ s.toUTF8.data.toList ++ rest)) with
        | some (bs, rest) => (String.fromUTF8? ⟨⟨bs⟩⟩).map fun s => (s, rest)
        | none => none) = _
      rw [List.append_assoc, readHead_head (by norm_num) h, payload, htake]
      show (String.fromUTF8? s.toUTF8).map (fun s => (s, rest)) = _
      rw [hvalid, Option.map_some])
    (fun n rest h => readHead_head (by norm_num) h rest)
    (fun n rest h => readHead_head (by norm_num) h rest)
    (by
      intro b rest
      cases b <;> rfl)
    (fun rest => rfl)
    (fun rest => rfl)
    (by
      intro bs rest h
      show isNullByte (head 2 bs.length ++ bs ++ rest) = _
      rw [List.append_assoc, isNullByte_head (by norm_num) h])
    (by
      intro s rest h
      show isNullByte (head 3 s.utf8ByteSize ++ s.toUTF8.data.toList ++ rest) = _
      rw [List.append_assoc, isNullByte_head (by norm_num) h])
    (fun n rest h => isNullByte_head (by norm_num) h rest)
    (fun n rest => isNullByte_head (by norm_num) n.toNat_lt rest)

open Rfc8949 in
theorem rfc8949_typed : @TypedCbor rfc8949 :=
  @TypedCbor.mk rfc8949
    (by
      intro bs rest h
      show (match readHead 0 (head 2 bs.length ++ bs ++ rest) with
        | some (some n, rest) => some (UInt64.ofNat n, rest)
        | _ => none) = _
      rw [List.append_assoc, readHead_other (by norm_num) (by norm_num) h])
    (by
      intro s rest h
      show (match readHead 0 (head 3 s.utf8ByteSize ++ s.toUTF8.data.toList ++ rest) with
        | some (some n, rest) => some (UInt64.ofNat n, rest)
        | _ => none) = _
      rw [List.append_assoc, readHead_other (by norm_num) (by norm_num) h])
    (by
      intro s rest h
      show payload (readHead 2 (head 3 s.utf8ByteSize ++ s.toUTF8.data.toList ++ rest)) = _
      rw [List.append_assoc, readHead_other (by norm_num) (by norm_num) h]
      rfl)

open Rfc8949 in
theorem rfc8949_compact : @CompactCbor rfc8949 :=
  @CompactCbor.mk rfc8949
    (fun n => length_head 0 n.toNat)
    (by
      intro bs
      have hhead := length_head 2 bs.length
      show (head 2 bs.length ++ bs).length ≤ _
      rw [List.length_append]
      omega)
    (by
      intro s
      have hhead := length_head 3 s.utf8ByteSize
      have hsize : s.toUTF8.data.toList.length = s.utf8ByteSize := by
        rw [Array.length_toList]
        rfl
      show (head 3 s.utf8ByteSize ++ s.toUTF8.data.toList).length ≤ _
      rw [List.length_append]
      omega)
    (length_head 4)
    (length_head 5)
    (by decide)
