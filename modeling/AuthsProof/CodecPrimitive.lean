import AuthsProof.Lib.Cbor
import AuthsProof.Lib.Wire
import AuthsProof.Statement

/-! The items the codec is made of: text, bytes, integers, keyed fields, bounded arrays and optional
fields, each with what its decoder makes of its encoding. -/

namespace AuthsProof

open Wire

inductive CodecError where
  | limitExceeded
  | malformed
  | nonCanonical
  | digestMismatch
  | duplicateObject
  | model (error : ModelError)
  deriving DecidableEq

/-- The SHA-256 implementation the codec and the verifier call. -/
class Sha256 where
  digest : Bytes → Digest

abbrev Decoder (α : Type) := Reader CodecError α

section Encoders

variable [Cbor]

def encodeKey (value : UInt8) : Bytes := Cbor.uint value.toUInt64
def encodeU8 (value : UInt8) : Bytes := Cbor.uint value.toUInt64
def encodeU16 (value : UInt16) : Bytes := Cbor.uint value.toUInt64
def encodeU64 (value : UInt64) : Bytes := Cbor.uint value
def encodeDigest (digest : Digest) : Bytes := Cbor.bytes digest.bytes

def encodeList {α : Type} (encode : α → Bytes) (items : List α) : Bytes :=
  Cbor.array items.length ++ items.flatMap encode

def encodeOptional {α : Type} (encode : α → Bytes) : Option α → Bytes
  | some item => encode item
  | none => Cbor.null

end Encoders

namespace Decode

variable [Cbor]

def model {α : Type} (value : Except ModelError α) : Decoder α :=
  fromExcept (value.mapError CodecError.model)

def item {α : Type} (read : Bytes → Option (α × Bytes)) : Decoder α := fun input =>
  match read input with
  | some result => .ok result
  | none => .error .malformed

/-- The number of entries of a definite-length map. -/
def mapEntries : Decoder Nat := do
  match ← item Cbor.readMap with
  | some entries => pure entries
  | none => fromExcept (.error .malformed)

def map (expected : Nat) : Decoder Unit := do
  ensure ((← mapEntries) = expected) .malformed

def array (maximum : Nat) : Decoder Nat := do
  match ← item Cbor.readArray with
  | some length => do
    ensure (length ≤ maximum) .limitExceeded
    pure length
  | none => fromExcept (.error .malformed)

def arrayExact (expected : Nat) : Decoder Unit := do
  ensure ((← item Cbor.readArray) = some expected) .malformed

def u8 : Decoder UInt8 := do
  let value ← item Cbor.readUint
  ensure (value.toNat < 2 ^ 8) .malformed
  pure value.toUInt8

def u16 : Decoder UInt16 := do
  let value ← item Cbor.readUint
  ensure (value.toNat < 2 ^ 16) .malformed
  pure value.toUInt16

def u64 : Decoder UInt64 := item Cbor.readUint

def bool : Decoder Bool := item Cbor.readBool

def key (expected : UInt8) : Decoder Unit := do
  ensure ((← u8) = expected) .nonCanonical

def text : Decoder String := item Cbor.readText

def boundedBytes (maximum : Nat) (nonEmpty : Bool) : Decoder Bytes := do
  let bytes ← item Cbor.readBytes
  ensure (bytes.length ≤ maximum ∧ (nonEmpty = true → bytes ≠ [])) .limitExceeded
  pure bytes

def digestBytes : Decoder Digest := do
  match Digest.new (← item Cbor.readBytes) with
  | some digest => pure digest
  | none => fromExcept (.error .malformed)

def isNull : Decoder Bool := fun input =>
  match Cbor.isNull input with
  | some value => .ok (value, input)
  | none => .error .malformed

def null : Decoder Unit := item Cbor.readNull

def parsed {α : Type} (parse : String → Except ModelError α) : Decoder α := do
  model (parse (← text))

def optional {α : Type} (read : Decoder α) : Decoder (Option α) := do
  if ← isNull then
    null
    pure none
  else
    let value ← read
    pure (some value)

def list {α : Type} (maximum : Nat) (read : Decoder α) : Decoder (List α) := do
  let length ← array maximum
  readMany read length

/-- The protocol version of a statement. -/
def protocolVersion : Decoder Unit := do
  let version ← u16
  model (if version = protocolV1 then .ok () else .error .unsupportedProtocol)

end Decode

section Laws

open Decode

theorem reads_item {α : Type} {read : Bytes → Option (α × Bytes)} {bs : Bytes} {a : α}
    (h : ∀ rest, read (bs ++ rest) = some (a, rest)) : Reads (item read) bs a := by
  intro rest
  show (match read (bs ++ rest) with
    | some result => Except.ok result
    | none => .error CodecError.malformed) = _
  rw [h]

theorem reads_model {α : Type} {value : Except ModelError α} {a : α} (h : value = .ok a) :
    Reads (model value) [] a := by
  subst h
  exact Reads.lift rfl

theorem readsIf_model {α : Type} {p : Prop} {value : Except ModelError α} {a : α}
    (hok : p → value = .ok a) (herror : ¬p → ∃ e, value = .error e) :
    ReadsIf p (model value) [] a := by
  refine ReadsIf.lift (fun hp => ?_) (fun hp => ?_)
  · rw [hok hp]
    rfl
  · obtain ⟨e, he⟩ := herror hp
    exact ⟨.model e, by rw [he]; rfl⟩

variable [Cbor] [LawfulCbor]

theorem reads_mapEntries {n : Nat} (h : n < 2 ^ 64) : Reads mapEntries (Cbor.map n) n :=
  (reads_item fun rest => LawfulCbor.readMap_map n rest h).then (Reads.pure n)

theorem reads_map {n : Nat} (h : n < 2 ^ 64) : Reads (map n) (Cbor.map n) () :=
  (reads_mapEntries h).then (Reads.ensure _ rfl)

theorem readsIf_array {n : Nat} (h : n < 2 ^ 64) (maximum : Nat) :
    ReadsIf (n ≤ maximum) (array maximum) (Cbor.array n) n :=
  (reads_item fun rest => LawfulCbor.readArray_array n rest h).thenIf
    ((ReadsIf.ensure (n ≤ maximum) CodecError.limitExceeded).step (ReadsIf.pure n) |>.congr (by simp))

theorem reads_u8 (value : UInt8) : Reads u8 (encodeU8 value) value := by
  refine (reads_item fun rest => LawfulCbor.readUint_uint value.toUInt64 rest).then ?_
  have hlt : value.toUInt64.toNat < 2 ^ 8 := by simpa using value.toNat_lt
  refine (Reads.ensure _ hlt).then ?_
  rw [UInt8.toUInt8_toUInt64]
  exact Reads.pure value

theorem reads_u16 (value : UInt16) : Reads u16 (encodeU16 value) value := by
  refine (reads_item fun rest => LawfulCbor.readUint_uint value.toUInt64 rest).then ?_
  have hlt : value.toUInt64.toNat < 2 ^ 16 := by simpa using value.toNat_lt
  refine (Reads.ensure _ hlt).then ?_
  rw [UInt16.toUInt16_toUInt64]
  exact Reads.pure value

theorem reads_u64 (value : UInt64) : Reads u64 (encodeU64 value) value :=
  reads_item fun rest => LawfulCbor.readUint_uint value rest

theorem reads_bool (value : Bool) : Reads bool (Cbor.bool value) value :=
  reads_item fun rest => LawfulCbor.readBool_bool value rest

theorem reads_key (value : UInt8) : Reads (key value) (encodeKey value) () :=
  (reads_u8 value).then (Reads.ensure _ rfl)

theorem reads_text {s : String} (h : s.utf8ByteSize < 2 ^ 64) : Reads text (Cbor.text s) s :=
  reads_item fun rest => LawfulCbor.readText_text s rest h

theorem readsIf_boundedBytes {bs : Bytes} (h : bs.length < 2 ^ 64) (maximum : Nat) (nonEmpty : Bool) :
    ReadsIf (bs.length ≤ maximum ∧ (nonEmpty = true → bs ≠ [])) (boundedBytes maximum nonEmpty)
      (Cbor.bytes bs) bs :=
  (reads_item fun rest => LawfulCbor.readBytes_bytes bs rest h).thenIf
    ((ReadsIf.ensure _ CodecError.limitExceeded).step (ReadsIf.pure bs) |>.congr (by simp))

theorem reads_digestBytes (digest : Digest) : Reads digestBytes (encodeDigest digest) digest := by
  have hlen : digest.bytes.length < 2 ^ 64 := by simp [digest.length_eq]
  refine (reads_item fun rest => LawfulCbor.readBytes_bytes digest.bytes rest hlen).then ?_
  rw [Digest.new_bytes]
  exact Reads.pure digest

theorem reads_parsed {α : Type} {parse : String → Except ModelError α} {s : String} {a : α}
    (h : s.utf8ByteSize < 2 ^ 64) (hparse : parse s = .ok a) :
    Reads (parsed parse) (Cbor.text s) a :=
  (reads_text h).then (reads_model hparse)

theorem reads_protocolVersion : Reads protocolVersion (encodeU16 protocolV1) () :=
  (reads_u16 protocolV1).then (reads_model rfl)

/-- An encoding that does not start with a null item. -/
def NotNull (bs : Bytes) : Prop := ∀ rest, Cbor.isNull (bs ++ rest) = some false

theorem notNull_digest (digest : Digest) : NotNull (encodeDigest digest) := fun rest =>
  LawfulCbor.isNull_bytes digest.bytes rest (by simp [digest.length_eq])

theorem notNull_bytes {bs : Bytes} (h : bs.length < 2 ^ 64) : NotNull (Cbor.bytes bs) := fun rest =>
  LawfulCbor.isNull_bytes bs rest h

theorem notNull_text {s : String} (h : s.utf8ByteSize < 2 ^ 64) : NotNull (Cbor.text s) := fun rest =>
  LawfulCbor.isNull_text s rest h

theorem notNull_u64 (value : UInt64) : NotNull (encodeU64 value) := fun rest =>
  LawfulCbor.isNull_uint value rest

theorem notNull_u16 (value : UInt16) : NotNull (encodeU16 value) := fun rest =>
  LawfulCbor.isNull_uint value.toUInt64 rest

theorem notNull_map {n : Nat} (h : n < 2 ^ 64) (css : List Bytes) :
    NotNull (Cbor.map n :: css).flatten := by
  intro rest
  rw [List.flatten_cons, List.append_assoc]
  exact LawfulCbor.isNull_map n _ h

omit [LawfulCbor] in
theorem run_optional {α : Type} (read : Decoder α) (input : Bytes) :
    (optional read).run input =
      match Cbor.isNull input with
      | some true => (null >>= fun _ => pure none : Decoder (Option α)).run input
      | some false => (read >>= fun a => pure (some a)).run input
      | none => .error .malformed := by
  show (isNull >>= fun b => if b = true then (null >>= fun _ => pure none : Decoder (Option α))
    else (read >>= fun a => pure (some a))).run input = _
  rw [StateT.run_bind]
  show (match Cbor.isNull input with
    | some value => Except.ok (value, input)
    | none => .error CodecError.malformed) >>= _ = _
  cases Cbor.isNull input with
  | none => rfl
  | some value => cases value <;> rfl

theorem readsIf_optional {α : Type} {read : Decoder α} {encode : α → Bytes} {fits : α → Prop}
    {value : Option α} (hnull : ∀ a ∈ value, NotNull (encode a))
    (h : ∀ a ∈ value, ReadsIf (fits a) read (encode a) a) :
    ReadsIf (∀ a ∈ value, fits a) (optional read) (encodeOptional encode value) value := by
  cases value with
  | none =>
    have hread : Reads (null >>= fun _ => pure none : Decoder (Option α)) Cbor.null none :=
      (reads_item fun rest => LawfulCbor.readNull_null rest).then (Reads.pure none)
    refine ReadsIf.congr (Reads.readsIf fun rest => ?_) (by simp)
    rw [run_optional, encodeOptional, LawfulCbor.isNull_null]
    exact hread rest
  | some a =>
    have hread : ReadsIf (fits a ∧ True) (read >>= fun a => pure (some a)) (encode a ++ []) (some a) :=
      (h a rfl).bind (ReadsIf.pure (some a))
    rw [List.append_nil] at hread
    have hrun : ∀ rest, (optional read).run (encode a ++ rest) =
        (read >>= fun a => pure (some a)).run (encode a ++ rest) := by
      intro rest
      rw [run_optional, hnull a rfl rest]
    constructor
    · intro hfits rest
      rw [encodeOptional, hrun]
      exact hread.reads ⟨hfits a rfl, trivial⟩ rest
    · intro hfits rest
      rw [encodeOptional, hrun]
      refine hread.rejects (fun hp => hfits fun b hb => ?_) rest
      rw [Option.mem_some_iff] at hb
      exact hb ▸ hp.1

theorem reads_optional {α : Type} {read : Decoder α} {encode : α → Bytes} {value : Option α}
    (hnull : ∀ a ∈ value, NotNull (encode a)) (h : ∀ a ∈ value, Reads read (encode a) a) :
    Reads (optional read) (encodeOptional encode value) value :=
  (readsIf_optional hnull fun a ha => (h a ha).readsIf).reads fun _ _ => trivial

theorem readsIf_list {α : Type} {read : Decoder α} {encode : α → Bytes} {fits : α → Prop}
    {items : List α} (hlen : items.length < 2 ^ 64) (maximum : Nat)
    (h : ∀ a ∈ items, ReadsIf (fits a) read (encode a) a) :
    ReadsIf (items.length ≤ maximum ∧ ∀ a ∈ items, fits a) (list maximum read)
      (encodeList encode items) items :=
  (readsIf_array hlen maximum).bind (ReadsIf.many h)

theorem readsIf_plainList {α : Type} {read : Decoder α} {encode : α → Bytes} {items : List α}
    (hlen : items.length < 2 ^ 64) (maximum : Nat) (h : ∀ a ∈ items, Reads read (encode a) a) :
    ReadsIf (items.length ≤ maximum) (list maximum read) (encodeList encode items) items :=
  (readsIf_list hlen maximum fun a ha => (h a ha).readsIf).congr (by simp)

/-- A counted list whose items all fit is read back. -/
theorem reads_listOfFits {α : Type} {read : Decoder α} {encode : α → Bytes} {fits : α → Prop}
    {items : List α} {maximum : Nat} (hcount : items.length ≤ maximum) (hmaximum : maximum < 2 ^ 64)
    (hread : ∀ a ∈ items, ReadsIf (fits a) read (encode a) a) (hfits : ∀ a ∈ items, fits a) :
    Reads (list maximum read) (encodeList encode items) items :=
  (readsIf_list (lt_of_le_of_lt hcount hmaximum) maximum hread).reads ⟨hcount, hfits⟩

/-- A keyed field that is always read. -/
theorem reads_field {α β : Type} {q : Prop} (k : UInt8) {r : Decoder α} {f : α → Decoder β}
    {bs : Bytes} {css : List Bytes} {a : α} {b : β} (hr : Reads r bs a)
    (hf : ReadsIf q (f a) css.flatten b) :
    ReadsIf q (key k >>= fun _ => r >>= f) (encodeKey k :: bs :: css).flatten b :=
  (reads_key k).seq (hr.seq hf)

/-- A keyed field that is read where `p` holds. -/
theorem readsIf_field {α β : Type} {p q : Prop} (k : UInt8) {r : Decoder α} {f : α → Decoder β}
    {bs : Bytes} {css : List Bytes} {a : α} {b : β} (hr : ReadsIf p r bs a)
    (hf : ReadsIf q (f a) css.flatten b) :
    ReadsIf (p ∧ q) (key k >>= fun _ => r >>= f) (encodeKey k :: bs :: css).flatten b :=
  (reads_key k).seq (hr.seq hf)

end Laws

end AuthsProof
