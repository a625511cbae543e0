import AuthsProof.ContextFields
import AuthsProof.ExtensionCodec

/-! The encodings of signed and hashed objects determine the objects: each is read back, without limits
of a deployment, from whatever follows it. -/

namespace AuthsProof

open Sorting Wire Decode

section Approvals

variable [Cbor] [LawfulCbor]

/-- Evidence as it is encoded, without the check of its identifier. -/
def rawEvidence : Decoder EvidenceObject := do
  map 4
  key 0
  let id ← digestBytes
  key 1
  let evidenceType ← parsed RegistryId.parse
  key 2
  let mediaType ← parsed MediaType.parse
  key 3
  let bytes ← boundedBytes hardMaxEvidenceBytes true
  model (EvidenceObject.new id evidenceType mediaType bytes)

theorem reads_rawEvidence (e : EvidenceObject) : Reads rawEvidence (encodeEvidence e) e := by
  have hlen : e.bytes.length < 2 ^ 64 :=
    lt_of_le_of_lt e.bounded (by norm_num [hardMaxEvidenceBytes])
  have hbytes := (readsIf_boundedBytes hlen hardMaxEvidenceBytes true).reads
    ⟨e.bounded, fun _ => e.nonempty⟩
  refine ReadsIf.always ((reads_map (by norm_num)).seq ?_)
  refine reads_field 0 (reads_digestBytes e.id) ?_
  refine reads_field 1 (reads_bounded e.evidenceType _ (by norm_num)) ?_
  refine reads_field 2 (reads_bounded e.mediaType _ (by norm_num)) ?_
  refine reads_field 3 hbytes ?_
  exact (reads_model e.new_self).readsIf

omit [Cbor] [LawfulCbor] in
theorem SignatureEnvelope.fits_hard (s : SignatureEnvelope) : s.Fits .hard := s.signature.bounded

def rawSignedApproval : Decoder SignedApproval := do
  map 3
  key 0
  let statement ← approvalStatement
  key 1
  let signature ← signature .hard
  key 2
  let evidence ← list maxApprovalEvidence rawEvidence
  model (SignedApproval.new statement signature evidence)

theorem reads_rawSignedApproval (a : SignedApproval) :
    Reads rawSignedApproval (encodeSignedApproval a) a := by
  have hevidence : Reads (list maxApprovalEvidence rawEvidence)
      (encodeList encodeEvidence a.evidence) a.evidence :=
    reads_listOfFits a.bounded (by decide) (fun e _ => (reads_rawEvidence e).readsIf)
      fun _ _ => trivial
  have hsignature := (readsIf_signature .hard a.signature).reads a.signature.fits_hard
  refine ReadsIf.always ((reads_map (by norm_num)).seq ?_)
  refine reads_field 0 (reads_approvalStatement a.statement) ?_
  refine reads_field 1 hsignature ?_
  refine reads_field 2 hevidence ?_
  exact (reads_model a.new_self).readsIf

theorem encodeSignedApproval_injective : Function.Injective encodeSignedApproval := fun a b h =>
  Reads.inj (reads_rawSignedApproval a) (h ▸ reads_rawSignedApproval b)

theorem encodeApprovalRequirement_injective : Function.Injective encodeApprovalRequirement :=
  fun a b h => Reads.inj (reads_approvalRequirement a) (h ▸ reads_approvalRequirement b)

end Approvals

section Hashing

/-- What `domainHash` hashes. -/
def idPreimage (identifierType : UInt16) (canonical : Bytes) : Bytes :=
  utf8 "AUTHS-ID" ++ bigEndian16 protocolV1 ++ bigEndian16 identifierType ++
    bigEndian64 canonical.length ++ canonical

theorem domainHash_eq [Sha256] (identifierType : UInt16) (canonical : Bytes) :
    domainHash identifierType canonical = Sha256.digest (idPreimage identifierType canonical) := rfl

theorem bigEndian16_injective : Function.Injective bigEndian16 := by
  intro a b h
  have hdecoded := congrArg Rfc8949.fromBigEndian h
  unfold bigEndian16 at hdecoded
  rw [Rfc8949.fromBigEndian_bigEndian a.toNat_lt, Rfc8949.fromBigEndian_bigEndian b.toNat_lt]
    at hdecoded
  exact UInt16.toNat_inj.mp hdecoded

/-- A prefix of the same length may be cancelled. -/
theorem append_cancel_of_length {as bs xs ys : Bytes} (h : as ++ xs = bs ++ ys)
    (hlength : as.length = bs.length) : as = bs ∧ xs = ys :=
  List.append_inj h hlength

theorem bigEndian64_inj {a b : Nat} (ha : a < 2 ^ 64) (hb : b < 2 ^ 64)
    (h : bigEndian64 a = bigEndian64 b) : a = b := by
  have hdecoded := congrArg Rfc8949.fromBigEndian h
  unfold bigEndian64 at hdecoded
  rwa [Rfc8949.fromBigEndian_bigEndian ha, Rfc8949.fromBigEndian_bigEndian hb] at hdecoded

/-- Bytes behind their length may be cancelled. -/
theorem append_cancel_of_counted {as bs xs ys : Bytes} (ha : as.length < 2 ^ 64)
    (hb : bs.length < 2 ^ 64)
    (h : bigEndian64 as.length ++ (as ++ xs) = bigEndian64 bs.length ++ (bs ++ ys)) :
    as = bs ∧ xs = ys := by
  obtain ⟨hcount, h⟩ := append_cancel_of_length h (by simp [bigEndian64])
  exact append_cancel_of_length h (bigEndian64_inj ha hb hcount)

theorem idPreimage_injective {s t : UInt16} {x y : Bytes} (h : idPreimage s x = idPreimage t y) :
    s = t ∧ x = y := by
  simp only [idPreimage, List.append_assoc] at h
  obtain ⟨-, h⟩ := append_cancel_of_length h rfl
  obtain ⟨-, h⟩ := append_cancel_of_length h rfl
  obtain ⟨htype, h⟩ := append_cancel_of_length h (by simp [bigEndian16])
  obtain ⟨-, hcanonical⟩ := append_cancel_of_length h (by simp [bigEndian64])
  exact ⟨bigEndian16_injective htype, hcanonical⟩

/-- SHA-256 does not collide on these inputs. -/
def CollisionFree [Sha256] (preimages : List Bytes) : Prop :=
  ∀ x ∈ preimages, ∀ y ∈ preimages, Sha256.digest x = Sha256.digest y → x = y

theorem CollisionFree.mono [Sha256] {some all : List Bytes} (h : CollisionFree all)
    (hsub : ∀ x ∈ some, x ∈ all) : CollisionFree some :=
  fun x hx y hy => h x (hsub x hx) y (hsub y hy)

theorem collisionFree_pair [Sha256] {x y : Bytes} (h : Sha256.digest x ≠ Sha256.digest y) :
    CollisionFree [x, y] := by
  intro a ha b hb hsame
  rcases List.mem_pair.mp ha with rfl | rfl <;> rcases List.mem_pair.mp hb with rfl | rfl
  · rfl
  · exact absurd hsame h
  · exact absurd hsame.symm h
  · rfl

end Hashing

end AuthsProof
