import AuthsProof.Encode
import AuthsProof.Lib.Json
import AuthsProof.Lib.Text

/-! The profile-public claims of a receipt: named commitments in one canonical JSON envelope. -/

namespace AuthsProof.Receipts

open Text

inductive ReceiptError where
  | malformed
  | nonCanonical
  | unsupportedProtocol
  | limitExceeded
  | invalidReason
  | digestMismatch
  | linkageMismatch
  | duplicate
  | unexpectedSigner
  | invalidSignature
  | signingUnavailable
  deriving DecidableEq

def require {ε : Type} (p : Prop) [Decidable p] (error : ε) : Except ε Unit :=
  if p then .ok () else .error error

def maxProfileClaimsBytes : Nat := 65536
def maxProfileClaims : Nat := 64
def profileClaimsSchema : String := "auths.profile-receipt-claims/1"

inductive ProfileReceiptClaimPhase where
  | decision
  | execution
  deriving DecidableEq

def ProfileReceiptClaimPhase.asStr : ProfileReceiptClaimPhase → String
  | .decision => "decision"
  | .execution => "execution"

def ProfileReceiptClaimPhase.ofStr : String → Except ReceiptError ProfileReceiptClaimPhase
  | "decision" => .ok .decision
  | "execution" => .ok .execution
  | _ => .error .malformed

/-- Lower-case dotted tokens of at most 128 bytes. -/
def validateProfileClaimId (value : String) : Bool :=
  !(value.isEmpty || 128 < value.utf8ByteSize || value.toList.head? == some '.' ||
    value.toList.getLast? == some '.' || containsText ['.', '.'] value.toList ||
    value.toList.any fun c => !(isAsciiLower c || isAsciiDigit c || c == '.' || c == '-'))

/-- One named claim commitment. -/
structure ProfileReceiptClaim where
  id : String
  sha256 : Digest
  valid : validateProfileClaimId id = true
  deriving DecidableEq

def ProfileReceiptClaim.new (id : String) (sha256 : Digest) : Except ReceiptError ProfileReceiptClaim :=
  if h : validateProfileClaimId id = true then .ok ⟨id, sha256, h⟩ else .error .malformed

theorem ProfileReceiptClaim.new_self (claim : ProfileReceiptClaim) :
    ProfileReceiptClaim.new claim.id claim.sha256 = .ok claim := by
  rw [ProfileReceiptClaim.new, dif_pos claim.valid]

def claimsAscend : List ProfileReceiptClaim → Bool
  | first :: second :: rest => decide (first.id < second.id) && claimsAscend (second :: rest)
  | _ => true

def validateProfileClaimRoster (claims : List ProfileReceiptClaim) : Except ReceiptError Unit := do
  require (claims ≠ [] ∧ claims.length ≤ maxProfileClaims) .limitExceeded
  require (claimsAscend claims = true) .malformed

/-- Decoded canonical claims. -/
structure ProfileReceiptClaims where
  profile : ProfileRef
  phase : ProfileReceiptClaimPhase
  claims : List ProfileReceiptClaim
  roster : validateProfileClaimRoster claims = .ok ()
  deriving DecidableEq

/-! ## Text forms -/

def encodeHexBytes (bytes : Bytes) : List Char :=
  bytes.flatMap fun byte => [Json.hexDigit (byte.toNat / 16), Json.hexDigit (byte.toNat % 16)]

def encodeHex (digest : Digest) : String := String.ofList (encodeHexBytes digest.bytes)

def hexNibble (value : Char) : Except ReceiptError Nat :=
  if isAsciiDigit value then .ok (value.toNat - 48)
  else if 'a' ≤ value ∧ value ≤ 'f' then .ok (value.toNat - 97 + 10)
  else .error .malformed

def decodeHexPairs : List Char → Except ReceiptError Bytes
  | high :: low :: rest => do
    let upper ← hexNibble high
    let lower ← hexNibble low
    let bytes ← decodeHexPairs rest
    pure (UInt8.ofNat (upper * 16 + lower) :: bytes)
  | _ => pure []

def digestOfBytes (bytes : Bytes) : Except ReceiptError Digest :=
  match Digest.new bytes with
  | some digest => .ok digest
  | none => .error .malformed

def decodeHexDigest (value : String) : Except ReceiptError Digest := do
  require (value.utf8ByteSize = 64 ∧
    value.toList.all (fun c => isAsciiDigit c || decide ('a' ≤ c ∧ c ≤ 'f')) = true) .malformed
  let bytes ← decodeHexPairs value.toList
  digestOfBytes bytes

/-- A decimal `u16`, with the sign that the integer parser allows. -/
def parseU16 (text : List Char) : Except ReceiptError UInt16 :=
  let digits := if text.head? = some '+' then text.tail else text
  if digits.isEmpty || !digits.all isAsciiDigit then .error .malformed
  else if Nat.ofDigitChars 10 digits 0 < 2 ^ 16 then .ok (UInt16.ofNat (Nat.ofDigitChars 10 digits 0))
  else .error .malformed

def profileText (profile : ProfileRef) : String :=
  profile.id.str ++ "/" ++ toString profile.version.toNat

def parseProfileText (text : String) : Except ReceiptError ProfileRef :=
  match rsplitOnce '/' text.toList with
  | none => .error .malformed
  | some (before, after) => do
    let id ← (ProfileId.parse (String.ofList before)).mapError fun _ => .malformed
    let version ← parseU16 after
    (ProfileRef.new id version).mapError fun _ => .malformed

/-! ## The envelope -/

/-- The members of a claim object, in the order they are serialised. -/
structure ProfileReceiptClaimFields where
  id : String
  sha256 : String
  deriving DecidableEq

structure ProfileReceiptClaimsFields where
  claims : List ProfileReceiptClaimFields
  phase : String
  profile : String
  schema : String
  deriving DecidableEq

/-- The JSON library: the canonical serialiser, and the parser that refuses unknown members. -/
class ClaimsJson where
  toVec : ProfileReceiptClaimsFields → Option Bytes
  fromSlice : Bytes → Option ProfileReceiptClaimsFields

def ProfileReceiptClaimFields.Plain (claim : ProfileReceiptClaimFields) : Prop :=
  (∀ c ∈ claim.id.toList, 0x20 ≤ c.toNat) ∧ ∀ c ∈ claim.sha256.toList, 0x20 ≤ c.toNat

def ProfileReceiptClaimsFields.Plain (fields : ProfileReceiptClaimsFields) : Prop :=
  (∀ claim ∈ fields.claims, claim.Plain) ∧ (∀ c ∈ fields.phase.toList, 0x20 ≤ c.toNat) ∧
    (∀ c ∈ fields.profile.toList, 0x20 ≤ c.toNat) ∧ ∀ c ∈ fields.schema.toList, 0x20 ≤ c.toNat

def ProfileReceiptClaimFields.size (claim : ProfileReceiptClaimFields) : Nat :=
  2 * claim.id.utf8ByteSize + 2 * claim.sha256.utf8ByteSize + 22

/-- At most what a canonical envelope of strings without control characters takes. -/
def ProfileReceiptClaimsFields.size (fields : ProfileReceiptClaimsFields) : Nat :=
  (fields.claims.map ProfileReceiptClaimFields.size).sum + 2 * fields.phase.utf8ByteSize +
    2 * fields.profile.utf8ByteSize + 2 * fields.schema.utf8ByteSize + 49

/-- What is serialised is parsed back, and a string without control characters at most doubles. -/
class FaithfulClaimsJson [ClaimsJson] : Prop where
  parsed : ∀ fields, ∃ bytes, ClaimsJson.toVec fields = some bytes ∧
    ClaimsJson.fromSlice bytes = some fields
  compact : ∀ fields bytes, fields.Plain → ClaimsJson.toVec fields = some bytes →
    bytes ≠ [] ∧ bytes.length ≤ fields.size

section Envelope

variable [ClaimsJson]

def claimFields (claim : ProfileReceiptClaim) : ProfileReceiptClaimFields :=
  ⟨claim.id, encodeHex claim.sha256⟩

def claimsFields (profile : ProfileRef) (phase : ProfileReceiptClaimPhase)
    (claims : List ProfileReceiptClaim) : ProfileReceiptClaimsFields :=
  ⟨claims.map claimFields, phase.asStr, profileText profile, profileClaimsSchema⟩

def encodeProfileReceiptClaims (profile : ProfileRef) (phase : ProfileReceiptClaimPhase)
    (claims : List ProfileReceiptClaim) : Except ReceiptError Bytes := do
  validateProfileClaimRoster claims
  match ClaimsJson.toVec (claimsFields profile phase claims) with
  | none => .error .malformed
  | some bytes => do
    require (bytes.length ≤ maxProfileClaimsBytes) .limitExceeded
    pure bytes

def claimOfFields (fields : ProfileReceiptClaimFields) : Except ReceiptError ProfileReceiptClaim := do
  let sha256 ← decodeHexDigest fields.sha256
  ProfileReceiptClaim.new fields.id sha256

/-- The claims that the members of an envelope stand for. -/
def claimsOfFields (fields : ProfileReceiptClaimsFields) : Except ReceiptError ProfileReceiptClaims := do
  require (fields.schema = profileClaimsSchema) .malformed
  let phase ← ProfileReceiptClaimPhase.ofStr fields.phase
  let profile ← parseProfileText fields.profile
  let claims ← fields.claims.mapM claimOfFields
  match h : validateProfileClaimRoster claims with
  | .error error => .error error
  | .ok () => .ok ⟨profile, phase, claims, h⟩

def decodeProfileReceiptClaims (input : Bytes) : Except ReceiptError ProfileReceiptClaims := do
  require (input ≠ [] ∧ input.length ≤ maxProfileClaimsBytes) .limitExceeded
  match ClaimsJson.fromSlice input with
  | none => .error .malformed
  | some fields => do
    let decoded ← claimsOfFields fields
    let canonical ← encodeProfileReceiptClaims decoded.profile decoded.phase decoded.claims
    require (canonical = input) .nonCanonical
    pure decoded

end Envelope

end AuthsProof.Receipts
