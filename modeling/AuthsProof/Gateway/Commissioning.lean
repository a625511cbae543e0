import AuthsProof.Gateway.AttemptStore
import Mathlib.Data.Finset.Card
import Mathlib.Data.Finset.Lattice.Basic
import Mathlib.Data.Finset.Dedup

/-! Commissioning leases: one permanent counter for each run and family, raised by compare-and-swap. -/

namespace AuthsProof.Gateway

open Interleave

inductive CommissioningRefusal where
  | unavailable
  | revoked
  | revocationRollback
  | clockUntrusted
  | revocationStale
  | expired
  | bindingMismatch
  deriving DecidableEq

inductive CommissioningBudgetRefusal where
  | permit (refusal : CommissioningRefusal)
  | unavailable
  | missing
  | corrupt
  | bindingMismatch
  | rollback
  | exhausted
  | contention
  deriving DecidableEq

inductive ProviderEnvironmentClass where
  | providerTestMode
  | disposableLiveResources
  deriving DecidableEq

structure CommissioningOfflineEvidence where
  conformanceSha256 : Digest
  differentialSha256 : Digest
  deriving DecidableEq

/-- Everything fixed for a run; `T` is the deployment tuple. -/
structure CommissioningBinding (T : Type) where
  protectedRun : String
  sourceCommit : String
  tuple : T
  principalSha256 : Digest
  trustedContextsSha256 : List Digest
  resourcesSha256 : Digest
  providerEnvironmentClass : ProviderEnvironmentClass
  offlineEvidence : CommissioningOfflineEvidence
  allowedActions : List Digest
  maximumCredentialLeases : Nat
  deriving DecidableEq

/-- The durable counter with the newest trust facts a claim has brought. -/
structure BudgetRecord where
  schema : String
  budgetScopeSha256 : Digest
  budgetBindingSha256 : Digest
  maximumCredentialLeases : Nat
  consumedCredentialLeases : Nat
  latestVerifierTime : Nat
  acceptedRevocationSequence : Nat
  revokedSigners : Finset String
  deriving DecidableEq

/-- Stored bytes: the canonical form of a record, or anything else. -/
inductive BudgetValue where
  | record (record : BudgetRecord)
  | other (bytes : Bytes)
  deriving DecidableEq

/-- The canonical JSON of bindings and records, as far as the budget depends on it. -/
class BudgetFormat (T : Type) where
  productionTarget : T → Bool
  budgetKey : CommissioningBinding T → Option Digest
  budgetBinding : CommissioningBinding T → Option Digest
  size : BudgetRecord → Nat

def commissioningBudgetSchema : String := "auths.gateway-commissioning-budget/1"

def maxCommissioningActions : Nat := 256

def maxCommissioningContexts : Nat := 4

def maxCommissioningLeases : Nat := 1024

def maxRevokedSigners : Nat := 64

def maxCommissioningBudgetBytes : Nat := 16 * 1024

def maxCommissioningClaimRetries : Nat := 16

section Model

variable {T : Type} [DecidableEq T] [BudgetFormat T]

def CommissioningBinding.validate (binding : CommissioningBinding T) : Bool :=
  BudgetFormat.productionTarget binding.tuple &&
    (!binding.allowedActions.isEmpty && binding.allowedActions.length ≤ maxCommissioningActions &&
      !binding.trustedContextsSha256.isEmpty &&
      binding.trustedContextsSha256.length ≤ maxCommissioningContexts &&
      (1 ≤ binding.maximumCredentialLeases &&
        binding.maximumCredentialLeases ≤ maxCommissioningLeases)) &&
    decide (binding.trustedContextsSha256.IsChain (· < ·)) &&
    decide (binding.allowedActions.IsChain (· < ·))

variable (T) in
/-- What the encoder demands of a record. -/
def BudgetRecord.encodes (record : BudgetRecord) : Bool :=
  decide (record.schema = commissioningBudgetSchema) &&
    (1 ≤ record.maximumCredentialLeases && record.maximumCredentialLeases ≤ maxCommissioningLeases) &&
    record.consumedCredentialLeases ≤ record.maximumCredentialLeases &&
    record.acceptedRevocationSequence ≤ 2 ^ 53 - 1 &&
    record.latestVerifierTime ≤ 253402300799 &&
    record.revokedSigners.card ≤ maxRevokedSigners &&
    BudgetFormat.size T record ≤ maxCommissioningBudgetBytes

variable (T) in
structure CommissioningBudgetSnapshot where
  record : BudgetRecord
  encoded : record.encodes T = true

/-- The stored bytes of a snapshot. -/
def CommissioningBudgetSnapshot.bytes (snapshot : CommissioningBudgetSnapshot T) : BudgetValue :=
  .record snapshot.record

variable (T) in
def CommissioningBudgetSnapshot.encode (record : BudgetRecord) :
    Except CommissioningBudgetRefusal (CommissioningBudgetSnapshot T) :=
  if h : record.encodes T = true then .ok ⟨record, h⟩ else .error .corrupt

namespace CommissioningBudgetSnapshot

def «matches» (snapshot : CommissioningBudgetSnapshot T) (binding : CommissioningBinding T) :
    Except CommissioningBudgetRefusal Unit :=
  if BudgetFormat.budgetKey binding = some snapshot.record.budgetScopeSha256 ∧
      BudgetFormat.budgetBinding binding = some snapshot.record.budgetBindingSha256 ∧
      snapshot.record.maximumCredentialLeases = binding.maximumCredentialLeases then .ok ()
  else .error .bindingMismatch

def fromCanonicalJson (bytes : BudgetValue) (binding : CommissioningBinding T) :
    Except CommissioningBudgetRefusal (CommissioningBudgetSnapshot T) :=
  if !binding.validate then .error .bindingMismatch
  else match bytes with
    | .other _ => .error .corrupt
    | .record record => do
      let snapshot ← encode T record
      snapshot.matches binding
      pure snapshot

end CommissioningBudgetSnapshot

def BudgetRecord.notBelow (record floor : BudgetRecord) : Bool :=
  decide (record.budgetScopeSha256 = floor.budgetScopeSha256) &&
    decide (record.budgetBindingSha256 = floor.budgetBindingSha256) &&
    decide (record.maximumCredentialLeases = floor.maximumCredentialLeases) &&
    floor.consumedCredentialLeases ≤ record.consumedCredentialLeases &&
    floor.latestVerifierTime ≤ record.latestVerifierTime &&
    floor.acceptedRevocationSequence ≤ record.acceptedRevocationSequence &&
    decide (floor.revokedSigners ⊆ record.revokedSigners)

/-! ## The signed authority -/

/-- What a host remembers of earlier revocation lists. -/
structure VerifierState where
  acceptedRevocationSequence : Nat
  acceptedIndexIssuedAt : Nat
  revokedSigners : Finset String
  revokedQualifications : Finset String

structure SignerStatement where
  signerId : String
  issuedAt : Nat
  notBefore : Nat
  notAfter : Nat

structure RevocationStatement where
  sequence : Nat
  issuedAt : Nat
  nextUpdate : Nat
  revokedSigners : List String
  revokedQualifications : List String

variable (T) in
structure CommissioningPermitStatement where
  binding : CommissioningBinding T
  issuedAt : Nat
  notBefore : Nat
  notAfter : Nat

variable (T) in
/-- The three artifacts whose signatures have been checked; the permit's format validated its
binding. -/
structure VerifiedCommissioningPermit where
  certificate : SignerStatement
  revocations : RevocationStatement
  permit : CommissioningPermitStatement T
  valid : permit.binding.validate = true

variable (T) in
structure CommissioningRequest where
  sourceCommit : String
  tuple : T
  protectedRun : String
  principalSha256 : Digest
  trustedContextSha256 : Digest
  resourcesSha256 : Digest
  canonicalActionSha256 : Digest

namespace VerifiedCommissioningPermit

variable (authority : VerifiedCommissioningPermit T)

def remember (state : VerifierState) : VerifierState :=
  { state with
    revokedSigners := state.revokedSigners ∪ authority.revocations.revokedSigners.toFinset
    revokedQualifications :=
      state.revokedQualifications ∪ authority.revocations.revokedQualifications.toFinset
    acceptedRevocationSequence :=
      max state.acceptedRevocationSequence authority.revocations.sequence }

def evaluate (request : CommissioningRequest T) (now : Nat) (clockTrusted : Bool)
    (state : VerifierState) : Except CommissioningRefusal Unit :=
  let signer := authority.certificate
  let list := authority.revocations
  let statement := authority.permit
  let binding := statement.binding
  if signer.signerId ∈ state.revokedSigners ∨ signer.signerId ∈ list.revokedSigners then
    .error .revoked
  else if list.sequence < state.acceptedRevocationSequence then .error .revocationRollback
  else if !clockTrusted ∨ now < signer.issuedAt ∨ now < signer.notBefore ∨ now < list.issuedAt ∨
      now < statement.issuedAt ∨ now < statement.notBefore then .error .clockUntrusted
  else if list.nextUpdate ≤ now then .error .revocationStale
  else if signer.notAfter ≤ now ∨ statement.notAfter ≤ now then .error .expired
  -- the two lists are strictly ascending, so the source's binary search finds their members
  else if binding.sourceCommit ≠ request.sourceCommit ∨ binding.tuple ≠ request.tuple ∨
      binding.protectedRun ≠ request.protectedRun ∨
      binding.principalSha256 ≠ request.principalSha256 ∨
      request.trustedContextSha256 ∉ binding.trustedContextsSha256 ∨
      binding.resourcesSha256 ≠ request.resourcesSha256 ∨
      request.canonicalActionSha256 ∉ binding.allowedActions then .error .bindingMismatch
  else .ok ()

end VerifiedCommissioningPermit

/-! ## The operations on the store -/

variable (T) in
structure CommissioningBudgetUpdate where
  snapshot : CommissioningBudgetSnapshot T
  refusal : Option CommissioningBudgetRefusal

variable (T) in
/-- The counter of one validated binding. -/
structure CommissioningBudget where
  key : Digest
  binding : CommissioningBinding T
  valid : binding.validate = true
  keyed : BudgetFormat.budgetKey binding = some key

def CommissioningBudget.new (binding : CommissioningBinding T) :
    Except CommissioningBudgetRefusal (CommissioningBudget T) :=
  if hvalid : binding.validate = true then
    match hkey : BudgetFormat.budgetKey binding with
    | none => .error .bindingMismatch
    | some key => .ok ⟨key, binding, hvalid, hkey⟩
  else .error .bindingMismatch

abbrev BudgetProg := ExceptT CommissioningBudgetRefusal (Prog (Request BudgetValue) Response)

def storeRefusal : GatewayAttemptError → CommissioningBudgetRefusal
  | .conflict => .contention
  | .unavailable => .unavailable
  | _ => .corrupt

/-- Sends a request and goes on with the store's answer, an error included. -/
def answer (request : Request BudgetValue) : BudgetProg (Response request) :=
  ExceptT.mk (.call request fun response => .done (.ok response))

def orRefuse {α : Type} : Except GatewayAttemptError α → BudgetProg α
  | .ok a => pure a
  | .error error => throw (storeRefusal error)

namespace CommissioningBudget

variable (budget : CommissioningBudget T)

def load : BudgetProg (CommissioningBudgetSnapshot T) := do
  match ← orRefuse (← answer (.load .commissioningBudget budget.key)) with
  | none => throw .missing
  | some bytes => lifted (CommissioningBudgetSnapshot.fromCanonicalJson bytes budget.binding)

/-- The record of a fresh registration. -/
def initial (bindingDigest : Digest) : BudgetRecord where
  schema := commissioningBudgetSchema
  budgetScopeSha256 := budget.key
  budgetBindingSha256 := bindingDigest
  maximumCredentialLeases := budget.binding.maximumCredentialLeases
  consumedCredentialLeases := 0
  latestVerifierTime := 0
  acceptedRevocationSequence := 0
  revokedSigners := ∅

def initializeBudget : BudgetProg (CommissioningBudgetSnapshot T) := do
  match BudgetFormat.budgetBinding budget.binding with
  | none => throw .bindingMismatch
  | some bindingDigest =>
    let initial ← lifted (CommissioningBudgetSnapshot.encode T (budget.initial bindingDigest))
    match ← orRefuse (← answer
        (.insertAll [⟨.commissioningBudget, budget.key, initial.bytes, none⟩])) with
    | .inserted _ => pure initial
    | .exists _ => budget.load

end CommissioningBudget

variable (T) in
/-- The arguments of one claim. -/
structure ClaimRequest where
  authority : VerifiedCommissioningPermit T
  request : CommissioningRequest T
  now : Nat
  clockTrusted : Bool
  floor : CommissioningBudgetSnapshot T
  state : VerifierState

namespace ClaimRequest

variable (claim : ClaimRequest T) (current : BudgetRecord)

/-- The host's memory joined with the stored trust facts and the authority's list. -/
def remembered : VerifierState :=
  claim.authority.remember
    { claim.state with
      acceptedRevocationSequence :=
        max claim.state.acceptedRevocationSequence current.acceptedRevocationSequence
      revokedSigners := claim.state.revokedSigners ∪ current.revokedSigners }

def refusal : Option CommissioningBudgetRefusal :=
  match claim.authority.evaluate claim.request claim.now claim.clockTrusted
      (claim.remembered current) with
  | .error refusal => some (.permit refusal)
  | .ok () =>
    if claim.now < current.latestVerifierTime then some .rollback
    else if current.consumedCredentialLeases = current.maximumCredentialLeases then some .exhausted
    else none

/-- The record a claim proposes: the trust facts always, the lease only when nothing refuses it. -/
def next : BudgetRecord :=
  let learnt := { current with
    acceptedRevocationSequence := (claim.remembered current).acceptedRevocationSequence
    revokedSigners := (claim.remembered current).revokedSigners }
  if (claim.refusal current).isNone then
    { learnt with
      consumedCredentialLeases := current.consumedCredentialLeases + 1
      latestVerifierTime := claim.now }
  else learnt

end ClaimRequest

namespace CommissioningBudget

variable (budget : CommissioningBudget T)

/-- One compare-and-swap of a claim; nothing when another writer came first. -/
def attempt (claim : ClaimRequest T) (current : CommissioningBudgetSnapshot T) :
    BudgetProg (Option (CommissioningBudgetUpdate T)) :=
  if !current.record.notBelow claim.floor.record then throw .rollback
  else do
    let next ← lifted (CommissioningBudgetSnapshot.encode T (claim.next current.record))
    match ← answer (.replace .commissioningBudget budget.key current.bytes next.bytes) with
    | .ok () => pure (some ⟨next, claim.refusal current.record⟩)
    | .error .conflict => pure none
    | .error error => throw (storeRefusal error)

def attempts (claim : ClaimRequest T) : Nat → BudgetProg (CommissioningBudgetUpdate T)
  | 0 => throw .contention
  | rounds + 1 => do
    match ← budget.attempt claim (← budget.load) with
    | some update => pure update
    | none => attempts claim rounds

def claim (claim : ClaimRequest T) : BudgetProg (CommissioningBudgetUpdate T) := do
  lifted (claim.floor.matches budget.binding)
  if claim.authority.permit.binding ≠ budget.binding then throw .bindingMismatch
  else budget.attempts claim maxCommissioningClaimRetries

end CommissioningBudget

end Model

end AuthsProof.Gateway
