import Mathlib.Data.List.TakeDrop
import AuthsProof.Oidc.Identity
import AuthsProof.Sigstore.Identity

/-! Two adapters, one namespace of workload principals: what each makes of the same GitHub workload. -/

namespace AuthsProof.Workload

open Text

/-! ## The workload principal, parsed once in each adapter -/

def unreserved (byte : UInt8) : Bool :=
  isAsciiAlphanumeric (Char.ofNat byte.toNat) || byte == 45 || byte == 46 || byte == 95 || byte == 126

def hexDigit (nibble : Nat) : Char := Char.ofNat (if nibble < 10 then 48 + nibble else 55 + nibble)

def pctEncodeByte (byte : UInt8) : List Char :=
  if unreserved byte then [Char.ofNat byte.toNat]
  else ['%', hexDigit (byte.toNat / 16), hexDigit (byte.toNat % 16)]

def pctEncode (bytes : Bytes) : List Char := bytes.flatMap pctEncodeByte

def hex (byte : UInt8) : Option UInt8 :=
  if 48 ≤ byte && byte ≤ 57 then some (byte - 48)
  else if 65 ≤ byte && byte ≤ 70 then some (byte - 65 + 10)
  else none

def pctDecodeBytes : Bytes → Option Bytes
  | [] => some []
  | byte :: rest =>
    if byte = 37 then
      match rest with
      | hi :: lo :: rest => do
        let hi ← hex hi
        let lo ← hex lo
        return (hi <<< 4 ||| lo) :: (← pctDecodeBytes rest)
      | _ => none
    else (pctDecodeBytes rest).map (byte :: ·)

def pctDecode (value : List Char) : Option String := do
  String.fromUTF8? ⟨⟨← pctDecodeBytes (utf8 (String.ofList value))⟩⟩

def principalScheme : String := "oidc-workload:"

/-- Issuer and subject of a text that is exactly their encoding; the same code in both adapters. -/
def principalParts (value : String) : Option (String × String) := do
  let rest ← stripPrefix principalScheme.toList value.toList
  let (issuerEncoded, subjectEncoded) ← splitOnce '#' rest
  if subjectEncoded.any (· == '#') then none
  else
    let issuer ← pctDecode issuerEncoded
    let subject ← pctDecode subjectEncoded
    if pctEncode (utf8 issuer) ≠ issuerEncoded ∨ pctEncode (utf8 subject) ≠ subjectEncoded then none
    else some (issuer, subject)

end AuthsProof.Workload

namespace AuthsProof

open Text Workload

def Sigstore.parsePrincipal (value : String) :
    Except Sigstore.SigstoreError (Sigstore.IssuerUrl × Sigstore.Subject) :=
  match principalParts value with
  | none => .error .principalSyntax
  | some (issuer, subject) =>
    match Checked.parse issuer, Checked.parse subject with
    | some issuer, some subject => .ok (issuer, subject)
    | _, _ => .error .principalSyntax

def Oidc.parsePrincipal (value : String) :
    Except Oidc.OidcError (Oidc.IssuerUrl × Oidc.Subject) :=
  match principalParts value with
  | none => .error .principalSyntax
  | some (issuer, subject) =>
    match Checked.parse issuer, Checked.parse subject with
    | some issuer, some subject => .ok (issuer, subject)
    | _, _ => .error .principalSyntax

def Oidc.principal (issuer : Oidc.IssuerUrl) (subject : Oidc.Subject) :
    Except ModelError PrincipalId :=
  PrincipalId.parse (principalScheme ++ String.ofList (pctEncode (utf8 issuer.str)) ++ "#" ++
    String.ofList (pctEncode (utf8 subject.str)))

end AuthsProof

namespace AuthsProof.Workload

open Text

theorem principalParts_eq_some {value issuer subject : String}
    (h : principalParts value = some (issuer, subject)) :
    value.toList = principalScheme.toList ++ pctEncode (utf8 issuer) ++ '#' ::
      pctEncode (utf8 subject) := by
  unfold principalParts at h
  obtain ⟨rest, hrest, h⟩ := Option.bind_eq_some_iff.mp h
  obtain ⟨⟨issuerEncoded, subjectEncoded⟩, hsplit, h⟩ := Option.bind_eq_some_iff.mp h
  have hvalue := stripPrefix_eq_some.mp hrest
  have hparts := splitOnce_eq_some hsplit
  by_cases hhash : subjectEncoded.any (· == '#') = true
  · simp [hhash] at h
  · simp only [hhash, Bool.false_eq_true, if_false] at h
    obtain ⟨issuer', hissuer, h⟩ := Option.bind_eq_some_iff.mp h
    obtain ⟨subject', hsubject, h⟩ := Option.bind_eq_some_iff.mp h
    by_cases hsame : pctEncode (utf8 issuer') ≠ issuerEncoded ∨
        pctEncode (utf8 subject') ≠ subjectEncoded
    · rw [if_pos hsame] at h
      cases h
    · rw [if_neg hsame] at h
      cases h
      rw [not_or, not_not, not_not] at hsame
      rw [hvalue, hparts, hsame.1, hsame.2, List.append_assoc]

/-- The principal built from the parts of a text is that text. -/
theorem principalText_eq {value issuer subject : String}
    (h : principalParts value = some (issuer, subject)) :
    principalScheme ++ String.ofList (pctEncode (utf8 issuer)) ++ "#" ++
      String.ofList (pctEncode (utf8 subject)) = value := by
  apply String.toList_inj.mp
  rw [principalParts_eq_some h]
  simp

/-- What an encoded text is made of. -/
def encodedChar (c : Char) : Bool := 33 ≤ c.toNat && c.toNat ≤ 126

theorem encodedChar_pctEncode (bytes : Bytes) : (pctEncode bytes).all encodedChar = true := by
  have hbyte : ∀ n : Fin 256, (pctEncodeByte (UInt8.ofFin n)).all encodedChar = true := by
    decide +kernel
  rw [pctEncode, List.all_flatMap, List.all_eq_true]
  exact fun byte _ => hbyte byte.toFin

theorem encodedChar_plain {c : Char} (h : encodedChar c = true) :
    isControl c = false ∧ isWhitespace c = false := by
  simp only [encodedChar, Bool.and_eq_true, decide_eq_true_eq] at h
  simp only [isControl, isWhitespace, Bool.or_eq_false_iff, Bool.and_eq_false_iff,
    decide_eq_false_iff_not, beq_eq_false_iff_ne]
  omega

theorem bounded_of_principalParts {value issuer subject : String}
    (h : principalParts value = some (issuer, subject)) :
    boundedText 512 value = decide (value.utf8ByteSize ≤ 512) := by
  have hvalue := principalParts_eq_some h
  have hplain : value.toList.all encodedChar = true := by
    rw [hvalue]
    simp only [List.all_append, List.all_cons, encodedChar_pctEncode, Bool.and_true]
    decide
  have hno : value.toList.any (fun c => isControl c || isWhitespace c) = false := by
    rw [List.any_eq_false]
    intro c hc
    obtain ⟨hcontrol, hspace⟩ := encodedChar_plain (List.all_eq_true.mp hplain c hc)
    simp [hcontrol, hspace]
  have hnonempty : value.isEmpty = false := by
    rw [Bool.eq_false_iff]
    intro hempty
    rw [String.isEmpty_iff.mp hempty] at hvalue
    exact absurd (congrArg List.length hvalue) (by simp [principalScheme])
  unfold boundedText
  rw [hno, hnonempty]
  by_cases hsize : value.utf8ByteSize ≤ 512
  · simp [hsize, Nat.not_lt.mpr hsize]
  · simp [hsize, Nat.lt_of_not_le hsize]

theorem canonicalScheme_of_principalParts {value issuer subject : String}
    (h : principalParts value = some (issuer, subject)) : canonicalScheme value = true := by
  have hvalue := principalParts_eq_some h
  unfold canonicalScheme
  rw [hvalue]
  simp [principalScheme, List.span, List.span.loop]

/-- Both adapters refuse the text, or read the same issuer and subject, which rebuild it. -/
def PrincipalsAgree (value : String) : Prop :=
  ((∃ e, Sigstore.parsePrincipal value = .error e) ∧ ∃ e, Oidc.parsePrincipal value = .error e) ∨
  ∃ issuer subject issuer' subject' principal,
    Sigstore.parsePrincipal value = .ok (issuer, subject) ∧
    Oidc.parsePrincipal value = .ok (issuer', subject') ∧
    issuer.str = issuer'.str ∧ subject.str = subject'.str ∧
    Oidc.principal issuer' subject' = .ok principal ∧ principal.str = value

/-- Issuer and subject are bounded as both adapters demand. -/
def PartsBounded (issuer subject : String) : Prop :=
  issuer ≠ "" ∧ issuer.utf8ByteSize ≤ 512 ∧ subject ≠ "" ∧ subject.utf8ByteSize ≤ 1024 ∧
    Sigstore.noControl subject = true

/-- The two grammars of an issuer agree on the text's, and a principal may be as long as the text. -/
def PrincipalsCoincide (value : String) : Prop :=
  ∀ issuer subject, principalParts value = some (issuer, subject) → PartsBounded issuer subject →
    (Sigstore.https issuer = Oidc.issuerUrl issuer) ∧
    (Sigstore.https issuer = true → value.utf8ByteSize ≤ 512)

theorem sigstore_parsePrincipal {value issuer subject : String}
    {parsed : Sigstore.IssuerUrl × Sigstore.Subject}
    (h : principalParts value = some (issuer, subject)) :
    Sigstore.parsePrincipal value = .ok parsed ↔ parsed.1.str = issuer ∧ parsed.2.str = subject := by
  unfold Sigstore.parsePrincipal
  rw [h]
  constructor
  · intro hparse
    dsimp only at hparse
    split at hparse
    · next hissuer hsubject =>
      cases hparse
      exact ⟨Checked.parse_eq_some.mp hissuer, Checked.parse_eq_some.mp hsubject⟩
    · cases hparse
  · rintro ⟨hissuer, hsubject⟩
    dsimp only
    rw [Checked.parse_eq_some.mpr hissuer, Checked.parse_eq_some.mpr hsubject]

theorem oidc_parsePrincipal {value issuer subject : String}
    {parsed : Oidc.IssuerUrl × Oidc.Subject} (h : principalParts value = some (issuer, subject)) :
    Oidc.parsePrincipal value = .ok parsed ↔ parsed.1.str = issuer ∧ parsed.2.str = subject := by
  unfold Oidc.parsePrincipal
  rw [h]
  constructor
  · intro hparse
    dsimp only at hparse
    split at hparse
    · next hissuer hsubject =>
      cases hparse
      exact ⟨Checked.parse_eq_some.mp hissuer, Checked.parse_eq_some.mp hsubject⟩
    · cases hparse
  · rintro ⟨hissuer, hsubject⟩
    dsimp only
    rw [Checked.parse_eq_some.mpr hissuer, Checked.parse_eq_some.mpr hsubject]

theorem Except.exists_error_iff {ε α : Type} {x : Except ε α} :
    (∃ e, x = .error e) ↔ ¬∃ a, x = .ok a := by
  cases x <;> simp

theorem sigstore_accepts_iff {value issuer subject : String}
    (h : principalParts value = some (issuer, subject)) :
    (∃ parsed, Sigstore.parsePrincipal value = .ok parsed) ↔
      PartsBounded issuer subject ∧ Sigstore.https issuer = true := by
  have hissuer := @Checked.exists_str_eq 512 Sigstore.https issuer
  have hsubject := @Checked.exists_str_eq 1024 Sigstore.noControl subject
  constructor
  · rintro ⟨parsed, hparsed⟩
    obtain ⟨hfirst, hsecond⟩ := (sigstore_parsePrincipal h).mp hparsed
    obtain ⟨hne, hsize, hvalid⟩ := hissuer.mp ⟨parsed.1, hfirst⟩
    obtain ⟨hne', hsize', hvalid'⟩ := hsubject.mp ⟨parsed.2, hsecond⟩
    exact ⟨⟨hne, hsize, hne', hsize', hvalid'⟩, hvalid⟩
  · rintro ⟨⟨hne, hsize, hne', hsize', hvalid'⟩, hvalid⟩
    obtain ⟨first, hfirst⟩ := hissuer.mpr ⟨hne, hsize, hvalid⟩
    obtain ⟨second, hsecond⟩ := hsubject.mpr ⟨hne', hsize', hvalid'⟩
    exact ⟨(first, second), (sigstore_parsePrincipal h).mpr ⟨hfirst, hsecond⟩⟩

theorem oidc_accepts_iff {value issuer subject : String}
    (h : principalParts value = some (issuer, subject)) :
    (∃ parsed, Oidc.parsePrincipal value = .ok parsed) ↔
      PartsBounded issuer subject ∧ Oidc.issuerUrl issuer = true := by
  have hissuer := @Checked.exists_str_eq 512 Oidc.issuerUrl issuer
  have hsubject := @Checked.exists_str_eq 1024 Oidc.noControl subject
  constructor
  · rintro ⟨parsed, hparsed⟩
    obtain ⟨hfirst, hsecond⟩ := (oidc_parsePrincipal h).mp hparsed
    obtain ⟨hne, hsize, hvalid⟩ := hissuer.mp ⟨parsed.1, hfirst⟩
    obtain ⟨hne', hsize', hvalid'⟩ := hsubject.mp ⟨parsed.2, hsecond⟩
    exact ⟨⟨hne, hsize, hne', hsize', hvalid'⟩, hvalid⟩
  · rintro ⟨⟨hne, hsize, hne', hsize', hvalid'⟩, hvalid⟩
    obtain ⟨first, hfirst⟩ := hissuer.mpr ⟨hne, hsize, hvalid⟩
    obtain ⟨second, hsecond⟩ := hsubject.mpr ⟨hne', hsize', hvalid'⟩
    exact ⟨(first, second), (oidc_parsePrincipal h).mpr ⟨hfirst, hsecond⟩⟩

/-- The principal of a text's own parts is that text, as long as it fits a principal. -/
theorem principal_of_parts {value issuer subject : String} {issuer' : Oidc.IssuerUrl}
    {subject' : Oidc.Subject} (h : principalParts value = some (issuer, subject))
    (hissuer : issuer'.str = issuer) (hsubject : subject'.str = subject) :
    (∃ principal, Oidc.principal issuer' subject' = .ok principal ∧ principal.str = value) ↔
      value.utf8ByteSize ≤ 512 := by
  have hbounded := bounded_of_principalParts h
  unfold Oidc.principal
  rw [hissuer, hsubject, principalText_eq h]
  unfold PrincipalId.parse
  constructor
  · rintro ⟨principal, hprincipal, rfl⟩
    have hok := principal.bounded
    rw [hbounded] at hok
    exact of_decide_eq_true hok
  · intro hsize
    have hok : boundedText 512 value = true := hbounded.trans (decide_eq_true hsize)
    refine ⟨⟨value, hok, canonicalScheme_of_principalParts h⟩, ?_, rfl⟩
    rw [dif_pos hok, dif_pos (canonicalScheme_of_principalParts h)]

theorem principalsAgree_of_none {value : String} (h : principalParts value = none) :
    PrincipalsAgree value :=
  .inl ⟨⟨_, by unfold Sigstore.parsePrincipal; rw [h]⟩, ⟨_, by unfold Oidc.parsePrincipal; rw [h]⟩⟩

theorem principalsAgree_iff (value : String) : PrincipalsAgree value ↔ PrincipalsCoincide value := by
  cases h : principalParts value with
  | none =>
    refine ⟨fun _ issuer subject hparts => ?_, fun _ => principalsAgree_of_none h⟩
    rw [h] at hparts
    cases hparts
  | some parts =>
    obtain ⟨issuer, subject⟩ := parts
    have hsigstore := sigstore_accepts_iff h
    have hoidc := oidc_accepts_iff h
    constructor
    · rintro (⟨hrefused, hrefused'⟩ | ⟨first, second, first', second', principal, hparse, hparse',
        -, -, hprincipal, hvalue⟩) issuer' subject' hparts hbounded
      · rw [h] at hparts
        cases hparts
        rw [Except.exists_error_iff, hsigstore] at hrefused
        rw [Except.exists_error_iff, hoidc] at hrefused'
        have hfalse : ¬Sigstore.https issuer = true := fun hhttps => hrefused ⟨hbounded, hhttps⟩
        have hfalse' : ¬Oidc.issuerUrl issuer = true := fun hurl => hrefused' ⟨hbounded, hurl⟩
        refine ⟨?_, fun hhttps => absurd hhttps hfalse⟩
        rw [Bool.not_eq_true] at hfalse hfalse'
        rw [hfalse, hfalse']
      · rw [h] at hparts
        cases hparts
        obtain ⟨-, hhttps⟩ := hsigstore.mp ⟨_, hparse⟩
        obtain ⟨-, hurl⟩ := hoidc.mp ⟨_, hparse'⟩
        obtain ⟨hfirst, hsecond⟩ := (oidc_parsePrincipal h).mp hparse'
        exact ⟨hhttps.trans hurl.symm, fun _ =>
          (principal_of_parts h hfirst hsecond).mp ⟨principal, hprincipal, hvalue⟩⟩
    · intro hcoincide
      by_cases hbounded : PartsBounded issuer subject
      · obtain ⟨hsame, hsize⟩ := hcoincide issuer subject h hbounded
        by_cases hhttps : Sigstore.https issuer = true
        · obtain ⟨⟨first, second⟩, hparse⟩ := hsigstore.mpr ⟨hbounded, hhttps⟩
          obtain ⟨⟨first', second'⟩, hparse'⟩ := hoidc.mpr ⟨hbounded, hsame ▸ hhttps⟩
          obtain ⟨hfirst, hsecond⟩ := (sigstore_parsePrincipal h).mp hparse
          obtain ⟨hfirst', hsecond'⟩ := (oidc_parsePrincipal h).mp hparse'
          obtain ⟨principal, hprincipal, hvalue⟩ :=
            (principal_of_parts h hfirst' hsecond').mpr (hsize hhttps)
          exact .inr ⟨first, second, first', second', principal, hparse, hparse',
            hfirst.trans hfirst'.symm, hsecond.trans hsecond'.symm, hprincipal, hvalue⟩
        · refine .inl ⟨Except.exists_error_iff.mpr fun hok => ?_,
            Except.exists_error_iff.mpr fun hok => ?_⟩
          · exact hhttps (hsigstore.mp hok).2
          · exact hhttps (hsame.trans (hoidc.mp hok).2)
      · refine .inl ⟨Except.exists_error_iff.mpr fun hok => ?_,
          Except.exists_error_iff.mpr fun hok => ?_⟩
        · exact hbounded (hsigstore.mp hok).1
        · exact hbounded (hoidc.mp hok).1

/-! ## The facts of one workload, as each adapter receives them -/

structure WorkloadFacts where
  issuer : String
  subject : String
  repository : String
  repositoryId : String
  owner : String
  ownerId : String
  workflowRef : String
  workflowCommit : String
  gitRef : String
  sha : String
  environment : Option String

/-- The certificate's extensions carry the facts. -/
structure CertificateCarries (facts : Sigstore.FulcioFacts) (workload : WorkloadFacts) : Prop where
  issuer : facts.issuer.str = workload.issuer
  subject : facts.subject.str = workload.subject
  repository : Sigstore.lookup facts.values "1.3.6.1.4.1.57264.1.12" =
    some (Sigstore.githubPrefix ++ workload.repository)
  repositoryId : Sigstore.lookup facts.values "1.3.6.1.4.1.57264.1.15" = some workload.repositoryId
  owner : Sigstore.lookup facts.values "1.3.6.1.4.1.57264.1.16" =
    some (Sigstore.githubPrefix ++ workload.owner)
  ownerId : Sigstore.lookup facts.values "1.3.6.1.4.1.57264.1.17" = some workload.ownerId
  workflowRef : Sigstore.lookup facts.values "1.3.6.1.4.1.57264.1.18" =
    some (Sigstore.githubPrefix ++ workload.workflowRef)
  workflowCommit : Sigstore.lookup facts.values "1.3.6.1.4.1.57264.1.19" =
    some workload.workflowCommit
  gitRef : Sigstore.lookup facts.values "1.3.6.1.4.1.57264.1.14" = some workload.gitRef
  sha : Sigstore.lookup facts.values "1.3.6.1.4.1.57264.1.13" = some workload.sha
  environment : Sigstore.lookup facts.values "1.3.6.1.4.1.57264.1.23" = workload.environment

/-- The token's claims are the facts, parsed. -/
structure ClaimsCarry (claims : Oidc.GithubClaims) (workload : WorkloadFacts) : Prop where
  issuer : claims.common.iss.str = workload.issuer
  subject : claims.common.sub.str = workload.subject
  repository : Oidc.Repository.parse workload.repository = .ok claims.repository
  repositoryId : Oidc.RepositoryId.parse workload.repositoryId = .ok claims.repositoryId
  owner : Oidc.RepositoryOwner.parse workload.owner = .ok claims.repositoryOwner
  ownerId : Oidc.RepositoryOwnerId.parse workload.ownerId = .ok claims.repositoryOwnerId
  workflowRef : Oidc.workflowRef workload.workflowRef = .ok claims.workflowRef
  workflowCommit : Oidc.CommitSha.parse workload.workflowCommit = .ok claims.workflowSha
  gitRef : Oidc.parseText workload.gitRef = .ok claims.gitRef
  sha : Oidc.CommitSha.parse workload.sha = .ok claims.sha
  environment : workload.environment.mapM Oidc.parseText = .ok claims.environment

/-- The two identities have the same text in every field a policy or a cross-check reads. -/
structure SameWorkload (identity : Sigstore.FulcioGithubIdentity) (claims : Oidc.GithubClaims) :
    Prop where
  repository : identity.repository.str = claims.repository.str
  repositoryId : identity.repositoryId.get = claims.repositoryId.get
  owner : identity.owner.str = claims.repositoryOwner.str
  ownerId : identity.ownerId.get = claims.repositoryOwnerId.get
  workflowRepository : identity.workflow.reference.repository.str = claims.workflowRef.repository.str
  path : identity.workflow.reference.path.str = claims.workflowRef.path.str
  workflowGitRef : identity.workflow.reference.gitRef.str = claims.workflowRef.gitRef.str
  commit : identity.workflow.commit.str = claims.workflowSha.str
  gitRef : identity.gitRef.str = claims.gitRef.str
  environment : identity.environment.map Checked.str = claims.environment.map Checked.str

theorem sigstore_parseText {maximum : Nat} {valid : String → Bool} {value : String}
    {text : Checked maximum valid} (h : Sigstore.parseText value = .ok text) : text.str = value := by
  unfold Sigstore.parseText at h
  split at h
  · next hparse =>
    cases h
    exact Checked.parse_eq_some.mp hparse
  · cases h

theorem oidc_parseText {maximum : Nat} {valid : String → Bool} {value : String}
    {text : Checked maximum valid} (h : Oidc.parseText value = .ok text) : text.str = value := by
  unfold Oidc.parseText at h
  split at h
  · next hparse =>
    cases h
    exact Checked.parse_eq_some.mp hparse
  · cases h

theorem sigstore_repository {value : String} {repository : Sigstore.Repository}
    (h : Sigstore.Repository.parse value = .ok repository) : repository.str = toAsciiLower value := by
  unfold Sigstore.Repository.parse at h
  split at h
  · cases h
    rfl
  · cases h

theorem oidc_repository {value : String} {repository : Oidc.Repository}
    (h : Oidc.Repository.parse value = .ok repository) : repository.str = toAsciiLower value := by
  unfold Oidc.Repository.parse at h
  split at h
  · cases h
    rfl
  · cases h

theorem same_owner {value : String} {owner : Sigstore.RepositoryOwner}
    {owner' : Oidc.RepositoryOwner} (h : Sigstore.RepositoryOwner.parse value = .ok owner)
    (h' : Oidc.RepositoryOwner.parse value = .ok owner') : owner.str = owner'.str := by
  unfold Sigstore.RepositoryOwner.parse at h
  unfold Oidc.RepositoryOwner.parse at h'
  split at h
  · cases h
  · next hvalid =>
    rw [if_neg hvalid] at h'
    cases h
    cases h'
    rfl

theorem same_repositoryId {value : String} {id : Sigstore.RepositoryId} {id' : Oidc.RepositoryId}
    (h : Sigstore.RepositoryId.parse value = .ok id)
    (h' : Oidc.RepositoryId.parse value = .ok id') : id.get = id'.get := by
  unfold Sigstore.RepositoryId.parse at h
  unfold Oidc.RepositoryId.parse at h'
  cases hparse : parsePositive value with
  | none =>
    rw [hparse] at h
    cases h
  | some n =>
    rw [hparse] at h h'
    cases h
    cases h'
    rfl

theorem same_ownerId {value : String} {id : Sigstore.RepositoryOwnerId}
    {id' : Oidc.RepositoryOwnerId} (h : Sigstore.RepositoryOwnerId.parse value = .ok id)
    (h' : Oidc.RepositoryOwnerId.parse value = .ok id') : id.get = id'.get := by
  unfold Sigstore.RepositoryOwnerId.parse at h
  unfold Oidc.RepositoryOwnerId.parse at h'
  cases hparse : parsePositive value with
  | none =>
    rw [hparse] at h
    cases h
  | some n =>
    rw [hparse] at h h'
    cases h
    cases h'
    rfl

/-- Forty hexadecimal digits do not begin with the optional algorithm prefix. -/
theorem same_commit {value : String} {commit : Sigstore.CommitSha} {commit' : Oidc.CommitSha}
    (h : Sigstore.CommitSha.parse value = .ok commit)
    (h' : Oidc.CommitSha.parse value = .ok commit') : commit.str = commit'.str := by
  unfold Oidc.CommitSha.parse at h'
  split at h'
  · next hdigits =>
    cases h'
    have hplain : stripPrefix "sha1:".toList value.toList = none := by
      rw [Option.eq_none_iff_forall_ne_some]
      intro rest hstrip
      rw [stripPrefix_eq_some] at hstrip
      have hletters : "sha1:".toList.all Oidc.isLowerHex = false := by decide
      rw [Bool.and_eq_true, hstrip, List.all_append, hletters] at hdigits
      simp at hdigits
    unfold Sigstore.CommitSha.parse at h
    rw [hplain] at h
    dsimp only [Option.getD] at h
    split at h
    · cases h
      exact String.ofList_toList
    · cases h
  · cases h'

theorem githubPath_eq (value : String) :
    Sigstore.githubPath (Sigstore.githubPrefix ++ value) = .ok value.toList := by
  unfold Sigstore.githubPath
  rw [String.toList_append, stripPrefix_eq_some.mpr rfl]

/-- Both adapters split a workflow reference at the same two places. -/
theorem same_workflow {reference commit : String} {workflow : Sigstore.WorkflowIdentity}
    {reference' : Oidc.WorkflowRef} {commit' : Oidc.CommitSha}
    (h : Sigstore.workflow (Sigstore.githubPrefix ++ reference) commit = .ok workflow)
    (hreference : Oidc.workflowRef reference = .ok reference')
    (hcommit : Oidc.CommitSha.parse commit = .ok commit') :
    workflow.reference.repository.str = reference'.repository.str ∧
    workflow.reference.path.str = reference'.path.str ∧
    workflow.reference.gitRef.str = reference'.gitRef.str ∧ workflow.commit.str = commit'.str := by
  unfold Sigstore.workflow at h
  unfold Oidc.workflowRef at hreference
  rw [githubPath_eq] at h
  obtain ⟨value, hvalue, h⟩ := Except.bind_eq_ok.mp h
  cases hvalue
  cases hmarker : splitAtMarker "/.github/workflows/".toList reference.toList with
  | none =>
    rw [hmarker] at h
    cases h
  | some parts =>
    rw [hmarker] at h hreference
    obtain ⟨repository, hrepository, h⟩ := Except.bind_eq_ok.mp h
    obtain ⟨repository', hrepository', hreference⟩ := Except.bind_eq_ok.mp hreference
    dsimp only at h hreference
    cases hat : rsplitOnce '@' (parts.2.drop 1) with
    | none =>
      rw [hat] at h
      cases h
    | some pieces =>
      rw [hat] at h hreference
      obtain ⟨path, hpath, h⟩ := Except.bind_eq_ok.mp h
      obtain ⟨gitRef, hgitRef, h⟩ := Except.bind_eq_ok.mp h
      obtain ⟨sha, hsha, h⟩ := Except.bind_eq_ok.mp h
      cases h
      obtain ⟨path', hpath', hreference⟩ := Except.bind_eq_ok.mp hreference
      obtain ⟨gitRef', hgitRef', hreference⟩ := Except.bind_eq_ok.mp hreference
      split at hreference
      · cases hreference
      · cases hreference
        refine ⟨?_, ?_, ?_, same_commit hsha hcommit⟩
        · exact (sigstore_repository hrepository).trans (oidc_repository hrepository').symm
        · exact (sigstore_parseText hpath).trans (oidc_parseText hpath').symm
        · exact (sigstore_parseText hgitRef).trans (oidc_parseText hgitRef').symm

theorem same_environment {value : Option String} {environment : Option Sigstore.Environment}
    {environment' : Option Oidc.Environment}
    (h : value.mapM Sigstore.parseText = Except.ok environment)
    (h' : value.mapM Oidc.parseText = Except.ok environment') :
    environment.map Checked.str = environment'.map Checked.str := by
  cases value with
  | none =>
    cases h
    cases h'
    rfl
  | some value =>
    obtain ⟨text, htext, h⟩ := Except.bind_eq_ok.mp h
    obtain ⟨text', htext', h'⟩ := Except.bind_eq_ok.mp h'
    cases h
    cases h'
    exact congrArg some ((sigstore_parseText htext).trans (oidc_parseText htext').symm)

theorem required_eq {values : List (String × String)} {oid value found : String}
    (hlookup : Sigstore.lookup values oid = some value)
    (h : Sigstore.required values oid = .ok found) : found = value := by
  unfold Sigstore.required at h
  rw [hlookup] at h
  cases h
  rfl

/-- What the certificate's identity says, the claims say too. -/
theorem same_workload {facts : Sigstore.FulcioFacts} {claims : Oidc.GithubClaims}
    {workload : WorkloadFacts} {policies : List Sigstore.FulcioGithubPolicy}
    {identity : Sigstore.FulcioWorkloadIdentity} (hfacts : CertificateCarries facts workload)
    (hclaims : ClaimsCarry claims workload)
    (h : facts.intoIdentity (.githubActions policies) = .ok identity) :
    ∃ github, identity = .githubActions github ∧ SameWorkload github claims := by
  unfold Sigstore.FulcioFacts.intoIdentity at h
  obtain ⟨repositoryText, hrepositoryText, h⟩ := Except.bind_eq_ok.mp h
  obtain ⟨repository, hrepository, h⟩ := Except.bind_eq_ok.mp h
  obtain ⟨ownerText, hownerText, h⟩ := Except.bind_eq_ok.mp h
  obtain ⟨owner, howner, h⟩ := Except.bind_eq_ok.mp h
  obtain ⟨uri, huri, h⟩ := Except.bind_eq_ok.mp h
  obtain ⟨commit, hcommit, h⟩ := Except.bind_eq_ok.mp h
  obtain ⟨initiating, hinitiating, h⟩ := Except.bind_eq_ok.mp h
  obtain ⟨signerUri, hsignerUri, h⟩ := Except.bind_eq_ok.mp h
  obtain ⟨signerCommit, hsignerCommit, h⟩ := Except.bind_eq_ok.mp h
  obtain ⟨signer, hsigner, h⟩ := Except.bind_eq_ok.mp h
  obtain ⟨idText, hidText, h⟩ := Except.bind_eq_ok.mp h
  obtain ⟨id, hid, h⟩ := Except.bind_eq_ok.mp h
  obtain ⟨ownerIdText, hownerIdText, h⟩ := Except.bind_eq_ok.mp h
  obtain ⟨ownerId, hownerId, h⟩ := Except.bind_eq_ok.mp h
  obtain ⟨refText, hrefText, h⟩ := Except.bind_eq_ok.mp h
  obtain ⟨gitRef, hgitRef, h⟩ := Except.bind_eq_ok.mp h
  obtain ⟨shaText, hshaText, h⟩ := Except.bind_eq_ok.mp h
  obtain ⟨sha, hsha, h⟩ := Except.bind_eq_ok.mp h
  obtain ⟨environment, henvironment, h⟩ := Except.bind_eq_ok.mp h
  obtain ⟨runnerText, hrunnerText, h⟩ := Except.bind_eq_ok.mp h
  obtain ⟨runner, hrunner, h⟩ := Except.bind_eq_ok.mp h
  obtain ⟨eventText, heventText, h⟩ := Except.bind_eq_ok.mp h
  obtain ⟨event, hevent, h⟩ := Except.bind_eq_ok.mp h
  obtain ⟨runText, hrunText, h⟩ := Except.bind_eq_ok.mp h
  obtain ⟨run, hrun, h⟩ := Except.bind_eq_ok.mp h
  cases h
  obtain rfl := required_eq hfacts.repository hrepositoryText
  obtain rfl := required_eq hfacts.owner hownerText
  obtain rfl := required_eq hfacts.workflowRef huri
  obtain rfl := required_eq hfacts.workflowCommit hcommit
  obtain rfl := required_eq hfacts.repositoryId hidText
  obtain rfl := required_eq hfacts.ownerId hownerIdText
  obtain rfl := required_eq hfacts.gitRef hrefText
  obtain rfl := required_eq hfacts.sha hshaText
  rw [hfacts.environment] at henvironment
  obtain ⟨repositoryPath, hrepositoryPath, hrepository⟩ := Except.bind_eq_ok.mp hrepository
  obtain ⟨ownerPath, hownerPath, howner⟩ := Except.bind_eq_ok.mp howner
  rw [githubPath_eq] at hrepositoryPath hownerPath
  cases hrepositoryPath
  cases hownerPath
  rw [String.ofList_toList] at hrepository howner
  obtain ⟨hworkflow, hpath, hworkflowRef, hworkflowCommit⟩ :=
    same_workflow hinitiating hclaims.workflowRef hclaims.workflowCommit
  refine ⟨_, rfl, ?_⟩
  exact {
    repository := (sigstore_repository hrepository).trans (oidc_repository hclaims.repository).symm
    repositoryId := same_repositoryId hid hclaims.repositoryId
    owner := same_owner howner hclaims.owner
    ownerId := same_ownerId hownerId hclaims.ownerId
    workflowRepository := hworkflow
    path := hpath
    workflowGitRef := hworkflowRef
    commit := hworkflowCommit
    gitRef := (sigstore_parseText hgitRef).trans (oidc_parseText hclaims.gitRef).symm
    environment := same_environment henvironment hclaims.environment }

/-! ## Field-by-field equal policies -/

def SamePin : Sigstore.WorkflowPin → Oidc.WorkflowPin → Prop
  | .exact path gitRef commit, .exact path' gitRef' commit' =>
    path.str = path'.str ∧ gitRef.str = gitRef'.str ∧ commit.str = commit'.str
  | .anyRef path, .anyRef path' => path.str = path'.str
  | _, _ => False

structure SamePolicy (policy : Sigstore.FulcioGithubPolicy) (policy' : Oidc.GithubPolicy) : Prop where
  repositoryId : policy.repositoryId.get = policy'.repositoryId.get
  ownerId : policy.ownerId.get = policy'.ownerId.get
  workflow : Option.Rel SamePin policy.workflow policy'.workflow
  gitRef : policy.gitRef.map Checked.str = policy'.gitRef.map Checked.str
  environment : policy.environment.map Checked.str = policy'.environment.map Checked.str

theorem beq_congr {α β γ : Type} [BEq α] [LawfulBEq α] [BEq β] [LawfulBEq β] {f : α → γ} {g : β → γ}
    (hf : Function.Injective f) (hg : Function.Injective g) {a b : α} {a' b' : β}
    (ha : f a = g a') (hb : f b = g b') : (a == b) = (a' == b') := by
  rw [Bool.eq_iff_iff, beq_iff_eq, beq_iff_eq, ← hf.eq_iff, ha, hb, hg.eq_iff]

theorem all_congr {α β : Type} {R : α → β → Prop} {x : Option α} {y : Option β} {p : α → Bool}
    {q : β → Bool} (h : Option.Rel R x y) (hpq : ∀ a b, R a b → p a = q b) : x.all p = y.all q := by
  cases h with
  | some hab => exact hpq _ _ hab
  | none => rfl

theorem rel_of_map_eq {α β γ : Type} {f : α → γ} {g : β → γ} {x : Option α} {y : Option β}
    (h : x.map f = y.map g) : Option.Rel (fun a b => f a = g b) x y := by
  cases x with
  | none =>
    cases y with
    | none => exact .none
    | some b => cases h
  | some a =>
    cases y with
    | none => cases h
    | some b => exact .some (Option.some.inj h)

theorem sigstore_repository_injective : Function.Injective Sigstore.Repository.str := by
  rintro ⟨a, ha⟩ ⟨b, hb⟩ (rfl : a = b)
  rfl

theorem oidc_repository_injective : Function.Injective Oidc.Repository.str := by
  rintro ⟨a, ha⟩ ⟨b, hb⟩ (rfl : a = b)
  rfl

theorem sigstore_commit_injective : Function.Injective Sigstore.CommitSha.str := by
  rintro ⟨a⟩ ⟨b⟩ (rfl : a = b)
  rfl

theorem oidc_commit_injective : Function.Injective Oidc.CommitSha.str := by
  rintro ⟨a⟩ ⟨b⟩ (rfl : a = b)
  rfl

theorem pin_eq {pin : Sigstore.WorkflowPin} {pin' : Oidc.WorkflowPin}
    {identity : Sigstore.FulcioGithubIdentity} {claims : Oidc.GithubClaims} (hpin : SamePin pin pin')
    (hsame : SameWorkload identity claims) :
    pin.matches identity.workflow = pin'.matches claims.described.workflow := by
  cases pin with
  | exact path gitRef commit =>
    cases pin' with
    | exact path' gitRef' commit' =>
      obtain ⟨hpath, hgitRef, hcommit⟩ := hpin
      unfold Sigstore.WorkflowPin.matches Oidc.WorkflowPin.matches Oidc.GithubClaims.described
      dsimp only
      rw [beq_congr Checked.str_injective Checked.str_injective hsame.path hpath,
        beq_congr Checked.str_injective Checked.str_injective hsame.workflowGitRef hgitRef,
        beq_congr sigstore_commit_injective oidc_commit_injective hsame.commit hcommit]
    | anyRef path' => exact hpin.elim
  | anyRef path =>
    cases pin' with
    | exact path' gitRef' commit' => exact hpin.elim
    | anyRef path' =>
      exact beq_congr Checked.str_injective Checked.str_injective hsame.path hpin

/-- The two matchers agree on equal policies and equal workloads. -/
theorem admits_eq {policy : Sigstore.FulcioGithubPolicy} {policy' : Oidc.GithubPolicy}
    {identity : Sigstore.FulcioGithubIdentity} {claims : Oidc.GithubClaims}
    (hpolicy : SamePolicy policy policy') (hsame : SameWorkload identity claims) :
    Sigstore.githubAdmits policy identity = policy'.admits claims.described := by
  have hid : (policy.repositoryId == identity.repositoryId) =
      (policy'.repositoryId == claims.repositoryId) := by
    refine beq_congr (f := Sigstore.RepositoryId.get) (g := Oidc.RepositoryId.get) ?_ ?_
      hpolicy.repositoryId hsame.repositoryId
    · exact fun ⟨a⟩ ⟨b⟩ h => congrArg Sigstore.RepositoryId.mk h
    · exact fun ⟨a⟩ ⟨b⟩ h => congrArg Oidc.RepositoryId.mk h
  have howner : (policy.ownerId == identity.ownerId) = (policy'.ownerId == claims.repositoryOwnerId) := by
    refine beq_congr (f := Sigstore.RepositoryOwnerId.get) (g := Oidc.RepositoryOwnerId.get) ?_ ?_
      hpolicy.ownerId hsame.ownerId
    · exact fun ⟨a⟩ ⟨b⟩ h => congrArg Sigstore.RepositoryOwnerId.mk h
    · exact fun ⟨a⟩ ⟨b⟩ h => congrArg Oidc.RepositoryOwnerId.mk h
  have hworkflow := all_congr hpolicy.workflow fun pin pin' hpin => pin_eq hpin hsame
  have hgitRef := all_congr (rel_of_map_eq hpolicy.gitRef) fun v v' hv =>
    beq_congr Checked.str_injective Checked.str_injective hsame.gitRef hv
  have henvironment : (policy.environment.all fun v => identity.environment == some v) =
      policy'.environment.all fun v => claims.environment == some v :=
    all_congr (rel_of_map_eq hpolicy.environment) fun v v' hv =>
      beq_congr (Option.map_injective Checked.str_injective)
        (Option.map_injective Checked.str_injective) hsame.environment (congrArg some hv)
  unfold Sigstore.githubAdmits Oidc.GithubPolicy.admits
  rw [hid, howner, hworkflow, hgitRef, henvironment]
  rfl

/-! ## Admission -/

section Admission

variable [Sha256]

def SigstoreAdmits (policies : List Sigstore.FulcioGithubPolicy)
    (identity : Sigstore.FulcioWorkloadIdentity) : Prop :=
  ∃ admitted, (Sigstore.FulcioIssuerProfile.githubActions policies).admitIdentity identity = .ok admitted

def OidcAdmits (policies : List Oidc.GithubPolicy) (claims : Oidc.GithubClaims) : Prop :=
  ∃ identity admitted, (Oidc.ClaimSet.githubActions claims).intoIdentity = .ok identity ∧
    (Oidc.IssuerProfile.githubActions policies).admitIdentity identity = .ok admitted

/-- The owner owns the repository and the workflow lies in it. -/
def SigstoreConsistent (identity : Sigstore.FulcioWorkloadIdentity) : Prop :=
  ∃ github, identity = .githubActions github ∧ github.owner.str = github.repository.owner ∧
    github.workflow.reference.repository = github.repository

def OidcConsistent (claims : Oidc.GithubClaims) : Prop :=
  claims.repositoryOwner.str = claims.repository.owner ∧
    claims.workflowRef.repository = claims.repository

/-- Both adapters admit the workload or neither does, and only a consistent one. -/
structure AdmissionAgrees (policies : List Sigstore.FulcioGithubPolicy)
    (policies' : List Oidc.GithubPolicy) (identity : Sigstore.FulcioWorkloadIdentity)
    (claims : Oidc.GithubClaims) : Prop where
  same : SigstoreAdmits policies identity ↔ OidcAdmits policies' claims
  sigstore : SigstoreAdmits policies identity → SigstoreConsistent identity
  oidc : OidcAdmits policies' claims → OidcConsistent claims

theorem sigstoreAdmits_iff {policies : List Sigstore.FulcioGithubPolicy}
    {github : Sigstore.FulcioGithubIdentity} : SigstoreAdmits policies (.githubActions github) ↔
      ∃ policy ∈ policies, Sigstore.githubAdmits policy github = true := by
  unfold SigstoreAdmits Sigstore.FulcioIssuerProfile.admitIdentity
  dsimp only
  cases hfind : policies.find? fun p => Sigstore.githubAdmits p github with
  | none => simpa using List.find?_eq_none.mp hfind
  | some policy =>
    have hadmits := List.find?_some hfind
    exact ⟨fun _ => ⟨policy, List.mem_of_find?_eq_some hfind, hadmits⟩, fun _ => ⟨_, rfl⟩⟩

theorem oidcProfile_admits_iff {policies : List Oidc.GithubPolicy} {github : Oidc.GithubIdentity} :
    (∃ admitted, (Oidc.IssuerProfile.githubActions policies).admitIdentity (.githubActions github) =
      .ok admitted) ↔ ∃ policy ∈ policies, policy.admits github = true := by
  unfold Oidc.IssuerProfile.admitIdentity
  dsimp only
  cases hfind : policies.find? fun policy => policy.admits github with
  | none => simpa using List.find?_eq_none.mp hfind
  | some policy =>
    have hadmits := List.find?_some hfind
    exact ⟨fun _ => ⟨policy, List.mem_of_find?_eq_some hfind, hadmits⟩, fun _ => ⟨_, rfl⟩⟩

omit [Sha256] in
/-- The constructor accepts the consistent identities. -/
theorem github_new {value : Oidc.GithubIdentity} (hconsistent : value.owner.str = value.repository.owner ∧
    value.workflow.reference.repository = value.repository) : Oidc.GithubIdentity.new value =
      .ok { value with repository := value.repository.makeAsciiLowercase } := by
  obtain ⟨howner, hworkflow⟩ := hconsistent
  unfold Oidc.GithubIdentity.new
  simp only [howner, hworkflow, ne_eq, not_true_eq_false, or_self, if_false]
  split
  · next job hjob =>
    have hnonempty : job.reference.repository.str.isEmpty = false := by
      simpa using job.reference.repository.nonempty
    simp [hnonempty]
  · rfl

theorem oidcAdmits_iff {policies : List Oidc.GithubPolicy} {claims : Oidc.GithubClaims} :
    OidcAdmits policies claims ↔
      OidcConsistent claims ∧ ∃ policy ∈ policies, policy.admits claims.described = true := by
  unfold OidcAdmits Oidc.ClaimSet.intoIdentity
  by_cases hconsistent : OidcConsistent claims
  · have hnew := @github_new claims.described hconsistent
    have hadmits := @oidcProfile_admits_iff _ policies { claims.described with
      repository := claims.repository.makeAsciiLowercase }
    simp only [hconsistent, true_and]
    rw [hnew]
    constructor
    · rintro ⟨identity, admitted, hidentity, hadmit⟩
      cases hidentity
      exact hadmits.mp ⟨admitted, hadmit⟩
    · intro hpolicy
      obtain ⟨admitted, hadmit⟩ := hadmits.mpr hpolicy
      exact ⟨_, admitted, rfl, hadmit⟩
  · have hnew : Oidc.GithubIdentity.new claims.described = .error .inconsistentIdentity := by
      refine if_pos ?_
      by_contra hsame
      rw [not_or, not_not, not_not] at hsame
      exact hconsistent hsame
    simp only [hconsistent, false_and, iff_false, not_exists]
    rw [hnew]
    rintro identity admitted ⟨hidentity, -⟩
    cases hidentity

omit [Sha256] in
/-- What the certificate's identity says of owner and workflow, the claims say too. -/
theorem consistent_iff {github : Sigstore.FulcioGithubIdentity} {claims : Oidc.GithubClaims}
    (hsame : SameWorkload github claims) :
    SigstoreConsistent (.githubActions github) ↔ OidcConsistent claims := by
  have howner : github.repository.owner = claims.repository.owner := by
    have hparts : splitOnce '/' github.repository.str.toList =
        splitOnce '/' claims.repository.str.toList := by rw [hsame.repository]
    unfold Sigstore.Repository.owner Oidc.Repository.owner
    cases hsplit : splitOnce '/' claims.repository.str.toList with
    | none => simp only [hparts, hsplit]
    | some parts => simp only [hparts, hsplit]
  have hrepository : github.workflow.reference.repository = github.repository ↔
      claims.workflowRef.repository = claims.repository := by
    rw [← sigstore_repository_injective.eq_iff, ← oidc_repository_injective.eq_iff,
      hsame.workflowRepository, hsame.repository]
  constructor
  · rintro ⟨github', hgithub, hfirst, hsecond⟩
    cases hgithub
    exact ⟨by rw [← hsame.owner, hfirst, howner], hrepository.mp hsecond⟩
  · rintro ⟨hfirst, hsecond⟩
    exact ⟨github, rfl, by rw [hsame.owner, hfirst, howner], hrepository.mpr hsecond⟩

omit [Sha256] in
theorem exists_admits_iff {policies : List Sigstore.FulcioGithubPolicy}
    {policies' : List Oidc.GithubPolicy} {github : Sigstore.FulcioGithubIdentity}
    {claims : Oidc.GithubClaims} (hpolicies : List.Forall₂ SamePolicy policies policies')
    (hsame : SameWorkload github claims) :
    (∃ policy ∈ policies, Sigstore.githubAdmits policy github = true) ↔
      ∃ policy ∈ policies', policy.admits claims.described = true := by
  induction hpolicies with
  | nil => simp
  | cons hpolicy hrest ih => simp [admits_eq hpolicy hsame, ih]

/-- The adapters agree on a workload exactly when it is consistent or no policy covers it. -/
theorem admissionAgrees_iff {policies : List Sigstore.FulcioGithubPolicy}
    {policies' : List Oidc.GithubPolicy} {github : Sigstore.FulcioGithubIdentity}
    {claims : Oidc.GithubClaims} (hpolicies : List.Forall₂ SamePolicy policies policies')
    (hsame : SameWorkload github claims) :
    AdmissionAgrees policies policies' (.githubActions github) claims ↔
      OidcConsistent claims ∨ ∀ policy ∈ policies', policy.admits claims.described = false := by
  have hsigstore := @sigstoreAdmits_iff _ policies github
  have hoidc := @oidcAdmits_iff _ policies' claims
  have hmatch := exists_admits_iff hpolicies hsame
  have hconsistent := consistent_iff hsame
  constructor
  · intro hagrees
    by_cases hcovered : ∃ policy ∈ policies', policy.admits claims.described = true
    · exact .inl (hoidc.mp (hagrees.same.mp (hsigstore.mpr (hmatch.mpr hcovered)))).1
    · exact .inr (by simpa using hcovered)
  · rintro (hyes | hnone)
    · refine ⟨?_, fun _ => hconsistent.mpr hyes, fun _ => hyes⟩
      rw [hsigstore, hoidc, hmatch]
      exact ⟨fun h => ⟨hyes, h⟩, fun h => h.2⟩
    · have huncovered : ¬∃ policy ∈ policies', policy.admits claims.described = true := by
        simpa using hnone
      refine ⟨?_, fun h => ?_, fun h => ?_⟩
      · rw [hsigstore, hoidc, hmatch]
        exact ⟨fun h => absurd h huncovered, fun h => absurd h.2 huncovered⟩
      · exact absurd (hmatch.mp (hsigstore.mp h)) huncovered
      · exact absurd (hoidc.mp h).2 huncovered

/-- Where exactly the two adapters agree: on admission, and on the principals they parse. -/
theorem workloads_agree_iff :
    (∀ (facts : Sigstore.FulcioFacts) (claims : Oidc.GithubClaims) (workload : WorkloadFacts)
      (policies : List Sigstore.FulcioGithubPolicy) (policies' : List Oidc.GithubPolicy)
      (identity : Sigstore.FulcioWorkloadIdentity),
      CertificateCarries facts workload → ClaimsCarry claims workload →
      facts.intoIdentity (.githubActions policies) = .ok identity →
      List.Forall₂ SamePolicy policies policies' →
      (AdmissionAgrees policies policies' identity claims ↔
        OidcConsistent claims ∨ ∀ policy ∈ policies', policy.admits claims.described = false)) ∧
    ∀ value, PrincipalsAgree value ↔ PrincipalsCoincide value := by
  refine ⟨fun facts claims workload policies policies' identity hfacts hclaims hidentity hpolicies =>
    ?_, principalsAgree_iff⟩
  obtain ⟨github, rfl, hsame⟩ := same_workload hfacts hclaims hidentity
  exact admissionAgrees_iff hpolicies hsame

end Admission

/-! ## A workload whose owner is not its repository's -/

section Sample

local instance sampleWorkloadSha256 : Sha256 := ⟨fun _ => .zero⟩

def sampleWorkload (owner : String) : WorkloadFacts where
  issuer := "https://issuer.example"
  subject := "repo:acme/app"
  repository := "acme/app"
  repositoryId := "42"
  owner := owner
  ownerId := "7"
  workflowRef := "acme/app/.github/workflows/ci.yml@refs/heads/main"
  workflowCommit := "0123456789abcdef0123456789abcdef01234567"
  gitRef := "refs/heads/main"
  sha := "0123456789abcdef0123456789abcdef01234567"
  environment := none

theorem sampleCertificateIssuer_valid : (!"https://issuer.example".isEmpty &&
    decide ("https://issuer.example".utf8ByteSize ≤ 512) &&
      Sigstore.https "https://issuer.example") = true := by decide

theorem sampleCertificateSubject_valid : (!"repo:acme/app".isEmpty &&
    decide ("repo:acme/app".utf8ByteSize ≤ 1024) &&
      Sigstore.noControl "repo:acme/app") = true := by decide

theorem sampleTokenIssuer_valid : (!"https://issuer.example".isEmpty &&
    decide ("https://issuer.example".utf8ByteSize ≤ 512) &&
      Oidc.issuerUrl "https://issuer.example") = true := by decide

theorem sampleTokenSubject_valid : (!"repo:acme/app".isEmpty &&
    decide ("repo:acme/app".utf8ByteSize ≤ 1024) &&
      Oidc.noControl "repo:acme/app") = true := by decide

theorem sampleRepository_nonempty : "acme/app" ≠ "" := by decide

theorem sampleWorkflowPath_valid : (!".github/workflows/ci.yml".isEmpty &&
    decide (".github/workflows/ci.yml".utf8ByteSize ≤ 256) &&
      Oidc.workflowPathSyntax ".github/workflows/ci.yml") = true := by decide

theorem sampleGitRef_valid : (!"refs/heads/main".isEmpty &&
    decide ("refs/heads/main".utf8ByteSize ≤ 256) &&
      Oidc.gitRefSyntax "refs/heads/main") = true := by decide

def sampleFacts (owner : String) : Sigstore.FulcioFacts where
  issuer := ⟨"https://issuer.example", sampleCertificateIssuer_valid⟩
  subject := ⟨"repo:acme/app", sampleCertificateSubject_valid⟩
  san := .uri "https://github.com/acme/app"
  values :=
    [("1.3.6.1.4.1.57264.1.12", Sigstore.githubPrefix ++ "acme/app"),
     ("1.3.6.1.4.1.57264.1.15", "42"),
     ("1.3.6.1.4.1.57264.1.16", Sigstore.githubPrefix ++ owner),
     ("1.3.6.1.4.1.57264.1.17", "7"),
     ("1.3.6.1.4.1.57264.1.18",
        Sigstore.githubPrefix ++ "acme/app/.github/workflows/ci.yml@refs/heads/main"),
     ("1.3.6.1.4.1.57264.1.19", "0123456789abcdef0123456789abcdef01234567"),
     ("1.3.6.1.4.1.57264.1.9",
        Sigstore.githubPrefix ++ "acme/app/.github/workflows/ci.yml@refs/heads/main"),
     ("1.3.6.1.4.1.57264.1.10", "0123456789abcdef0123456789abcdef01234567"),
     ("1.3.6.1.4.1.57264.1.14", "refs/heads/main"),
     ("1.3.6.1.4.1.57264.1.13", "0123456789abcdef0123456789abcdef01234567"),
     ("1.3.6.1.4.1.57264.1.11", "github-hosted"),
     ("1.3.6.1.4.1.57264.1.20", "push"),
     ("1.3.6.1.4.1.57264.1.21", "https://github.com/acme/app/actions/runs/1")]

def sampleClaims (owner : String) : Oidc.GithubClaims where
  common := ⟨⟨"https://issuer.example", sampleTokenIssuer_valid⟩,
    ⟨"repo:acme/app", sampleTokenSubject_valid⟩⟩
  repository := ⟨"acme/app", sampleRepository_nonempty⟩
  repositoryId := ⟨42⟩
  repositoryOwner := ⟨owner⟩
  repositoryOwnerId := ⟨7⟩
  workflowRef := ⟨⟨"acme/app", sampleRepository_nonempty⟩,
    ⟨".github/workflows/ci.yml", sampleWorkflowPath_valid⟩,
    ⟨"refs/heads/main", sampleGitRef_valid⟩⟩
  workflowSha := ⟨"0123456789abcdef0123456789abcdef01234567"⟩
  jobWorkflowRef := none
  jobWorkflowSha := none
  gitRef := ⟨"refs/heads/main", sampleGitRef_valid⟩
  sha := ⟨"0123456789abcdef0123456789abcdef01234567"⟩
  environment := none
  runnerEnvironment := none
  actor := none
  eventName := none

theorem sampleFacts_carries (owner : String) :
    CertificateCarries (sampleFacts owner) (sampleWorkload owner) := by
  constructor <;> rfl

theorem sampleClaims_carry : ClaimsCarry (sampleClaims "acme") (sampleWorkload "acme") := by
  constructor <;> decide

theorem sampleClaims_carry_stranger :
    ClaimsCarry (sampleClaims "stranger") (sampleWorkload "stranger") := by
  constructor <;> decide

def samplePolicies : List Sigstore.FulcioGithubPolicy := [⟨⟨42⟩, ⟨7⟩, none, none, none⟩]

def samplePolicies' : List Oidc.GithubPolicy := [⟨⟨42⟩, ⟨7⟩, none, none, none⟩]

theorem samplePolicies_same : List.Forall₂ SamePolicy samplePolicies samplePolicies' :=
  .cons ⟨rfl, rfl, .none, rfl, rfl⟩ .nil

theorem sampleFacts_parse {owner : String} (h : ((sampleFacts owner).intoIdentity
    (.githubActions samplePolicies)).isOk = true) : ∃ identity,
      (sampleFacts owner).intoIdentity (.githubActions samplePolicies) = .ok identity := by
  cases hidentity : (sampleFacts owner).intoIdentity (.githubActions samplePolicies) with
  | ok identity => exact ⟨identity, rfl⟩
  | error e =>
    rw [hidentity] at h
    cases h

theorem sample_workloads_agree :
    (∃ identity, (sampleFacts "acme").intoIdentity (.githubActions samplePolicies) = .ok identity ∧
      AdmissionAgrees samplePolicies samplePolicies' identity (sampleClaims "acme")) ∧
    PrincipalsAgree "oidc-workload:https%3A%2F%2Fissuer.example#job" := by
  obtain ⟨identity, hidentity⟩ := @sampleFacts_parse "acme" (by decide +kernel)
  refine ⟨⟨identity, hidentity, ?_⟩, (workloads_agree_iff.2 _).mpr fun issuer subject hparts _ => ?_⟩
  · exact (workloads_agree_iff.1 _ _ _ _ _ _ (sampleFacts_carries "acme") sampleClaims_carry
      hidentity samplePolicies_same).mpr (.inl ⟨by decide, rfl⟩)
  · have hknown : principalParts "oidc-workload:https%3A%2F%2Fissuer.example#job" =
        some ("https://issuer.example", "job") := by decide +kernel
    rw [hknown] at hparts
    cases hparts
    exact ⟨by decide, fun _ => by decide⟩

/-- The certificate of a workload whose owner does not own its repository is admitted, its token is
not; and the two parsers differ on an issuer with a query. -/
theorem workloads_disagree :
    (∃ identity, CertificateCarries (sampleFacts "stranger") (sampleWorkload "stranger") ∧
      ClaimsCarry (sampleClaims "stranger") (sampleWorkload "stranger") ∧
      (sampleFacts "stranger").intoIdentity (.githubActions samplePolicies) = .ok identity ∧
      List.Forall₂ SamePolicy samplePolicies samplePolicies' ∧
      SigstoreAdmits samplePolicies identity ∧
      ¬OidcAdmits samplePolicies' (sampleClaims "stranger")) ∧
    ¬PrincipalsAgree "oidc-workload:https%3A%2F%2Fissuer.example%3Ftenant%3D1#job" := by
  obtain ⟨identity, hidentity⟩ := @sampleFacts_parse "stranger" (by decide +kernel)
  obtain ⟨github, rfl, hsame⟩ :=
    same_workload (sampleFacts_carries "stranger") sampleClaims_carry_stranger hidentity
  refine ⟨⟨_, sampleFacts_carries _, sampleClaims_carry_stranger, hidentity, samplePolicies_same,
    ?_, ?_⟩, ?_⟩
  · exact sigstoreAdmits_iff.mpr ((exists_admits_iff samplePolicies_same hsame).mpr
      ⟨_, List.mem_cons_self, by decide⟩)
  · exact fun h => absurd (oidcAdmits_iff.mp h).1.1 (by decide)
  · intro h
    have hparts : principalParts "oidc-workload:https%3A%2F%2Fissuer.example%3Ftenant%3D1#job" =
        some ("https://issuer.example?tenant=1", "job") := by decide +kernel
    have hbounded : PartsBounded "https://issuer.example?tenant=1" "job" :=
      ⟨by decide, by decide, by decide, by decide, by decide⟩
    have hsame := ((principalsAgree_iff _).mp h _ _ hparts hbounded).1
    exact absurd hsame (by decide)

end Sample

end AuthsProof.Workload
