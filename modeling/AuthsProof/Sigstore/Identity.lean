import AuthsProof.Encode
import AuthsProof.Lib.Run
import AuthsProof.Lib.Text

/-! The workload a verified certificate names, and the policies that admit it. -/

namespace AuthsProof.Sigstore

open Text

inductive ExtensionError where
  | missing
  | invalidValue
  deriving DecidableEq

inductive SigstoreError where
  | extension (error : ExtensionError)
  | principalSyntax
  deriving DecidableEq

abbrev Parse (α : Type) := Except ExtensionError α

def noControl (value : String) : Bool := !value.toList.any isAsciiControl

def https (value : String) : Bool :=
  (stripPrefix "https://".toList value.toList).isSome &&
    !value.toList.any (fun c => c == '@' || c == '#') &&
    !value.toList.any (fun c => isAsciiControl c || c == ' ')

def gitRefSyntax (value : String) : Bool :=
  (stripPrefix "refs/".toList value.toList).isSome && !containsText "..".toList value.toList &&
    !containsText "//".toList value.toList && !value.toList.any (· == ' ')

def workflowPathSyntax (value : String) : Bool :=
  (stripPrefix ".github/workflows/".toList value.toList).isSome &&
    (match rsplitOnce '.' value.toList with
      | some (_, extension) => extension == "yml".toList || extension == "yaml".toList
      | none => false) &&
    !containsText "..".toList value.toList

def eventNameSyntax (value : String) : Bool :=
  value.toList.all fun c => isAsciiLower c || c == '_'

abbrev IssuerUrl := Checked 512 https
abbrev Subject := Checked 1024 noControl
abbrev Environment := Checked 256 noControl
abbrev GitRef := Checked 256 gitRefSyntax
abbrev WorkflowPath := Checked 256 workflowPathSyntax
abbrev RunInvocationUri := Checked 1024 https
abbrev EventName := Checked 64 eventNameSyntax

/-- The parser of a bounded field. -/
def parseText {maximum : Nat} {valid : String → Bool} (value : String) :
    Parse (Checked maximum valid) :=
  match Checked.parse value with
  | some text => .ok text
  | none => .error .invalidValue

@[ext] structure Repository where
  str : String
  nonempty : str ≠ ""

instance : DecidableEq Repository := fun _ _ => decidable_of_iff' _ Repository.ext_iff

def repositorySyntax (value : String) : Bool :=
  (match splitAll '/' value.toList with
    | [a, b] => !a.isEmpty && !b.isEmpty
    | _ => false) &&
    value.utf8ByteSize ≤ 256 &&
    value.toList.all fun c =>
      isAsciiAlphanumeric c || c == '/' || c == '.' || c == '_' || c == '-'

theorem ne_empty_of_repositorySyntax {value : String} (h : repositorySyntax value = true) :
    value ≠ "" := by
  intro hempty
  subst hempty
  exact absurd h (by decide)

def Repository.parse (value : String) : Parse Repository :=
  if h : repositorySyntax value = true then
    .ok ⟨toAsciiLower value, toAsciiLower_ne (ne_empty_of_repositorySyntax h)⟩
  else .error .invalidValue

/-- The text before the slash. -/
def Repository.owner (repository : Repository) : String :=
  match splitOnce '/' repository.str.toList with
  | some (owner, _) => String.ofList owner
  | none => ""

structure RepositoryOwner where
  str : String
  deriving DecidableEq

def RepositoryOwner.parse (value : String) : Parse RepositoryOwner :=
  if value.isEmpty || 64 < value.utf8ByteSize ||
      !value.toList.all (fun c => isAsciiAlphanumeric c || c == '-') then .error .invalidValue
  else .ok ⟨toAsciiLower value⟩

structure RepositoryId where
  get : Nat
  deriving DecidableEq

def RepositoryId.parse (value : String) : Parse RepositoryId :=
  match parsePositive value with
  | some id => .ok ⟨id⟩
  | none => .error .invalidValue

structure RepositoryOwnerId where
  get : Nat
  deriving DecidableEq

def RepositoryOwnerId.parse (value : String) : Parse RepositoryOwnerId :=
  match parsePositive value with
  | some id => .ok ⟨id⟩
  | none => .error .invalidValue

structure CommitSha where
  str : String
  deriving DecidableEq

def isLowerHex (c : Char) : Bool := isAsciiDigit c || ('a' ≤ c && c ≤ 'f')

def CommitSha.parse (value : String) : Parse CommitSha :=
  let digits := (stripPrefix "sha1:".toList value.toList).getD value.toList
  if digits.length = 40 && digits.all isLowerHex then .ok ⟨String.ofList digits⟩
  else .error .invalidValue

inductive RunnerEnvironment where
  | githubHosted
  | selfHosted
  deriving DecidableEq

def RunnerEnvironment.parse (value : String) : Parse RunnerEnvironment :=
  if value = "github-hosted" then .ok .githubHosted
  else if value = "self-hosted" then .ok .selfHosted
  else .error .invalidValue

structure WorkflowRef where
  repository : Repository
  path : WorkflowPath
  gitRef : GitRef
  deriving DecidableEq

structure WorkflowIdentity where
  reference : WorkflowRef
  commit : CommitSha
  deriving DecidableEq

inductive ReusableWorkflow where
  | absent
  | present (workflow : WorkflowIdentity)
  deriving DecidableEq

inductive CertificateIdentity where
  | uri (value : String)
  | email (value : String)
  | otherName (value : String)
  deriving DecidableEq

structure FulcioGenericIdentity where
  issuer : IssuerUrl
  subject : Subject
  certificateSan : CertificateIdentity
  deriving DecidableEq

structure FulcioGithubIdentity where
  issuer : IssuerUrl
  subject : Subject
  certificateSan : CertificateIdentity
  repository : Repository
  repositoryId : RepositoryId
  owner : RepositoryOwner
  ownerId : RepositoryOwnerId
  workflow : WorkflowIdentity
  jobWorkflow : ReusableWorkflow
  gitRef : GitRef
  sha : CommitSha
  environment : Option Environment
  runner : RunnerEnvironment
  event : EventName
  runInvocation : RunInvocationUri
  deriving DecidableEq

inductive FulcioWorkloadIdentity where
  | generic (identity : FulcioGenericIdentity)
  | githubActions (identity : FulcioGithubIdentity)
  deriving DecidableEq

inductive WorkflowPin where
  | exact (path : WorkflowPath) (gitRef : GitRef) (commit : CommitSha)
  | anyRef (path : WorkflowPath)
  deriving DecidableEq

structure FulcioGenericPolicy where
  subject : Subject
  deriving DecidableEq

structure FulcioGithubPolicy where
  repositoryId : RepositoryId
  ownerId : RepositoryOwnerId
  workflow : Option WorkflowPin
  gitRef : Option GitRef
  environment : Option Environment
  deriving DecidableEq

inductive FulcioIssuerProfile where
  | generic (policies : List FulcioGenericPolicy)
  | githubActions (policies : List FulcioGithubPolicy)

inductive PolicyRejection where
  | profileMismatch
  | noPolicyAdmits
  deriving DecidableEq

structure AdmittedWorkload where
  identity : FulcioWorkloadIdentity
  policyDigest : Digest

def WorkflowPin.matches (pin : WorkflowPin) (workflow : WorkflowIdentity) : Bool :=
  match pin with
  | .exact path gitRef commit =>
    workflow.reference.path == path && workflow.reference.gitRef == gitRef &&
      workflow.commit == commit
  | .anyRef path => workflow.reference.path == path

def githubAdmits (p : FulcioGithubPolicy) (i : FulcioGithubIdentity) : Bool :=
  p.repositoryId == i.repositoryId && p.ownerId == i.ownerId &&
    p.workflow.all (fun pin => pin.matches i.workflow) &&
    p.gitRef.all (fun v => i.gitRef == v) &&
    p.environment.all (fun v => i.environment == some v)

section Admission

variable [Sha256]

def FulcioIssuerProfile.admitIdentity (profile : FulcioIssuerProfile) (identity : FulcioWorkloadIdentity) :
    Except PolicyRejection AdmittedWorkload :=
  let admitted (bytes : Option Bytes) : Except PolicyRejection AdmittedWorkload :=
    match bytes with
    | some bytes => .ok ⟨identity, Sha256.digest bytes⟩
    | none => .error .noPolicyAdmits
  match profile, identity with
  | .generic policies, .generic i =>
    admitted ((policies.find? fun p => p.subject == i.subject).map fun p => utf8 p.subject.str)
  | .githubActions policies, .githubActions i =>
    admitted ((policies.find? fun p => githubAdmits p i).map fun p =>
      bigEndian64 p.repositoryId.get ++ bigEndian64 p.ownerId.get)
  | _, _ => .error .profileMismatch

end Admission

/-! ## From the certificate to the identity -/

structure FulcioFacts where
  issuer : IssuerUrl
  subject : Subject
  san : CertificateIdentity
  values : List (String × String)

def lookup (values : List (String × String)) (oid : String) : Option String :=
  (values.find? fun entry => entry.1 == oid).map Prod.snd

def required (values : List (String × String)) (oid : String) : Parse String :=
  match lookup values oid with
  | some value => .ok value
  | none => .error .missing

def githubPrefix : String := "https://github.com/"

def githubPath (value : String) : Parse (List Char) :=
  match stripPrefix githubPrefix.toList value.toList with
  | some rest => .ok rest
  | none => .error .invalidValue

def githubRepository (value : String) : Parse Repository := do
  Repository.parse (String.ofList (← githubPath value))

def githubOwner (value : String) : Parse RepositoryOwner := do
  RepositoryOwner.parse (String.ofList (← githubPath value))

def workflow (uri commit : String) : Parse WorkflowIdentity := do
  let value ← githubPath uri
  match splitAtMarker "/.github/workflows/".toList value with
  | none => throw .invalidValue
  | some (before, marked) =>
    let repository ← Repository.parse (String.ofList before)
    match rsplitOnce '@' (marked.drop 1) with
    | none => throw .invalidValue
    | some (path, gitRef) =>
      let path ← parseText (String.ofList path)
      let gitRef ← parseText (String.ofList gitRef)
      let commit ← CommitSha.parse commit
      pure ⟨⟨repository, path, gitRef⟩, commit⟩

def FulcioFacts.intoIdentity (facts : FulcioFacts) (profile : FulcioIssuerProfile) :
    Parse FulcioWorkloadIdentity :=
  match profile with
  | .generic _ => .ok (.generic ⟨facts.issuer, facts.subject, facts.san⟩)
  | .githubActions _ => do
    let repository ← githubRepository (← required facts.values "1.3.6.1.4.1.57264.1.12")
    let owner ← githubOwner (← required facts.values "1.3.6.1.4.1.57264.1.16")
    let initiatingWorkflow ← workflow (← required facts.values "1.3.6.1.4.1.57264.1.18")
      (← required facts.values "1.3.6.1.4.1.57264.1.19")
    let signer ← workflow (← required facts.values "1.3.6.1.4.1.57264.1.9")
      (← required facts.values "1.3.6.1.4.1.57264.1.10")
    let repositoryId ← RepositoryId.parse (← required facts.values "1.3.6.1.4.1.57264.1.15")
    let ownerId ← RepositoryOwnerId.parse (← required facts.values "1.3.6.1.4.1.57264.1.17")
    let gitRef ← parseText (← required facts.values "1.3.6.1.4.1.57264.1.14")
    let sha ← CommitSha.parse (← required facts.values "1.3.6.1.4.1.57264.1.13")
    let environment ← (lookup facts.values "1.3.6.1.4.1.57264.1.23").mapM parseText
    let runner ← RunnerEnvironment.parse (← required facts.values "1.3.6.1.4.1.57264.1.11")
    let event ← parseText (← required facts.values "1.3.6.1.4.1.57264.1.20")
    let runInvocation ← parseText (← required facts.values "1.3.6.1.4.1.57264.1.21")
    pure (.githubActions
      { issuer := facts.issuer
        subject := facts.subject
        certificateSan := facts.san
        repository := repository
        repositoryId := repositoryId
        owner := owner
        ownerId := ownerId
        workflow := initiatingWorkflow
        jobWorkflow := if signer = initiatingWorkflow then .absent else .present signer
        gitRef := gitRef
        sha := sha
        environment := environment
        runner := runner
        event := event
        runInvocation := runInvocation })

end AuthsProof.Sigstore
