import AuthsProof.Encode
import AuthsProof.Lib.Run
import AuthsProof.Lib.Text

/-! The workload a token's claims name, and the policies that admit it. -/

namespace AuthsProof.Oidc

open Text

inductive ClaimError where
  | syntaxError
  | duplicateMember
  | unsupportedType
  | invalidValue
  | inconsistentIdentity
  deriving DecidableEq

inductive OidcError where
  | claims (error : ClaimError)
  | principalSyntax
  deriving DecidableEq

abbrev Parse (α : Type) := Except ClaimError α

def noControl (value : String) : Bool := !value.toList.any isAsciiControl

/-- What stands between the scheme and the first slash. -/
def authority (rest : List Char) : List Char := (splitAll '/' rest).headD []

def issuerUrl (value : String) : Bool :=
  match stripPrefix "https://".toList value.toList with
  | none => false
  | some rest =>
    !(authority rest).isEmpty && !(authority rest).any (· == '@') &&
      !value.toList.any (fun c => c == '?' || c == '#') &&
      !value.toList.any (fun c => isAsciiControl c || c == ' ') &&
      (authority rest).all (fun c => !isAsciiUpper c) &&
      !":443".toList.isSuffixOf (authority rest)

def gitRefSyntax (value : String) : Bool :=
  (stripPrefix "refs/".toList value.toList).isSome && !containsText "..".toList value.toList &&
    !containsText "//".toList value.toList &&
    !value.toList.any (fun c => isAsciiControl c || c == ' ')

def workflowPathSyntax (value : String) : Bool :=
  ((stripPrefix ".github/workflows/".toList value.toList).isSome &&
    match rsplitOnce '.' value.toList with
      | some (_, extension) => extension == "yml".toList || extension == "yaml".toList
      | none => false) &&
    !(splitAll '/' value.toList).any (· == "..".toList)

def actorSyntax (value : String) : Bool :=
  let base := if "[bot]".toList.isSuffixOf value.toList then
    value.toList.take (value.toList.length - 5) else value.toList
  !base.isEmpty && base.all fun c => isAsciiAlphanumeric c || c == '-'

def eventNameSyntax (value : String) : Bool :=
  value.toList.all fun c => isAsciiLower c || c == '_'

abbrev IssuerUrl := Checked 512 issuerUrl
abbrev Subject := Checked 1024 noControl
abbrev WorkflowPath := Checked 256 workflowPathSyntax
abbrev GitRef := Checked 256 gitRefSyntax
abbrev Environment := Checked 256 noControl
abbrev Actor := Checked 64 actorSyntax
abbrev EventName := Checked 64 eventNameSyntax

def parseText {maximum : Nat} {valid : String → Bool} (value : String) :
    Parse (Checked maximum valid) :=
  match Checked.parse value with
  | some text => .ok text
  | none => .error .invalidValue

structure Repository where
  str : String
  nonempty : str ≠ ""
  deriving DecidableEq

def repoByte (c : Char) : Bool := isAsciiAlphanumeric c || c == '.' || c == '_' || c == '-'

def repositorySyntax (value : String) : Bool :=
  value.utf8ByteSize ≤ 256 &&
    match splitAll '/' value.toList with
    | [owner, name] => !owner.isEmpty && !name.isEmpty && owner.all repoByte && name.all repoByte
    | _ => false

theorem ne_empty_of_repositorySyntax {value : String} (h : repositorySyntax value = true) :
    value ≠ "" := by
  intro hempty
  subst hempty
  exact absurd h (by decide)

def Repository.parse (value : String) : Parse Repository :=
  if h : repositorySyntax value = true then
    .ok ⟨toAsciiLower value, toAsciiLower_ne (ne_empty_of_repositorySyntax h)⟩
  else .error .invalidValue

/-- The text before the slash. -/
def Repository.owner (repository : Repository) : String :=
  match splitOnce '/' repository.str.toList with
  | some (owner, _) => String.ofList owner
  | none => ""

def Repository.makeAsciiLowercase (repository : Repository) : Repository :=
  ⟨toAsciiLower repository.str, toAsciiLower_ne repository.nonempty⟩

structure RepositoryOwner where
  str : String
  deriving DecidableEq

def RepositoryOwner.parse (value : String) : Parse RepositoryOwner :=
  if value.isEmpty || 64 < value.utf8ByteSize ||
      !value.toList.all (fun c => isAsciiAlphanumeric c || c == '-') then .error .invalidValue
  else .ok ⟨toAsciiLower value⟩

structure RepositoryId where
  get : Nat
  deriving DecidableEq

def RepositoryId.parse (value : String) : Parse RepositoryId :=
  match parsePositive value with
  | some id => .ok ⟨id⟩
  | none => .error .invalidValue

structure RepositoryOwnerId where
  get : Nat
  deriving DecidableEq

def RepositoryOwnerId.parse (value : String) : Parse RepositoryOwnerId :=
  match parsePositive value with
  | some id => .ok ⟨id⟩
  | none => .error .invalidValue

structure CommitSha where
  str : String
  deriving DecidableEq

def isLowerHex (c : Char) : Bool := isAsciiDigit c || ('a' ≤ c && c ≤ 'f')

def CommitSha.parse (value : String) : Parse CommitSha :=
  if value.toList.length = 40 && value.toList.all isLowerHex then .ok ⟨value⟩
  else .error .invalidValue

inductive RunnerEnvironment where
  | githubHosted
  | selfHosted
  deriving DecidableEq

structure WorkflowRef where
  repository : Repository
  path : WorkflowPath
  gitRef : GitRef
  deriving DecidableEq

structure WorkflowIdentity where
  reference : WorkflowRef
  commit : CommitSha
  deriving DecidableEq

inductive ReusableWorkflow where
  | absent
  | present (workflow : WorkflowIdentity)
  deriving DecidableEq

structure GenericIdentity where
  issuer : IssuerUrl
  subject : Subject
  deriving DecidableEq

structure GithubIdentity where
  issuer : IssuerUrl
  subject : Subject
  repository : Repository
  repositoryId : RepositoryId
  owner : RepositoryOwner
  ownerId : RepositoryOwnerId
  workflow : WorkflowIdentity
  jobWorkflow : ReusableWorkflow
  gitRef : GitRef
  sha : CommitSha
  environment : Option Environment
  runner : Option RunnerEnvironment
  actor : Option Actor
  event : Option EventName
  deriving DecidableEq

/-- Checks what must hold between the fields. -/
def GithubIdentity.new (value : GithubIdentity) : Parse GithubIdentity :=
  if value.owner.str ≠ value.repository.owner ∨
      value.workflow.reference.repository ≠ value.repository then .error .inconsistentIdentity
  else
    let normalized := { value with repository := value.repository.makeAsciiLowercase }
    match value.jobWorkflow with
    | .present job =>
      if job.reference.repository.str.isEmpty then .error .inconsistentIdentity else .ok normalized
    | .absent => .ok normalized

inductive WorkloadIdentity where
  | generic (identity : GenericIdentity)
  | githubActions (identity : GithubIdentity)
  deriving DecidableEq

inductive WorkflowPin where
  | exact (path : WorkflowPath) (gitRef : GitRef) (commit : CommitSha)
  | anyRef (path : WorkflowPath)
  deriving DecidableEq

structure GenericPolicy where
  subject : Subject
  deriving DecidableEq

def GenericPolicy.admits (policy : GenericPolicy) (identity : GenericIdentity) : Bool :=
  policy.subject == identity.subject

structure GithubPolicy where
  repositoryId : RepositoryId
  ownerId : RepositoryOwnerId
  workflow : Option WorkflowPin
  gitRef : Option GitRef
  environment : Option Environment
  deriving DecidableEq

def WorkflowPin.matches (pin : WorkflowPin) (workflow : WorkflowIdentity) : Bool :=
  match pin with
  | .exact path gitRef commit =>
    workflow.reference.path == path && workflow.reference.gitRef == gitRef &&
      workflow.commit == commit
  | .anyRef path => workflow.reference.path == path

def GithubPolicy.admits (policy : GithubPolicy) (identity : GithubIdentity) : Bool :=
  policy.repositoryId == identity.repositoryId && policy.ownerId == identity.ownerId &&
    policy.workflow.all (fun pin => pin.matches identity.workflow) &&
    policy.gitRef.all (fun value => identity.gitRef == value) &&
    policy.environment.all (fun value => identity.environment == some value)

inductive IssuerProfile where
  | generic (policies : List GenericPolicy)
  | githubActions (policies : List GithubPolicy)

inductive PolicyRejection where
  | profileMismatch
  | noPolicyAdmits
  deriving DecidableEq

structure AdmittedWorkload where
  identity : WorkloadIdentity
  policyDigest : Digest

section Admission

variable [Sha256]

def IssuerProfile.admitIdentity (profile : IssuerProfile) (identity : WorkloadIdentity) :
    Except PolicyRejection AdmittedWorkload :=
  let admitted (encoded : Option Bytes) : Except PolicyRejection AdmittedWorkload :=
    match encoded with
    | some encoded => .ok ⟨identity, Sha256.digest encoded⟩
    | none => .error .noPolicyAdmits
  match profile, identity with
  | .generic policies, .generic identity =>
    admitted ((policies.find? fun policy => policy.admits identity).map fun p =>
      utf8 p.subject.str)
  | .githubActions policies, .githubActions identity =>
    admitted ((policies.find? fun policy => policy.admits identity).map fun p =>
      bigEndian64 p.repositoryId.get ++ bigEndian64 p.ownerId.get)
  | _, _ => .error .profileMismatch

end Admission

/-! ## From the claims to the identity -/

/-- The parser of a workflow reference, `owner/repository/.github/workflows/file@ref`. -/
def workflowRef (value : String) : Parse WorkflowRef := do
  match splitAtMarker "/.github/workflows/".toList value.toList with
  | none => throw .invalidValue
  | some (before, marked) =>
    let repository ← Repository.parse (String.ofList before)
    let remainder := marked.drop 1
    match rsplitOnce '@' remainder with
    | none => throw .invalidValue
    | some (path, gitRef) =>
      let path ← parseText (String.ofList path)
      let gitRef ← parseText (String.ofList gitRef)
      let reference : WorkflowRef := ⟨repository, path, gitRef⟩
      if reference.path.str.toList ++ '@' :: reference.gitRef.str.toList ≠ remainder then
        throw .invalidValue
      else pure reference

structure CommonClaims where
  iss : IssuerUrl
  sub : Subject
  deriving DecidableEq

/-- The claims of a token under the GitHub profile, each parsed. -/
structure GithubClaims where
  common : CommonClaims
  repository : Repository
  repositoryId : RepositoryId
  repositoryOwner : RepositoryOwner
  repositoryOwnerId : RepositoryOwnerId
  workflowRef : WorkflowRef
  workflowSha : CommitSha
  jobWorkflowRef : Option WorkflowRef
  jobWorkflowSha : Option CommitSha
  gitRef : GitRef
  sha : CommitSha
  environment : Option Environment
  runnerEnvironment : Option RunnerEnvironment
  actor : Option Actor
  eventName : Option EventName

inductive ClaimSet where
  | generic (claims : CommonClaims)
  | githubActions (claims : GithubClaims)

/-- The identity the claims describe, before its fields are compared. -/
def GithubClaims.described (value : GithubClaims) : GithubIdentity where
  issuer := value.common.iss
  subject := value.common.sub
  repository := value.repository
  repositoryId := value.repositoryId
  owner := value.repositoryOwner
  ownerId := value.repositoryOwnerId
  workflow := ⟨value.workflowRef, value.workflowSha⟩
  jobWorkflow := match value.jobWorkflowRef, value.jobWorkflowSha with
    | some reference, some commit => .present ⟨reference, commit⟩
    | _, _ => .absent
  gitRef := value.gitRef
  sha := value.sha
  environment := value.environment
  runner := value.runnerEnvironment
  actor := value.actor
  event := value.eventName

def ClaimSet.intoIdentity : ClaimSet → Parse WorkloadIdentity
  | .generic value => .ok (.generic ⟨value.iss, value.sub⟩)
  | .githubActions value => do return .githubActions (← GithubIdentity.new value.described)

end AuthsProof.Oidc
