import AuthsProof.Injectivity
import AuthsProof.Lib.Json
import AuthsProof.Lib.Sha2
import AuthsProof.Oidc.Identity
import AuthsProof.Signing
import AuthsProof.Sigstore.Identity

/-! How a workload policy is committed to: the encoding of a configuration holds all of its fields, the
digest of an admission the ids alone. -/

namespace AuthsProof.Workload

/-! ## Encodings -/

inductive PinFields where
  | exact (path gitRef commit : String)
  | anyRef (path : String)

/-- The fields of a GitHub policy of either adapter. -/
structure PolicyFields where
  repositoryId : Nat
  ownerId : Nat
  workflow : Option PinFields
  gitRef : Option String
  environment : Option String

def bigEndian32 (value : Nat) : Bytes := Rfc8949.bigEndian 4 value

def pushPolicyField (out : Bytes) (tag : UInt8) (value : Option Bytes) : Bytes :=
  out ++ [tag] ++ match value with
    | none => [0]
    | some bytes => [1] ++ bigEndian32 (min bytes.length (2 ^ 32 - 1)) ++ bytes

def pushWorkflow (out : Bytes) : Option PinFields → Bytes
  | none => pushPolicyField out 3 none
  | some (.exact path gitRef commit) =>
    let out := pushPolicyField out 3 (some (utf8 "exact"))
    let out := pushPolicyField out 4 (some (utf8 path))
    let out := pushPolicyField out 5 (some (utf8 gitRef))
    pushPolicyField out 6 (some (utf8 commit))
  | some (.anyRef path) =>
    let out := pushPolicyField out 3 (some (utf8 "any-ref"))
    pushPolicyField out 4 (some (utf8 path))

/-- The configuration encoding of a policy. -/
def githubPolicyComponent (policy : PolicyFields) : Bytes :=
  let value := utf8 "github-policy-v2"
  let value := pushPolicyField value 1 (some (bigEndian64 policy.repositoryId))
  let value := pushPolicyField value 2 (some (bigEndian64 policy.ownerId))
  let value := pushWorkflow value policy.workflow
  let value := pushPolicyField value 7 (policy.gitRef.map utf8)
  pushPolicyField value 8 (policy.environment.map utf8)

/-- What the digest of an admission is taken of. -/
def admissionBytes (policy : PolicyFields) : Bytes :=
  bigEndian64 policy.repositoryId ++ bigEndian64 policy.ownerId

/-! ## What the encodings determine -/

def PinFields.texts : PinFields → List String
  | .exact path gitRef commit => [path, gitRef, commit]
  | .anyRef path => [path]

/-- The ids fit 64 bits and the lengths of the texts 32. -/
structure PolicyFields.Fits (policy : PolicyFields) : Prop where
  repositoryId : policy.repositoryId < 2 ^ 64
  ownerId : policy.ownerId < 2 ^ 64
  workflow : ∀ pin ∈ policy.workflow, ∀ text ∈ pin.texts, text.utf8ByteSize < 2 ^ 32
  gitRef : ∀ text ∈ policy.gitRef, text.utf8ByteSize < 2 ^ 32
  environment : ∀ text ∈ policy.environment, text.utf8ByteSize < 2 ^ 32

/-- One tagged field. -/
def policyField (tag : UInt8) (value : Option Bytes) : Bytes := pushPolicyField [] tag value

theorem pushPolicyField_eq (out : Bytes) (tag : UInt8) (value : Option Bytes) :
    pushPolicyField out tag value = out ++ policyField tag value := by
  simp [policyField, pushPolicyField]

/-- The fields of a workflow pin. -/
def workflowFields : Option PinFields → Bytes
  | none => policyField 3 none
  | some (.exact path gitRef commit) =>
    policyField 3 (some (utf8 "exact")) ++ policyField 4 (some (utf8 path)) ++
      policyField 5 (some (utf8 gitRef)) ++ policyField 6 (some (utf8 commit))
  | some (.anyRef path) =>
    policyField 3 (some (utf8 "any-ref")) ++ policyField 4 (some (utf8 path))

theorem pushWorkflow_eq (out : Bytes) (workflow : Option PinFields) :
    pushWorkflow out workflow = out ++ workflowFields workflow := by
  cases workflow with
  | none => exact pushPolicyField_eq out 3 none
  | some pin =>
    cases pin <;> simp only [pushWorkflow, workflowFields, pushPolicyField_eq, List.append_assoc]

theorem githubPolicyComponent_eq (policy : PolicyFields) : githubPolicyComponent policy =
    utf8 "github-policy-v2" ++ (policyField 1 (some (bigEndian64 policy.repositoryId)) ++
      (policyField 2 (some (bigEndian64 policy.ownerId)) ++ (workflowFields policy.workflow ++
        (policyField 7 (policy.gitRef.map utf8) ++
          policyField 8 (policy.environment.map utf8))))) := by
  simp only [githubPolicyComponent, pushPolicyField_eq, pushWorkflow_eq, List.append_assoc]

/-- A field is read back from whatever follows it. -/
theorem policyField_cancel {tag tag' : UInt8} {value value' : Option Bytes} {xs ys : Bytes}
    (hvalue : ∀ bytes ∈ value, bytes.length < 2 ^ 32)
    (hvalue' : ∀ bytes ∈ value', bytes.length < 2 ^ 32)
    (h : policyField tag value ++ xs = policyField tag' value' ++ ys) :
    tag = tag' ∧ value = value' ∧ xs = ys := by
  simp only [policyField, pushPolicyField, List.nil_append, List.cons_append, List.cons.injEq] at h
  obtain ⟨htag, h⟩ := h
  refine ⟨htag, ?_⟩
  cases value with
  | none =>
    cases value' with
    | none => exact ⟨rfl, List.append_cancel_left h⟩
    | some bytes' => simp at h
  | some bytes =>
    cases value' with
    | none => simp at h
    | some bytes' =>
      have hlength := hvalue bytes rfl
      have hlength' := hvalue' bytes' rfl
      simp only [List.cons_append, List.append_assoc, List.cons.injEq, true_and,
        Nat.min_eq_left (Nat.le_sub_one_of_lt hlength),
        Nat.min_eq_left (Nat.le_sub_one_of_lt hlength')] at h
      obtain ⟨hcount, hbytes⟩ := append_cancel_of_length h (by simp [bigEndian32])
      have hsame := congrArg Rfc8949.fromBigEndian hcount
      unfold bigEndian32 at hsame
      rw [Rfc8949.fromBigEndian_bigEndian hlength, Rfc8949.fromBigEndian_bigEndian hlength'] at hsame
      obtain ⟨rfl, hrest⟩ := append_cancel_of_length hbytes hsame
      exact ⟨rfl, hrest⟩

/-- A text field is read back. -/
theorem policyText_cancel {tag : UInt8} {text text' : Option String} {xs ys : Bytes}
    (htext : ∀ value ∈ text, value.utf8ByteSize < 2 ^ 32)
    (htext' : ∀ value ∈ text', value.utf8ByteSize < 2 ^ 32)
    (h : policyField tag (text.map utf8) ++ xs = policyField tag (text'.map utf8) ++ ys) :
    text = text' ∧ xs = ys := by
  have hfits {text : Option String} (htext : ∀ value ∈ text, value.utf8ByteSize < 2 ^ 32) :
      ∀ bytes ∈ text.map utf8, bytes.length < 2 ^ 32 := by
    intro bytes hbytes
    obtain ⟨value, hvalue, rfl⟩ := Option.mem_map.mp hbytes
    exact htext value hvalue
  obtain ⟨-, hsame, hrest⟩ := policyField_cancel (hfits htext) (hfits htext') h
  exact ⟨Option.map_injective utf8_injective hsame, hrest⟩

theorem workflowFields_cancel {workflow workflow' : Option PinFields} {xs ys : Bytes}
    (hfits : ∀ pin ∈ workflow, ∀ text ∈ pin.texts, text.utf8ByteSize < 2 ^ 32)
    (hfits' : ∀ pin ∈ workflow', ∀ text ∈ pin.texts, text.utf8ByteSize < 2 ^ 32)
    (h : workflowFields workflow ++ xs = workflowFields workflow' ++ ys) :
    workflow = workflow' ∧ xs = ys := by
  have hname {name : String} (h : name ∈ ["exact", "any-ref"]) :
      ∀ bytes ∈ some (utf8 name), bytes.length < 2 ^ 32 := by
    rintro _ ⟨⟩
    rcases List.mem_pair.mp h with rfl | rfl <;> decide
  have hexact := @hname "exact" (by decide)
  have hanyRef := @hname "any-ref" (by decide)
  have hnone : ∀ bytes ∈ (none : Option Bytes), bytes.length < 2 ^ 32 := nofun
  have hpin {pin : PinFields} {text : String}
      (hpins : ∀ other ∈ some pin, ∀ text ∈ other.texts, text.utf8ByteSize < 2 ^ 32)
      (hmem : text ∈ pin.texts) : ∀ value ∈ some text, value.utf8ByteSize < 2 ^ 32 := by
    rintro _ ⟨⟩
    exact hpins pin rfl text hmem
  cases workflow with
  | none =>
    cases workflow' with
    | none => exact ⟨rfl, (policyField_cancel hnone hnone h).2.2⟩
    | some pin =>
      cases pin with
      | exact path gitRef commit =>
        simp only [workflowFields, List.append_assoc] at h
        exact nomatch (policyField_cancel hnone hexact h).2.1
      | anyRef path =>
        simp only [workflowFields, List.append_assoc] at h
        exact nomatch (policyField_cancel hnone hanyRef h).2.1
  | some pin =>
    cases workflow' with
    | none =>
      cases pin with
      | exact path gitRef commit =>
        simp only [workflowFields, List.append_assoc] at h
        exact nomatch (policyField_cancel hexact hnone h).2.1
      | anyRef path =>
        simp only [workflowFields, List.append_assoc] at h
        exact nomatch (policyField_cancel hanyRef hnone h).2.1
    | some pin' =>
      cases pin with
      | exact path gitRef commit =>
        cases pin' with
        | exact path' gitRef' commit' =>
          simp only [workflowFields, List.append_assoc] at h
          obtain ⟨-, -, hpath⟩ := policyField_cancel hexact hexact h
          obtain ⟨hsame, href⟩ := policyText_cancel (hpin hfits (by simp [PinFields.texts]))
            (hpin hfits' (by simp [PinFields.texts])) hpath
          obtain ⟨hsame', hcommit⟩ := policyText_cancel (hpin hfits (by simp [PinFields.texts]))
            (hpin hfits' (by simp [PinFields.texts])) href
          obtain ⟨hsame'', hrest⟩ := policyText_cancel (hpin hfits (by simp [PinFields.texts]))
            (hpin hfits' (by simp [PinFields.texts])) hcommit
          rw [Option.some.inj hsame, Option.some.inj hsame', Option.some.inj hsame'']
          exact ⟨rfl, hrest⟩
        | anyRef path' =>
          simp only [workflowFields, List.append_assoc] at h
          have hnames := Option.some.inj (policyField_cancel hexact hanyRef h).2.1
          exact absurd (utf8_injective hnames) (by decide)
      | anyRef path =>
        cases pin' with
        | exact path' gitRef' commit' =>
          simp only [workflowFields, List.append_assoc] at h
          have hnames := Option.some.inj (policyField_cancel hanyRef hexact h).2.1
          exact absurd (utf8_injective hnames) (by decide)
        | anyRef path' =>
          simp only [workflowFields, List.append_assoc] at h
          obtain ⟨-, -, hpath⟩ := policyField_cancel hanyRef hanyRef h
          obtain ⟨hsame, hrest⟩ := policyText_cancel (hpin hfits (by simp [PinFields.texts]))
            (hpin hfits' (by simp [PinFields.texts])) hpath
          rw [Option.some.inj hsame]
          exact ⟨rfl, hrest⟩

theorem githubPolicyComponent_injective {a b : PolicyFields} (ha : a.Fits) (hb : b.Fits)
    (h : githubPolicyComponent a = githubPolicyComponent b) : a = b := by
  have hid {id : Nat} : ∀ bytes ∈ some (bigEndian64 id), bytes.length < 2 ^ 32 := by
    rintro _ ⟨⟩
    simp [bigEndian64]
  obtain ⟨repositoryId, ownerId, workflow, gitRef, environment⟩ := a
  obtain ⟨repositoryId', ownerId', workflow', gitRef', environment'⟩ := b
  simp only [githubPolicyComponent_eq] at h
  have hfields := List.append_cancel_left h
  obtain ⟨-, hrepository, hfields⟩ := policyField_cancel hid hid hfields
  obtain ⟨-, howner, hfields⟩ := policyField_cancel hid hid hfields
  obtain ⟨hworkflow, hfields⟩ := workflowFields_cancel ha.workflow hb.workflow hfields
  obtain ⟨href, hfields⟩ := policyText_cancel ha.gitRef hb.gitRef hfields
  have henvironment := (policyText_cancel ha.environment hb.environment
    (congrArg (· ++ []) hfields)).1
  obtain rfl : repositoryId = repositoryId' :=
    bigEndian64_inj ha.repositoryId hb.repositoryId (Option.some.inj hrepository)
  obtain rfl : ownerId = ownerId' := bigEndian64_inj ha.ownerId hb.ownerId (Option.some.inj howner)
  exact PolicyFields.mk.injEq .. ▸ ⟨rfl, rfl, hworkflow, href, henvironment⟩

/-- Policies that agree in the fields an admission's digest leaves out. -/
structure PolicyFields.AgreeBeyondIds (a b : PolicyFields) : Prop where
  workflow : a.workflow = b.workflow
  gitRef : a.gitRef = b.gitRef
  environment : a.environment = b.environment

/-- The digest of an admission tells two policies apart by their ids only. -/
theorem admissionDigest_iff [Sha256] {a b : PolicyFields} (ha : a.Fits) (hb : b.Fits)
    (hfree : CollisionFree [admissionBytes a, admissionBytes b]) :
    (Sha256.digest (admissionBytes a) = Sha256.digest (admissionBytes b) → a = b) ↔
      a.repositoryId ≠ b.repositoryId ∨ a.ownerId ≠ b.ownerId ∨ a.AgreeBeyondIds b := by
  have hdigest : Sha256.digest (admissionBytes a) = Sha256.digest (admissionBytes b) ↔
      a.repositoryId = b.repositoryId ∧ a.ownerId = b.ownerId := by
    constructor
    · intro h
      have hbytes := hfree _ List.mem_cons_self _ (List.mem_cons_of_mem _ List.mem_cons_self) h
      obtain ⟨hrepository, howner⟩ := append_cancel_of_length hbytes (by simp [bigEndian64])
      exact ⟨bigEndian64_inj ha.repositoryId hb.repositoryId hrepository,
        bigEndian64_inj ha.ownerId hb.ownerId howner⟩
    · rintro ⟨hrepository, howner⟩
      rw [admissionBytes, admissionBytes, hrepository, howner]
  rw [hdigest]
  constructor
  · intro h
    by_cases hrepository : a.repositoryId = b.repositoryId
    · by_cases howner : a.ownerId = b.ownerId
      · obtain rfl := h ⟨hrepository, howner⟩
        exact .inr (.inr ⟨rfl, rfl, rfl⟩)
      · exact .inr (.inl howner)
    · exact .inl hrepository
  · rintro (hdiffers | hdiffers | hagree) ⟨hrepository, howner⟩
    · exact absurd hrepository hdiffers
    · exact absurd howner hdiffers
    · cases a
      cases b
      cases hrepository
      cases howner
      cases hagree.workflow
      cases hagree.gitRef
      cases hagree.environment
      rfl

theorem lt_of_parsePositive {text : String} {value : Nat} (h : Text.parsePositive text = some value) :
    value < 2 ^ 64 := by
  unfold Text.parsePositive at h
  split at h
  · cases h
  · dsimp only at h
    split at h
    · cases h
    · next hvalue =>
      obtain rfl := Option.some.inj h
      simp only [Bool.or_eq_true, decide_eq_true_eq, not_or, not_le] at hvalue
      exact hvalue.2

theorem size_le_of_length (text : List Char) : Json.size text ≤ 4 * text.length := by
  induction text with
  | nil => exact Nat.le_refl 0
  | cons c text ih =>
    have hsize := c.utf8Size_le_four
    rw [Json.size_cons, List.length_cons]
    omega

end AuthsProof.Workload

/-! ## The token's adapter -/

namespace AuthsProof.Oidc

def WorkflowPin.fields : WorkflowPin → Workload.PinFields
  | .exact path gitRef commit => .exact path.str gitRef.str commit.str
  | .anyRef path => .anyRef path.str

def GithubPolicy.fields (policy : GithubPolicy) : Workload.PolicyFields :=
  ⟨policy.repositoryId.get, policy.ownerId.get, policy.workflow.map WorkflowPin.fields,
    policy.gitRef.map Text.Checked.str, policy.environment.map Text.Checked.str⟩

def githubPolicyComponent (policy : GithubPolicy) : Bytes :=
  Workload.githubPolicyComponent policy.fields

/-- A policy of parsed ids and commits, as their types have no other values. -/
structure GithubPolicy.Parsed (policy : GithubPolicy) : Prop where
  repositoryId : ∃ value, RepositoryId.parse value = .ok policy.repositoryId
  ownerId : ∃ value, RepositoryOwnerId.parse value = .ok policy.ownerId
  commit : ∀ path gitRef commit, policy.workflow = some (.exact path gitRef commit) →
    ∃ value, CommitSha.parse value = .ok commit

theorem WorkflowPin.fields_injective : Function.Injective WorkflowPin.fields := by
  intro a b h
  cases a with
  | exact path gitRef commit =>
    cases b with
    | exact path' gitRef' commit' =>
      simp only [fields, Workload.PinFields.exact.injEq] at h
      obtain ⟨hpath, href, hcommit⟩ := h
      obtain ⟨commit⟩ := commit
      obtain ⟨commit'⟩ := commit'
      obtain rfl : commit = commit' := hcommit
      rw [Text.Checked.str_injective hpath, Text.Checked.str_injective href]
    | anyRef path' => cases h
  | anyRef path =>
    cases b with
    | exact path' gitRef' commit' => cases h
    | anyRef path' =>
      simp only [fields, Workload.PinFields.anyRef.injEq] at h
      rw [Text.Checked.str_injective h]

theorem GithubPolicy.fields_injective : Function.Injective GithubPolicy.fields := by
  rintro ⟨⟨repositoryId⟩, ⟨ownerId⟩, workflow, gitRef, environment⟩
    ⟨⟨repositoryId'⟩, ⟨ownerId'⟩, workflow', gitRef', environment'⟩ h
  simp only [fields, Workload.PolicyFields.mk.injEq] at h
  obtain ⟨rfl, rfl, hworkflow, href, henvironment⟩ := h
  rw [Option.map_injective WorkflowPin.fields_injective hworkflow,
    Option.map_injective Text.Checked.str_injective href,
    Option.map_injective Text.Checked.str_injective henvironment]

theorem RepositoryId.lt_of_parse {value : String} {id : RepositoryId}
    (h : RepositoryId.parse value = .ok id) : id.get < 2 ^ 64 := by
  unfold RepositoryId.parse at h
  split at h
  · next hvalue =>
    cases h
    exact Workload.lt_of_parsePositive hvalue
  · cases h

theorem RepositoryOwnerId.lt_of_parse {value : String} {id : RepositoryOwnerId}
    (h : RepositoryOwnerId.parse value = .ok id) : id.get < 2 ^ 64 := by
  unfold RepositoryOwnerId.parse at h
  split at h
  · next hvalue =>
    cases h
    exact Workload.lt_of_parsePositive hvalue
  · cases h

theorem CommitSha.size_of_parse {value : String} {commit : CommitSha}
    (h : CommitSha.parse value = .ok commit) : commit.str.utf8ByteSize < 2 ^ 32 := by
  unfold CommitSha.parse at h
  split at h
  · next hvalue =>
    cases h
    simp only [Bool.and_eq_true, decide_eq_true_eq] at hvalue
    have hsize := Workload.size_le_of_length value.toList
    rw [Json.size_toList] at hsize
    show value.utf8ByteSize < 2 ^ 32
    omega
  · cases h


theorem GithubPolicy.Parsed.fits {policy : GithubPolicy} (h : policy.Parsed) : policy.fields.Fits := by
  have hchecked {valid : String → Bool} {maximum : Nat} (hmaximum : maximum < 2 ^ 32)
      (text : Text.Checked maximum valid) : text.str.utf8ByteSize < 2 ^ 32 := by
    have hsize := text.checked
    simp only [Bool.and_eq_true, decide_eq_true_eq] at hsize
    omega
  obtain ⟨repository, hrepository⟩ := h.repositoryId
  obtain ⟨owner, howner⟩ := h.ownerId
  refine ⟨RepositoryId.lt_of_parse hrepository, RepositoryOwnerId.lt_of_parse howner, ?_, ?_, ?_⟩
  · intro fields hfields text htext
    obtain ⟨pin, hpin, rfl⟩ := Option.mem_map.mp hfields
    cases pin with
    | exact path gitRef commit =>
      obtain ⟨value, hvalue⟩ := h.commit path gitRef commit hpin
      rcases List.mem_cons.mp htext with rfl | htext
      · exact hchecked (by decide) path
      · rcases List.mem_pair.mp htext with rfl | rfl
        · exact hchecked (by decide) gitRef
        · exact CommitSha.size_of_parse hvalue
    | anyRef path =>
      obtain rfl := List.mem_singleton.mp htext
      exact hchecked (by decide) path
  · intro text htext
    obtain ⟨gitRef, -, rfl⟩ := Option.mem_map.mp htext
    exact hchecked (by decide) gitRef
  · intro text htext
    obtain ⟨environment, -, rfl⟩ := Option.mem_map.mp htext
    exact hchecked (by decide) environment

theorem githubPolicyComponent_injective {a b : GithubPolicy} (ha : a.Parsed) (hb : b.Parsed)
    (h : githubPolicyComponent a = githubPolicyComponent b) : a = b :=
  GithubPolicy.fields_injective (Workload.githubPolicyComponent_injective ha.fits hb.fits h)

section Admission

variable [Sha256]

/-- The digest of an admission under GitHub policies. -/
theorem githubDigest {policies : List GithubPolicy} {identity : GithubIdentity} {policy : GithubPolicy}
    {admitted : AdmittedWorkload} (hfind : policies.find? (fun p => p.admits identity) = some policy)
    (h : (IssuerProfile.githubActions policies).admitIdentity (.githubActions identity) = .ok admitted) :
    admitted.policyDigest = Sha256.digest (Workload.admissionBytes policy.fields) ∧
      policy.fields.repositoryId = identity.repositoryId.get ∧
      policy.fields.ownerId = identity.ownerId.get := by
  have hadmits := List.find?_some hfind
  simp only [IssuerProfile.admitIdentity, hfind, Option.map_some] at h
  obtain rfl := Except.ok.inj h
  simp only [GithubPolicy.admits, Bool.and_eq_true, beq_iff_eq] at hadmits
  exact ⟨rfl, by rw [← hadmits.1.1.1.1]; rfl, by rw [← hadmits.1.1.1.2]; rfl⟩

/-- The digest of an admission under generic policies. -/
theorem genericDigest {policies : List GenericPolicy} {identity : GenericIdentity} {policy : GenericPolicy}
    {admitted : AdmittedWorkload} (hfind : policies.find? (fun p => p.admits identity) = some policy)
    (h : (IssuerProfile.generic policies).admitIdentity (.generic identity) = .ok admitted) :
    admitted.policyDigest = Sha256.digest (utf8 policy.subject.str) := by
  simp only [IssuerProfile.admitIdentity, hfind, Option.map_some] at h
  obtain rfl := Except.ok.inj h
  rfl

end Admission

end AuthsProof.Oidc

/-! ## The certificate's adapter -/

namespace AuthsProof.Sigstore

def WorkflowPin.fields : WorkflowPin → Workload.PinFields
  | .exact path gitRef commit => .exact path.str gitRef.str commit.str
  | .anyRef path => .anyRef path.str

def FulcioGithubPolicy.fields (policy : FulcioGithubPolicy) : Workload.PolicyFields :=
  ⟨policy.repositoryId.get, policy.ownerId.get, policy.workflow.map WorkflowPin.fields,
    policy.gitRef.map Text.Checked.str, policy.environment.map Text.Checked.str⟩

def githubPolicyComponent (policy : FulcioGithubPolicy) : Bytes :=
  Workload.githubPolicyComponent policy.fields

/-- A policy of parsed ids and commits, as their types have no other values. -/
structure FulcioGithubPolicy.Parsed (policy : FulcioGithubPolicy) : Prop where
  repositoryId : ∃ value, RepositoryId.parse value = .ok policy.repositoryId
  ownerId : ∃ value, RepositoryOwnerId.parse value = .ok policy.ownerId
  commit : ∀ path gitRef commit, policy.workflow = some (.exact path gitRef commit) →
    ∃ value, CommitSha.parse value = .ok commit

theorem WorkflowPin.fields_injective : Function.Injective WorkflowPin.fields := by
  intro a b h
  cases a with
  | exact path gitRef commit =>
    cases b with
    | exact path' gitRef' commit' =>
      simp only [fields, Workload.PinFields.exact.injEq] at h
      obtain ⟨hpath, href, hcommit⟩ := h
      obtain ⟨commit⟩ := commit
      obtain ⟨commit'⟩ := commit'
      obtain rfl : commit = commit' := hcommit
      rw [Text.Checked.str_injective hpath, Text.Checked.str_injective href]
    | anyRef path' => cases h
  | anyRef path =>
    cases b with
    | exact path' gitRef' commit' => cases h
    | anyRef path' =>
      simp only [fields, Workload.PinFields.anyRef.injEq] at h
      rw [Text.Checked.str_injective h]

theorem FulcioGithubPolicy.fields_injective : Function.Injective FulcioGithubPolicy.fields := by
  rintro ⟨⟨repositoryId⟩, ⟨ownerId⟩, workflow, gitRef, environment⟩
    ⟨⟨repositoryId'⟩, ⟨ownerId'⟩, workflow', gitRef', environment'⟩ h
  simp only [fields, Workload.PolicyFields.mk.injEq] at h
  obtain ⟨rfl, rfl, hworkflow, href, henvironment⟩ := h
  rw [Option.map_injective WorkflowPin.fields_injective hworkflow,
    Option.map_injective Text.Checked.str_injective href,
    Option.map_injective Text.Checked.str_injective henvironment]

theorem RepositoryId.lt_of_parse {value : String} {id : RepositoryId}
    (h : RepositoryId.parse value = .ok id) : id.get < 2 ^ 64 := by
  unfold RepositoryId.parse at h
  split at h
  · next hvalue =>
    cases h
    exact Workload.lt_of_parsePositive hvalue
  · cases h

theorem RepositoryOwnerId.lt_of_parse {value : String} {id : RepositoryOwnerId}
    (h : RepositoryOwnerId.parse value = .ok id) : id.get < 2 ^ 64 := by
  unfold RepositoryOwnerId.parse at h
  split at h
  · next hvalue =>
    cases h
    exact Workload.lt_of_parsePositive hvalue
  · cases h

theorem CommitSha.size_of_parse {value : String} {commit : CommitSha}
    (h : CommitSha.parse value = .ok commit) : commit.str.utf8ByteSize < 2 ^ 32 := by
  unfold CommitSha.parse at h
  dsimp only at h
  split at h
  · next hvalue =>
    cases h
    simp only [Bool.and_eq_true, decide_eq_true_eq] at hvalue
    show (String.ofList _).utf8ByteSize < 2 ^ 32
    rw [Json.utf8ByteSize_ofList]
    exact Nat.lt_of_le_of_lt (Workload.size_le_of_length _) (by omega)
  · cases h


theorem FulcioGithubPolicy.Parsed.fits {policy : FulcioGithubPolicy} (h : policy.Parsed) : policy.fields.Fits := by
  have hchecked {valid : String → Bool} {maximum : Nat} (hmaximum : maximum < 2 ^ 32)
      (text : Text.Checked maximum valid) : text.str.utf8ByteSize < 2 ^ 32 := by
    have hsize := text.checked
    simp only [Bool.and_eq_true, decide_eq_true_eq] at hsize
    omega
  obtain ⟨repository, hrepository⟩ := h.repositoryId
  obtain ⟨owner, howner⟩ := h.ownerId
  refine ⟨RepositoryId.lt_of_parse hrepository, RepositoryOwnerId.lt_of_parse howner, ?_, ?_, ?_⟩
  · intro fields hfields text htext
    obtain ⟨pin, hpin, rfl⟩ := Option.mem_map.mp hfields
    cases pin with
    | exact path gitRef commit =>
      obtain ⟨value, hvalue⟩ := h.commit path gitRef commit hpin
      rcases List.mem_cons.mp htext with rfl | htext
      · exact hchecked (by decide) path
      · rcases List.mem_pair.mp htext with rfl | rfl
        · exact hchecked (by decide) gitRef
        · exact CommitSha.size_of_parse hvalue
    | anyRef path =>
      obtain rfl := List.mem_singleton.mp htext
      exact hchecked (by decide) path
  · intro text htext
    obtain ⟨gitRef, -, rfl⟩ := Option.mem_map.mp htext
    exact hchecked (by decide) gitRef
  · intro text htext
    obtain ⟨environment, -, rfl⟩ := Option.mem_map.mp htext
    exact hchecked (by decide) environment

theorem githubPolicyComponent_injective {a b : FulcioGithubPolicy} (ha : a.Parsed) (hb : b.Parsed)
    (h : githubPolicyComponent a = githubPolicyComponent b) : a = b :=
  FulcioGithubPolicy.fields_injective (Workload.githubPolicyComponent_injective ha.fits hb.fits h)

section Admission

variable [Sha256]

/-- The digest of an admission under GitHub policies. -/
theorem githubDigest {policies : List FulcioGithubPolicy} {identity : FulcioGithubIdentity} {policy : FulcioGithubPolicy}
    {admitted : AdmittedWorkload} (hfind : policies.find? (fun p => githubAdmits p identity) = some policy)
    (h : (FulcioIssuerProfile.githubActions policies).admitIdentity (.githubActions identity) = .ok admitted) :
    admitted.policyDigest = Sha256.digest (Workload.admissionBytes policy.fields) ∧
      policy.fields.repositoryId = identity.repositoryId.get ∧
      policy.fields.ownerId = identity.ownerId.get := by
  have hadmits := List.find?_some hfind
  simp only [FulcioIssuerProfile.admitIdentity, hfind, Option.map_some] at h
  obtain rfl := Except.ok.inj h
  simp only [githubAdmits, Bool.and_eq_true, beq_iff_eq] at hadmits
  exact ⟨rfl, by rw [← hadmits.1.1.1.1]; rfl, by rw [← hadmits.1.1.1.2]; rfl⟩

/-- The digest of an admission under generic policies. -/
theorem genericDigest {policies : List FulcioGenericPolicy} {identity : FulcioGenericIdentity} {policy : FulcioGenericPolicy}
    {admitted : AdmittedWorkload} (hfind : policies.find? (fun p => p.subject == identity.subject) = some policy)
    (h : (FulcioIssuerProfile.generic policies).admitIdentity (.generic identity) = .ok admitted) :
    admitted.policyDigest = Sha256.digest (utf8 policy.subject.str) := by
  simp only [FulcioIssuerProfile.admitIdentity, hfind, Option.map_some] at h
  obtain rfl := Except.ok.inj h
  rfl

end Admission

end AuthsProof.Sigstore

namespace AuthsProof.Workload

section Admissions

variable [Sha256]

/-- The component of a configuration identifies a policy, in either adapter. The digest of an admission
does under generic policies; under GitHub policies it does so exactly where the identities differ in
an id or the policies agree in every field but the ids. -/
theorem policyDigest_identifies_iff :
    (∀ a b : Oidc.GithubPolicy, a.Parsed → b.Parsed →
      Oidc.githubPolicyComponent a = Oidc.githubPolicyComponent b → a = b) ∧
    (∀ (policies policies' : List Oidc.GenericPolicy) (identity identity' : Oidc.GenericIdentity)
      (policy policy' : Oidc.GenericPolicy) (admitted admitted' : Oidc.AdmittedWorkload),
      policies.find? (fun p => p.admits identity) = some policy →
      policies'.find? (fun p => p.admits identity') = some policy' →
      (Oidc.IssuerProfile.generic policies).admitIdentity (.generic identity) = .ok admitted →
      (Oidc.IssuerProfile.generic policies').admitIdentity (.generic identity') = .ok admitted' →
      CollisionFree [utf8 policy.subject.str, utf8 policy'.subject.str] →
      admitted.policyDigest = admitted'.policyDigest → policy = policy') ∧
    (∀ (policies policies' : List Oidc.GithubPolicy) (identity identity' : Oidc.GithubIdentity)
      (policy policy' : Oidc.GithubPolicy) (admitted admitted' : Oidc.AdmittedWorkload),
      policy.Parsed → policy'.Parsed →
      policies.find? (fun p => p.admits identity) = some policy →
      policies'.find? (fun p => p.admits identity') = some policy' →
      (Oidc.IssuerProfile.githubActions policies).admitIdentity (.githubActions identity) =
        .ok admitted →
      (Oidc.IssuerProfile.githubActions policies').admitIdentity (.githubActions identity') =
        .ok admitted' →
      CollisionFree [admissionBytes policy.fields, admissionBytes policy'.fields] →
      ((admitted.policyDigest = admitted'.policyDigest → policy = policy') ↔
        identity.repositoryId.get ≠ identity'.repositoryId.get ∨
          identity.ownerId.get ≠ identity'.ownerId.get ∨
          policy.fields.AgreeBeyondIds policy'.fields)) ∧
    (∀ a b : Sigstore.FulcioGithubPolicy, a.Parsed → b.Parsed →
      Sigstore.githubPolicyComponent a = Sigstore.githubPolicyComponent b → a = b) ∧
    (∀ (policies policies' : List Sigstore.FulcioGenericPolicy) (identity identity' : Sigstore.FulcioGenericIdentity)
      (policy policy' : Sigstore.FulcioGenericPolicy) (admitted admitted' : Sigstore.AdmittedWorkload),
      policies.find? (fun p => p.subject == identity.subject) = some policy →
      policies'.find? (fun p => p.subject == identity'.subject) = some policy' →
      (Sigstore.FulcioIssuerProfile.generic policies).admitIdentity (.generic identity) = .ok admitted →
      (Sigstore.FulcioIssuerProfile.generic policies').admitIdentity (.generic identity') = .ok admitted' →
      CollisionFree [utf8 policy.subject.str, utf8 policy'.subject.str] →
      admitted.policyDigest = admitted'.policyDigest → policy = policy') ∧
    (∀ (policies policies' : List Sigstore.FulcioGithubPolicy) (identity identity' : Sigstore.FulcioGithubIdentity)
      (policy policy' : Sigstore.FulcioGithubPolicy) (admitted admitted' : Sigstore.AdmittedWorkload),
      policy.Parsed → policy'.Parsed →
      policies.find? (fun p => Sigstore.githubAdmits p identity) = some policy →
      policies'.find? (fun p => Sigstore.githubAdmits p identity') = some policy' →
      (Sigstore.FulcioIssuerProfile.githubActions policies).admitIdentity (.githubActions identity) =
        .ok admitted →
      (Sigstore.FulcioIssuerProfile.githubActions policies').admitIdentity (.githubActions identity') =
        .ok admitted' →
      CollisionFree [admissionBytes policy.fields, admissionBytes policy'.fields] →
      ((admitted.policyDigest = admitted'.policyDigest → policy = policy') ↔
        identity.repositoryId.get ≠ identity'.repositoryId.get ∨
          identity.ownerId.get ≠ identity'.ownerId.get ∨
          policy.fields.AgreeBeyondIds policy'.fields)) := by
  refine ⟨fun a b ha hb h => Oidc.githubPolicyComponent_injective ha hb h, ?_, ?_,
    fun a b ha hb h => Sigstore.githubPolicyComponent_injective ha hb h, ?_, ?_⟩
  · intro policies policies' identity identity' policy policy' admitted admitted' hfind hfind' h h' hfree
      hdigest
    rw [Oidc.genericDigest hfind h, Oidc.genericDigest hfind' h'] at hdigest
    have hsubject := utf8_injective
      (hfree _ List.mem_cons_self _ (List.mem_cons_of_mem _ List.mem_cons_self) hdigest)
    rw [Oidc.GenericPolicy.mk.injEq, Text.Checked.str_injective hsubject]
  · intro policies policies' identity identity' policy policy' admitted admitted' hparsed hparsed' hfind
      hfind' h h' hfree
    obtain ⟨hdigest, hrepository, howner⟩ := Oidc.githubDigest hfind h
    obtain ⟨hdigest', hrepository', howner'⟩ := Oidc.githubDigest hfind' h'
    rw [hdigest, hdigest', ← hrepository, ← hrepository', ← howner, ← howner',
      ← Oidc.GithubPolicy.fields_injective.eq_iff]
    exact admissionDigest_iff hparsed.fits hparsed'.fits hfree
  · intro policies policies' identity identity' policy policy' admitted admitted' hfind hfind' h h' hfree
      hdigest
    rw [Sigstore.genericDigest hfind h, Sigstore.genericDigest hfind' h'] at hdigest
    have hsubject := utf8_injective
      (hfree _ List.mem_cons_self _ (List.mem_cons_of_mem _ List.mem_cons_self) hdigest)
    rw [Sigstore.FulcioGenericPolicy.mk.injEq, Text.Checked.str_injective hsubject]
  · intro policies policies' identity identity' policy policy' admitted admitted' hparsed hparsed' hfind
      hfind' h h' hfree
    obtain ⟨hdigest, hrepository, howner⟩ := Sigstore.githubDigest hfind h
    obtain ⟨hdigest', hrepository', howner'⟩ := Sigstore.githubDigest hfind' h'
    rw [hdigest, hdigest', ← hrepository, ← hrepository', ← howner, ← howner',
      ← Sigstore.FulcioGithubPolicy.fields_injective.eq_iff]
    exact admissionDigest_iff hparsed.fits hparsed'.fits hfree

end Admissions

/-! ## One digest for a loose and a pinned policy -/

section Sample

local instance sampleCommitmentSha256 : Sha256 :=
  ⟨fun bytes => ⟨Sha2.sha256 bytes, Sha2.sha256_length bytes⟩⟩

def sampleTokenIdentity (repositoryId : Nat) : Oidc.GithubIdentity where
  issuer := ⟨"https://issuer.example", by decide⟩
  subject := ⟨"repo:acme/app", by decide⟩
  repository := ⟨"acme/app", by decide⟩
  repositoryId := ⟨repositoryId⟩
  owner := ⟨"acme"⟩
  ownerId := ⟨7⟩
  workflow := ⟨⟨⟨"acme/app", by decide⟩, ⟨".github/workflows/ci.yml", by decide⟩,
    ⟨"refs/heads/main", by decide⟩⟩, ⟨"0123456789abcdef0123456789abcdef01234567"⟩⟩
  jobWorkflow := .absent
  gitRef := ⟨"refs/heads/main", by decide⟩
  sha := ⟨"0123456789abcdef0123456789abcdef01234567"⟩
  environment := none
  runner := none
  actor := none
  event := none

def sampleCertificateIdentity : Sigstore.FulcioGithubIdentity where
  issuer := ⟨"https://issuer.example", by decide⟩
  subject := ⟨"repo:acme/app", by decide⟩
  certificateSan := .uri "https://github.com/acme/app"
  repository := ⟨"acme/app", by decide⟩
  repositoryId := ⟨42⟩
  owner := ⟨"acme"⟩
  ownerId := ⟨7⟩
  workflow := ⟨⟨⟨"acme/app", by decide⟩, ⟨".github/workflows/ci.yml", by decide⟩,
    ⟨"refs/heads/main", by decide⟩⟩, ⟨"0123456789abcdef0123456789abcdef01234567"⟩⟩
  jobWorkflow := .absent
  gitRef := ⟨"refs/heads/main", by decide⟩
  sha := ⟨"0123456789abcdef0123456789abcdef01234567"⟩
  environment := none
  runner := .githubHosted
  event := ⟨"push", by decide⟩
  runInvocation := ⟨"https://github.com/acme/app/actions/runs/1", by decide⟩

/-- Any workflow of the repository. -/
def looseTokenPolicy (repositoryId : Nat) : Oidc.GithubPolicy := ⟨⟨repositoryId⟩, ⟨7⟩, none, none, none⟩

/-- One workflow of the repository, on one branch. -/
def pinnedTokenPolicy : Oidc.GithubPolicy :=
  ⟨⟨42⟩, ⟨7⟩, some (.anyRef ⟨".github/workflows/ci.yml", by decide⟩),
    some ⟨"refs/heads/main", by decide⟩, none⟩

def looseCertificatePolicy : Sigstore.FulcioGithubPolicy := ⟨⟨42⟩, ⟨7⟩, none, none, none⟩

def pinnedCertificatePolicy : Sigstore.FulcioGithubPolicy :=
  ⟨⟨42⟩, ⟨7⟩, some (.anyRef ⟨".github/workflows/ci.yml", by decide⟩),
    some ⟨"refs/heads/main", by decide⟩, none⟩

theorem looseTokenPolicy_parsed (repositoryId : Nat)
    (h : ∃ value, Oidc.RepositoryId.parse value = .ok ⟨repositoryId⟩) :
    (looseTokenPolicy repositoryId).Parsed :=
  ⟨h, ⟨"7", show Oidc.RepositoryOwnerId.parse "7" = .ok ⟨7⟩ by decide⟩, nofun⟩

/-- Admissions for two repositories publish two digests. -/
theorem policyDigest_sample :
    ∀ admitted admitted' : Oidc.AdmittedWorkload,
      (Oidc.IssuerProfile.githubActions [looseTokenPolicy 42]).admitIdentity
        (.githubActions (sampleTokenIdentity 42)) = .ok admitted →
      (Oidc.IssuerProfile.githubActions [looseTokenPolicy 43]).admitIdentity
        (.githubActions (sampleTokenIdentity 43)) = .ok admitted' →
      admitted.policyDigest ≠ admitted'.policyDigest := by
  intro admitted admitted' h h' hdigest
  have hdistinct : Sha256.digest (admissionBytes (looseTokenPolicy 42).fields) ≠
      Sha256.digest (admissionBytes (looseTokenPolicy 43).fields) := by decide +kernel
  have hexact := policyDigest_identifies_iff.2.2.1 _ _ _ _ (looseTokenPolicy 42) (looseTokenPolicy 43)
    _ _ (looseTokenPolicy_parsed 42 ⟨"42", by decide⟩)
    (looseTokenPolicy_parsed 43 ⟨"43", by decide⟩) (by decide) (by decide) h h'
    (collisionFree_pair hdistinct)
  have hsame := hexact.mpr (.inl (by decide)) hdigest
  exact absurd hsame (by decide)

/-- A policy for any workflow and one for a single workflow on one branch admit the same workload under
one digest. -/
theorem policyDigest_shared :
    (looseTokenPolicy 42 ≠ pinnedTokenPolicy ∧ (looseTokenPolicy 42).Parsed ∧
      pinnedTokenPolicy.Parsed ∧ ∃ admitted admitted',
        (Oidc.IssuerProfile.githubActions [looseTokenPolicy 42]).admitIdentity
          (.githubActions (sampleTokenIdentity 42)) = .ok admitted ∧
        (Oidc.IssuerProfile.githubActions [pinnedTokenPolicy]).admitIdentity
          (.githubActions (sampleTokenIdentity 42)) = .ok admitted' ∧
        admitted.policyDigest = admitted'.policyDigest) ∧
    looseCertificatePolicy ≠ pinnedCertificatePolicy ∧ looseCertificatePolicy.Parsed ∧
      pinnedCertificatePolicy.Parsed ∧ ∃ admitted admitted',
        (Sigstore.FulcioIssuerProfile.githubActions [looseCertificatePolicy]).admitIdentity
          (.githubActions sampleCertificateIdentity) = .ok admitted ∧
        (Sigstore.FulcioIssuerProfile.githubActions [pinnedCertificatePolicy]).admitIdentity
          (.githubActions sampleCertificateIdentity) = .ok admitted' ∧
        admitted.policyDigest = admitted'.policyDigest := by
  refine ⟨⟨by decide, looseTokenPolicy_parsed 42 ⟨"42", by decide⟩,
    ⟨⟨"42", by decide⟩, ⟨"7", by decide⟩, nofun⟩, _, _, rfl, rfl, rfl⟩, by decide,
    ⟨⟨"42", by decide⟩, ⟨"7", by decide⟩, nofun⟩, ⟨⟨"42", by decide⟩, ⟨"7", by decide⟩, nofun⟩,
    _, _, rfl, rfl, rfl⟩

end Sample

end AuthsProof.Workload
