import AuthsProof.Gateway.Order

/-! The one way to the provider write: what the machine has done in each phase on it. -/

namespace AuthsProof.Gateway

/-- An action and the result it was answered with. -/
abbrev Exchange := SubmitAction × SubmitEvent

/-! ## The exchanges before each phase -/

def admitPart (argument : UInt64) : List Exchange :=
  [(.readClock, .clock true), (.verify, .verification (.authorized argument)),
    (.admission, .admission true)]

def scopePart (plan : SubmitPlan) : List Exchange :=
  if plan.accountScope then [(.bindScope, .scope true)] else []

def leasePart : List Exchange :=
  [(.prepare, .preparation true), (.claim, .claim .reserved), (.reload, .reload true),
    (.lease, .lease true), (.checkPrefix, .prefixGuard true)]

def accountPart (plan : SubmitPlan) : List Exchange :=
  if plan.accountRead then [(.readAccount, .account .equal)] else []

/-- The denied reads below an index, each refused. -/
def deniedPart (count : Nat) : List Exchange :=
  (List.range count).map fun index => (.deniedRead (UInt8.ofNat index), .denied .refused)

def preEntryPart (plan : SubmitPlan) : List Exchange :=
  if plan.preEntry then [(.preEntryRead, .preEntry .satisfied)] else []

def ceilingPart (plan : SubmitPlan) (basis : UInt64) : List Exchange :=
  if plan.relativeCeiling then [(.ceilingRead, .ceiling (.read basis true))] else []

def checkpointPart (plan : SubmitPlan) : List Exchange :=
  if plan.preEntry || plan.relativeCeiling then [(.recordCheckpoint, .recorded true)] else []

def grantPart : List Exchange :=
  [(.reloadBeforeEntry, .reload true), (.checkDeadline, .deadline true),
    (.grantEntry, .granted true)]

def throughScope (plan : SubmitPlan) (argument : UInt64) : List Exchange :=
  admitPart argument ++ scopePart plan

def throughAccount (plan : SubmitPlan) (argument : UInt64) : List Exchange :=
  throughScope plan argument ++ leasePart ++ accountPart plan

def throughDenied (plan : SubmitPlan) (argument : UInt64) : List Exchange :=
  throughAccount plan argument ++ deniedPart plan.deniedReads.toNat

def throughPreEntry (plan : SubmitPlan) (argument : UInt64) : List Exchange :=
  throughDenied plan argument ++ preEntryPart plan

def throughCeiling (plan : SubmitPlan) (argument basis : UInt64) : List Exchange :=
  throughPreEntry plan argument ++ ceilingPart plan basis

def throughCheckpoint (plan : SubmitPlan) (argument basis : UInt64) : List Exchange :=
  throughCeiling plan argument basis ++ checkpointPart plan

/-- Everything that comes between the start and the provider write. -/
def script (plan : SubmitPlan) (argument basis : UInt64) : List Exchange :=
  throughCheckpoint plan argument basis ++ grantPart

/-- The exchanges that bring the machine to a phase. -/
def before (plan : SubmitPlan) (argument basis : UInt64) : Phase → List Exchange
  | .verify => (admitPart argument).take 1
  | .admission => (admitPart argument).take 2
  | .scope => admitPart argument
  | .prepare => throughScope plan argument
  | .claim => throughScope plan argument ++ leasePart.take 1
  | .reload => throughScope plan argument ++ leasePart.take 2
  | .lease => throughScope plan argument ++ leasePart.take 3
  | .prefixGuard => throughScope plan argument ++ leasePart.take 4
  | .account => throughScope plan argument ++ leasePart
  | .denied index => throughAccount plan argument ++ deniedPart index.toNat
  | .preEntry => throughDenied plan argument
  | .ceiling => throughPreEntry plan argument
  | .checkpoint => throughCeiling plan argument basis
  | .entryReload => throughCheckpoint plan argument basis
  | .deadline => throughCheckpoint plan argument basis ++ grantPart.take 1
  | .grant => throughCheckpoint plan argument basis ++ grantPart.take 2
  | .send => script plan argument basis
  | _ => []

section Before

variable {plan : SubmitPlan} {argument basis : UInt64}

@[simp] theorem before_prepare : before plan argument basis .prepare = throughScope plan argument := rfl

@[simp] theorem before_claim :
    before plan argument basis .claim = throughScope plan argument ++ leasePart.take 1 := rfl

@[simp] theorem before_reload :
    before plan argument basis .reload = throughScope plan argument ++ leasePart.take 2 := rfl

@[simp] theorem before_lease :
    before plan argument basis .lease = throughScope plan argument ++ leasePart.take 3 := rfl

@[simp] theorem before_prefixGuard :
    before plan argument basis .prefixGuard = throughScope plan argument ++ leasePart.take 4 := rfl

@[simp] theorem before_scope : before plan argument basis .scope = admitPart argument := rfl

@[simp] theorem before_account :
    before plan argument basis .account = throughScope plan argument ++ leasePart := rfl

@[simp] theorem before_denied (index : UInt8) : before plan argument basis (.denied index) =
    throughAccount plan argument ++ deniedPart index.toNat := rfl

@[simp] theorem before_preEntry :
    before plan argument basis .preEntry = throughDenied plan argument := rfl

@[simp] theorem before_ceiling :
    before plan argument basis .ceiling = throughPreEntry plan argument := rfl

@[simp] theorem before_checkpoint :
    before plan argument basis .checkpoint = throughCeiling plan argument basis := rfl

@[simp] theorem before_entryReload :
    before plan argument basis .entryReload = throughCheckpoint plan argument basis := rfl

@[simp] theorem before_deadline : before plan argument basis .deadline =
    throughCheckpoint plan argument basis ++ grantPart.take 1 := rfl

@[simp] theorem before_grant : before plan argument basis .grant =
    throughCheckpoint plan argument basis ++ grantPart.take 2 := rfl

@[simp] theorem before_send : before plan argument basis .send = script plan argument basis := rfl

end Before

/-- The action a phase on the way to the provider write awaits the result of. -/
def Phase.awaits : Phase → Option SubmitAction
  | .clock => some .readClock
  | .verify => some .verify
  | .admission => some .admission
  | .scope => some .bindScope
  | .prepare => some .prepare
  | .claim => some .claim
  | .reload => some .reload
  | .lease => some .lease
  | .prefixGuard => some .checkPrefix
  | .account => some .readAccount
  | .denied index => some (.deniedRead index)
  | .preEntry => some .preEntryRead
  | .ceiling => some .ceilingRead
  | .checkpoint => some .recordCheckpoint
  | .entryReload => some .reloadBeforeEntry
  | .deadline => some .checkDeadline
  | .grant => some .grantEntry
  | .send => some .send
  | .start | .recordResponse | .recordUnknown | .recordNotEntered | .done => none

/-- The optional phases are entered only when they are declared. -/
def SubmitState.declared (state : SubmitState) : Prop :=
  match state.phase with
  | .scope => state.plan.accountScope = true
  | .account => state.plan.accountRead = true
  | .denied index => index < state.plan.deniedReads
  | .preEntry => state.plan.preEntry = true
  | .ceiling => state.plan.relativeCeiling = true
  | .checkpoint => state.plan.preEntry = true ∨ state.plan.relativeCeiling = true
  | _ => True

/-- The basis a declared ceiling was read with admits the argument. -/
def SubmitState.ceilingMet (state : SubmitState) (basis : UInt64) : Prop :=
  match state.phase with
  | .checkpoint | .entryReload | .deadline | .grant | .send =>
    state.plan.relativeCeiling = true →
      relativeCeilingAdmits state.argument basis state.plan.basisPoints = true
  | _ => True

/-- A decision on the way to the provider write names the action its phase awaits, and the
exchanges until then are those that lead to the phase. -/
def Tracks (exchanges : List Exchange) (decision : SubmitDecision) : Prop :=
  ∀ action, decision.state.phase.awaits = some action → decision.action = action ∧
    decision.state.declared ∧ ∃ basis, decision.state.ceilingMet basis ∧
      exchanges = before decision.state.plan decision.state.argument basis decision.state.phase

theorem tracks_stop {exchanges : List Exchange} {state : SubmitState} {reason : Stop} :
    Tracks exchanges (stop state reason) := fun _ h => (nomatch h)

theorem tracks_halt {exchanges : List Exchange} {state : SubmitState} :
    Tracks exchanges (halt state) := tracks_stop

theorem tracks_notEntered {exchanges : List Exchange} {state : SubmitState} {refusal : Refusal} :
    Tracks exchanges (notEntered state refusal) := fun _ h => (nomatch h)

theorem tracks_preClaim {exchanges : List Exchange} {state : SubmitState} {passed : Bool}
    {next : SubmitDecision} (h : passed = true → Tracks exchanges next) :
    Tracks exchanges (preClaim state passed next) := by
  cases passed
  · exact tracks_stop
  · exact h rfl

/-- A move to a phase, with what it asks for. -/
theorem tracks_go {exchanges : List Exchange} {state : SubmitState} {phase : Phase}
    {action : SubmitAction} (basis : UInt64) (haction : phase.awaits = some action)
    (hdeclared : (go state phase action).state.declared)
    (hceiling : (go state phase action).state.ceilingMet basis)
    (hexchanges : exchanges = before state.plan state.argument basis phase) :
    Tracks exchanges (go state phase action) := by
  intro other hother
  have heq : action = other := Option.some.inj (haction.symm.trans hother)
  exact ⟨heq, hdeclared, basis, hceiling, hexchanges⟩

/-! ## The optional stages -/

theorem tracks_afterReads {state : SubmitState} {basis : UInt64}
    (hceiling : state.plan.relativeCeiling = true →
      relativeCeilingAdmits state.argument basis state.plan.basisPoints = true) :
    Tracks (throughCeiling state.plan state.argument basis) (afterReads state) := by
  unfold afterReads
  split
  · next hread =>
    have hdeclared : state.plan.preEntry = true ∨ state.plan.relativeCeiling = true := by
      simpa using hread
    exact tracks_go basis rfl hdeclared hceiling rfl
  · next hnone =>
    refine tracks_go basis rfl trivial hceiling ?_
    simp [throughCheckpoint, checkpointPart, hnone]

theorem tracks_ceilingFrom {state : SubmitState} :
    Tracks (throughPreEntry state.plan state.argument) (ceilingFrom state) := by
  unfold ceilingFrom
  split
  · next hdeclared => exact tracks_go 0 rfl hdeclared trivial rfl
  · next hnone =>
    have hreads := @tracks_afterReads state 0 (fun h => absurd h hnone)
    simpa [throughCeiling, ceilingPart, hnone] using hreads

theorem tracks_preEntryFrom {state : SubmitState} :
    Tracks (throughDenied state.plan state.argument) (preEntryFrom state) := by
  unfold preEntryFrom
  split
  · next hdeclared => exact tracks_go 0 rfl hdeclared trivial rfl
  · next hnone =>
    have hceiling := @tracks_ceilingFrom state
    simpa [throughPreEntry, preEntryPart, hnone] using hceiling

theorem tracks_deniedFrom {state : SubmitState} {index : UInt8}
    (hle : index ≤ state.plan.deniedReads) :
    Tracks (throughAccount state.plan state.argument ++ deniedPart index.toNat)
      (deniedFrom state index) := by
  unfold deniedFrom
  split
  · next hdeclared => exact tracks_go 0 rfl hdeclared trivial rfl
  · next hnone =>
    have heq : index.toNat = state.plan.deniedReads.toNat := by
      have hle := UInt8.le_iff_toNat_le.mp hle
      have hge := UInt8.lt_iff_toNat_lt.not.mp hnone
      omega
    rw [heq]
    exact tracks_preEntryFrom

theorem tracks_deniedFrom_zero {state : SubmitState} :
    Tracks (throughAccount state.plan state.argument) (deniedFrom state 0) := by
  have hdenied := @tracks_deniedFrom state 0 (UInt8.le_iff_toNat_le.mpr (Nat.zero_le _))
  simpa [deniedPart] using hdenied

theorem tracks_afterPrefix {state : SubmitState} :
    Tracks (throughScope state.plan state.argument ++ leasePart) (afterPrefix state) := by
  unfold afterPrefix
  split
  · next hdeclared => exact tracks_go 0 rfl hdeclared trivial rfl
  · next hnone =>
    have hdenied := @tracks_deniedFrom_zero state
    simpa [throughAccount, accountPart, hnone] using hdenied

theorem tracks_afterAdmission {state : SubmitState} :
    Tracks (admitPart state.argument) (afterAdmission state) := by
  unfold afterAdmission
  split
  · next hdeclared => exact tracks_go 0 rfl hdeclared trivial rfl
  · next hnone =>
    refine tracks_go 0 rfl trivial trivial ?_
    simp [throughScope, scopePart, hnone]

/-! ## One step -/

/-- The exchanges until a state, none before the machine has started. -/
def SubmitState.tracked (state : SubmitState) (exchanges : List Exchange) : Prop :=
  state.declared ∧ ∃ basis, state.ceilingMet basis ∧
    exchanges = before state.plan state.argument basis state.phase

theorem deniedPart_succ (count : Nat) : deniedPart (count + 1) =
    deniedPart count ++ [(.deniedRead (UInt8.ofNat count), .denied .refused)] := by
  simp [deniedPart, List.range_succ]

theorem tracks_afterDenied {state : SubmitState} {index : UInt8} {result : DeniedResult} :
    Tracks (throughAccount state.plan state.argument ++ deniedPart index.toNat ++
      [(.deniedRead index, .denied result)]) (afterDenied state index result) := by
  cases result with
  | answered => exact tracks_notEntered
  | unavailable => exact tracks_notEntered
  | refused =>
    unfold afterDenied
    simp only
    split
    · next hlt =>
      have hnat := UInt8.lt_iff_toNat_lt.mp hlt
      have hbound := state.plan.deniedReads.toNat_lt
      have hsucc : (index + 1).toNat = index.toNat + 1 := by
        rw [UInt8.toNat_add, UInt8.toNat_one, Nat.mod_eq_of_lt (by omega)]
      have hdenied := @tracks_deniedFrom state (index + 1)
        (UInt8.le_iff_toNat_le.mpr (by omega))
      rwa [hsucc, deniedPart_succ, UInt8.ofNat_toNat, ← List.append_assoc] at hdenied
    · exact tracks_halt

theorem tracks_afterCeiling {state : SubmitState} {read : CeilingRead}
    (hdeclared : state.plan.relativeCeiling = true) :
    Tracks (throughPreEntry state.plan state.argument ++ [(.ceilingRead, .ceiling read)])
      (afterCeiling state read) := by
  cases read with
  | unavailable => exact tracks_notEntered
  | read basis bindsEqual =>
    cases bindsEqual with
    | false => exact tracks_notEntered
    | true =>
      simp only [afterCeiling, Bool.not_true, Bool.false_eq_true, if_false]
      split
      · next hadmits =>
        have hreads := @tracks_afterReads state basis (fun _ => hadmits)
        simpa [throughCeiling, ceilingPart, hdeclared] using hreads
      · exact tracks_notEntered

theorem tracks_preClaimStep {state : SubmitState} {exchanges : List Exchange}
    {action : SubmitAction} (event : SubmitEvent) (hawaits : state.phase.awaits = some action)
    (htracked : state.tracked exchanges) :
    Tracks (exchanges ++ [(action, event)]) (preClaimStep state event) := by
  obtain ⟨plan, phase, argument⟩ := state
  obtain ⟨hdeclared, basis, hceiling, rfl⟩ := htracked
  cases phase
  case start => cases hawaits
  case clock =>
    obtain rfl := Option.some.inj hawaits
    cases event
    case clock read =>
      refine tracks_preClaim fun hread => tracks_go 0 rfl trivial trivial ?_
      rw [hread]
      rfl
    all_goals exact tracks_halt
  case verify =>
    obtain rfl := Option.some.inj hawaits
    cases event
    case verification result =>
      cases result with
      | refused => exact tracks_stop
      | authorized a => exact @tracks_go _ ⟨plan, .admission, a⟩ _ _ 0 rfl trivial trivial rfl
    all_goals exact tracks_halt
  case admission =>
    obtain rfl := Option.some.inj hawaits
    cases event
    case admission admitted =>
      refine tracks_preClaim fun hadmitted => ?_
      rw [hadmitted]
      exact tracks_afterAdmission
    all_goals exact tracks_halt
  case scope =>
    obtain rfl := Option.some.inj hawaits
    cases event
    case scope bound =>
      refine tracks_preClaim fun hbound => tracks_go 0 rfl trivial trivial ?_
      have hscope : plan.accountScope = true := hdeclared
      simp [throughScope, scopePart, hscope, hbound]
    all_goals exact tracks_halt
  case prepare =>
    obtain rfl := Option.some.inj hawaits
    cases event
    case preparation prepared =>
      refine tracks_preClaim fun hprepared => tracks_go 0 rfl trivial trivial ?_
      rw [hprepared]
      rfl
    all_goals exact tracks_halt
  case claim =>
    obtain rfl := Option.some.inj hawaits
    cases event
    case claim result =>
      cases result
      case reserved => exact tracks_go 0 rfl trivial trivial (by simp [leasePart])
      all_goals exact tracks_stop
    all_goals exact tracks_halt
  all_goals exact tracks_halt

theorem tracks_leaseStep {state : SubmitState} {exchanges : List Exchange}
    {action : SubmitAction} (event : SubmitEvent) (hawaits : state.phase.awaits = some action)
    (htracked : state.tracked exchanges) :
    Tracks (exchanges ++ [(action, event)]) (leaseStep state event) := by
  obtain ⟨plan, phase, argument⟩ := state
  obtain ⟨hdeclared, basis, hceiling, rfl⟩ := htracked
  cases phase
  case reload =>
    obtain rfl := Option.some.inj hawaits
    cases event
    case reload unchanged =>
      cases unchanged
      · exact tracks_notEntered
      · exact tracks_go 0 rfl trivial trivial (by simp [leasePart])
    all_goals exact tracks_halt
  case lease =>
    obtain rfl := Option.some.inj hawaits
    cases event
    case lease leased =>
      cases leased
      · exact tracks_notEntered
      · exact tracks_go 0 rfl trivial trivial (by simp [leasePart])
    all_goals exact tracks_halt
  case prefixGuard =>
    obtain rfl := Option.some.inj hawaits
    cases event
    case prefixGuard allowed =>
      cases allowed
      · exact tracks_notEntered
      · have hhead := @tracks_afterPrefix ⟨plan, .prefixGuard, argument⟩
        simpa [leasePart, leaseStep] using hhead
    all_goals exact tracks_halt
  case account =>
    obtain rfl := Option.some.inj hawaits
    cases event
    case account result =>
      cases result
      case equal =>
        have hread : plan.accountRead = true := hdeclared
        have hdenied := @tracks_deniedFrom_zero ⟨plan, .account, argument⟩
        simpa [throughAccount, accountPart, hread, leaseStep, afterAccount] using hdenied
      all_goals exact tracks_notEntered
    all_goals exact tracks_halt
  case denied index =>
    obtain rfl := Option.some.inj hawaits
    cases event
    case denied result => exact tracks_afterDenied
    all_goals exact tracks_halt
  all_goals exact tracks_halt

theorem tracks_entryStep {state : SubmitState} {exchanges : List Exchange}
    {action : SubmitAction} (event : SubmitEvent) (hawaits : state.phase.awaits = some action)
    (htracked : state.tracked exchanges) :
    Tracks (exchanges ++ [(action, event)]) (entryStep state event) := by
  obtain ⟨plan, phase, argument⟩ := state
  obtain ⟨hdeclared, basis, hceiling, rfl⟩ := htracked
  cases phase
  case preEntry =>
    obtain rfl := Option.some.inj hawaits
    cases event
    case preEntry result =>
      cases result
      case satisfied =>
        have hread : plan.preEntry = true := hdeclared
        have hceiling := @tracks_ceilingFrom ⟨plan, .preEntry, argument⟩
        simpa [throughPreEntry, preEntryPart, hread, entryStep, afterPreEntry] using hceiling
      all_goals exact tracks_notEntered
    all_goals exact tracks_halt
  case ceiling =>
    obtain rfl := Option.some.inj hawaits
    cases event
    case ceiling read => exact tracks_afterCeiling hdeclared
    all_goals exact tracks_halt
  case checkpoint =>
    obtain rfl := Option.some.inj hawaits
    cases event
    case recorded recorded =>
      cases recorded
      · exact tracks_stop
      · refine tracks_go basis rfl trivial hceiling ?_
        have hreads : plan.preEntry = true ∨ plan.relativeCeiling = true := hdeclared
        simp [throughCheckpoint, checkpointPart, hreads]
    all_goals exact tracks_halt
  case entryReload =>
    obtain rfl := Option.some.inj hawaits
    cases event
    case reload unchanged =>
      cases unchanged
      · exact tracks_notEntered
      · exact tracks_go basis rfl trivial hceiling rfl
    all_goals exact tracks_halt
  case deadline =>
    obtain rfl := Option.some.inj hawaits
    cases event
    case deadline within =>
      cases within
      · exact tracks_notEntered
      · exact tracks_go basis rfl trivial hceiling (by simp [grantPart])
    all_goals exact tracks_halt
  case grant =>
    obtain rfl := Option.some.inj hawaits
    cases event
    case granted granted =>
      cases granted
      · exact tracks_stop
      · exact tracks_go basis rfl trivial hceiling (by simp [script, grantPart])
    all_goals exact tracks_halt
  case send =>
    obtain rfl := Option.some.inj hawaits
    cases event
    case write result => cases result <;> exact fun _ h => (nomatch h)
    all_goals exact tracks_halt
  case recordResponse | recordUnknown | recordNotEntered => cases hawaits
  all_goals exact tracks_halt

/-- One step on the way to the provider write adds its exchange. -/
theorem tracks_nextStep {state : SubmitState} {exchanges : List Exchange} {action : SubmitAction}
    (event : SubmitEvent) (hawaits : state.phase.awaits = some action)
    (htracked : state.tracked exchanges) :
    Tracks (exchanges ++ [(action, event)]) (nextStep state event) := by
  unfold nextStep
  split
  all_goals first
    | exact tracks_preClaimStep event hawaits htracked
    | exact tracks_leaseStep event hawaits htracked
    | exact tracks_entryStep event hawaits htracked
    | exact tracks_halt

end AuthsProof.Gateway
