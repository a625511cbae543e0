import AuthsProof.Gateway.Transition

/-! The admission order of one gateway submission as a closed step machine. -/

namespace AuthsProof.Gateway

/-- `argument * 10000 ≤ basis * basisPoints`, both products in 128 bits. -/
def relativeCeilingAdmits (argument basis : UInt64) (basisPoints : UInt16) : Bool :=
  let scaledArgument := argument.toNat * 10000 % 2 ^ 128
  let scaledBasis := basis.toNat * basisPoints.toNat % 2 ^ 128
  scaledArgument ≤ scaledBasis

structure SubmitPlan where
  accountScope : Bool
  accountRead : Bool
  deniedReads : UInt8
  preEntry : Bool
  relativeCeiling : Bool
  basisPoints : UInt16
  deriving DecidableEq

inductive Phase where
  | start
  | clock
  | verify
  | admission
  | scope
  | prepare
  | claim
  | reload
  | lease
  | prefixGuard
  | account
  | denied (index : UInt8)
  | preEntry
  | ceiling
  | checkpoint
  | entryReload
  | deadline
  | grant
  | send
  | recordResponse
  | recordUnknown
  | recordNotEntered
  | done
  deriving DecidableEq

structure SubmitState where
  plan : SubmitPlan
  phase : Phase
  argument : UInt64
  deriving DecidableEq

inductive Verification where
  | refused
  | authorized (argument : UInt64)
  deriving DecidableEq

inductive ClaimResult where
  | reserved
  | refused
  | replay
  | unavailable
  deriving DecidableEq

inductive AccountResult where
  | equal
  | mismatch
  | unavailable
  deriving DecidableEq

inductive DeniedResult where
  | refused
  | answered
  | unavailable
  deriving DecidableEq

inductive PreEntryResult where
  | satisfied
  | conditionFalse
  | unavailable
  deriving DecidableEq

inductive CeilingRead where
  | unavailable
  | read (basis : UInt64) (bindsEqual : Bool)
  deriving DecidableEq

inductive WriteResult where
  | unknown
  | response
  deriving DecidableEq

inductive ResponseRecord where
  | failed
  | recorded
  deriving DecidableEq

/-- The result of the action the previous decision named. -/
inductive SubmitEvent where
  | start
  | clock (read : Bool)
  | verification (result : Verification)
  | admission (admitted : Bool)
  | scope (bound : Bool)
  | preparation (prepared : Bool)
  | claim (result : ClaimResult)
  | reload (unchanged : Bool)
  | lease (leased : Bool)
  | prefixGuard (allowed : Bool)
  | account (result : AccountResult)
  | denied (result : DeniedResult)
  | preEntry (result : PreEntryResult)
  | ceiling (read : CeilingRead)
  | recorded (recorded : Bool)
  | deadline (within : Bool)
  | granted (granted : Bool)
  | write (result : WriteResult)
  | response (record : ResponseRecord)
  deriving DecidableEq

inductive Refusal where
  | connectionChanged
  | credentialUnavailable
  | modeGuard
  | accountMismatch
  | accountUnavailable
  | capabilityExcess
  | capabilityUnavailable
  | preEntryConditionFalse
  | preEntryUnavailable
  | ceilingAbove
  | ceilingBindingMismatch
  | ceilingUnavailable
  | entryDeadline
  | transportNotEntered
  deriving DecidableEq

inductive Stop where
  | refused
  | storeUnavailable
  | claimRefused
  | notEntered
  | unknown
  | response
  | stored
  | grantUnavailable
  | halted
  deriving DecidableEq

inductive SubmitAction where
  | readClock
  | verify
  | admission
  | bindScope
  | prepare
  | claim
  | reload
  | lease
  | checkPrefix
  | readAccount
  | deniedRead (index : UInt8)
  | preEntryRead
  | ceilingRead
  | recordCheckpoint
  | reloadBeforeEntry
  | checkDeadline
  | grantEntry
  | send
  | recordResponse
  | recordUnknown
  | recordNotEntered (refusal : Refusal)
  | stop (stop : Stop)
  deriving DecidableEq

structure SubmitDecision where
  state : SubmitState
  action : SubmitAction
  deriving DecidableEq

def start (plan : SubmitPlan) : SubmitState := ⟨plan, .start, 0⟩

def go (state : SubmitState) (phase : Phase) (action : SubmitAction) : SubmitDecision :=
  ⟨⟨state.plan, phase, state.argument⟩, action⟩

def stop (state : SubmitState) (stop : Stop) : SubmitDecision := go state .done (.stop stop)

def halt (state : SubmitState) : SubmitDecision := stop state .halted

def notEntered (state : SubmitState) (refusal : Refusal) : SubmitDecision :=
  go state .recordNotEntered (.recordNotEntered refusal)

def afterReads (state : SubmitState) : SubmitDecision :=
  if state.plan.preEntry || state.plan.relativeCeiling then
    go state .checkpoint .recordCheckpoint
  else go state .entryReload .reloadBeforeEntry

def ceilingFrom (state : SubmitState) : SubmitDecision :=
  if state.plan.relativeCeiling then go state .ceiling .ceilingRead else afterReads state

def preEntryFrom (state : SubmitState) : SubmitDecision :=
  if state.plan.preEntry then go state .preEntry .preEntryRead else ceilingFrom state

def deniedFrom (state : SubmitState) (index : UInt8) : SubmitDecision :=
  if index < state.plan.deniedReads then go state (.denied index) (.deniedRead index)
  else preEntryFrom state

def afterPrefix (state : SubmitState) : SubmitDecision :=
  if state.plan.accountRead then go state .account .readAccount else deniedFrom state 0

def afterAdmission (state : SubmitState) : SubmitDecision :=
  if state.plan.accountScope then go state .scope .bindScope else go state .prepare .prepare

def preClaim (state : SubmitState) (passed : Bool) (next : SubmitDecision) : SubmitDecision :=
  if passed then next else stop state .refused

def afterClaim (state : SubmitState) : ClaimResult → SubmitDecision
  | .reserved => go state .reload .reload
  | .refused => stop state .claimRefused
  | .replay => stop state .stored
  | .unavailable => stop state .storeUnavailable

def afterAccount (state : SubmitState) : AccountResult → SubmitDecision
  | .equal => deniedFrom state 0
  | .mismatch => notEntered state .accountMismatch
  | .unavailable => notEntered state .accountUnavailable

def afterDenied (state : SubmitState) (index : UInt8) : DeniedResult → SubmitDecision
  | .refused => if index < state.plan.deniedReads then deniedFrom state (index + 1) else halt state
  | .answered => notEntered state .capabilityExcess
  | .unavailable => notEntered state .capabilityUnavailable

def afterPreEntry (state : SubmitState) : PreEntryResult → SubmitDecision
  | .satisfied => ceilingFrom state
  | .conditionFalse => notEntered state .preEntryConditionFalse
  | .unavailable => notEntered state .preEntryUnavailable

def afterCeiling (state : SubmitState) : CeilingRead → SubmitDecision
  | .unavailable => notEntered state .ceilingUnavailable
  | .read basis bindsEqual =>
    if !bindsEqual then notEntered state .ceilingBindingMismatch
    else if relativeCeilingAdmits state.argument basis state.plan.basisPoints then afterReads state
    else notEntered state .ceilingAbove

def afterWrite (state : SubmitState) : WriteResult → SubmitDecision
  | .unknown => go state .recordUnknown .recordUnknown
  | .response => go state .recordResponse .recordResponse

def afterResponse (state : SubmitState) : ResponseRecord → SubmitDecision
  | .failed => stop state .unknown
  | .recorded => stop state .response

def preClaimStep (state : SubmitState) (event : SubmitEvent) : SubmitDecision :=
  match state.phase with
  | .start => match event with
    | .start => go state .clock .readClock
    | _ => halt state
  | .clock => match event with
    | .clock read => preClaim state read (go state .verify .verify)
    | _ => halt state
  | .verify => match event with
    | .verification .refused => stop state .refused
    | .verification (.authorized argument) => ⟨⟨state.plan, .admission, argument⟩, .admission⟩
    | _ => halt state
  | .admission => match event with
    | .admission admitted => preClaim state admitted (afterAdmission state)
    | _ => halt state
  | .scope => match event with
    | .scope bound => preClaim state bound (go state .prepare .prepare)
    | _ => halt state
  | .prepare => match event with
    | .preparation prepared => preClaim state prepared (go state .claim .claim)
    | _ => halt state
  | .claim => match event with
    | .claim result => afterClaim state result
    | _ => halt state
  | _ => halt state

def leaseStep (state : SubmitState) (event : SubmitEvent) : SubmitDecision :=
  match state.phase with
  | .reload => match event with
    | .reload unchanged =>
      if unchanged then go state .lease .lease else notEntered state .connectionChanged
    | _ => halt state
  | .lease => match event with
    | .lease leased =>
      if leased then go state .prefixGuard .checkPrefix else notEntered state .credentialUnavailable
    | _ => halt state
  | .prefixGuard => match event with
    | .prefixGuard allowed => if allowed then afterPrefix state else notEntered state .modeGuard
    | _ => halt state
  | .account => match event with
    | .account result => afterAccount state result
    | _ => halt state
  | .denied index => match event with
    | .denied result => afterDenied state index result
    | _ => halt state
  | _ => halt state

def entryStep (state : SubmitState) (event : SubmitEvent) : SubmitDecision :=
  match state.phase with
  | .preEntry => match event with
    | .preEntry result => afterPreEntry state result
    | _ => halt state
  | .ceiling => match event with
    | .ceiling read => afterCeiling state read
    | _ => halt state
  | .checkpoint => match event with
    | .recorded recorded =>
      if recorded then go state .entryReload .reloadBeforeEntry else stop state .unknown
    | _ => halt state
  | .entryReload => match event with
    | .reload unchanged =>
      if unchanged then go state .deadline .checkDeadline else notEntered state .connectionChanged
    | _ => halt state
  | .deadline => match event with
    | .deadline within =>
      if within then go state .grant .grantEntry else notEntered state .entryDeadline
    | _ => halt state
  | .grant => match event with
    | .granted true => go state .send .send
    | .granted false => stop state .grantUnavailable
    | _ => halt state
  | .send => match event with
    | .write result => afterWrite state result
    | _ => halt state
  | .recordResponse => match event with
    | .response record => afterResponse state record
    | _ => halt state
  | .recordUnknown => match event with
    | .recorded _ => stop state .unknown
    | _ => halt state
  | .recordNotEntered => match event with
    | .recorded recorded => if recorded then stop state .notEntered else stop state .unknown
    | _ => halt state
  | _ => halt state

def nextStep (state : SubmitState) (event : SubmitEvent) : SubmitDecision :=
  match state.phase with
  | .start | .clock | .verify | .admission | .scope | .prepare | .claim => preClaimStep state event
  | .reload | .lease | .prefixGuard | .account | .denied _ => leaseStep state event
  | .preEntry | .ceiling | .checkpoint | .entryReload | .deadline | .grant | .send
  | .recordResponse | .recordUnknown | .recordNotEntered => entryStep state event
  | .done => halt state

/-- The decisions a sequence of events is answered with. -/
def decisions (state : SubmitState) : List SubmitEvent → List SubmitDecision
  | [] => []
  | event :: events => nextStep state event :: decisions (nextStep state event).state events

/-- The state after a sequence of events. -/
def after (state : SubmitState) (events : List SubmitEvent) : SubmitState :=
  events.foldl (fun state event => (nextStep state event).state) state

end AuthsProof.Gateway
