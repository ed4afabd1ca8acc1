import NazoAuthCtl.JournalCompaction
import NazoAuthCtl.TargetWorld

/-!
# Dispatch of control operations on the controlling side

One slot per instance holds the operation that was prepared last. A command is
signed only into an empty slot, and a command that maps to the stored request
hash resumes the stored operation with its original JWS. What the target
answered becomes a verdict, and the verdict a settlement of the slot. Timestamps
and key material are left out.
-/

set_option autoImplicit false
set_option linter.all false

namespace NazoAuthCtl.ControlDispatch

open TargetState JournalCompaction
open TargetWorld (ControlOutcome)

/-- The fields of a payload or of result data are kept in their encoding. -/
inductive ControlOperationPayload where
  | migrateApply
  | keysList
  | keysValidate
  | keysGenerateLocal (fields : Bytes)
  | keysRegisterExternal (fields : Bytes)
  | tenantKeysGenerateLocal (fields : Bytes)
  | tenantResourceApply (fields : Bytes)
  | tenantResourceEnumerate (fields : Bytes)
  | tenantResourceRevoke (fields : Bytes)
  | recoveryInvalidate (fields : Bytes)
  | tenantDirectoryCreate (fields : Bytes)
  | tenantDirectoryUpdate (fields : Bytes)
  | tenantDirectoryDisable (fields : Bytes)
  | tenantDirectoryReload (fields : Bytes)
  | tenantDirectoryFinalize (fields : Bytes)
  | tenantDirectoryDescribe
  deriving DecidableEq, Repr

inductive ControlResultData where
  | migrationApplied (unchanged : Bool)
  | tenantKeyGenerated (fields : Bytes)
  | tenantResourceApply (fields : Bytes)
  | tenantResourceEnumerate (fields : Bytes)
  | tenantResourceRevoke (fields : Bytes)
  | recoveryInvalidation (fields : Bytes)
  | tenantDirectoryMutation (fields : Bytes)
  | tenantDirectoryDescribe (fields : Bytes)
  deriving DecidableEq, Repr

structure ControlResult where
  operationId : OperationId
  requestHash : Digest
  outcome : ControlOutcome
  result : Option ControlResultData
  deriving DecidableEq, Repr

structure ControlOperation where
  operationId : OperationId
  kid : String
  deploymentId : DeploymentId
  configRevision : String
  operation : ControlOperationPayload
  deriving DecidableEq, Repr

structure ControlOperationInput where
  operation : ControlOperationPayload
  configRevision : String
  deriving DecidableEq, Repr

structure SignedControlOperation where
  operation : ControlOperation
  compactJws : String
  requestHash : Digest
  deriving DecidableEq, Repr

inductive JournalState where
  | dispatched
  | accepted
  deriving DecidableEq, Repr

structure OperationJournalEntry where
  operationId : OperationId
  requestHash : Digest
  kid : String
  compactJws : String
  state : JournalState
  deriving DecidableEq, Repr

def OperationJournalEntry.hasSameIdentity (entry other : OperationJournalEntry) : Bool :=
  entry.operationId = other.operationId && entry.requestHash = other.requestHash
    && entry.kid = other.kid && entry.compactJws = other.compactJws

/-- The shared operator protocol, and what the journal asks of an entry. -/
structure OperatorProtocol where
  /-- `canonical_control_operation_bytes`. -/
  canonical : ControlOperation → Except String Bytes
  /-- `control_operation_request_hash`. -/
  requestHash : Bytes → Digest
  /-- `sign_control_operation` with the key the operation names. -/
  sign : ControlOperation → Except String (String × Digest)
  /-- The unpadded URL-safe base64 decoding. -/
  decodeSegment : String → Option Bytes
  /-- `validate_control_result`. -/
  validateResult : ControlResult → Except String Unit
  /-- `validate_entry`, which reads the identity of the entry only. -/
  conforms : (operationId : OperationId) → Digest → (kid : String) → (compactJws : String) → Bool

inductive AttemptKind where
  | fresh
  | resumed
  deriving DecidableEq, Repr

structure PreparedOperation where
  signed : SignedControlOperation
  kind : AttemptKind
  deriving DecidableEq, Repr

def PreparedOperation.journalEntry (prepared : PreparedOperation) : OperationJournalEntry where
  operationId := prepared.signed.operation.operationId
  requestHash := prepared.signed.requestHash
  kid := prepared.signed.operation.kid
  compactJws := prepared.signed.compactJws
  state := .dispatched

structure ControlOperationRequest where
  operationId : OperationId
  deploymentId : DeploymentId
  compactJws : String
  changeSet : Option Bytes
  deriving DecidableEq, Repr

def validateControlChangeSet (operation : ControlOperationPayload) (changeSet : Option Bytes) :
    Except String Unit :=
  let apply := match operation with
    | .tenantResourceApply _ => true
    | _ => false
  match apply, changeSet with
  | true, none => .error "tenant-resource Apply requires change-set material"
  | false, some _ => .error "only tenant-resource Apply accepts change-set material"
  | _, _ => .ok ()

def PreparedOperation.request (prepared : PreparedOperation) (changeSet : Option Bytes) :
    Except String ControlOperationRequest := do
  validateControlChangeSet prepared.signed.operation.operation changeSet
  pure {
    operationId := prepared.signed.operation.operationId
    deploymentId := prepared.signed.operation.deploymentId
    compactJws := prepared.signed.compactJws
    changeSet }

/-! ## The operation journal -/

section journal

variable (protocol : OperatorProtocol)

/-- The file of one instance: absent, or one entry. -/
abbrev Slot := Option OperationJournalEntry

def validateEntry (entry : OperationJournalEntry) : Except String Unit :=
  if protocol.conforms entry.operationId entry.requestHash entry.kid entry.compactJws then .ok ()
  else .error "STATE_RESET_REQUIRED: operation journal entry does not conform"

def load (slot : Slot) : Except String Slot :=
  match slot with
  | none => .ok none
  | some entry => do
    validateEntry protocol entry
    pure (some entry)

def recordDispatched (entry : OperationJournalEntry) (slot : Slot) : Except String Slot := do
  validateEntry protocol entry
  if entry.state ≠ .dispatched then
    .error "a fresh journal entry must start in the dispatched state"
  else match ← load protocol slot with
    | none => .ok (some entry)
    | some existing =>
      if existing.operationId = entry.operationId then
        if !existing.hasSameIdentity entry then
          .error (s!"operation '{existing.operationId}' is already journaled with different " ++
            "content or signing identity")
        else if existing.state ≠ .dispatched then
          .error (s!"operation '{existing.operationId}' is already journaled as accepted; " ++
            "refusing to rewind it to dispatched")
        else .ok slot
      else .error (s!"the operation journal already holds operation '{existing.operationId}'; " ++
        s!"a different operation '{entry.operationId}' may not overwrite it")

/-- The entry of the slot, if it is the one the caller observed. -/
def observed (expected : OperationJournalEntry) (slot : Slot) :
    Except String OperationJournalEntry := do
  match ← load protocol slot with
  | none => .error "the expected journaled operation is no longer present"
  | some entry =>
    if entry.hasSameIdentity expected then .ok entry
    else .error (s!"the operation journal changed while operation '{expected.operationId}' was " ++
      "settling")

def markAcceptedIfMatches (expected : OperationJournalEntry) (slot : Slot) :
    Except String Slot := do
  let entry ← observed protocol expected slot
  pure (some { entry with state := .accepted })

def clearIfMatches (expected : OperationJournalEntry) (slot : Slot) : Except String Slot := do
  let _ ← observed protocol expected slot
  pure none

end journal

/-! ## Preparation -/

section preparation

variable (protocol : OperatorProtocol) (deploymentId : DeploymentId)

def buildControlOperationWithIdAndKid (input : ControlOperationInput)
    (operationId : OperationId) (kid : String) : ControlOperation where
  operationId
  kid
  deploymentId
  configRevision := input.configRevision
  operation := input.operation

def buildSignedControlOperation (input : ControlOperationInput) (operationId : OperationId)
    (kid : String) : Except String SignedControlOperation := do
  let operation := buildControlOperationWithIdAndKid deploymentId input operationId kid
  let (compactJws, requestHash) ← protocol.sign operation
  pure { operation, compactJws, requestHash }

def journaledPayloadMatches (entry : OperationJournalEntry) (canonical : Bytes) :
    Except String Bool :=
  match (entry.compactJws.toList.splitOn '.')[1]? with
  | none => .error "journaled compact JWS has no payload segment"
  | some segment =>
    match protocol.decodeSegment (String.ofList segment) with
    | none => .error "journaled compact JWS has an invalid payload encoding"
    | some payload => .ok (payload = canonical)

def prepareEntryResume (entry : OperationJournalEntry) (input : ControlOperationInput) :
    Except String (Option PreparedOperation) := do
  let operation :=
    buildControlOperationWithIdAndKid deploymentId input entry.operationId entry.kid
  let canonical ← protocol.canonical operation
  let requestHash := protocol.requestHash canonical
  if requestHash ≠ entry.requestHash then pure none
  else if ← journaledPayloadMatches protocol entry canonical then
    pure (some ⟨⟨operation, entry.compactJws, requestHash⟩, .resumed⟩)
  else .error ("journaled compact JWS payload does not match the stored operation identity; " ++
    "refusing to replay it")

end preparation

/-! ## What the target answered -/

section verdict

variable (protocol : OperatorProtocol)

structure ControlOperationReceipt where
  operationId : OperationId
  accepted : Bool
  result : Option ControlResult
  rejectionCode : Option String
  deriving DecidableEq, Repr

/-- The completions a target answers with, as far as a receipt tells them apart. -/
inductive Completion where
  | controlOperationExecuted (result : ControlResult)
  | backupRecoveryCandidateControlExecuted (result : ControlResult)
  | unrelated (body : Bytes)
  deriving DecidableEq, Repr

def acceptedControlOperationReceipt (requestOperationId : OperationId) (result : ControlResult) :
    Except String ControlOperationReceipt :=
  match protocol.validateResult result with
  | .error error => .error
      s!"OPERATION_INVALID: target returned an invalid ControlResult: {error}"
  | .ok () =>
    if result.operationId ≠ requestOperationId then .error
      (s!"OPERATION_INVALID: the target answered operation '{result.operationId}' while " ++
        s!"'{requestOperationId}' was presented")
    else .ok ⟨requestOperationId, true, some result, none⟩

/-- The refusals that prove an operation was not accepted. -/
def definitiveRefusals : List String :=
  ["INPUT_INVALID", "CONTROLLER_KEY_UNAUTHORIZED", "TARGET_IDENTITY_MISMATCH",
    "CONFIG_REVISION_MISMATCH", "OPERATION_ID_CONFLICT"]

def controlOperationReceipt (requestOperationId : OperationId) :
    HostOutcome Completion → Except String ControlOperationReceipt
  | .completed (.other (.controlOperationExecuted result))
  | .completed (.other (.backupRecoveryCandidateControlExecuted result)) =>
    acceptedControlOperationReceipt protocol requestOperationId result
  | .completed _ => .error
      ("OPERATION_INVALID: the target answered an unexpected completion instead of a " ++
        "ControlOperation result")
  | .failed code detail =>
    if code ∈ definitiveRefusals then .ok ⟨requestOperationId, false, none, some code⟩
    else .error s!"{code}: {detail}"

inductive DispatchVerdict where
  | definitivelyRejected (code : String)
  | outcomeUnknown
  | inProgressAccepted
  | terminal (result : ControlResult)
  deriving DecidableEq, Repr

/-- The result data a succeeded operation may carry. -/
def matchesContract : ControlOperationPayload → Option ControlResultData → Bool
  | .migrateApply, none
  | .migrateApply, some (.migrationApplied _)
  | .keysList, none
  | .keysValidate, none
  | .keysGenerateLocal _, none
  | .keysRegisterExternal _, none
  | .tenantKeysGenerateLocal _, some (.tenantKeyGenerated _)
  | .tenantResourceApply _, some (.tenantResourceApply _)
  | .tenantResourceEnumerate _, some (.tenantResourceEnumerate _)
  | .tenantResourceRevoke _, some (.tenantResourceRevoke _)
  | .recoveryInvalidate _, some (.recoveryInvalidation _)
  | .tenantDirectoryCreate _, some (.tenantDirectoryMutation _)
  | .tenantDirectoryUpdate _, some (.tenantDirectoryMutation _)
  | .tenantDirectoryDisable _, some (.tenantDirectoryMutation _)
  | .tenantDirectoryReload _, some (.tenantDirectoryMutation _)
  | .tenantDirectoryFinalize _, some (.tenantDirectoryMutation _)
  | .tenantDirectoryDescribe, some (.tenantDirectoryDescribe _) => true
  | _, _ => false

def validateResultContract (operation : ControlOperationPayload) (result : ControlResult) :
    Except String Unit :=
  if result.outcome ≠ .succeeded then .ok ()
  else if matchesContract operation result.result then .ok ()
  else .error "ControlResult data does not match the prepared operation contract"

def validateControlResultBinding (expectedOperationId : OperationId)
    (expectedRequestHash : Digest) (expectedPayload : ControlOperationPayload)
    (result : ControlResult) : Except String Unit :=
  match protocol.validateResult result with
  | .error error => .error s!"target returned an invalid ControlResult: {error}"
  | .ok () =>
    if result.operationId ≠ expectedOperationId then .error
      (s!"ControlResult operation id '{result.operationId}' does not match prepared operation " ++
        s!"'{expectedOperationId}'")
    else if result.requestHash ≠ expectedRequestHash then .error
      s!"ControlResult request hash does not match prepared operation '{expectedOperationId}'"
    else validateResultContract expectedPayload result

def validateResultBinding (prepared : PreparedOperation) (result : ControlResult) :
    Except String Unit :=
  validateControlResultBinding protocol prepared.signed.operation.operationId
    prepared.signed.requestHash prepared.signed.operation.operation result

def classifyReceipt (prepared : PreparedOperation) (receipt : ControlOperationReceipt) :
    Except String DispatchVerdict :=
  if receipt.operationId ≠ prepared.signed.operation.operationId then .error
    (s!"target echoed operation id '{receipt.operationId}' for request " ++
      s!"'{prepared.signed.operation.operationId}'; refusing to interpret the result")
  else if !receipt.accepted then
    if receipt.result.isSome then
      .error "a definitively rejected operation must not carry a ControlResult"
    else match receipt.rejectionCode with
      | none => .error "a definitively rejected operation must carry a stable rejection code"
      | some code => .ok (.definitivelyRejected code)
  else match receipt.result with
    | none => .error "an accepted operation receipt must carry its durable ControlResult"
    | some result => do
      validateResultBinding protocol prepared result
      pure (match result.outcome with
        | .inProgress => .inProgressAccepted
        | .succeeded | .failed => .terminal result)

end verdict

/-! ## The settlement -/

/-- The steps of a settlement. Each takes the lock of the journal for itself. -/
inductive SettleStep where
  | markAccepted
  | persist (result : ControlResult)
  | clear
  deriving DecidableEq, Repr

section settlement

variable (protocol : OperatorProtocol)

/-- The steps `settle_journal` takes for a verdict, up to the first that fails. -/
def settlement (prepared : PreparedOperation) : DispatchVerdict → Except String (List SettleStep)
  | .definitivelyRejected code =>
    if code = "OPERATION_ID_CONFLICT" then .ok [] else .ok [.clear]
  | .outcomeUnknown => .ok []
  | .inProgressAccepted => .ok [.markAccepted]
  | .terminal result => do
    validateResultBinding protocol prepared result
    pure [.markAccepted, .persist result, .clear]

variable (persistTerminal : ControlResult → Except String Unit)

def settleStep (expected : OperationJournalEntry) (slot : Slot) :
    SettleStep → Except String Slot
  | .markAccepted => markAcceptedIfMatches protocol expected slot
  | .persist result =>
    match persistTerminal result with
    | .ok () => .ok slot
    | .error _ => .error
        s!"failed to persist terminal result for operation '{expected.operationId}'"
  | .clear => clearIfMatches protocol expected slot

def settleSteps (expected : OperationJournalEntry) :
    List SettleStep → Slot → Except String Unit × Slot
  | [], slot => (.ok (), slot)
  | step :: steps, slot =>
    match settleStep protocol persistTerminal expected slot step with
    | .error error => (.error error, slot)
    | .ok slot' => settleSteps expected steps slot'

def settleJournal (prepared : PreparedOperation) (verdict : DispatchVerdict) (slot : Slot) :
    Except String Unit × Slot :=
  match settlement protocol prepared verdict with
  | .error error => (.error error, slot)
  | .ok steps => settleSteps protocol persistTerminal prepared.journalEntry steps slot

end settlement

/-! ## What the operations can do -/

section specifications

variable {protocol : OperatorProtocol}

theorem hasSameIdentity_iff {entry other : OperationJournalEntry} :
    entry.hasSameIdentity other = true ↔ entry.operationId = other.operationId ∧
      entry.requestHash = other.requestHash ∧ entry.kid = other.kid ∧
      entry.compactJws = other.compactJws := by
  simp [OperationJournalEntry.hasSameIdentity, and_assoc]

theorem load_ok {slot loaded : Slot} (h : load protocol slot = .ok loaded) : loaded = slot := by
  cases slot with
  | none =>
    cases h
    rfl
  | some entry =>
    unfold load at h
    cases valid : validateEntry protocol entry with
    | error error => simp [valid, bind, Except.bind] at h
    | ok checked =>
      simp only [valid, bind, Except.bind, pure, Except.pure, Except.ok.injEq] at h
      exact h.symm

/-- A successful recording fills an empty slot, or finds the operation in it. -/
theorem recordDispatched_ok {entry : OperationJournalEntry} {slot slot' : Slot}
    (h : recordDispatched protocol entry slot = .ok slot') :
    (slot = none ∧ slot' = some entry) ∨
      ∃ existing, slot = some existing ∧ slot' = slot ∧
        existing.hasSameIdentity entry = true := by
  unfold recordDispatched at h
  cases valid : validateEntry protocol entry with
  | error error => simp [valid, bind, Except.bind] at h
  | ok checked =>
    simp only [valid, bind, Except.bind] at h
    split at h
    · cases h
    cases loads : load protocol slot with
    | error error => simp [loads] at h
    | ok loaded =>
      obtain rfl := load_ok loads
      cases loaded with
      | none =>
        simp only [loads, Except.ok.injEq] at h
        exact .inl ⟨rfl, h.symm⟩
      | some existing =>
        simp only [loads] at h
        split_ifs at h with _ differs
        cases h
        exact .inr ⟨existing, rfl, rfl, by simpa using differs⟩

theorem observed_ok {expected entry : OperationJournalEntry} {slot : Slot}
    (h : observed protocol expected slot = .ok entry) :
    slot = some entry ∧ entry.hasSameIdentity expected = true := by
  unfold observed at h
  cases loads : load protocol slot with
  | error error => simp [loads, bind, Except.bind] at h
  | ok loaded =>
    obtain rfl := load_ok loads
    cases loaded with
    | none => simp [loads, bind, Except.bind] at h
    | some found =>
      simp only [loads, bind, Except.bind] at h
      split_ifs at h with same
      cases h
      exact ⟨rfl, same⟩

/-- A step of a settlement leaves the slot alone, or has found its own operation there. -/
theorem settleStep_ok {persistTerminal : ControlResult → Except String Unit}
    {expected : OperationJournalEntry} {slot slot' : Slot} {step : SettleStep}
    (h : settleStep protocol persistTerminal expected slot step = .ok slot') :
    ((∃ result, step = .persist result) ∧ slot' = slot) ∨
      ∃ entry, slot = some entry ∧ entry.hasSameIdentity expected = true ∧
        ((step = .markAccepted ∧ slot' = some { entry with state := .accepted }) ∨
          (step = .clear ∧ slot' = none)) := by
  cases step with
  | persist result =>
    unfold settleStep at h
    cases persists : persistTerminal result with
    | error error => simp [persists] at h
    | ok done =>
      simp only [persists, Except.ok.injEq] at h
      exact .inl ⟨⟨result, rfl⟩, h.symm⟩
  | markAccepted =>
    simp only [settleStep, markAcceptedIfMatches, bind, Except.bind, pure, Except.pure] at h
    cases found : observed protocol expected slot with
    | error error => simp [found] at h
    | ok entry =>
      simp only [found, Except.ok.injEq] at h
      obtain ⟨held, same⟩ := observed_ok found
      exact .inr ⟨entry, held, same, .inl ⟨rfl, h.symm⟩⟩
  | clear =>
    simp only [settleStep, clearIfMatches, bind, Except.bind, pure, Except.pure] at h
    cases found : observed protocol expected slot with
    | error error => simp [found] at h
    | ok entry =>
      simp only [found, Except.ok.injEq] at h
      obtain ⟨held, same⟩ := observed_ok found
      exact .inr ⟨entry, held, same, .inr ⟨rfl, h.symm⟩⟩

/-- A resumed operation is the journaled one. -/
theorem prepareEntryResume_some {deploymentId : DeploymentId} {entry : OperationJournalEntry}
    {input : ControlOperationInput} {prepared : PreparedOperation}
    (h : prepareEntryResume protocol deploymentId entry input = .ok (some prepared)) :
    entry.hasSameIdentity prepared.journalEntry = true := by
  unfold prepareEntryResume at h
  cases encoded : protocol.canonical
      (buildControlOperationWithIdAndKid deploymentId input entry.operationId entry.kid) with
  | error error => simp [encoded, bind, Except.bind] at h
  | ok canonical =>
    simp only [encoded, bind, Except.bind, pure, Except.pure] at h
    split at h
    · cases h
    rename_i same
    cases payload : journaledPayloadMatches protocol entry canonical with
    | error error => simp [payload] at h
    | ok agrees =>
      simp only [payload] at h
      split_ifs at h
      cases h
      exact hasSameIdentity_iff.mpr ⟨rfl, (not_not.mp same).symm, rfl, rfl⟩

theorem classifyReceipt_terminal {prepared : PreparedOperation}
    {receipt : ControlOperationReceipt} {result : ControlResult}
    (h : classifyReceipt protocol prepared receipt = .ok (.terminal result)) :
    result.outcome ≠ .inProgress ∧ validateResultBinding protocol prepared result = .ok () := by
  unfold classifyReceipt at h
  split_ifs at h
  · cases code : receipt.rejectionCode <;> simp [code] at h
  cases answered : receipt.result with
  | none => simp [answered] at h
  | some found =>
    simp only [answered, bind, Except.bind, pure, Except.pure] at h
    cases bound : validateResultBinding protocol prepared found with
    | error error => simp [bound] at h
    | ok checked =>
      cases outcome : found.outcome with
      | inProgress => simp [bound, outcome] at h
      | succeeded | failed =>
        simp only [bound, outcome, Except.ok.injEq, DispatchVerdict.terminal.injEq] at h
        subst h
        exact ⟨by simp [outcome], bound⟩

end specifications


/-- A protocol whose payload segment spells the operation id in unary. -/
def operatorProtocol : OperatorProtocol where
  canonical operation := .ok [UInt8.ofNat operation.operationId]
  requestHash bytes := bytes.foldl (fun digest byte => 257 * digest + byte.toNat + 1) 0
  sign operation := .ok
    (String.ofList (['h', '.'] ++ List.replicate operation.operationId 'p' ++ ['.', 's']),
      operation.operationId + 1)
  decodeSegment segment := some [UInt8.ofNat segment.length]
  validateResult _ := .ok ()
  conforms _ _ _ _ := true

end NazoAuthCtl.ControlDispatch
