import NazoAuthCtl.OidfGuard

/-!
# Control operations of a conformance run

The controller's journal holds one operation. An operation is recorded, sent, bound to the
target's answer and handed to the recovery journal before its entry is cleared. The
temporary tenant is set up and removed through such operations.
-/

set_option autoImplicit false
set_option linter.all false

namespace NazoAuthCtl.OidfSession

open FaultProgram OidfJournal OidfGuard

structure ConformanceSession where
  deploymentId : String
  configRevision : String
  kid : String
  deriving DecidableEq, Repr

/-! ## One operation -/

structure ConformanceControlCompletion where
  identity : PendingOperation
  result : ControlResult
  deriving DecidableEq, Repr

/-- `control_operation`. -/
def controlOperation (completion : ConformanceControlCompletion) :
    TenantResourceControlOperation where
  operationId := completion.identity.operationId
  requestHash := completion.identity.requestHash
  controllerKid := completion.identity.kid
  result := completion.result

/-- `match_pending_control_operation`. -/
def matchesPending (library : Library) (session : ConformanceSession) (entry : PendingOperation)
    (payload : ControlOperationPayload) : Prop :=
  library.requestHash entry.operationId entry.kid session.configRevision payload =
    entry.requestHash

instance (library : Library) (session : ConformanceSession) (entry : PendingOperation)
    (payload : ControlOperationPayload) :
    Decidable (matchesPending library session entry payload) :=
  inferInstanceAs (Decidable (_ = _))

/-- `validate_result_contract`, for a successful result. -/
def matchesContract : ControlOperationPayload → ControlResultData → Bool
  | .tenantKeysGenerateLocal _ _ _, .tenantKeyGenerated _ _ => true
  | .tenantResourceApply _ _, .tenantResourceApply _ _ _ _ => true
  | .tenantResourceEnumerate _ _, .tenantResourceEnumerate _ _ _ => true
  | .tenantResourceRevoke _ _, .tenantResourceRevoke _ _ _ => true
  | .tenantDirectoryCreate _ _, .tenantDirectoryMutation _ _ _ => true
  | .tenantDirectoryDisable _ _, .tenantDirectoryMutation _ _ _ => true
  | .tenantDirectoryReload _ _, .tenantDirectoryMutation _ _ _ => true
  | .tenantDirectoryFinalize _ _, .tenantDirectoryMutation _ _ _ => true
  | .tenantDirectoryDescribe, .tenantDirectoryDescribe _ _ => true
  | _, _ => false

/-- `validate_control_result_binding`. -/
def bindResult (library : Library) (entry : PendingOperation) (payload : ControlOperationPayload)
    (result : ControlResult) : Except String Unit := do
  (library.validateControlResult result).mapError
    ("target returned an invalid ControlResult: " ++ ·)
  Checks.check (result.operationId = entry.operationId)
    ("ControlResult operation id '" ++ result.operationId ++
      "' does not match prepared operation '" ++ entry.operationId ++ "'")
  Checks.check (result.requestHash = entry.requestHash)
    ("ControlResult request hash does not match prepared operation '" ++ entry.operationId ++ "'")
  Checks.check (result.outcome = .succeeded →
    result.result.any (matchesContract payload) = true)
    "ControlResult data does not match the prepared operation contract"

/-- The loaded entry of the controller's journal. -/
def pendingControlOperation : Recovering (Option PendingOperation) := do
  look ("failed to load the operation journal: " ++ ·)
  let w ← Program.get
  pure w.slot

/-- A fresh operation under the current key. -/
def sign (session : ConformanceSession) (payload : ControlOperationPayload) :
    Recovering PendingOperation := fun e w =>
  let operationId := e.operationId w.clock
  (.ok ⟨operationId,
    e.library.requestHash operationId session.kid session.configRevision payload, session.kid⟩,
    w.tick)

def recordDispatched (entry : PendingOperation) : Recovering Unit :=
  change ("failed to record the operation journal: " ++ ·) (World.putSlot (some entry))

def clearEntry : Recovering Unit :=
  change ("failed to clear the operation journal: " ++ ·) (World.putSlot none)

/-- The acceptance changes no part of the entry that is modelled. -/
def markAccepted : Recovering Unit :=
  change ("failed to mark the operation journal accepted: " ++ ·) id

def dispatchFresh (session : ConformanceSession) (payload : ControlOperationPayload) :
    Recovering PendingOperation := do
  let entry ← sign session payload
  recordDispatched entry
  pure entry

/-- `prepare_control_operation`. -/
def prepareControlOperation (session : ConformanceSession) (payload : ControlOperationPayload) :
    Recovering PendingOperation := do
  let journaled ← pendingControlOperation
  let library ← library
  match journaled with
  | some entry => do
    Program.require (matchesPending library session entry payload)
      ("the operation journal holds '" ++ entry.operationId ++
        "' with DIFFERENT content; refusing to sign a new operation")
    pure entry
  | none => dispatchFresh session payload

def ask : Recovering ControlAnswer := fun e w => (.ok (e.control w.clock), w.tick)

def accept (entry : PendingOperation) (payload : ControlOperationPayload) (result : ControlResult)
    (persist : ConformanceControlCompletion → Recovering Unit) :
    Recovering ConformanceControlCompletion := do
  markAccepted
  let library ← library
  Program.ofExcept (bindResult library entry payload result)
  Program.require (result.outcome ≠ .inProgress)
    ("the ControlOperation is durably in progress; its accepted journal entry was preserved " ++
      "for replay")
  persist ⟨entry, result⟩
  clearEntry
  pure ⟨entry, result⟩

def operationIdConflict : String := "OPERATION_ID_CONFLICT"

def refuse (code : String) : Recovering ConformanceControlCompletion := do
  Program.onlyIf (code ≠ operationIdConflict) clearEntry
  Program.throw ("the target rejected the ControlOperation before acceptance: " ++ code)

/-- `complete_control_operation`. -/
def completeControlOperation (entry : PendingOperation) (payload : ControlOperationPayload)
    (persist : ConformanceControlCompletion → Recovering Unit) :
    Recovering ConformanceControlCompletion := do
  let answer ← ask
  match answer with
  | .lost detail => Program.throw detail
  | .rejected code => refuse code
  | .accepted result => accept entry payload result persist

def executeControlOperation (session : ConformanceSession) (payload : ControlOperationPayload)
    (persist : ConformanceControlCompletion → Recovering Unit) :
    Recovering ConformanceControlCompletion := do
  let entry ← prepareControlOperation session payload
  completeControlOperation entry payload persist

/-- `resume_pending_control_operation`. -/
def resumePendingControlOperation (session : ConformanceSession) (expected : PendingOperation)
    (payload : ControlOperationPayload)
    (persist : ConformanceControlCompletion → Recovering Unit) :
    Recovering ConformanceControlCompletion := do
  let journaled ← pendingControlOperation
  let library ← library
  match journaled with
  | none => Program.throw "the pending ControlOperation changed before recovery dispatch"
  | some entry => do
    Program.require (entry = expected)
      ("the operation journal changed while operation '" ++ expected.operationId ++
        "' was being recovered")
    Program.require (matchesPending library session entry payload)
      "the pending ControlOperation changed before recovery dispatch"
    completeControlOperation entry payload persist

/-- `successful_control_completion`. -/
def successful (completion : ConformanceControlCompletion) (label : String) : Recovering Unit :=
  Program.require (completion.result.outcome ≠ .failed)
    (label ++ " ControlOperation failed durably: operation_id=" ++
      completion.identity.operationId ++ " request_hash=" ++ completion.identity.requestHash)

def persistNothing (_ : ConformanceControlCompletion) : Recovering Unit := pure ()

/-- A mark in the recovery journal that only a success makes. -/
def whenSucceeded (mutation : Mutation) (completion : ConformanceControlCompletion) :
    Recovering Unit :=
  Program.onlyIf (completion.result.outcome = .succeeded) (method mutation)

def persistPhase (phase : TenantResourceRecoveryPhase)
    (completion : ConformanceControlCompletion) : Recovering Unit :=
  method (recordTerminalCompletion phase (controlOperation completion))

/-! ## The directory -/

def directory (session : ConformanceSession) : Recovering (ℕ × List String) := do
  let completion ← executeControlOperation session .tenantDirectoryDescribe persistNothing
  successful completion "tenant directory Describe"
  match completion.result.result with
  | some (.tenantDirectoryDescribe revision tenants) => pure (revision, tenants)
  | _ => Program.throw "tenant directory Describe returned the wrong typed result"

def directoryRevision (session : ConformanceSession) : Recovering ℕ := do
  let described ← directory session
  pure described.1

def tenantDirectoryPresence (session : ConformanceSession) (tenantId : String) :
    Recovering (ℕ × Bool) := do
  let described ← directory session
  pure (described.1, decide (tenantId ∈ described.2))

/-! ## The removal of the tenant -/

/-- A recorded revision, or that of the directory, recorded before it is used. -/
def expectedRevision (session : ConformanceSession) (recorded : Option ℕ)
    (prepare : ℕ → Mutation) : Recovering ℕ :=
  match recorded with
  | some revision => pure revision
  | none => do
    let revision ← directoryRevision session
    method (prepare revision)
    pure revision

def resetIfFailed (completion : ConformanceControlCompletion) : Recovering Unit :=
  Program.onlyIf (completion.result.outcome = .failed)
    (method (resetFailedTenantCleanup completion.result))

def disableTenant (session : ConformanceSession) : Recovering Unit := do
  let w ← Program.get
  let revision ← expectedRevision session w.guard.journal.tenantDisableExpectedRevision
    prepareTenantDisable
  let completion ← executeControlOperation session
    (.tenantDirectoryDisable revision w.guard.journal.binding.tenantId)
    (whenSucceeded markTenantDisabled)
  resetIfFailed completion
  successful completion "temporary tenant Disable"

def finalizeTenant (session : ConformanceSession) : Recovering Unit := do
  let w ← Program.get
  let revision ← expectedRevision session w.guard.journal.tenantFinalizeExpectedRevision
    prepareTenantFinalize
  let completion ← executeControlOperation session
    (.tenantDirectoryFinalize revision w.guard.journal.binding.tenantId)
    (whenSucceeded markTenantCleanupComplete)
  resetIfFailed completion
  successful completion "temporary tenant Finalize"
  match completion.result.result with
  | some (.tenantDirectoryMutation action tenantId revision) => do
    Program.require (action = "finalize" ∧ tenantId = w.guard.journal.binding.tenantId)
      "temporary tenant Finalize returned another operation"
    method (markTenantAbsent revision)
  | _ => Program.throw "temporary tenant Finalize returned the wrong typed result"

def removeTenant (session : ConformanceSession) : Recovering Unit := do
  let w ← Program.get
  Program.onlyIf (w.guard.journal.tenantDisabled = false) (disableTenant session)
  finalizeTenant session

/-- `cleanup_ephemeral_tenant`. -/
def cleanupEphemeralTenant (session : ConformanceSession) : Recovering Unit := do
  let w ← Program.get
  Program.onlyIf (w.guard.journal.tenantCleanupComplete = false) (removeTenant session)

/-! ## The removal of the resources -/

def cleanupEnumeration (session : ConformanceSession) :
    Recovering TenantResourceControlOperation := do
  let w ← Program.get
  match w.guard.journal.cleanupEnumerate with
  | some operation => pure operation
  | none => do
    let completion ← executeControlOperation session
      (.tenantResourceEnumerate w.guard.journal.binding.tenantId [])
      (persistPhase .cleanupEnumerated)
    successful completion "cleanup Enumerate"
    pure (controlOperation completion)

def enumeratedResources (operation : TenantResourceControlOperation) :
    Except String (List TenantResourceIdentity) :=
  match operation.result.result with
  | some (.tenantResourceEnumerate _ resources _) => .ok resources
  | some _ => .error "cleanup Enumerate returned the wrong result"
  | none => .error "cleanup Enumerate omitted result"

def revokeResources (session : ConformanceSession) (tenantId : String)
    (present : List TenantResourceIdentity) : Recovering Unit := do
  let completion ← executeControlOperation session (.tenantResourceRevoke tenantId present)
    (persistPhase .cleanupRevoked)
  successful completion "cleanup Revoke"

def recordedOperations (journal : TenantResourceRecoveryJournal) :
    List TenantResourceControlOperation :=
  [journal.baselineEnumerate, journal.apply, journal.cleanupEnumerate,
    journal.cleanupRevoke].reduceOption

def requireTyped (operations : List TenantResourceControlOperation) : Recovering Unit :=
  Program.require (∀ operation ∈ operations, operation.result.result ≠ none)
    "persisted control operation omitted its typed result"

def cleanupAppliedResources (session : ConformanceSession) :
    Recovering (List TenantResourceControlOperation) := do
  let enumerate ← cleanupEnumeration session
  let resources ← Program.ofExcept (enumeratedResources enumerate)
  let w ← Program.get
  let present := presentResources w.guard.journal.binding resources
  Program.onlyIf (present ≠ [] ∧ w.guard.journal.cleanupRevoke = none)
    (revokeResources session w.guard.journal.binding.tenantId present)
  let w ← Program.get
  Program.require (tenantResourceObligationsComplete w.guard.journal = true)
    "ordinary cleanup obligations remain pending"
  requireTyped (recordedOperations w.guard.journal)
  cleanupEphemeralTenant session
  pure (recordedOperations w.guard.journal)

def cleanupTenantOnly (session : ConformanceSession) :
    Recovering (List TenantResourceControlOperation) := do
  cleanupEphemeralTenant session
  pure []

/-- `cleanup_run_resources`, with the operations that the evidence names. -/
def cleanupRunResources (session : ConformanceSession) :
    Recovering (List TenantResourceControlOperation) := do
  let w ← Program.get
  if w.guard.journal.tenantAbsenceRevision.isSome = true ∨ w.guard.journal.apply = none then
    cleanupTenantOnly session
  else cleanupAppliedResources session

/-! ## The removal of the Suite's resources -/

structure CleanupFailure where
  operation : String
  target : String
  error : String
  deriving DecidableEq, Repr

structure CleanupReport where
  cancelled : List String
  deletedPlans : List String
  immutablePlans : List String
  failures : List CleanupFailure
  deriving DecidableEq, Repr

def CleanupReport.initial : CleanupReport := ⟨[], [], [], []⟩

def CleanupReport.failed (report : CleanupReport) (operation target error : String) :
    CleanupReport :=
  { report with failures := report.failures ++ [⟨operation, target, error⟩] }

/-- What the observer is told of a deleted plan. -/
abbrev Release := String → Recovering Unit

def cancelOnce (moduleId : String) (report : CleanupReport) : Recovering CleanupReport :=
  fun e w =>
    match e.cancelModule w.clock with
    | none => (.ok { report with cancelled := report.cancelled ++ [moduleId] }, w.tick)
    | some error => (.ok (report.failed "cancel-module" moduleId error.text), w.tick)

def cancelAll : List String → CleanupReport → Recovering CleanupReport
  | [], report => pure report
  | moduleId :: rest, report => do
    let report ← cancelOnce moduleId report
    cancelAll rest report

def requestDelete : Recovering DeleteAnswer := fun e w => (.ok (e.deletePlan w.clock), w.tick)

def recordDeletedPlan (release : Option Release) (planId : String) (report : CleanupReport) :
    Recovering CleanupReport :=
  let deleted := { report with deletedPlans := report.deletedPlans ++ [planId] }
  match release with
  | none => pure deleted
  | some release => do
    let released ← Program.attempt (release planId)
    match released with
    | .ok _ => pure deleted
    | .error error => pure (deleted.failed "release-plan" planId error)

def recordImmutable (planId : String) (report : CleanupReport) : CleanupReport :=
  let immutablePlans := report.immutablePlans ++ [planId]
  CleanupReport.failed { report with immutablePlans } "delete-plan" planId
    "Suite retained an immutable plan without an authoritative cleanup receipt"

/-- A second attempt, after the modules are cancelled once more. -/
def retryDelete (moduleIds : List String) (release : Option Release) (planId : String)
    (firstError : SuiteClientError) (report : CleanupReport) : Recovering CleanupReport := do
  let report ← cancelAll moduleIds report
  let answer ← requestDelete
  match answer with
  | .deleted | .alreadyGone => recordDeletedPlan release planId report
  | .immutable => pure (recordImmutable planId report)
  | .failed retryError =>
    pure (report.failed "delete-plan" planId (firstError.text ++ "; retry: " ++ retryError.text))

def deleteOne (moduleIds : List String) (release : Option Release) (planId : String)
    (report : CleanupReport) : Recovering CleanupReport := do
  let answer ← requestDelete
  match answer with
  | .deleted | .alreadyGone => recordDeletedPlan release planId report
  | .immutable => pure (recordImmutable planId report)
  | .failed firstError => retryDelete moduleIds release planId firstError report

def deleteAll (moduleIds : List String) (release : Option Release) :
    List String → CleanupReport → Recovering CleanupReport
  | [], report => pure report
  | planId :: rest, report => do
    let report ← deleteOne moduleIds release planId report
    deleteAll moduleIds release rest report

/-- `cleanup_all`. -/
def cleanupAll (moduleIds planIds : List String) (release : Option Release)
    (report : CleanupReport) : Recovering CleanupReport := do
  let report ← cancelAll moduleIds report
  deleteAll moduleIds release planIds report

def terminalStatus (status : String) : Prop := status = "FINISHED" ∨ status = "INTERRUPTED"

instance (status : String) : Decidable (terminalStatus status) :=
  inferInstanceAs (Decidable (_ ∨ _))

def requestInfo : Recovering InfoAnswer := fun e w => (.ok (e.moduleInfo w.clock), w.tick)

def refuseCancel (moduleId reason : String) : Recovering Bool :=
  Program.throw ("Suite recovery refused to cancel module " ++ moduleId ++ ": " ++ reason)

/-- Whether a recorded module is to be cancelled. -/
def cancellable (moduleId : String) : Recovering Bool := do
  let answer ← requestInfo
  match answer with
  | .state (some status) => pure (decide ¬terminalStatus status)
  | .state none => refuseCancel moduleId "current Suite state is missing"
  | .failed error =>
    if error = .httpStatus 404 then pure false
    else refuseCancel moduleId ("cannot read current Suite state: " ++ error.text)

def cancellableModules : List String → Recovering (List String)
  | [] => pure []
  | moduleId :: rest => do
    let cancels ← cancellable moduleId
    let others ← cancellableModules rest
    pure (if cancels = true then moduleId :: others else others)

/-- `recover_suite_resources`. -/
def recoverSuiteResources (origin : String) (suite : SuiteRecoveryState) : Recovering Unit := do
  Program.require (origin = suite.origin)
    "Suite recovery origin does not match the authenticated client"
  Program.require (suite.pendingCreateIntents = [])
    ("Suite recovery has " ++ toString suite.pendingCreateIntents.length ++
      " unknown create allocation(s); the Suite API cannot safely reconcile them")
  let moduleIds ← cancellableModules suite.moduleIds
  let report ← cleanupAll moduleIds suite.planIds none .initial
  Program.require (report.failures = [])
    ("Suite recovery cleanup failed for " ++ toString report.failures.length ++ " resource(s)")

/-- `cleanup_unretained_suite`. -/
def cleanupUnretainedSuite (origin : String) : Recovering Unit := do
  let w ← Program.get
  if suiteResourcesSettled w.guard.journal = true then pure ()
  else
    discardPreparedSuiteRetentionStaging
    match w.guard.journal.suite with
    | none => Program.throw "ordinary Suite recovery state is incomplete"
    | some suite => do
      recoverSuiteResources origin suite
      method markSuiteCleanupComplete

end NazoAuthCtl.OidfSession
