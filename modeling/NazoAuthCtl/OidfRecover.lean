import NazoAuthCtl.OidfSession

/-!
# The recovery of interrupted conformance runs

A recovery claims the journals of the directory, resumes the operation that the controller's
journal holds, if exactly one step of the journals explains it, and then removes what each
run left behind.
-/

set_option autoImplicit false
set_option linter.all false

namespace NazoAuthCtl.OidfRecover

open FaultProgram OidfJournal OidfGuard OidfSession

/-! ## The step behind a pending operation -/

inductive PendingRecoveryStep where
  | describe
  | tenantCreate (index : ℕ)
  | tenantKeyGenerate (index : ℕ)
  | tenantReload (index : ℕ)
  | baselineEnumerate (index : ℕ)
  | apply (index : ℕ)
  | cleanupEnumerate (index : ℕ)
  | cleanupRevoke (index : ℕ)
  | tenantDisable (index : ℕ)
  | tenantFinalize (index : ℕ)
  deriving DecidableEq, Repr

structure PendingRecoveryCandidate where
  step : PendingRecoveryStep
  operation : ControlOperationPayload
  deriving DecidableEq, Repr

/-- `EphemeralTenant::from_ids`. -/
def ephemeralTenant (library : Library) (tenantId realmId organizationId tenantDomain : String)
    (issuerPort : Option ℕ) : Except String EphemeralTenant := do
  let tenantId ← parseId library tenantId "OIDF tenant ID is invalid"
  let realmId ← parseId library realmId "OIDF realm ID is invalid"
  let organizationId ← parseId library organizationId "OIDF organization ID is invalid"
  Checks.check (tenantId ≠ realmId ∧ tenantId ≠ organizationId ∧ realmId ≠ organizationId)
    "OIDF tenant boundaries must use distinct IDs"
  Checks.check (issuerPort ≠ some 0) "OIDF tenant issuer port must be nonzero"
  let externalHost := tenantId ++ "." ++ tenantDomain
  let port := (issuerPort.map fun port => ":" ++ toString port).getD ""
  pure { tenantId, realmId, organizationId, externalHost
         issuer := "https://" ++ externalHost ++ port
         slug := "oidf-" ++ String.ofList (tenantId.toList.filter (· ≠ '-')) }

def createOperation (library : Library) (binding : TenantResourceRecoveryBinding) :
    Except String ControlOperationPayload := do
  let tenant ← ephemeralTenant library binding.tenantId binding.realmId binding.organizationId
    binding.tenantDomain binding.issuerPort
  pure (.tenantDirectoryCreate binding.tenantCreateExpectedRevision tenant)

def keyOperation (tenantId : String) : ControlOperationPayload :=
  .tenantKeysGenerateLocal tenantId "ES256" ["credential", "presentation_request"]

def recordedRevision (revision : Option ℕ) (label : String) : Except String ℕ :=
  match revision with
  | none => .error (label ++ " candidate has no persisted revision")
  | some revision => .ok revision

def revokeOperation (journal : TenantResourceRecoveryJournal) :
    Except String ControlOperationPayload :=
  match journal.cleanupEnumerate with
  | none => .error "cleanup Revoke candidate has no persisted enumeration"
  | some enumerate => do
    let resources ← enumeratedResources enumerate
    pure (.tenantResourceRevoke journal.binding.tenantId
      (presentResources journal.binding resources))

def candidateOperation (library : Library) (journal : TenantResourceRecoveryJournal) :
    PendingRecoveryStep → Except String ControlOperationPayload
  | .describe => .ok .tenantDirectoryDescribe
  | .tenantCreate _ => createOperation library journal.binding
  | .tenantKeyGenerate _ => .ok (keyOperation journal.binding.tenantId)
  | .tenantReload _ => do
    let revision ← recordedRevision journal.tenantReloadExpectedRevision "tenant Reload"
    pure (.tenantDirectoryReload revision journal.binding.tenantId)
  | .baselineEnumerate _ | .cleanupEnumerate _ =>
    .ok (.tenantResourceEnumerate journal.binding.tenantId [])
  | .apply _ =>
    .ok (.tenantResourceApply journal.binding.tenantId journal.binding.resourceIdentities)
  | .cleanupRevoke _ => revokeOperation journal
  | .tenantDisable _ => do
    let revision ← recordedRevision journal.tenantDisableExpectedRevision "tenant Disable"
    pure (.tenantDirectoryDisable revision journal.binding.tenantId)
  | .tenantFinalize _ => do
    let revision ← recordedRevision journal.tenantFinalizeExpectedRevision "tenant Finalize"
    pure (.tenantDirectoryFinalize revision journal.binding.tenantId)

/-- `pending_recovery_candidate`. -/
def pendingRecoveryCandidate (library : Library) (journal : TenantResourceRecoveryJournal)
    (step : PendingRecoveryStep) : Except String (Option PendingRecoveryCandidate) := do
  let operation ← candidateOperation library journal step
  pure (some ⟨step, operation⟩)

def candidateIf (library : Library) (journal : TenantResourceRecoveryJournal) (recorded : Bool)
    (step : PendingRecoveryStep) : Except String (Option PendingRecoveryCandidate) :=
  if recorded = true then pendingRecoveryCandidate library journal step else .ok none

/-- The step of the resources that is to come. -/
def nextResourceStep (library : Library) (index : ℕ) (journal : TenantResourceRecoveryJournal) :
    Except String (Option PendingRecoveryCandidate) :=
  if journal.terminalFailure.isSome = true ∨ suiteRetentionCommitted journal = true then .ok none
  else if journal.baselineEnumerate = none then
    pendingRecoveryCandidate library journal (.baselineEnumerate index)
  else if journal.apply = none then pendingRecoveryCandidate library journal (.apply index)
  else if journal.cleanupEnumerate = none then
    pendingRecoveryCandidate library journal (.cleanupEnumerate index)
  else if journal.cleanupRevoke = none then do
    let operation ← revokeOperation journal
    pure (if operation = .tenantResourceRevoke journal.binding.tenantId [] then none
      else some ⟨.cleanupRevoke index, operation⟩)
  else .ok none

def nextPendingForRun (library : Library) (index : ℕ) (journal : TenantResourceRecoveryJournal) :
    Except String (Option PendingRecoveryCandidate) :=
  if journal.tenantAbsenceRevision.isSome = true then .ok none
  else if journal.tenantCreated = false then
    pendingRecoveryCandidate library journal (.tenantCreate index)
  else if journal.tenantKeyGenerated = false then
    pendingRecoveryCandidate library journal (.tenantKeyGenerate index)
  else if journal.tenantReloaded = false then
    candidateIf library journal journal.tenantReloadExpectedRevision.isSome (.tenantReload index)
  else if journal.tenantDisabled = false ∧ journal.tenantDisableExpectedRevision.isSome = true then
    pendingRecoveryCandidate library journal (.tenantDisable index)
  else if journal.tenantCleanupComplete = false ∧
      journal.tenantFinalizeExpectedRevision.isSome = true then
    pendingRecoveryCandidate library journal (.tenantFinalize index)
  else nextResourceStep library index journal

def recordedAs (operation : Option TenantResourceControlOperation) (operationId : String) : Bool :=
  operation.any (·.operationId = operationId)

def failedStep (index : ℕ) : TenantResourceRecoveryPhase → Except String PendingRecoveryStep
  | .intent => .ok (.baselineEnumerate index)
  | .baselineEnumerated => .ok (.apply index)
  | .applied => .ok (.cleanupEnumerate index)
  | .cleanupEnumerated => .ok (.cleanupRevoke index)
  | .cleanupRevoked => .error "terminal failure cannot follow completed cleanup Revoke"

def persistedStep (index : ℕ) (journal : TenantResourceRecoveryJournal) (operationId : String) :
    Except String (Option PendingRecoveryStep) :=
  if recordedAs journal.baselineEnumerate operationId = true then
    .ok (some (.baselineEnumerate index))
  else if recordedAs journal.apply operationId = true then .ok (some (.apply index))
  else if recordedAs journal.cleanupEnumerate operationId = true then
    .ok (some (.cleanupEnumerate index))
  else if recordedAs journal.cleanupRevoke operationId = true then .ok (some (.cleanupRevoke index))
  else if recordedAs journal.terminalFailure operationId = true then do
    let step ← failedStep index journal.phase
    pure (some step)
  else .ok none

def persistedCandidateForPending (library : Library) (index : ℕ)
    (journal : TenantResourceRecoveryJournal) (operationId : String) :
    Except String (Option PendingRecoveryCandidate) := do
  let step ← persistedStep index journal operationId
  match step with
  | none => pure none
  | some step => pendingRecoveryCandidate library journal step

def completedLifecycleCandidate (library : Library) (index : ℕ)
    (journal : TenantResourceRecoveryJournal) : Except String (Option PendingRecoveryCandidate) :=
  if journal.tenantAbsenceRevision.isSome = true then .ok none
  else if journal.tenantCleanupComplete = true then
    candidateIf library journal journal.tenantFinalizeExpectedRevision.isSome
      (.tenantFinalize index)
  else if journal.tenantDisabled = true ∧ journal.tenantFinalizeExpectedRevision = none then
    candidateIf library journal journal.tenantDisableExpectedRevision.isSome (.tenantDisable index)
  else if journal.phase ≠ .intent ∨ journal.terminalFailure.isSome = true ∨
      journal.tenantDisableExpectedRevision.isSome = true then .ok none
  else if journal.tenantReloaded = true then
    candidateIf library journal journal.tenantReloadExpectedRevision.isSome (.tenantReload index)
  else if journal.tenantKeyGenerated = true ∧ journal.tenantReloadExpectedRevision = none then
    pendingRecoveryCandidate library journal (.tenantKeyGenerate index)
  else if journal.tenantCreated = true ∧ journal.tenantKeyGenerated = false then
    pendingRecoveryCandidate library journal (.tenantCreate index)
  else .ok none

def candidatesOf (library : Library) (index : ℕ) (journal : TenantResourceRecoveryJournal)
    (operationId : String) : Except String (List PendingRecoveryCandidate) := do
  let persisted ← persistedCandidateForPending library index journal operationId
  let completed ← completedLifecycleCandidate library index journal
  let next ← nextPendingForRun library index journal
  pure [persisted, completed, next].reduceOption

def candidatesFrom (library : Library) (operationId : String) :
    ℕ → List ConformanceRecoveryGuard → Except String (List PendingRecoveryCandidate)
  | _, [] => .ok []
  | index, guard :: rest => do
    let own ← candidatesOf library index guard.journal operationId
    let others ← candidatesFrom library operationId (index + 1) rest
    pure (own ++ others)

def selectUniquePendingCandidate :
    List PendingRecoveryCandidate → Except String PendingRecoveryCandidate
  | [candidate] => .ok candidate
  | [] => .error ("pending ControlOperation does not match any operation reconstructible from " ++
      "the conformance recovery journals")
  | candidates => .error ("pending ControlOperation matches " ++ toString candidates.length ++
      " conformance recovery candidates; refusing ambiguous recovery")

/-! ## The resumed operation -/

def stepIndex : PendingRecoveryStep → Option ℕ
  | .describe => none
  | .tenantCreate index | .tenantKeyGenerate index | .tenantReload index
  | .baselineEnumerate index | .apply index | .cleanupEnumerate index | .cleanupRevoke index
  | .tenantDisable index | .tenantFinalize index => some index

def successMutation (step : PendingRecoveryStep) (operation : TenantResourceControlOperation) :
    Mutation :=
  match step with
  | .describe => always id
  | .tenantCreate _ => markTenantCreated
  | .tenantKeyGenerate _ => markTenantKeyGenerated
  | .tenantReload _ => markTenantReloaded
  | .baselineEnumerate _ => recordTerminalCompletion .baselineEnumerated operation
  | .apply _ => recordTerminalCompletion .applied operation
  | .cleanupEnumerate _ => recordTerminalCompletion .cleanupEnumerated operation
  | .cleanupRevoke _ => recordTerminalCompletion .cleanupRevoked operation
  | .tenantDisable _ => markTenantDisabled
  | .tenantFinalize _ => markTenantCleanupComplete

def persistPendingRecoveryCompletion (step : PendingRecoveryStep)
    (completion : ConformanceControlCompletion) : Recovering Unit := do
  let w ← Program.get
  if completion.result.outcome = .failed then
    method (recordTerminalCompletion w.guard.journal.phase (controlOperation completion))
  else method (successMutation step (controlOperation completion))

/-- `read_private_material`. -/
def readPrivateMaterial : Recovering Unit := do
  let w ← Program.get
  let library ← library
  match w.guard.journal.binding.manifestPath, w.guard.journal.binding.materialSha256 with
  | none, _ => Program.throw "ordinary recovery has no private Apply material path"
  | some _, none => Program.throw "ordinary recovery has no private Apply material digest"
  | some path, some expected => do
    let text ← readText path maxTenantResourceManifestBytes
      ("ordinary material is not secure: " ++ ·)
    Program.require (text ≠ none) "ordinary material is not secure: NotFound"
    Program.require (text.map library.sha256Hex = some expected)
      "ordinary material digest conflicts with recovery binding"

def isApply : PendingRecoveryStep → Bool
  | .apply _ => true
  | _ => false

def removesTenant : PendingRecoveryStep → Bool
  | .tenantDisable _ | .tenantFinalize _ => true
  | _ => false

/-- The operation of one step, on the guard it belongs to. -/
def resumeStep (session : ConformanceSession) (expected : PendingOperation)
    (candidate : PendingRecoveryCandidate) : Recovering Unit := do
  Program.onlyIf (isApply candidate.step = true) readPrivateMaterial
  let completion ← resumePendingControlOperation session expected candidate.operation
    (persistPendingRecoveryCompletion candidate.step)
  Program.onlyIf (removesTenant candidate.step = true) (resetIfFailed completion)

def resumeDescribe (session : ConformanceSession) (expected : PendingOperation) :
    Recovering Unit := do
  let completion ← resumePendingControlOperation session expected .tenantDirectoryDescribe
    persistNothing
  successful completion "recovery pending tenant directory Describe"

def holdGuard (guard : ConformanceRecoveryGuard) : Recovering Unit :=
  Program.modify fun w => { w with guard }

/-- A program on one of the guards. The others stay as they are. -/
def onGuard (guards : List ConformanceRecoveryGuard) (index : ℕ) (p : Recovering Unit) :
    Recovering (List ConformanceRecoveryGuard) :=
  match guards[index]? with
  | none => pure guards
  | some guard => do
    holdGuard guard
    p
    let w ← Program.get
    pure (guards.set index w.guard)

def executePendingRecoveryCandidate (session : ConformanceSession) (expected : PendingOperation)
    (candidate : PendingRecoveryCandidate) (guards : List ConformanceRecoveryGuard) :
    Recovering (List ConformanceRecoveryGuard) :=
  match stepIndex candidate.step with
  | none => do
    resumeDescribe session expected
    pure guards
  | some index => onGuard guards index (resumeStep session expected candidate)

def describeCandidate : PendingRecoveryCandidate := ⟨.describe, .tenantDirectoryDescribe⟩

def resumeExpected (session : ConformanceSession) (expected : PendingOperation)
    (guards : List ConformanceRecoveryGuard) : Recovering (List ConformanceRecoveryGuard) := do
  let library ← library
  let candidates ← Program.ofExcept (candidatesFrom library expected.operationId 0 guards)
  let candidate ← Program.ofExcept (selectUniquePendingCandidate
    ((describeCandidate :: candidates).filter
      (matchesPending library session expected ·.operation)))
  executePendingRecoveryCandidate session expected candidate guards

/-- `resume_pending_conformance_operation`. -/
def resumePendingConformanceOperation (session : ConformanceSession)
    (guards : List ConformanceRecoveryGuard) : Recovering (List ConformanceRecoveryGuard) := do
  let expected ← pendingControlOperation
  match expected with
  | none => pure guards
  | some expected => resumeExpected session expected guards

/-! ## The recovery of a run -/

/-- A directory of claimed journals, by the names that were listed. -/
def claimOne (deploymentId runId : String) : Recovering ConformanceRecoveryGuard := do
  Program.ofExcept (validateComponent runId "run ID")
  change ("failed to open recovery lock: " ++ ·) id
  look ("failed to read recovery journal: " ++ ·)
  let w ← Program.get
  let library ← library
  match w.files.journals runId with
  | none => Program.throw "failed to read recovery journal: NotFound"
  | some journal => do
    Program.ofExcept (validateJournal library journal deploymentId runId)
    pure ⟨deploymentId, journal,
      if suiteRetentionCommitted journal = true then .retained else .prepared⟩

def claimAll (deploymentId : String) : List String → Recovering (List ConformanceRecoveryGuard)
  | [] => pure []
  | runId :: rest => do
    let guard ← claimOne deploymentId runId
    let others ← claimAll deploymentId rest
    pure (guard :: others)

/-- `claim_pending`, with the runs that the directory lists. -/
def claimPending (deploymentId : String) (runIds : List String) :
    Recovering (List ConformanceRecoveryGuard) := do
  Program.require (runIds.length ≤ maxPendingRuns)
    "conformance recovery journal count exceeds policy"
  claimAll deploymentId runIds

def failureText (failure : TenantResourceControlOperation) : String :=
  "ordinary recovery is blocked by durable failed ControlOperation: operation_id=" ++
    failure.operationId ++ " request_hash=" ++ failure.requestHash ++ " error=" ++
    failure.result.error.getD "missing"

def outcomeText : Except String Unit → String
  | .ok _ => "ok"
  | .error failure => failure

def removeFailedTenant (session : ConformanceSession) (present : Bool) (revision : ℕ) :
    Recovering Unit :=
  if present = true then cleanupEphemeralTenant session else method (markTenantAbsent revision)

def recoverFailed (session : ConformanceSession) (present : Bool) (revision : ℕ)
    (failure : TenantResourceControlOperation) :
    Recovering (Option SuiteRetentionManifestReceipt) := do
  let removed ← Program.attempt (removeFailedTenant session present revision)
  Program.throw (failureText failure ++ "; tenant_cleanup=" ++ outcomeText removed)

def finishIfSettled : Recovering Unit := do
  let w ← Program.get
  Program.onlyIf (suiteResourcesSettled w.guard.journal = true ∧
    w.guard.journal.proxyCleanupComplete = true) finish

def recoverRetained (session : ConformanceSession) (suiteOrigin : Option String) :
    Recovering (Option SuiteRetentionManifestReceipt) := do
  cleanupEphemeralTenant session
  match suiteOrigin with
  | none => pure none
  | some _ => do
    publishCommittedSuiteRetentionManifest
    let receipt ← suiteRetentionManifestReceipt
    finishIfSettled
    pure receipt

/-- The bundle and the process of the proxy are outside of the files here. -/
def recoverProxyTrust (_ : ConformanceProxyRecovery) : Recovering Unit :=
  change id id

def recoverProxy : Recovering Unit := do
  let w ← Program.get
  match w.guard.journal.binding.proxy with
  | some proxy => do
    recoverProxyTrust proxy
    method markProxyCleanupComplete
  | none => method markProxyCleanupComplete

def recoverProxyIfOpen : Recovering Unit := do
  let w ← Program.get
  Program.onlyIf (w.guard.journal.proxyCleanupComplete = false) recoverProxy

def recoverSuite (origin : String) : Recovering Unit := do
  let w ← Program.get
  match w.guard.journal.suite with
  | some suite => do
    recoverSuiteResources origin suite
    method markSuiteCleanupComplete
  | none => method markSuiteCleanupComplete

def recoverSuiteIfOpen (origin : String) : Recovering Unit := do
  let w ← Program.get
  Program.onlyIf (suiteResourcesSettled w.guard.journal = false) (recoverSuite origin)

def recoverOpen (session : ConformanceSession) (suiteOrigin : Option String) :
    Recovering (Option SuiteRetentionManifestReceipt) := do
  let proxyResult ← Program.attempt recoverProxyIfOpen
  let _ ← cleanupRunResources session
  Program.ofExcept proxyResult
  match suiteOrigin with
  | none => pure none
  | some origin => do
    recoverSuiteIfOpen origin
    discardPreparedSuiteRetentionStaging
    let receipt ← suiteRetentionManifestReceipt
    finishIfSettled
    pure receipt

def recoverPresent (session : ConformanceSession) (suiteOrigin : Option String)
    (present : Bool) (revision : ℕ) : Recovering (Option SuiteRetentionManifestReceipt) := do
  Program.onlyIf (present = false) (method (markTenantAbsent revision))
  let w ← Program.get
  if suiteRetentionCommitted w.guard.journal = true then recoverRetained session suiteOrigin
  else recoverOpen session suiteOrigin

/-- The recovery of the run whose guard is held. -/
def recoverRun (session : ConformanceSession) (suiteOrigin : Option String) :
    Recovering (Option SuiteRetentionManifestReceipt) := do
  let w ← Program.get
  let described ← tenantDirectoryPresence session w.guard.journal.binding.tenantId
  match w.guard.journal.terminalFailure with
  | some failure => recoverFailed session described.2 described.1 failure
  | none => recoverPresent session suiteOrigin described.2 described.1

/-- The receipts and the failures of the runs, in their order. -/
def recoverEach (session : ConformanceSession) (suiteOrigin : Option String) :
    List ConformanceRecoveryGuard →
      Recovering (List SuiteRetentionManifestReceipt × List String)
  | [] => pure ([], [])
  | guard :: rest => do
    holdGuard guard
    let result ← Program.attempt (recoverRun session suiteOrigin)
    let others ← recoverEach session suiteOrigin rest
    match result with
    | .ok receipt => pure (receipt.toList ++ others.1, others.2)
    | .error failure =>
      pure (others.1, (guard.journal.binding.runId ++ ": " ++ failure) :: others.2)

/-- `recover_pending_runs`. -/
def recoverPendingRuns (session : ConformanceSession) (suiteOrigin : Option String)
    (runIds : List String) :
    Recovering (List SuiteRetentionManifestReceipt) := do
  let claimed ← claimPending session.deploymentId runIds
  let pending ← resumePendingConformanceOperation session claimed
  let results ← recoverEach session suiteOrigin pending
  Program.require (results.2 = []) ("pending conformance cleanup could not be recovered: " ++
    "; ".intercalate results.2)
  pure results.1

end NazoAuthCtl.OidfRecover
