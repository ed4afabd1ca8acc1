import Mathlib.Logic.Function.Basic
import NazoAuthCtl.FaultProgram
import NazoAuthCtl.OidfJournal

/-!
# The guard of a recovery journal

A guard holds a journal in memory and writes it whole. A method changes the journal in
memory first and writes it then, so that after a refused write the two differ. A write
replaces its file in one step; it can be refused before or fail after that step, and the
process can be lost on either side of it.
-/

set_option autoImplicit false
set_option linter.all false

namespace NazoAuthCtl.OidfGuard

open FaultProgram OidfJournal

/-! ## The world of a run -/

inductive SuiteRetentionCommitResolution where
  | notAttempted
  | prepared
  | retained
  | ambiguous
  deriving DecidableEq, Repr

structure ConformanceRecoveryGuard where
  deploymentId : String
  journal : TenantResourceRecoveryJournal
  retentionCommitResolution : SuiteRetentionCommitResolution
  deriving DecidableEq, Repr

/-- The journals of the recovery directory by their run, and the other private files. -/
structure Files where
  journals : String → Option TenantResourceRecoveryJournal
  texts : Path → Option String

/-- The entry of the controller's journal of operations. -/
structure PendingOperation where
  operationId : String
  requestHash : String
  kid : String
  deriving DecidableEq, Repr

structure World where
  guard : ConformanceRecoveryGuard
  files : Files
  slot : Option PendingOperation
  clock : ℕ

inductive WriteFault where
  | none
  | refused (detail : String)
  /-- The file is replaced, and the directory is not synchronized. -/
  | unsynced (detail : String)
  | lostBefore
  | lostAfter
  deriving DecidableEq, Repr

/-- What the target says to an operation. -/
inductive ControlAnswer where
  /-- No answer, whether the target has the operation or not. -/
  | lost (detail : String)
  | rejected (code : String)
  | accepted (result : ControlResult)
  deriving DecidableEq, Repr

inductive SuiteClientError where
  | httpStatus (code : ℕ)
  | other (text : String)
  deriving DecidableEq, Repr

def SuiteClientError.text : SuiteClientError → String
  | .httpStatus code => "HTTP response status " ++ toString code
  | .other text => text

inductive DeleteAnswer where
  | deleted
  | alreadyGone
  | immutable
  | failed (error : SuiteClientError)
  deriving DecidableEq, Repr

inductive InfoAnswer where
  /-- The status of a module, if the answer has one. -/
  | state (status : Option String)
  | failed (error : SuiteClientError)
  deriving DecidableEq, Repr

/-- A module that a Suite plan defines. The variant is sorted by its keys. -/
structure ModuleDefinition where
  testName : String
  variant : List (String × String)
  deriving DecidableEq, Repr

structure PlanCreated where
  id : String
  name : String
  modules : List ModuleDefinition
  deriving DecidableEq, Repr

/-- What happens at each tick of the clock. -/
structure Tape where
  library : Library
  write : ℕ → WriteFault
  read : ℕ → Option String
  operationId : ℕ → String
  control : ℕ → ControlAnswer
  deletePlan : ℕ → DeleteAnswer
  cancelModule : ℕ → Option SuiteClientError
  moduleInfo : ℕ → InfoAnswer
  probeAuth : ℕ → Option SuiteClientError
  interrupted : ℕ → Bool
  intentId : ℕ → String
  createPlan : ℕ → Except SuiteClientError PlanCreated
  createModule : ℕ → Except SuiteClientError String

abbrev Recovering : Type → Type := Program Tape World String

def library : Recovering Library := fun e w => (.ok e.library, w)

def World.tick (w : World) : World := { w with clock := w.clock + 1 }

def World.putSlot (slot : Option PendingOperation) (w : World) : World := { w with slot }

def World.setJournal (w : World) (journal : TenantResourceRecoveryJournal) : World :=
  { w with guard := { w.guard with journal } }

def World.setResolution (w : World) (resolution : SuiteRetentionCommitResolution) : World :=
  { w with guard := { w.guard with retentionCommitResolution := resolution } }

def World.putText (path : Path) (text : Option String) (w : World) : World :=
  { w with files := { w.files with texts := Function.update w.files.texts path text } }

def World.putJournal (runId : String) (journal : Option TenantResourceRecoveryJournal)
    (w : World) : World :=
  { w with files := { w.files with journals := Function.update w.files.journals runId journal } }

/-- One step on the files. -/
def change (refuse : String → String) (body : World → World) : Recovering Unit := fun e w =>
  match e.write w.clock with
  | .none => (.ok (), body w.tick)
  | .refused detail => (.error (refuse detail), w.tick)
  | .unsynced detail => (.error (refuse detail), body w.tick)
  | .lostBefore => (.crashed, w.tick)
  | .lostAfter => (.crashed, body w.tick)

/-- A look at the files that can fail. -/
def look (refuse : String → String) : Recovering Unit := fun e w =>
  match e.read w.clock with
  | some detail => (.error (refuse detail), w.tick)
  | none => (.ok (), w.tick)

/-- `read_bounded`, with nothing for a file that is not there. -/
def readText (path : Path) (bound : ℕ) (refuse : String → String) :
    Recovering (Option String) := fun e w =>
  match e.read w.clock with
  | some detail => (.error (refuse detail), w.tick)
  | none =>
    match w.files.texts path with
    | none => (.ok none, w.tick)
    | some text =>
      if bound < text.utf8ByteSize then (.error (refuse "Oversize"), w.tick)
      else (.ok (some text), w.tick)

/-! ## Writing the journal -/

def writeJournal (journal : TenantResourceRecoveryJournal) : Recovering Unit := do
  let library ← library
  let _ ← Program.ofExcept (canonicalJournalBytes library journal)
  change ("failed to persist recovery journal: " ++ ·)
    (World.putJournal journal.binding.runId (some journal))

def persistSnapshot (journal : TenantResourceRecoveryJournal) : Recovering Unit := do
  let library ← library
  let w ← Program.get
  Program.ofExcept
    (validateJournal library journal w.guard.deploymentId journal.binding.runId)
  writeJournal journal

def persist : Recovering Unit := do
  let w ← Program.get
  persistSnapshot w.guard.journal

/-- What a method does to the journal in memory, also where it fails. -/
abbrev Mutation :=
  Library → TenantResourceRecoveryJournal → Except String Unit × TenantResourceRecoveryJournal

def mutate (mutation : Mutation) : Recovering Unit := fun e w =>
  (Outcome.ofExcept (mutation e.library w.guard.journal).1,
    w.setJournal (mutation e.library w.guard.journal).2)

def method (mutation : Mutation) : Recovering Unit := do
  mutate mutation
  persist

/-- A mutation that checks first and changes the journal only if it passes. -/
def checked (check : Library → TenantResourceRecoveryJournal → Except String Unit)
    (change : TenantResourceRecoveryJournal → TenantResourceRecoveryJournal) : Mutation :=
  fun library journal =>
    match check library journal with
    | .error failure => (.error failure, journal)
    | .ok _ => (.ok (), change journal)

def always (change : TenantResourceRecoveryJournal → TenantResourceRecoveryJournal) : Mutation :=
  checked (fun _ _ => .ok ()) change

/-! ## The tenant -/

def markTenantCreated : Mutation := always fun journal => { journal with tenantCreated := true }

def markTenantKeyGenerated : Mutation :=
  checked (fun _ journal => Checks.check (journal.tenantCreated = true)
      "tenant key generation requires a persisted tenant create result")
    fun journal => { journal with tenantKeyGenerated := true }

/-- A revision that is recorded once. -/
def checkRevision (existing : Option ℕ) (revision : ℕ) (conflict : String) : Except String Unit :=
  Checks.check (∀ recorded ∈ existing, recorded = revision) conflict

def prepareTenantReload (revision : ℕ) : Mutation :=
  checked (fun _ journal => do
      Checks.check (journal.tenantKeyGenerated = true)
        "tenant reload requires persisted key generation"
      checkRevision journal.tenantReloadExpectedRevision revision
        "tenant reload revision conflicts")
    fun journal => { journal with tenantReloadExpectedRevision := some revision }

def markTenantReloaded : Mutation :=
  checked (fun _ journal => Checks.check (journal.tenantReloadExpectedRevision ≠ none)
      "tenant reload has no persisted revision")
    fun journal => { journal with tenantReloaded := true }

def prepareTenantDisable (revision : ℕ) : Mutation :=
  checked (fun _ journal => checkRevision journal.tenantDisableExpectedRevision revision
      "tenant disable revision conflicts")
    fun journal => { journal with tenantDisableExpectedRevision := some revision }

def markTenantDisabled : Mutation :=
  checked (fun _ journal => Checks.check (journal.tenantDisableExpectedRevision ≠ none)
      "tenant disable has no persisted revision")
    fun journal => { journal with tenantDisabled := true }

def prepareTenantFinalize (revision : ℕ) : Mutation :=
  checked (fun _ journal => do
      Checks.check (journal.tenantDisabled = true)
        "tenant finalize requires a persisted disable result"
      checkRevision journal.tenantFinalizeExpectedRevision revision
        "tenant finalize revision conflicts")
    fun journal => { journal with tenantFinalizeExpectedRevision := some revision }

def withoutFailureOf (journal : TenantResourceRecoveryJournal) (operationId : String) :
    Option TenantResourceControlOperation :=
  journal.terminalFailure.filter (·.operationId ≠ operationId)

def resetFailedTenantCleanup (result : ControlResult) : Mutation :=
  checked (fun _ journal =>
      Checks.check (result.outcome = .failed ∧ journal.tenantCleanupComplete = false)
        "tenant cleanup can reset only after a terminal failure")
    fun journal =>
      let failure := withoutFailureOf journal result.operationId
      if journal.tenantDisabled = true then
        { journal with tenantFinalizeExpectedRevision := none, terminalFailure := failure }
      else { journal with tenantDisableExpectedRevision := none, terminalFailure := failure }

def markTenantAbsent (directoryRevision : ℕ) : Mutation := always fun journal =>
  { journal with
    tenantAbsenceRevision := some directoryRevision
    terminalFailure := none
    tenantDisableExpectedRevision := none
    tenantDisabled := false
    tenantFinalizeExpectedRevision := none
    tenantCleanupComplete := true
    cleanupComplete := true }

def markTenantCleanupComplete : Mutation :=
  checked (fun _ journal => Checks.check
      (journal.tenantDisabled = true ∧ journal.tenantFinalizeExpectedRevision ≠ none)
      "temporary tenant cleanup requires persisted disable and finalize intent")
    fun journal => { journal with tenantCleanupComplete := true }

def markProxyCleanupComplete : Mutation :=
  always fun journal => { journal with proxyCleanupComplete := true }

/-! ## Control operations -/

/-- `record_operation`. -/
def recordOperation (slot : Option TenantResourceControlOperation)
    (operation : TenantResourceControlOperation) (label : String) : Except String Unit :=
  Checks.check (∀ existing ∈ slot, existing = operation)
    (label ++ " control operation conflicts with recovery journal")

def recordedPhase (journal : TenantResourceRecoveryJournal) (phase : TenantResourceRecoveryPhase) :
    TenantResourceRecoveryJournal :=
  let journal := { journal with phase }
  { journal with cleanupComplete := tenantResourceObligationsComplete journal }

def checkSucceeded (library : Library) (journal : TenantResourceRecoveryJournal)
    (phase : TenantResourceRecoveryPhase) (operation : TenantResourceControlOperation) :
    Except String Unit := do
  Checks.check (operation.result.error = none ∧ operation.result.result ≠ none)
    "successful control operation result is invalid"
  match phase with
  | .baselineEnumerated => do
    validateEnumerateOperation library journal.binding operation
    recordOperation journal.baselineEnumerate operation "baseline enumerate"
  | .applied => do
    validateApplyOperation library journal.binding operation
    recordOperation journal.apply operation "Apply"
  | .cleanupEnumerated => do
    Checks.check (journal.apply ≠ none) "cleanup enumerate requires a persisted Apply result"
    validateEnumerateOperation library journal.binding operation
    recordOperation journal.cleanupEnumerate operation "cleanup enumerate"
  | .cleanupRevoked =>
    match journal.cleanupEnumerate with
    | none => .error "cleanup Revoke requires a persisted enumeration"
    | some enumerate => do
      validateRevokeOperation library journal.binding enumerate operation
      recordOperation journal.cleanupRevoke operation "cleanup Revoke"
  | .intent => .error "Intent is not a ControlOperation completion phase"

def storeSucceeded (journal : TenantResourceRecoveryJournal) (phase : TenantResourceRecoveryPhase)
    (operation : TenantResourceControlOperation) : TenantResourceRecoveryJournal :=
  match phase with
  | .baselineEnumerated => recordedPhase { journal with baselineEnumerate := some operation } phase
  | .applied => recordedPhase { journal with apply := some operation } phase
  | .cleanupEnumerated => recordedPhase { journal with cleanupEnumerate := some operation } phase
  | .cleanupRevoked => recordedPhase { journal with cleanupRevoke := some operation } phase
  | .intent => journal

def checkFailed (journal : TenantResourceRecoveryJournal)
    (operation : TenantResourceControlOperation) : Except String Unit := do
  Checks.check (operation.result.error ≠ none ∧ operation.result.result = none)
    "failed control operation result is invalid"
  recordOperation journal.terminalFailure operation "terminal control failure"

def recordTerminalCompletion (phase : TenantResourceRecoveryPhase)
    (operation : TenantResourceControlOperation) : Mutation :=
  checked (fun library journal => do
      validateControlIdentity library operation
      match operation.result.outcome with
      | .succeeded => checkSucceeded library journal phase operation
      | .failed => checkFailed journal operation
      | .inProgress =>
        .error "in-progress control operation cannot clear the controller journal")
    fun journal =>
      match operation.result.outcome with
      | .succeeded => storeSucceeded journal phase operation
      | .failed => { journal with terminalFailure := some operation }
      | .inProgress => journal

/-! ## The Suite -/

def emptySuite (origin : String) : SuiteRecoveryState where
  origin
  planIds := []
  moduleIds := []
  pendingCreateIntents := []
  cleanupComplete := false

/-- `get_or_insert_with`. -/
def suiteOf (journal : TenantResourceRecoveryJournal) (origin : String) : SuiteRecoveryState :=
  journal.suite.getD (emptySuite origin)

def withSuiteState (journal : TenantResourceRecoveryJournal) (suite : SuiteRecoveryState) :
    TenantResourceRecoveryJournal :=
  { journal with suite := some suite }

def checkPolicy (journal : TenantResourceRecoveryJournal) (retain : Bool) : Except String Unit :=
  match journal.suiteRetention with
  | .active requested => Checks.check (journal.suite = none ∨ requested = retain)
      "Suite retention policy conflicts with recovery journal"
  | _ => .error "Suite resources are already settled for this recovery journal"

def checkCreate (library : Library) (journal : TenantResourceRecoveryJournal)
    (origin intentId : String) (retain : Bool) : Except String String :=
  match parseSuite library origin with
  | none => .error "Suite recovery origin is invalid"
  | some origin => do
    validateComponent intentId "Suite create intent ID"
    checkPolicy journal retain
    pure origin

def checkIntent (suite : SuiteRecoveryState) (origin intentId : String) : Except String Unit := do
  Checks.check (suite.origin = origin ∧ suite.cleanupComplete = false ∧
    intentId ∉ suite.pendingCreateIntents)
    "Suite create intent conflicts with recovery journal"
  Checks.check (suite.pendingCreateIntents.length <
    maxSuiteRecoveryPlans + maxSuiteRecoveryModules)
    "Suite create intent count exceeds policy"

def requested (journal : TenantResourceRecoveryJournal) (retain : Bool) :
    TenantResourceRecoveryJournal :=
  { journal with suiteRetention := .active retain }

/-- `begin_suite_create_with_retention`. -/
def beginSuiteCreate (origin intentId : String) (retain : Bool) : Mutation :=
  fun library journal =>
    match checkCreate library journal origin intentId retain with
    | .error failure => (.error failure, journal)
    | .ok origin =>
      let suite := suiteOf journal origin
      let opened := withSuiteState (requested journal retain) suite
      match checkIntent suite origin intentId with
      | .error failure => (.error failure, opened)
      | .ok _ =>
        let pending := suite.pendingCreateIntents ++ [intentId]
        (.ok (), withSuiteState opened { suite with pendingCreateIntents := pending })

/-- An id that is recorded once. -/
def recordId (ids : List String) (id : String) : List String :=
  if id ∈ ids then ids else ids ++ [id]

def checkPlan (library : Library) (origin planId : String) : Except String String :=
  match parseSuite library origin with
  | none => .error "Suite recovery origin is invalid"
  | some origin => do
    validateComponent planId "Suite plan ID"
    pure origin

def checkAllocation (suite : SuiteRecoveryState) (origin intentId : String) :
    Except String Unit := do
  Checks.check (suite.origin = origin ∧ suite.cleanupComplete = false)
    "Suite recovery state conflicts with plan allocation"
  Checks.check (intentId ∈ suite.pendingCreateIntents) "Suite create intent is not pending"

def resolved (suite : SuiteRecoveryState) (intentId : String) : SuiteRecoveryState :=
  let pending := suite.pendingCreateIntents.erase intentId
  { suite with pendingCreateIntents := pending }

def recordSuitePlan (origin intentId planId : String) : Mutation := fun library journal =>
  match checkPlan library origin planId with
  | .error failure => (.error failure, journal)
  | .ok origin =>
    let suite := suiteOf journal origin
    match checkAllocation suite origin intentId with
    | .error failure => (.error failure, withSuiteState journal suite)
    | .ok _ =>
      let settled := resolved suite intentId
      let planIds := recordId suite.planIds planId
      (.ok (), withSuiteState journal { settled with planIds })

/-- A change of the Suite state that has to be there. -/
def onSuite (missing : String) (check : SuiteRecoveryState → Except String Unit)
    (change : SuiteRecoveryState → SuiteRecoveryState) : Mutation := fun _ journal =>
  match journal.suite with
  | none => (.error missing, journal)
  | some suite =>
    match check suite with
    | .error failure => (.error failure, journal)
    | .ok _ => (.ok (), withSuiteState journal (change suite))

def recordSuiteModule (intentId moduleId : String) : Mutation := fun library journal =>
  match validateComponent moduleId "Suite module ID" with
  | .error failure => (.error failure, journal)
  | .ok _ =>
    onSuite "Suite module has no persisted Suite plan" (fun suite => do
        Checks.check (suite.cleanupComplete = false) "Suite recovery is already marked complete"
        Checks.check (intentId ∈ suite.pendingCreateIntents) "Suite create intent is not pending")
      (fun suite =>
        let settled := resolved suite intentId
        let moduleIds := recordId suite.moduleIds moduleId
        { settled with moduleIds }) library journal

def releaseDeletedSuitePlan (planId : String) : Mutation := fun library journal =>
  match validateComponent planId "Suite plan ID" with
  | .error failure => (.error failure, journal)
  | .ok _ =>
    onSuite "deleted Suite plan has no persisted allocation" (fun suite => do
        Checks.check (suite.cleanupComplete = false ∧ suite.pendingCreateIntents = [])
          "Suite plan cannot be released from unsettled recovery state"
        Checks.check (planId ∈ suite.planIds)
          "deleted Suite plan is not owned by this recovery journal")
      (fun suite =>
        let planIds := suite.planIds.erase planId
        { suite with planIds }) library journal

def suiteResourcesSettled (journal : TenantResourceRecoveryJournal) : Bool :=
  match journal.suiteRetention with
  | .retained _ | .cleaned => true
  | _ =>
    match journal.suite with
    | none => true
    | some suite => suite.cleanupComplete

def cleanedSuite (suite : SuiteRecoveryState) : SuiteRecoveryState :=
  { suite with cleanupComplete := true, planIds := [], moduleIds := [] }

def unsettledDisposition : SuiteRetentionDisposition → Bool
  | .active _ | .retentionPrepared _ => true
  | .retained _ | .cleaned => false

def markSuiteCleanupComplete : Mutation := fun _ journal =>
  if unsettledDisposition journal.suiteRetention = false then
    (.error "retained Suite resources cannot be marked as cleanup complete", journal)
  else
    match journal.suite with
    | none => (.error "Suite cleanup has no persisted allocation", journal)
    | some suite =>
      if suite.pendingCreateIntents ≠ [] then
        (.error "Suite cleanup cannot complete with unresolved Suite create intent", journal)
      else
        let settled := withSuiteState journal (cleanedSuite suite)
        (.ok (), { settled with suiteRetention := .cleaned })

/-! ## Retention -/

def checkRetention (library : Library) (journal : TenantResourceRecoveryJournal)
    (suite : SuiteRecoveryState) (manifest : SuiteRetentionManifest) : Except String Unit := do
  Checks.check (suite.cleanupComplete = false ∧ suite.pendingCreateIntents = [])
    "Suite retention requires a settled allocation"
  validateSuiteRetentionManifest library manifest journal.binding (some suite)
  validateSuiteRetentionEvidence library manifest journal.binding

def preparedRecord (library : Library) (manifest : SuiteRetentionManifest) (manifestPath : Path) :
    SuiteRetentionRecord where
  manifest
  manifestSha256 := library.sha256Hex (library.retentionManifest manifest)
  manifestPath

def prepareSuitePlanRetention (manifest : SuiteRetentionManifest) (manifestPath : Path) :
    Mutation := fun library journal =>
  if journal.suiteRetention ≠ .active true then
    (.error "Suite retention was not requested before allocation", journal)
  else
    match journal.suite with
    | none => (.error "Suite retention has no persisted allocation", journal)
    | some suite =>
      match checkRetention library journal suite manifest with
      | .error failure => (.error failure, journal)
      | .ok _ =>
        let record := preparedRecord library manifest manifestPath
        let owned := withSuiteState journal { suite with moduleIds := [] }
        (.ok (), { owned with suiteRetention := .retentionPrepared record })

def pendingPath (record : SuiteRetentionRecord) : Except String Path :=
  match record.manifestPath.fileName with
  | none => .error "Suite retention manifest path is invalid"
  | some name => .ok (record.manifestPath.withFileName ("." ++ name ++ ".pending"))

def preparedRetention (journal : TenantResourceRecoveryJournal) :
    Except String SuiteRetentionRecord :=
  match journal.suiteRetention with
  | .retentionPrepared record => .ok record
  | _ => .error "Suite retention has not been prepared"

def committedRetention (journal : TenantResourceRecoveryJournal) :
    Except String SuiteRetentionRecord :=
  match journal.suiteRetention with
  | .retained record => .ok record
  | _ => .error "Suite retention has not been committed"

def suiteRetentionCommitted (journal : TenantResourceRecoveryJournal) : Bool :=
  match journal.suiteRetention with
  | .retained _ => true
  | _ => false

def stageSuiteRetentionManifest : Recovering Unit := do
  let w ← Program.get
  let library ← library
  let record ← Program.ofExcept (preparedRetention w.guard.journal)
  let pending ← Program.ofExcept (pendingPath record)
  let existing ← readText pending maxSuiteRetentionManifestBytes
    ("retained Suite manifest is not secure: " ++ ·)
  match existing with
  | some text =>
    Program.require (text = library.retentionManifest record.manifest)
      "retained Suite manifest conflicts with recovery journal"
  | none =>
    change ("failed to stage retained Suite manifest: " ++ ·)
      (World.putText pending (some (library.retentionManifest record.manifest)))

def committedJournal (journal : TenantResourceRecoveryJournal) (record : SuiteRetentionRecord)
    (suite : SuiteRecoveryState) : TenantResourceRecoveryJournal :=
  let owned := withSuiteState journal { suite with planIds := [], moduleIds := [] }
  { owned with suiteRetention := .retained record }

def ownedSuite (journal : TenantResourceRecoveryJournal) : Except String SuiteRecoveryState :=
  match journal.suite with
  | none => .error "Suite retention has no persisted allocation"
  | some suite => .ok suite

def commitSuitePlanRetention : Recovering Unit := do
  let w ← Program.get
  let library ← library
  let journal := w.guard.journal
  Program.require (tenantResourceObligationsComplete journal = true ∧
    journal.tenantCleanupComplete = true ∧ journal.proxyCleanupComplete = true)
    "Suite retention cannot commit before ordinary and proxy cleanup complete"
  let record ← Program.ofExcept (preparedRetention journal)
  let pending ← Program.ofExcept (pendingPath record)
  Program.ofExcept (validateSuiteRetentionEvidence library record.manifest journal.binding)
  let staged ← readText pending maxSuiteRetentionManifestBytes
    ("retained Suite pending manifest is not secure: " ++ ·)
  Program.require (staged ≠ none) "retained Suite pending manifest is not secure: NotFound"
  Program.require (staged.map library.sha256Hex = some record.manifestSha256)
    "retained Suite pending manifest conflicts with recovery journal"
  let suite ← Program.ofExcept (ownedSuite journal)
  Program.modify (World.setResolution · .ambiguous)
  persistSnapshot (committedJournal journal record suite)
  Program.modify (World.setJournal · (committedJournal journal record suite))
  Program.modify (World.setResolution · .retained)

/-- `promote_private_file`: a rename that replaces nothing. -/
def promote (pending final : Path) : Recovering Unit := do
  let w ← Program.get
  Program.require (w.files.texts pending ≠ none)
    "failed to publish retained Suite manifest: NotFound"
  Program.require (w.files.texts final = none)
    "failed to publish retained Suite manifest: UnsafePath"
  change ("failed to publish retained Suite manifest: " ++ ·) fun w' =>
    (w'.putText final (w.files.texts pending)).putText pending none

def publishCommittedSuiteRetentionManifest : Recovering Unit := do
  let w ← Program.get
  let library ← library
  let record ← Program.ofExcept (committedRetention w.guard.journal)
  Program.ofExcept
    (validateSuiteRetentionEvidence library record.manifest w.guard.journal.binding)
  let existing ← readText record.manifestPath maxSuiteRetentionManifestBytes
    ("retained Suite manifest is not secure: " ++ ·)
  match existing with
  | some text =>
    Program.require (library.sha256Hex text = record.manifestSha256)
      "retained Suite manifest conflicts with recovery journal"
  | none => do
    let pending ← Program.ofExcept (pendingPath record)
    promote pending record.manifestPath

structure SuiteRetentionManifestReceipt where
  path : Path
  sha256 : String
  deriving DecidableEq, Repr

def suiteRetentionManifestReceipt : Recovering (Option SuiteRetentionManifestReceipt) := do
  let w ← Program.get
  let library ← library
  match w.guard.journal.suiteRetention with
  | .retained record => do
    let text ← readText record.manifestPath maxSuiteRetentionManifestBytes
      ("retained Suite manifest is not secure: " ++ ·)
    Program.require (text ≠ none) "retained Suite manifest is not secure: NotFound"
    Program.require (text.map library.sha256Hex = some record.manifestSha256)
      "retained Suite manifest conflicts with recovery journal"
    pure (some ⟨record.manifestPath, record.manifestSha256⟩)
  | _ => pure none

/-- A file that is removed if it is there. -/
def removeText (path : Path) (refuse : String → String) : Recovering Unit := do
  let w ← Program.get
  Program.onlyIf (w.files.texts path ≠ none) (change refuse (World.putText path none))

def discardPreparedSuiteRetentionStaging : Recovering Unit := do
  let w ← Program.get
  match w.guard.journal.suiteRetention with
  | .retentionPrepared record => do
    let pending ← Program.ofExcept (pendingPath record)
    removeText pending ("failed to discard staged Suite retention manifest: " ++ ·)
  | _ => pure ()

/-! ## The end of a run -/

def removalIntent (journal : TenantResourceRecoveryJournal) : TenantResourceRecoveryJournal :=
  { journal with cleanupComplete := true, manifestRemovalIntent := true }

def removalDone (journal : TenantResourceRecoveryJournal) : TenantResourceRecoveryJournal :=
  { journal with manifestCleanupComplete := true }

/-- `validate_tenant_resource_manifest_file`: the file is there, with its bound content. -/
def validateTenantResourceManifestFile (binding : TenantResourceRecoveryBinding) :
    Recovering Bool := do
  let library ← library
  match binding.manifestPath, binding.materialSha256 with
  | some path, some digest => do
    Program.require (path.absolute = true) "ordinary material path must be absolute"
    let text ← readText path maxTenantResourceManifestBytes
      ("ordinary material is not secure: " ++ ·)
    match text with
    | none => pure false
    | some bytes => do
      Program.require (library.sha256Hex bytes = digest)
        "ordinary material digest conflicts with recovery binding"
      pure true
  | _, _ => pure false

def removeManifest (path : Path) : Recovering Unit := do
  removeText path ("failed to remove tenant-resource manifest: " ++ ·)
  method (always removalDone)

def checkManifestGone (binding : TenantResourceRecoveryBinding) : Recovering Unit := do
  let remains ← validateTenantResourceManifestFile binding
  Program.require (remains = false) "tenant-resource manifest remains after cleanup marker"

def settleManifest (path : Path) : Recovering Unit := do
  let w ← Program.get
  Program.onlyIf (w.guard.journal.manifestRemovalIntent = false) (method (always removalIntent))
  if w.guard.journal.manifestCleanupComplete = false then removeManifest path
  else checkManifestGone w.guard.journal.binding

def removeJournalAndLock : Recovering Unit := do
  let w ← Program.get
  let runId := w.guard.journal.binding.runId
  Program.require (w.files.journals runId ≠ none) "failed to remove recovery journal: NotFound"
  change ("failed to remove recovery journal: " ++ ·) (World.putJournal runId none)
  change ("failed to remove recovery lock: " ++ ·) id

def publishIfCommitted : Recovering Unit := do
  let w ← Program.get
  Program.onlyIf (suiteRetentionCommitted w.guard.journal = true)
    publishCommittedSuiteRetentionManifest

def finish : Recovering Unit := do
  publishIfCommitted
  let w ← Program.get
  Program.require (tenantResourceObligationsComplete w.guard.journal = true ∧
    w.guard.journal.proxyCleanupComplete = true ∧ suiteResourcesSettled w.guard.journal = true)
    "conformance recovery obligations are incomplete"
  match w.guard.journal.binding.manifestPath with
  | some path => do
    settleManifest path
    removeJournalAndLock
  | none => removeJournalAndLock

/-! ## The beginning of a run -/

def ordinaryJournal (binding : TenantResourceRecoveryBinding) : TenantResourceRecoveryJournal where
  schema := tenantResourceRecoveryJournalSchema
  kind := tenantResourceRecoveryKind
  binding
  phase := .intent
  tenantCreated := false
  tenantKeyGenerated := false
  tenantReloadExpectedRevision := none
  tenantReloaded := false
  tenantDisableExpectedRevision := none
  tenantDisabled := false
  tenantFinalizeExpectedRevision := none
  tenantCleanupComplete := false
  tenantAbsenceRevision := none
  baselineEnumerate := none
  apply := none
  cleanupEnumerate := none
  cleanupRevoke := none
  terminalFailure := none
  cleanupComplete := false
  manifestRemovalIntent := false
  manifestCleanupComplete := false
  proxyCleanupComplete := binding.proxy.isNone
  suite := none
  suiteRetention := .active false

def beginJournal (deploymentId : String) (journal : TenantResourceRecoveryJournal) :
    Recovering Unit := do
  change ("failed to open recovery lock: " ++ ·) id
  look ("failed to inspect conformance recovery journal: " ++ ·)
  let w ← Program.get
  Program.require (w.files.journals journal.binding.runId = none)
    "conformance recovery transaction already exists"
  writeJournal journal
  Program.modify fun w => { w with guard := ⟨deploymentId, journal, .notAttempted⟩ }

def requireManifest (binding : TenantResourceRecoveryBinding) : Recovering Unit := do
  let there ← validateTenantResourceManifestFile binding
  Program.require (there = true) "ordinary Apply material is missing"

def beginOrdinaryRun (deploymentId : String) (binding : TenantResourceRecoveryBinding) :
    Recovering Unit := do
  let library ← library
  Program.ofExcept (validateOrdinaryBinding library binding deploymentId)
  Program.onlyIf (binding.manifestPath.isSome = true) (requireManifest binding)
  beginJournal deploymentId (ordinaryJournal binding)

/-! ## One machine -/

def zeros : String := "0000000000000000000000000000000000000000000000000000000000000000"

def exampleSuite : Url where
  scheme := "https"
  host := some "suite.example"
  username := ""
  password := none
  query := none
  fragment := none
  path := "/"
  origin := "https://suite.example"
  text := "https://suite.example/"

/-- The texts of other packages for the inputs of one machine. -/
def exampleLibrary : Library where
  parseUuid text := some text
  parseUrl text := if text = "https://suite.example" then some exampleSuite else none
  parseHost text := some (.domain text)
  validFileIdentifier _ := .ok ()
  instanceKeyId text := some text
  sha256Hex _ := zeros
  maxTenantResourceIdentities := 1024
  requestHash _ _ _ _ := zeros
  validateControlResult _ := .ok ()
  controlResult result := JsonText.object [("operation_id", JsonText.string result.operationId)]
  identity identity := JsonText.object [("resource_id", JsonText.string identity.resourceId),
    ("digest", JsonText.string identity.digest)]
  retentionManifest _ := ""
  screenshotEvidence _ _ _ := .ok ()

def exampleMaterial : Path :=
  ⟨true, ["controller", "oidf", "44444444-4444-4444-8444-444444444444.json"]⟩

def exampleBinding : TenantResourceRecoveryBinding where
  deploymentId := "prod"
  tenantId := "11111111-1111-4111-8111-111111111111"
  tenantDomain := "oidf.example"
  issuerPort := none
  realmId := "22222222-2222-4222-8222-222222222222"
  organizationId := "33333333-3333-4333-8333-333333333333"
  runId := "44444444-4444-4444-8444-444444444444"
  tenantCreateExpectedRevision := 1
  manifestPath := some exampleMaterial
  materialSha256 := some zeros
  proxy := none
  vpEvidenceTrustAnchor := none
  resourceIdentities := [⟨.user, "alice", zeros⟩]

/-- Nothing on the machine fails, and the Suite refuses every create. -/
def calmTape : Tape where
  library := exampleLibrary
  write _ := .none
  read _ := none
  operationId _ := "55555555-5555-4555-8555-555555555555"
  control _ := .lost "no answer"
  deletePlan _ := .deleted
  cancelModule _ := none
  moduleInfo _ := .state (some "FINISHED")
  probeAuth _ := none
  interrupted _ := false
  intentId _ := "66666666-6666-4666-8666-666666666666"
  createPlan _ := .error (.httpStatus 400)
  createModule _ := .error (.httpStatus 400)

/-- A machine with the private material of a run. -/
def exampleWorld : World where
  guard := ⟨"prod", ordinaryJournal exampleBinding, .notAttempted⟩
  files := ⟨fun _ => none, Function.update (fun _ => none) exampleMaterial (some "material")⟩
  slot := none
  clock := 0

end NazoAuthCtl.OidfGuard
