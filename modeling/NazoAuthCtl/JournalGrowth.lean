import NazoAuthCtl.JournalValidity
import NazoAuthCtl.OidfFrames

/-!
# The growth of a recovery journal

The text of a journal is bounded when it is written, and what it records has happened by
then. A method that needs more room, a further plan or an earlier phase than the journal can
take passes its own check all the same. A guard whose methods fit writes every journal that
it makes, and every journal on disk can be claimed.
-/

set_option autoImplicit false
set_option linter.all false

namespace NazoAuthCtl.JournalGrowth

open Checks FaultProgram OidfJournal OidfGuard OidfRecover OidfFrames JournalValidity
open JsonText (Printer string number bool optional array object)

/-! ## Sizes -/

/-- The size of a value that stands in the journal. -/
def valueSize (print : Printer) : ℕ := (print 1).utf8ByteSize

section

variable (library : Library)

def journalSize (journal : TenantResourceRecoveryJournal) : ℕ :=
  (journalText library journal 0).utf8ByteSize

def operationSize (operation : Option TenantResourceControlOperation) : ℕ :=
  valueSize (optional (operationText library) operation)

def revisionSize (revision : Option ℕ) : ℕ := valueSize (optional number revision)

def suiteSize (suite : Option SuiteRecoveryState) : ℕ := valueSize (optional suiteText suite)

/-- The sizes of all values of a journal. -/
def valuesSize (journal : TenantResourceRecoveryJournal) : ℕ :=
  valueSize (number journal.schema) + valueSize (string journal.kind) +
    valueSize (bindingText library journal.binding) +
    valueSize (string (phaseText journal.phase)) + valueSize (bool journal.tenantCreated) +
    valueSize (bool journal.tenantKeyGenerated) +
    revisionSize journal.tenantReloadExpectedRevision + valueSize (bool journal.tenantReloaded) +
    revisionSize journal.tenantDisableExpectedRevision +
    valueSize (bool journal.tenantDisabled) +
    revisionSize journal.tenantFinalizeExpectedRevision +
    valueSize (bool journal.tenantCleanupComplete) +
    revisionSize journal.tenantAbsenceRevision +
    operationSize library journal.baselineEnumerate + operationSize library journal.apply +
    operationSize library journal.cleanupEnumerate +
    operationSize library journal.cleanupRevoke + operationSize library journal.terminalFailure +
    valueSize (bool journal.cleanupComplete) + valueSize (bool journal.manifestRemovalIntent) +
    valueSize (bool journal.manifestCleanupComplete) +
    valueSize (bool journal.proxyCleanupComplete) + suiteSize journal.suite +
    valueSize (dispositionText journal.suiteRetention)

/-- Two journals differ in size as their values do. -/
theorem journalSize_values (journal other : TenantResourceRecoveryJournal) :
    journalSize library journal + valuesSize library other =
      journalSize library other + valuesSize library journal := by
  unfold journalSize journalText
  rw [JsonText.size_object_eq, JsonText.size_object_eq]
  simp only [List.map_cons, List.map_nil, JsonText.blockSize_cons, JsonText.linesSize,
    Nat.reduceAdd]
  unfold valuesSize valueSize operationSize revisionSize suiteSize valueSize
  omega

/-- There is room for new values in place of old ones. -/
def Room (journal : TenantResourceRecoveryJournal) (new old : ℕ) : Prop :=
  journalSize library journal + new ≤ maxRecoveryJournalBytes + old

/-- The journal with the new values is no longer than the bound. -/
theorem size_within {journal after : TenantResourceRecoveryJournal} {new old : ℕ}
    (room : Room library journal new old)
    (values : valuesSize library after + old ≤ valuesSize library journal + new) :
    journalSize library after ≤ maxRecoveryJournalBytes := by
  have sizes := journalSize_values library after journal
  unfold Room at room
  omega

/-! ### The Suite -/

def idsSize (ids : List String) : ℕ := (array (ids.map string) 2).utf8ByteSize

/-- The sizes of all values of a Suite state. -/
def suiteValues (suite : SuiteRecoveryState) : ℕ :=
  (string suite.origin 2).utf8ByteSize + idsSize suite.planIds + idsSize suite.moduleIds +
    idsSize suite.pendingCreateIntents + valueSize (bool suite.cleanupComplete)

theorem suiteSize_values (suite other : SuiteRecoveryState) :
    suiteSize (some suite) + suiteValues other = suiteSize (some other) + suiteValues suite := by
  unfold suiteSize valueSize JsonText.optional suiteText
  rw [JsonText.size_object_eq, JsonText.size_object_eq]
  simp only [List.map_cons, List.map_nil, JsonText.blockSize_cons, JsonText.linesSize,
    Nat.reduceAdd]
  unfold suiteValues idsSize valueSize JsonText.bool
  omega

theorem linesSize_sublist {separator : ℕ} {few many : List ℕ} (sublist : few.Sublist many) :
    JsonText.linesSize separator few ≤ JsonText.linesSize separator many := by
  induction sublist with
  | slnil => exact Nat.le_refl _
  | @cons few many entry _ ih =>
    cases many with
    | nil =>
      have none : few = [] := List.sublist_nil.mp (by assumption)
      rw [none]
      exact Nat.zero_le _
    | cons next rest =>
      show _ ≤ entry + separator + JsonText.linesSize separator (next :: rest)
      omega
  | @cons_cons few many entry sublist ih =>
    cases few with
    | nil =>
      cases many with
      | nil => exact Nat.le_refl _
      | cons next rest =>
        show entry ≤ entry + separator + JsonText.linesSize separator (next :: rest)
        omega
    | cons first others =>
      cases many with
      | nil => cases sublist
      | cons next rest =>
        show entry + separator + JsonText.linesSize separator (first :: others) ≤
          entry + separator + JsonText.linesSize separator (next :: rest)
        omega

theorem idsSize_sublist {few many : List String} (sublist : few.Sublist many) :
    idsSize few ≤ idsSize many := by
  unfold idsSize
  rw [JsonText.size_array, JsonText.size_array]
  have sizes := @linesSize_sublist (2 * 2 + 4) _ _
    ((sublist.map string).map fun item : Printer => (item (2 + 1)).utf8ByteSize)
  unfold JsonText.blockSize
  by_cases none : many = []
  · rw [none] at sublist ⊢
    rw [List.sublist_nil.mp sublist]
  · rw [if_neg fun empty => none (List.map_eq_nil_iff.mp (List.map_eq_nil_iff.mp empty))]
    by_cases empty : ((few.map string).map fun item : Printer =>
        (item (2 + 1)).utf8ByteSize) = []
    · rw [if_pos empty]
      omega
    · rw [if_neg empty]
      omega

/-! ## Methods that fit -/

/-- The methods of a guard, and the two marks of its end. -/
inductive Move where
  | markTenantCreated
  | markTenantKeyGenerated
  | prepareTenantReload (revision : ℕ)
  | markTenantReloaded
  | prepareTenantDisable (revision : ℕ)
  | markTenantDisabled
  | prepareTenantFinalize (revision : ℕ)
  | markTenantCleanupComplete
  | resetFailedTenantCleanup (result : ControlResult)
  | markTenantAbsent (revision : ℕ)
  | markProxyCleanupComplete
  | recordTerminalCompletion (phase : TenantResourceRecoveryPhase)
      (operation : TenantResourceControlOperation)
  | beginSuiteCreate (origin intentId : String) (retain : Bool)
  | recordSuitePlan (origin intentId planId : String)
  | recordSuiteModule (intentId moduleId : String)
  | releaseDeletedSuitePlan (planId : String)
  | markSuiteCleanupComplete
  | prepareSuitePlanRetention (manifest : SuiteRetentionManifest) (path : Path)
  | intendRemoval
  | completeRemoval

def Move.mutation : Move → Mutation
  | .markTenantCreated => OidfGuard.markTenantCreated
  | .markTenantKeyGenerated => OidfGuard.markTenantKeyGenerated
  | .prepareTenantReload revision => OidfGuard.prepareTenantReload revision
  | .markTenantReloaded => OidfGuard.markTenantReloaded
  | .prepareTenantDisable revision => OidfGuard.prepareTenantDisable revision
  | .markTenantDisabled => OidfGuard.markTenantDisabled
  | .prepareTenantFinalize revision => OidfGuard.prepareTenantFinalize revision
  | .markTenantCleanupComplete => OidfGuard.markTenantCleanupComplete
  | .resetFailedTenantCleanup result => OidfGuard.resetFailedTenantCleanup result
  | .markTenantAbsent revision => OidfGuard.markTenantAbsent revision
  | .markProxyCleanupComplete => OidfGuard.markProxyCleanupComplete
  | .recordTerminalCompletion phase operation => OidfGuard.recordTerminalCompletion phase operation
  | .beginSuiteCreate origin intentId retain => OidfGuard.beginSuiteCreate origin intentId retain
  | .recordSuitePlan origin intentId planId => OidfGuard.recordSuitePlan origin intentId planId
  | .recordSuiteModule intentId moduleId => OidfGuard.recordSuiteModule intentId moduleId
  | .releaseDeletedSuitePlan planId => OidfGuard.releaseDeletedSuitePlan planId
  | .markSuiteCleanupComplete => OidfGuard.markSuiteCleanupComplete
  | .prepareSuitePlanRetention manifest path => OidfGuard.prepareSuitePlanRetention manifest path
  | .intendRemoval => JournalValidity.intendRemoval
  | .completeRemoval => JournalValidity.completeRemoval

/-- The operation that a journal has for a phase. -/
def recordedIn (journal : TenantResourceRecoveryJournal) :
    TenantResourceRecoveryPhase → Option TenantResourceControlOperation
  | .intent => none
  | .baselineEnumerated => journal.baselineEnumerate
  | .applied => journal.apply
  | .cleanupEnumerated => journal.cleanupEnumerate
  | .cleanupRevoked => journal.cleanupRevoke

/-- The journal with an operation in its place. -/
def placed (journal : TenantResourceRecoveryJournal) (phase : TenantResourceRecoveryPhase)
    (operation : TenantResourceControlOperation) : TenantResourceRecoveryJournal :=
  match phase with
  | .intent => journal
  | .baselineEnumerated => { journal with baselineEnumerate := some operation }
  | .applied => { journal with apply := some operation }
  | .cleanupEnumerated => { journal with cleanupEnumerate := some operation }
  | .cleanupRevoked => { journal with cleanupRevoke := some operation }

def FitsSuccess (journal : TenantResourceRecoveryJournal) (phase : TenantResourceRecoveryPhase)
    (operation : TenantResourceControlOperation) : Prop :=
  InOrder journal phase ∧ Room library journal
    (operationSize library (some operation) + valueSize (string (phaseText phase)) +
      valueSize (bool (tenantResourceObligationsComplete (placed journal phase operation))))
    (operationSize library (recordedIn journal phase) +
      valueSize (string (phaseText journal.phase)) + valueSize (bool journal.cleanupComplete))

def FitsFailure (journal : TenantResourceRecoveryJournal)
    (operation : TenantResourceControlOperation) : Prop :=
  journal.cleanupComplete = false ∧ Room library journal
    (operationSize library (some operation)) (operationSize library journal.terminalFailure)

/-- The Suite state stands in the journal also where the intent is refused. -/
def FitsCreate (journal : TenantResourceRecoveryJournal) (suite : SuiteRecoveryState)
    (origin intentId : String) (retain : Bool) : Prop :=
  match checkIntent suite origin intentId with
  | .error _ =>
    Room library journal (suiteSize (some suite) + valueSize (dispositionText (.active retain)))
      (suiteSize journal.suite + valueSize (dispositionText journal.suiteRetention))
  | .ok _ =>
    Room library journal
      (suiteSize (some suite) + idsSize (suite.pendingCreateIntents ++ [intentId]) +
        valueSize (dispositionText (.active retain)))
      (suiteSize journal.suite + idsSize suite.pendingCreateIntents +
        valueSize (dispositionText journal.suiteRetention))

def FitsPlan (journal : TenantResourceRecoveryJournal) (suite : SuiteRecoveryState)
    (origin intentId planId : String) : Prop :=
  match checkAllocation suite origin intentId with
  | .error _ => Room library journal (suiteSize (some suite)) (suiteSize journal.suite)
  | .ok _ =>
    (suite.planIds.length < maxSuiteRecoveryPlans ∨ planId ∈ suite.planIds) ∧
      Room library journal
        (suiteSize (some suite) + idsSize (recordId suite.planIds planId) +
          idsSize (suite.pendingCreateIntents.erase intentId))
        (suiteSize journal.suite + idsSize suite.planIds + idsSize suite.pendingCreateIntents)

def FitsModule (journal : TenantResourceRecoveryJournal) (suite : SuiteRecoveryState)
    (intentId moduleId : String) : Prop :=
  (suite.moduleIds.length < maxSuiteRecoveryModules ∨ moduleId ∈ suite.moduleIds) ∧
    Room library journal
      (idsSize (recordId suite.moduleIds moduleId) +
        idsSize (suite.pendingCreateIntents.erase intentId))
      (idsSize suite.moduleIds + idsSize suite.pendingCreateIntents)

def FitsRetention (journal : TenantResourceRecoveryJournal) (suite : SuiteRecoveryState)
    (manifest : SuiteRetentionManifest) (path : Path) : Prop :=
  ManifestPath journal.binding path ∧ Room library journal
    (valueSize (dispositionText (.retentionPrepared (preparedRecord library manifest path))) +
      idsSize [])
    (valueSize (dispositionText journal.suiteRetention) + idsSize suite.moduleIds)

/-- A method whose own check passes finds the room for what it records, the further plan or
module within the counts and the phase where it belongs. -/
def Fits (journal : TenantResourceRecoveryJournal) : Move → Prop
  | .prepareTenantReload revision =>
    journal.tenantKeyGenerated = true → journal.tenantReloadExpectedRevision = none →
      Room library journal (revisionSize (some revision)) (revisionSize none)
  | .prepareTenantDisable revision =>
    journal.tenantDisableExpectedRevision = none →
      journal.tenantCreated = true ∧ journal.tenantAbsenceRevision = none ∧
        Room library journal (revisionSize (some revision)) (revisionSize none)
  | .prepareTenantFinalize revision =>
    journal.tenantDisabled = true → journal.tenantFinalizeExpectedRevision = none →
      Room library journal (revisionSize (some revision)) (revisionSize none)
  | .resetFailedTenantCleanup result =>
    result.outcome = .failed → journal.tenantCleanupComplete = false →
      Room library journal
        (revisionSize none + operationSize library (withoutFailureOf journal result.operationId))
        (revisionSize (if journal.tenantDisabled = true then
            journal.tenantFinalizeExpectedRevision
          else journal.tenantDisableExpectedRevision) +
          operationSize library journal.terminalFailure)
  | .markTenantAbsent revision =>
    Room library journal
      (revisionSize (some revision) + operationSize library none + revisionSize none +
        valueSize (bool false) + revisionSize none + valueSize (bool true) +
        valueSize (bool true))
      (revisionSize journal.tenantAbsenceRevision +
        operationSize library journal.terminalFailure +
        revisionSize journal.tenantDisableExpectedRevision +
        valueSize (bool journal.tenantDisabled) +
        revisionSize journal.tenantFinalizeExpectedRevision +
        valueSize (bool journal.tenantCleanupComplete) +
        valueSize (bool journal.cleanupComplete))
  | .recordTerminalCompletion phase operation =>
    validateControlIdentity library operation = .ok () →
    match operation.result.outcome with
    | .succeeded => checkSucceeded library journal phase operation = .ok () →
      FitsSuccess library journal phase operation
    | .failed => checkFailed journal operation = .ok () → FitsFailure library journal operation
    | .inProgress => True
  | .beginSuiteCreate origin intentId retain =>
    ∀ parsed, checkCreate library journal origin intentId retain = .ok parsed →
      FitsCreate library journal (suiteOf journal parsed) parsed intentId retain
  | .recordSuitePlan origin intentId planId =>
    ∀ parsed, checkPlan library origin planId = .ok parsed →
      FitsPlan library journal (suiteOf journal parsed) parsed intentId planId
  | .recordSuiteModule intentId moduleId =>
    ValidComponent moduleId → ∀ suite ∈ journal.suite, suite.cleanupComplete = false →
      intentId ∈ suite.pendingCreateIntents → FitsModule library journal suite intentId moduleId
  | .releaseDeletedSuitePlan planId =>
    ValidComponent planId → ∀ suite ∈ journal.suite,
      suite.cleanupComplete = false ∧ suite.pendingCreateIntents = [] → planId ∈ suite.planIds →
      ∀ record, journal.suiteRetention ≠ .retentionPrepared record
  | .prepareSuitePlanRetention manifest path =>
    journal.suiteRetention = .active true → ∀ suite ∈ journal.suite,
      checkRetention library journal suite manifest = .ok () →
      FitsRetention library journal suite manifest path
  | _ => True

/-! ### What fits stays within the bound -/

section

variable {library} {journal : TenantResourceRecoveryJournal}

abbrev Within (library : Library) (journal : TenantResourceRecoveryJournal) : Prop :=
  journalSize library journal ≤ maxRecoveryJournalBytes

theorem within_checked {check : Library → TenantResourceRecoveryJournal → Except String Unit}
    {change : TenantResourceRecoveryJournal → TenantResourceRecoveryJournal}
    (within : Within library journal)
    (changed : check library journal = .ok () → Within library (change journal)) :
    Within library (checked check change library journal).2 := by
  unfold checked
  cases passed : check library journal with
  | error failure => exact within
  | ok u => exact changed passed

/-- No value has grown. -/
theorem within_shrunk {after : TenantResourceRecoveryJournal} (within : Within library journal)
    (values : valuesSize library after ≤ valuesSize library journal) : Within library after := by
  have room : Room library journal 0 0 := within
  exact size_within library room values

theorem size_true (value : Bool) : valueSize (bool true) ≤ valueSize (bool value) := by
  cases value with
  | true => exact Nat.le_refl _
  | false => exact (by decide : 4 ≤ 5)

theorem within_markTenantCreated (within : Within library journal) :
    Within library (markTenantCreated library journal).2 := by
  refine within_checked within fun _ => within_shrunk within ?_
  have := size_true journal.tenantCreated
  unfold valuesSize
  dsimp only
  omega

theorem within_markTenantKeyGenerated (within : Within library journal) :
    Within library (markTenantKeyGenerated library journal).2 := by
  refine within_checked within fun _ => within_shrunk within ?_
  have := size_true journal.tenantKeyGenerated
  unfold valuesSize
  dsimp only
  omega

theorem within_markTenantReloaded (within : Within library journal) :
    Within library (markTenantReloaded library journal).2 := by
  refine within_checked within fun _ => within_shrunk within ?_
  have := size_true journal.tenantReloaded
  unfold valuesSize
  dsimp only
  omega

theorem within_markTenantDisabled (within : Within library journal) :
    Within library (markTenantDisabled library journal).2 := by
  refine within_checked within fun _ => within_shrunk within ?_
  have := size_true journal.tenantDisabled
  unfold valuesSize
  dsimp only
  omega

theorem within_markTenantCleanupComplete (within : Within library journal) :
    Within library (markTenantCleanupComplete library journal).2 := by
  refine within_checked within fun _ => within_shrunk within ?_
  have := size_true journal.tenantCleanupComplete
  unfold valuesSize
  dsimp only
  omega

theorem within_markProxyCleanupComplete (within : Within library journal) :
    Within library (markProxyCleanupComplete library journal).2 := by
  refine within_checked within fun _ => within_shrunk within ?_
  have := size_true journal.proxyCleanupComplete
  unfold valuesSize
  dsimp only
  omega

theorem within_intendRemoval (within : Within library journal) :
    Within library (JournalValidity.intendRemoval library journal).2 := by
  refine within_checked within fun _ => within_shrunk within ?_
  have := size_true journal.cleanupComplete
  have := size_true journal.manifestRemovalIntent
  unfold valuesSize removalIntent
  dsimp only
  omega

theorem within_completeRemoval (within : Within library journal) :
    Within library (JournalValidity.completeRemoval library journal).2 := by
  refine within_checked within fun _ => within_shrunk within ?_
  have := size_true journal.manifestCleanupComplete
  unfold valuesSize removalDone
  dsimp only
  omega

/-- A revision that is recorded is the same one. -/
theorem revisionSize_checked {existing : Option ℕ} {revision : ℕ} {conflict : String}
    (passed : checkRevision existing revision conflict = .ok ()) (recorded : existing ≠ none) :
    existing = some revision := by
  obtain ⟨earlier, there⟩ := Option.ne_none_iff_exists'.mp recorded
  rw [there] at passed ⊢
  exact congrArg some (check_ok.mp passed earlier rfl)

theorem within_prepareTenantReload (revision : ℕ) (within : Within library journal)
    (fits : Fits library journal (.prepareTenantReload revision)) :
    Within library (prepareTenantReload revision library journal).2 := by
  refine within_checked within fun passed => ?_
  simp only [bind_ok, check_ok, exists_unit] at passed
  by_cases unrecorded : journal.tenantReloadExpectedRevision = none
  · refine size_within library (fits passed.1 unrecorded) ?_
    unfold valuesSize
    rw [unrecorded]
    dsimp only
    omega
  · have same := revisionSize_checked passed.2 unrecorded
    refine within_shrunk within ?_
    unfold valuesSize
    rw [same]

theorem within_prepareTenantDisable (revision : ℕ) (within : Within library journal)
    (fits : Fits library journal (.prepareTenantDisable revision)) :
    Within library (prepareTenantDisable revision library journal).2 := by
  refine within_checked within fun passed => ?_
  by_cases unrecorded : journal.tenantDisableExpectedRevision = none
  · refine size_within library (fits unrecorded).2.2 ?_
    unfold valuesSize
    rw [unrecorded]
    dsimp only
    omega
  · have same := revisionSize_checked passed unrecorded
    refine within_shrunk within ?_
    unfold valuesSize
    rw [same]

theorem within_prepareTenantFinalize (revision : ℕ) (within : Within library journal)
    (fits : Fits library journal (.prepareTenantFinalize revision)) :
    Within library (prepareTenantFinalize revision library journal).2 := by
  refine within_checked within fun passed => ?_
  simp only [bind_ok, check_ok, exists_unit] at passed
  by_cases unrecorded : journal.tenantFinalizeExpectedRevision = none
  · refine size_within library (fits passed.1 unrecorded) ?_
    unfold valuesSize
    rw [unrecorded]
    dsimp only
    omega
  · have same := revisionSize_checked passed.2 unrecorded
    refine within_shrunk within ?_
    unfold valuesSize
    rw [same]

theorem within_resetFailedTenantCleanup (result : ControlResult)
    (within : Within library journal)
    (fits : Fits library journal (.resetFailedTenantCleanup result)) :
    Within library (resetFailedTenantCleanup result library journal).2 := by
  refine within_checked within fun passed => ?_
  have passed := check_ok.mp passed
  have room := fits passed.1 passed.2
  by_cases disabled : journal.tenantDisabled = true
  · simp only [if_pos disabled] at room ⊢
    refine size_within library room ?_
    unfold valuesSize
    dsimp only
    omega
  · simp only [if_neg disabled] at room ⊢
    refine size_within library room ?_
    unfold valuesSize
    dsimp only
    omega

theorem within_markTenantAbsent (revision : ℕ) (within : Within library journal)
    (fits : Fits library journal (.markTenantAbsent revision)) :
    Within library (markTenantAbsent revision library journal).2 := by
  refine within_checked within fun _ => size_within library fits ?_
  unfold valuesSize
  dsimp only
  omega

theorem within_storeSucceeded {phase : TenantResourceRecoveryPhase}
    {operation : TenantResourceControlOperation} (within : Within library journal)
    (fits : FitsSuccess library journal phase operation) :
    Within library (storeSucceeded journal phase operation) := by
  cases phase with
  | intent => exact within
  | baselineEnumerated =>
    refine size_within library fits.2 ?_
    unfold valuesSize storeSucceeded recordedPhase recordedIn
    dsimp only
    have same : tenantResourceObligationsComplete
        { journal with baselineEnumerate := some operation, phase := .baselineEnumerated } =
      tenantResourceObligationsComplete (placed journal .baselineEnumerated operation) := rfl
    rw [same]
    omega
  | applied =>
    refine size_within library fits.2 ?_
    unfold valuesSize storeSucceeded recordedPhase recordedIn
    dsimp only
    have same : tenantResourceObligationsComplete
        { journal with apply := some operation, phase := .applied } =
      tenantResourceObligationsComplete (placed journal .applied operation) := rfl
    rw [same]
    omega
  | cleanupEnumerated =>
    refine size_within library fits.2 ?_
    unfold valuesSize storeSucceeded recordedPhase recordedIn
    dsimp only
    have same : tenantResourceObligationsComplete
        { journal with cleanupEnumerate := some operation, phase := .cleanupEnumerated } =
      tenantResourceObligationsComplete (placed journal .cleanupEnumerated operation) := rfl
    rw [same]
    omega
  | cleanupRevoked =>
    refine size_within library fits.2 ?_
    unfold valuesSize storeSucceeded recordedPhase recordedIn
    dsimp only
    have same : tenantResourceObligationsComplete
        { journal with cleanupRevoke := some operation, phase := .cleanupRevoked } =
      tenantResourceObligationsComplete (placed journal .cleanupRevoked operation) := rfl
    rw [same]
    omega

theorem within_recordTerminalCompletion (phase : TenantResourceRecoveryPhase)
    (operation : TenantResourceControlOperation) (within : Within library journal)
    (fits : Fits library journal (.recordTerminalCompletion phase operation)) :
    Within library (recordTerminalCompletion phase operation library journal).2 := by
  refine within_checked within fun passed => ?_
  unfold Fits at fits
  cases outcome : operation.result.outcome with
  | inProgress => exact within
  | failed =>
    simp only [outcome, bind_ok, exists_unit] at fits passed
    refine size_within library (fits passed.1 passed.2).2 ?_
    unfold valuesSize
    dsimp only
    omega
  | succeeded =>
    simp only [outcome, bind_ok, exists_unit] at fits passed
    exact within_storeSucceeded within (fits passed.1 passed.2)

/-! ### The Suite's part -/

theorem within_withSuite {suite : SuiteRecoveryState} {retention : SuiteRetentionDisposition}
    {new old : ℕ} (room : Room library journal new old)
    (values : suiteSize (some suite) + valueSize (dispositionText retention) + old ≤
      suiteSize journal.suite + valueSize (dispositionText journal.suiteRetention) + new) :
    Within library { withSuiteState journal suite with suiteRetention := retention } := by
  refine size_within library room ?_
  unfold valuesSize withSuiteState
  dsimp only
  omega

theorem withSuiteState_twice (journal : TenantResourceRecoveryJournal)
    (first second : SuiteRecoveryState) :
    withSuiteState (withSuiteState journal first) second = withSuiteState journal second := rfl

theorem within_suiteState {suite : SuiteRecoveryState} {new old : ℕ}
    (room : Room library journal new old)
    (values : suiteSize (some suite) + old ≤ suiteSize journal.suite + new) :
    Within library (withSuiteState journal suite) :=
  @within_withSuite library journal suite journal.suiteRetention new old room (by omega)

/-- The Suite state is replaced and the policy asked for. -/
theorem within_requested {suite : SuiteRecoveryState} {retain : Bool} {new old : ℕ}
    (room : Room library journal new old)
    (values : suiteSize (some suite) + valueSize (dispositionText (.active retain)) + old ≤
      suiteSize journal.suite + valueSize (dispositionText journal.suiteRetention) + new) :
    Within library (withSuiteState (requested journal retain) suite) :=
  @within_withSuite library journal suite (.active retain) new old room values

theorem intended_size (suite : SuiteRecoveryState) (intentId : String) :
    suiteSize (some { suite with
      pendingCreateIntents := suite.pendingCreateIntents ++ [intentId] }) +
      idsSize suite.pendingCreateIntents =
    suiteSize (some suite) + idsSize (suite.pendingCreateIntents ++ [intentId]) := by
  have sizes := suiteSize_values
    { suite with pendingCreateIntents := suite.pendingCreateIntents ++ [intentId] } suite
  unfold suiteValues at sizes
  dsimp only at sizes
  omega

theorem planned_size (suite : SuiteRecoveryState) (intentId : String) (planIds : List String) :
    suiteSize (some { resolved suite intentId with planIds }) +
      (idsSize suite.planIds + idsSize suite.pendingCreateIntents) =
    suiteSize (some suite) +
      (idsSize planIds + idsSize (suite.pendingCreateIntents.erase intentId)) := by
  have sizes := suiteSize_values { resolved suite intentId with planIds } suite
  unfold suiteValues resolved at sizes
  unfold resolved
  dsimp only at sizes ⊢
  omega

theorem moduled_size (suite : SuiteRecoveryState) (intentId : String) (moduleIds : List String) :
    suiteSize (some { resolved suite intentId with moduleIds }) +
      (idsSize suite.moduleIds + idsSize suite.pendingCreateIntents) =
    suiteSize (some suite) +
      (idsSize moduleIds + idsSize (suite.pendingCreateIntents.erase intentId)) := by
  have sizes := suiteSize_values { resolved suite intentId with moduleIds } suite
  unfold suiteValues resolved at sizes
  unfold resolved
  dsimp only at sizes ⊢
  omega

theorem within_beginSuiteCreate (origin intentId : String) (retain : Bool)
    (within : Within library journal)
    (fits : Fits library journal (.beginSuiteCreate origin intentId retain)) :
    Within library (beginSuiteCreate origin intentId retain library journal).2 := by
  unfold beginSuiteCreate
  cases asked : checkCreate library journal origin intentId retain with
  | error failure => exact within
  | ok parsed =>
    have room := fits parsed asked
    unfold FitsCreate at room
    dsimp only
    generalize suiteOf journal parsed = suite at room ⊢
    cases passed : checkIntent suite parsed intentId with
    | error failure =>
      rw [passed] at room
      show Within library (withSuiteState (requested journal retain) suite)
      exact within_requested room (by omega)
    | ok u =>
      rw [passed] at room
      have intended := intended_size suite intentId
      show Within library (withSuiteState (withSuiteState (requested journal retain) suite)
        { suite with pendingCreateIntents := suite.pendingCreateIntents ++ [intentId] })
      rw [withSuiteState_twice]
      exact within_requested room (by omega)

theorem within_recordSuitePlan (origin intentId planId : String) (within : Within library journal)
    (fits : Fits library journal (.recordSuitePlan origin intentId planId)) :
    Within library (recordSuitePlan origin intentId planId library journal).2 := by
  unfold recordSuitePlan
  cases asked : checkPlan library origin planId with
  | error failure => exact within
  | ok parsed =>
    have room := fits parsed asked
    unfold FitsPlan at room
    dsimp only
    generalize suiteOf journal parsed = suite at room ⊢
    cases passed : checkAllocation suite parsed intentId with
    | error failure =>
      rw [passed] at room
      show Within library (withSuiteState journal suite)
      exact within_suiteState room (by omega)
    | ok u =>
      rw [passed] at room
      have room := room.2
      have planned := planned_size suite intentId (recordId suite.planIds planId)
      show Within library (withSuiteState journal
        { resolved suite intentId with planIds := recordId suite.planIds planId })
      exact within_suiteState room (by omega)

theorem within_recordSuiteModule (intentId moduleId : String) (within : Within library journal)
    (fits : Fits library journal (.recordSuiteModule intentId moduleId)) :
    Within library (recordSuiteModule intentId moduleId library journal).2 := by
  unfold recordSuiteModule
  cases component : validateComponent moduleId "Suite module ID" with
  | error failure => exact within
  | ok u =>
    unfold onSuite
    cases present : journal.suite with
    | none => exact within
    | some suite =>
      dsimp only
      split
      · exact within
      · rename_i passed
        simp only [bind_ok, check_ok, exists_unit] at passed
        have room := (fits (check_ok.mp component) suite present passed.1 passed.2).2
        have moduled := moduled_size suite intentId (recordId suite.moduleIds moduleId)
        show Within library (withSuiteState journal
          { resolved suite intentId with moduleIds := recordId suite.moduleIds moduleId })
        refine within_suiteState room ?_
        rw [present]
        omega

/-- A Suite state without some of its ids. -/
theorem within_smallerSuite {suite smaller : SuiteRecoveryState}
    {retention : SuiteRetentionDisposition} (within : Within library journal)
    (present : journal.suite = some suite) (values : suiteValues smaller ≤ suiteValues suite)
    (disposition : valueSize (dispositionText retention) ≤
      valueSize (dispositionText journal.suiteRetention)) :
    Within library { withSuiteState journal smaller with suiteRetention := retention } := by
  have room : Room library journal 0 0 := within
  refine within_withSuite room ?_
  have sizes := suiteSize_values smaller suite
  rw [present]
  omega

theorem idsSize_nil (ids : List String) : idsSize [] ≤ idsSize ids :=
  idsSize_sublist (List.nil_sublist ids)

theorem within_releaseDeletedSuitePlan (planId : String) (within : Within library journal) :
    Within library (releaseDeletedSuitePlan planId library journal).2 := by
  unfold releaseDeletedSuitePlan
  cases validateComponent planId "Suite plan ID" with
  | error failure => exact within
  | ok u =>
    unfold onSuite
    cases present : journal.suite with
    | none => exact within
    | some suite =>
      dsimp only
      split
      · exact within
      · refine within_smallerSuite within present ?_ (Nat.le_refl _)
        have := idsSize_sublist (List.erase_sublist (a := planId) (l := suite.planIds))
        unfold suiteValues
        dsimp only
        omega

theorem cleaned_size (disposition : SuiteRetentionDisposition)
    (unsettled : unsettledDisposition disposition ≠ false) :
    valueSize (dispositionText .cleaned) ≤ valueSize (dispositionText disposition) := by
  have cleaned : valueSize (dispositionText .cleaned) = 34 := by decide
  cases disposition with
  | active requested =>
    cases requested with
    | true => exact (by decide : valueSize (dispositionText .cleaned) ≤
        valueSize (dispositionText (.active true)))
    | false => exact (by decide : valueSize (dispositionText .cleaned) ≤
        valueSize (dispositionText (.active false)))
  | retentionPrepared record =>
    unfold valueSize dispositionText
    rw [JsonText.size_object_eq, JsonText.size_object_eq]
    simp only [List.map_cons, List.map_nil, JsonText.blockSize_cons, JsonText.linesSize]
    have short : (string "cleaned" (1 + 1)).utf8ByteSize = 9 := by decide
    have long : (string "retention-prepared" (1 + 1)).utf8ByteSize = 20 := by decide
    omega
  | retained record => exact absurd rfl unsettled
  | cleaned => exact absurd rfl unsettled

theorem retained_size (record : SuiteRetentionRecord) :
    valueSize (dispositionText (.retained record)) ≤
      valueSize (dispositionText (.retentionPrepared record)) := by
  unfold valueSize dispositionText
  rw [JsonText.size_object_eq, JsonText.size_object_eq]
  simp only [List.map_cons, List.map_nil, JsonText.blockSize_cons, JsonText.linesSize]
  have short : (string "retained" (1 + 1)).utf8ByteSize = 10 := by decide
  have long : (string "retention-prepared" (1 + 1)).utf8ByteSize = 20 := by decide
  omega

theorem within_markSuiteCleanupComplete (within : Within library journal) :
    Within library (markSuiteCleanupComplete library journal).2 := by
  unfold markSuiteCleanupComplete
  by_cases settled : unsettledDisposition journal.suiteRetention = false
  · rw [if_pos settled]
    exact within
  · rw [if_neg settled]
    cases present : journal.suite with
    | none => exact within
    | some suite =>
      dsimp only
      by_cases pending : suite.pendingCreateIntents ≠ []
      · rw [if_pos pending]
        exact within
      · rw [if_neg pending]
        refine within_smallerSuite within present ?_ (cleaned_size _ settled)
        have := idsSize_nil suite.planIds
        have := idsSize_nil suite.moduleIds
        have := size_true suite.cleanupComplete
        unfold suiteValues cleanedSuite
        dsimp only
        omega

theorem within_prepareSuitePlanRetention (manifest : SuiteRetentionManifest) (path : Path)
    (within : Within library journal)
    (fits : Fits library journal (.prepareSuitePlanRetention manifest path)) :
    Within library (prepareSuitePlanRetention manifest path library journal).2 := by
  unfold prepareSuitePlanRetention
  by_cases unrequested : journal.suiteRetention ≠ .active true
  · rw [if_pos unrequested]
    exact within
  · rw [if_neg unrequested]
    cases present : journal.suite with
    | none => exact within
    | some suite =>
      dsimp only
      cases passed : checkRetention library journal suite manifest with
      | error failure => exact within
      | ok u =>
        refine within_withSuite (fits (not_not.mp unrequested) suite present passed).2 ?_
        have sizes := suiteSize_values { suite with moduleIds := [] } suite
        have := idsSize_nil suite.moduleIds
        unfold suiteValues at sizes
        rw [present]
        dsimp only at sizes ⊢
        omega

theorem within_commitRetention {after : TenantResourceRecoveryJournal}
    (within : Within library journal) (committed : commitRetention journal = .ok after) :
    Within library after := by
  obtain ⟨record, suite, prepared, present, rfl⟩ := commitRetention_ok committed
  refine within_smallerSuite within present ?_ ?_
  · have := idsSize_nil suite.planIds
    have := idsSize_nil suite.moduleIds
    unfold suiteValues
    dsimp only
    omega
  · rw [prepared]
    exact retained_size record

end

end

/-! ## What every method of a guard keeps -/

section

variable {library} {deploymentId : String} {journal : TenantResourceRecoveryJournal}

theorem move_within (move : Move) (within : Within library journal)
    (fits : Fits library journal move) :
    Within library (move.mutation library journal).2 := by
  cases move with
  | markTenantCreated => exact within_markTenantCreated within
  | markTenantKeyGenerated => exact within_markTenantKeyGenerated within
  | prepareTenantReload revision => exact within_prepareTenantReload revision within fits
  | markTenantReloaded => exact within_markTenantReloaded within
  | prepareTenantDisable revision => exact within_prepareTenantDisable revision within fits
  | markTenantDisabled => exact within_markTenantDisabled within
  | prepareTenantFinalize revision => exact within_prepareTenantFinalize revision within fits
  | markTenantCleanupComplete => exact within_markTenantCleanupComplete within
  | resetFailedTenantCleanup result => exact within_resetFailedTenantCleanup result within fits
  | markTenantAbsent revision => exact within_markTenantAbsent revision within fits
  | markProxyCleanupComplete => exact within_markProxyCleanupComplete within
  | recordTerminalCompletion phase operation =>
    exact within_recordTerminalCompletion phase operation within fits
  | beginSuiteCreate origin intentId retain =>
    exact within_beginSuiteCreate origin intentId retain within fits
  | recordSuitePlan origin intentId planId =>
    exact within_recordSuitePlan origin intentId planId within fits
  | recordSuiteModule intentId moduleId =>
    exact within_recordSuiteModule intentId moduleId within fits
  | releaseDeletedSuitePlan planId => exact within_releaseDeletedSuitePlan planId within
  | markSuiteCleanupComplete => exact within_markSuiteCleanupComplete within
  | prepareSuitePlanRetention manifest path =>
    exact within_prepareSuitePlanRetention manifest path within fits
  | intendRemoval => exact within_intendRemoval within
  | completeRemoval => exact within_completeRemoval within

theorem fits_ordered {phase : TenantResourceRecoveryPhase}
    {operation : TenantResourceControlOperation}
    (fits : Fits library journal (.recordTerminalCompletion phase operation))
    (identified : validateControlIdentity library operation = .ok ())
    (outcome : operation.result.outcome = .succeeded)
    (passed : checkSucceeded library journal phase operation = .ok ()) :
    InOrder journal phase := by
  unfold Fits at fits
  simp only [outcome] at fits
  exact (fits identified passed).1

theorem fits_open {phase : TenantResourceRecoveryPhase}
    {operation : TenantResourceControlOperation}
    (fits : Fits library journal (.recordTerminalCompletion phase operation))
    (identified : validateControlIdentity library operation = .ok ())
    (outcome : operation.result.outcome = .failed)
    (passed : checkFailed journal operation = .ok ()) : journal.cleanupComplete = false := by
  unfold Fits at fits
  simp only [outcome] at fits
  exact (fits identified passed).1

theorem fits_plan {origin intentId planId parsed : String}
    (fits : Fits library journal (.recordSuitePlan origin intentId planId))
    (asked : checkPlan library origin planId = .ok parsed)
    (passed : checkAllocation (suiteOf journal parsed) parsed intentId = .ok ()) :
    (suiteOf journal parsed).planIds.length < maxSuiteRecoveryPlans ∨
      planId ∈ (suiteOf journal parsed).planIds := by
  have room := fits parsed asked
  unfold FitsPlan at room
  rw [passed] at room
  exact room.1

theorem move_valid (canonical : Canonical library) (move : Move)
    (valid : Valid library deploymentId journal) (fits : Fits library journal move) :
    Valid library deploymentId (move.mutation library journal).2 := by
  cases move with
  | markTenantCreated => exact valid_markTenantCreated valid
  | markTenantKeyGenerated => exact valid_markTenantKeyGenerated valid
  | prepareTenantReload revision => exact valid_prepareTenantReload revision valid
  | markTenantReloaded => exact valid_markTenantReloaded valid
  | prepareTenantDisable revision =>
    exact valid_prepareTenantDisable revision valid fun unrecorded =>
      ⟨(fits unrecorded).1, (fits unrecorded).2.1⟩
  | markTenantDisabled => exact valid_markTenantDisabled valid
  | prepareTenantFinalize revision => exact valid_prepareTenantFinalize revision valid
  | markTenantCleanupComplete => exact valid_markTenantCleanupComplete valid
  | resetFailedTenantCleanup result => exact valid_resetFailedTenantCleanup result valid
  | markTenantAbsent revision => exact valid_markTenantAbsent revision valid
  | markProxyCleanupComplete => exact valid_markProxyCleanupComplete valid
  | recordTerminalCompletion phase operation =>
    by_cases identified : validateControlIdentity library operation = .ok ()
    · exact valid_recordTerminalCompletion phase operation valid (fits_ordered fits identified)
        (fits_open fits identified)
    · refine valid_checked valid fun passed => ?_
      simp only [bind_ok, exists_unit] at passed
      exact absurd passed.1 identified
  | beginSuiteCreate origin intentId retain =>
    exact valid_beginSuiteCreate canonical origin intentId retain valid
  | recordSuitePlan origin intentId planId =>
    exact valid_recordSuitePlan canonical origin intentId planId valid fun _ => fits_plan fits
  | recordSuiteModule intentId moduleId =>
    exact valid_recordSuiteModule intentId moduleId valid fun component suite present clean pending =>
      (fits component suite present clean pending).1
  | releaseDeletedSuitePlan planId => exact valid_releaseDeletedSuitePlan planId valid fits
  | markSuiteCleanupComplete => exact valid_markSuiteCleanupComplete valid
  | prepareSuitePlanRetention manifest path =>
    exact valid_prepareSuitePlanRetention manifest path valid fun active suite present passed =>
      (fits active suite present passed).1
  | intendRemoval => exact valid_intendRemoval valid
  | completeRemoval => exact valid_completeRemoval valid

theorem onSuite_binding (missing : String) (check : SuiteRecoveryState → Except String Unit)
    (change : SuiteRecoveryState → SuiteRecoveryState) :
    (onSuite missing check change library journal).2.binding = journal.binding := by
  unfold onSuite
  cases journal.suite with
  | none => rfl
  | some suite =>
    dsimp only
    split
    · rfl
    · rfl

/-- A guard stays with its run. -/
theorem move_binding (move : Move) :
    (move.mutation library journal).2.binding = journal.binding := by
  cases move with
  | markTenantCreated => exact (suiteKept_markTenantCreated _ _).binding
  | markTenantKeyGenerated => exact (suiteKept_markTenantKeyGenerated _ _).binding
  | prepareTenantReload revision => exact (suiteKept_prepareTenantReload revision _ _).binding
  | markTenantReloaded => exact (suiteKept_markTenantReloaded _ _).binding
  | prepareTenantDisable revision => exact (suiteKept_prepareTenantDisable revision _ _).binding
  | markTenantDisabled => exact (suiteKept_markTenantDisabled _ _).binding
  | prepareTenantFinalize revision => exact (suiteKept_prepareTenantFinalize revision _ _).binding
  | markTenantCleanupComplete => exact (suiteKept_markTenantCleanupComplete _ _).binding
  | resetFailedTenantCleanup result =>
    exact (suiteKept_resetFailedTenantCleanup result _ _).binding
  | markTenantAbsent revision => exact (suiteKept_markTenantAbsent revision _ _).binding
  | markProxyCleanupComplete => exact (suiteKept_markProxyCleanupComplete _ _).binding
  | recordTerminalCompletion phase operation =>
    exact (suiteKept_recordTerminalCompletion phase operation _ _).binding
  | intendRemoval =>
    have kept : SuiteKept JournalValidity.intendRemoval :=
      suiteKept_checked fun journal => ⟨rfl, rfl, rfl⟩
    exact (kept _ _).binding
  | completeRemoval =>
    have kept : SuiteKept JournalValidity.completeRemoval :=
      suiteKept_checked fun journal => ⟨rfl, rfl, rfl⟩
    exact (kept _ _).binding
  | beginSuiteCreate origin intentId retain =>
    unfold Move.mutation beginSuiteCreate
    dsimp only
    split
    · rfl
    · split
      · rfl
      · rfl
  | recordSuitePlan origin intentId planId =>
    unfold Move.mutation recordSuitePlan
    dsimp only
    split
    · rfl
    · split
      · rfl
      · rfl
  | recordSuiteModule intentId moduleId =>
    unfold Move.mutation recordSuiteModule
    dsimp only
    split
    · rfl
    · exact onSuite_binding _ _ _
  | releaseDeletedSuitePlan planId =>
    unfold Move.mutation releaseDeletedSuitePlan
    dsimp only
    split
    · rfl
    · exact onSuite_binding _ _ _
  | markSuiteCleanupComplete =>
    unfold Move.mutation markSuiteCleanupComplete
    dsimp only
    split
    · rfl
    · split
      · rfl
      · split
        · rfl
        · rfl
  | prepareSuitePlanRetention manifest path =>
    unfold Move.mutation prepareSuitePlanRetention
    dsimp only
    split
    · rfl
    · split
      · rfl
      · split
        · rfl
        · rfl

end

end NazoAuthCtl.JournalGrowth
