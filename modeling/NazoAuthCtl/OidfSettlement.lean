import NazoAuthCtl.OidfPrepare
import NazoAuthCtl.OidfRecover

/-!
# The settlement of an ordinary run

After the Suite has run, the same process decides whether its plans are retained, removes
the tenant, moves the plans to a manifest or deletes them, and reports. The report of the
Suite's run and the writer of the evidence are inputs.
-/

set_option autoImplicit false
set_option linter.all false

namespace NazoAuthCtl.OidfSettlement

open FaultProgram OidfJournal OidfGuard OidfSession OidfPrepare OidfRecover

/-- What the settlement reads of the report of a Suite's run. -/
structure RunReport where
  suiteOrigin : String
  errors : List String
  retainedSuitePlanIds : List String
  plans : List PlanReport
  deferredReviews : List SuiteRetentionDeferredReview
  allModulesInstantiated : Bool
  allModulesSettled : Bool
  cleanupComplete : Bool
  retentionEligible : Bool
  retentionCandidateSettled : Bool
  retentionCommitted : Bool
  suiteResourcesSettled : Bool
  localSuccess : Bool
  acceptable : Bool
  deriving DecidableEq, Repr

structure Settling where
  session : ConformanceSession
  suiteOrigin : String
  artifactDigest : String
  matrixSha256 : String
  evidenceDirectory : List String
  userCancelled : Bool
  run : Except String RunReport
  writeEvidence : RunReport → List TenantResourceControlOperation → Recovering Unit

structure FinalOutput where
  success : Bool
  errors : List String
  report : Option RunReport
  retention : Option SuiteRetentionManifestReceipt
  cleanupComplete : Bool
  deriving DecidableEq, Repr

variable (s : Settling)

def retainedPlan (library : Library) (retained : List String) (plan : PlanReport) :
    Option SuiteRetentionPlan :=
  match plan.suitePlanId with
  | none => none
  | some suitePlanId =>
    if suitePlanId ∈ retained then
      some ⟨plan.matrixPlanId, suitePlanId, plan.planName,
        planAliasSha256 library plan.matrixPlanId⟩
    else none

/-- `suite_retention_manifest`. -/
def suiteRetentionManifest (library : Library) (binding : TenantResourceRecoveryBinding)
    (report : RunReport) : Except String SuiteRetentionManifest :=
  let retained := report.retainedSuitePlanIds
  if retained = [] then .error "retained report has no Suite plan IDs"
  else .ok
    { schema := 2
      suiteOrigin := report.suiteOrigin
      artifactDigest := s.artifactDigest
      matrixSha256 := s.matrixSha256
      deploymentId := binding.deploymentId
      tenantId := binding.tenantId
      runId := binding.runId
      reviewScreenshotManifest := none
      deferredReviewPending := report.deferredReviews.filter (·.suitePlanId ∈ retained)
      plans := report.plans.filterMap (retainedPlan library retained) }

def suiteRetentionManifestPath (manifest : SuiteRetentionManifest) : Path where
  absolute := true
  components := s.evidenceDirectory ++ ["retained-suite-" ++ manifest.runId ++ ".json"]

def prepareRetention (report : RunReport) : Recovering Unit := do
  let w ← Program.get
  let library ← library
  let manifest ← Program.ofExcept
    (suiteRetentionManifest s library w.guard.journal.binding report)
  method (prepareSuitePlanRetention manifest (suiteRetentionManifestPath s manifest))

def Settling.opening : List String :=
  if s.userCancelled = true then ["run=interrupted by Ctrl+C"] else []

def Settling.reports (flag : RunReport → Bool) : Bool :=
  match s.run with
  | .ok report => flag report
  | .error _ => false

/-- Whether retention is still possible, and the errors so far. -/
def settleRetention (eligible : Bool) : Recovering (Bool × List String) :=
  match s.run with
  | .error _ => pure (eligible, s.opening)
  | .ok report =>
    if eligible = true then do
      let prepared ← Program.attempt (prepareRetention s report)
      match prepared with
      | .ok _ => pure (true, s.opening)
      | .error failure => pure (false, s.opening ++ ["suite-retention-prepare=" ++ failure])
    else pure (false, s.opening)

def settleSuite : Recovering (Bool × List String) :=
  let eligible := !s.userCancelled && s.reports (·.retentionEligible)
  if s.reports (·.cleanupComplete) = true then do
    method markSuiteCleanupComplete
    pure (eligible, s.opening)
  else settleRetention s eligible

def settleProxy : Recovering Unit := do
  let w ← Program.get
  Program.onlyIf (w.guard.journal.proxyCleanupComplete = false) (method markProxyCleanupComplete)

def runErrors : List String :=
  match s.run with
  | .ok _ => []
  | .error failure => if s.userCancelled = true then [] else ["run=" ++ failure]

def cleanupErrors : Except String (List TenantResourceControlOperation) → List String
  | .ok _ => []
  | .error failure => ["resource-cleanup=" ++ failure]

def transferPlans : Recovering Unit := do
  stageSuiteRetentionManifest
  commitSuitePlanRetention
  publishCommittedSuiteRetentionManifest

/-- What follows a failed transfer. Only a prepared retention falls back to deletion. -/
def fallBack : Recovering Unit := do
  let w ← Program.get
  Program.onlyIf (suiteRetentionCommitted w.guard.journal = false ∧
    w.guard.retentionCommitResolution ≠ .ambiguous) (cleanupUnretainedSuite s.suiteOrigin)

/-- Whether the plans are retained, and the errors so far. -/
def settlePlans (possible : Bool) (errors : List String) : Recovering (Bool × List String) :=
  if possible = true then do
    let transferred ← Program.attempt transferPlans
    match transferred with
    | .ok _ => pure (true, errors)
    | .error failure => do
      fallBack s
      pure (false, errors ++ ["suite-retention=" ++ failure])
  else do
    cleanupUnretainedSuite s.suiteOrigin
    pure (false, errors)

def startsWith (start text : String) : Bool := start.toList.isPrefixOf text.toList

/-- The publication is tried once more. -/
def retryPublication (committed : Bool) (errors : List String) :
    Recovering (Bool × List String) := do
  let w ← Program.get
  if committed = false ∧ suiteRetentionCommitted w.guard.journal = true then do
    let published ← Program.attempt publishCommittedSuiteRetentionManifest
    match published with
    | .ok _ => pure (true, errors.filter (!startsWith "suite-retention=" ·))
    | .error failure => pure (committed, errors ++ ["suite-retention-retry=" ++ failure])
  else pure (committed, errors)

def cancelledReport (report : RunReport) : RunReport :=
  if s.userCancelled = true then { report with errors := [], retainedSuitePlanIds := [] }
  else report

def hasManifest (journal : TenantResourceRecoveryJournal) : Bool :=
  match journal.suiteRetention with
  | .retentionPrepared _ | .retained _ => true
  | _ => false

def settledReport (journal : TenantResourceRecoveryJournal) (eligible committed : Bool)
    (errors : List String) (report : RunReport) : RunReport :=
  let settled := suiteResourcesSettled journal
  let retained := suiteRetentionCommitted journal
  let allErrors := report.errors ++ errors.filter (startsWith "suite-retention")
  { report with
    retentionEligible := eligible
    retentionCandidateSettled := eligible && (retained || hasManifest journal)
    retentionCommitted := retained
    suiteResourcesSettled := settled
    cleanupComplete := !retained && !committed && settled
    errors := allErrors
    localSuccess := decide (allErrors = []) && report.allModulesInstantiated &&
      report.allModulesSettled && settled }

def writeEvidence (report : Option RunReport)
    (cleanup : Except String (List TenantResourceControlOperation)) :
    Recovering (List String) :=
  match report, cleanup with
  | some report, .ok operations => do
    let written ← Program.attempt (s.writeEvidence report operations)
    match written with
    | .ok _ => pure []
    | .error failure => pure ["evidence=" ++ failure]
  | _, _ => pure []

def receiptIf (committed : Bool) : Recovering (Option SuiteRetentionManifestReceipt) :=
  if committed = true then suiteRetentionManifestReceipt else pure none

def finishIf (cleanupComplete : Bool) : Recovering (List String) := do
  let w ← Program.get
  if cleanupComplete = true ∧ suiteResourcesSettled w.guard.journal = true then do
    let finished ← Program.attempt finish
    match finished with
    | .ok _ => pure []
    | .error failure => pure ["recovery-finish=" ++ failure]
  else pure []

def finalOutput (report : Option RunReport) (retention : Option SuiteRetentionManifestReceipt)
    (cleanupComplete : Bool) (errors : List String) : FinalOutput where
  success := decide (errors = []) &&
    report.any fun report => report.localSuccess && report.acceptable
  errors
  report
  retention
  cleanupComplete

/-- From the decision about the plans to the final report. -/
def concludeRun (eligible : Bool) (errors : List String)
    (cleanup : Except String (List TenantResourceControlOperation)) : Recovering FinalOutput := do
  let plans ← settlePlans s (eligible && cleanup.toOption.isSome) errors
  let published ← retryPublication plans.1 plans.2
  let w ← Program.get
  let report := s.run.toOption.map fun report =>
    settledReport w.guard.journal eligible published.1 published.2 (cancelledReport s report)
  let evidence ← writeEvidence s report cleanup
  let retention ← receiptIf published.1
  let finished ← finishIf cleanup.toOption.isSome
  pure (finalOutput report retention cleanup.toOption.isSome
    (published.2 ++ evidence ++ finished))

/-- The settlement of a run. A result is the final report, an error an early return. -/
def settle : Recovering FinalOutput := do
  let suite ← settleSuite s
  settleProxy
  let cleanup ← Program.attempt (cleanupRunResources s.session)
  concludeRun s suite.1 (suite.2 ++ runErrors s ++ cleanupErrors cleanup) cleanup

end NazoAuthCtl.OidfSettlement
