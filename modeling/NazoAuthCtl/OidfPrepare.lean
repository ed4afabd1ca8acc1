import Mathlib.Data.String.Basic
import NazoAuthCtl.OidfSession
import NazoAuthCtl.SortedMap

/-!
# The plans of a run on the Suite

Every selected plan is created on the Suite, and its modules are listed, before a module is
started. An intent is recorded before each request, and the id of the answer replaces it.
-/

set_option autoImplicit false
set_option linter.all false

namespace NazoAuthCtl.OidfPrepare

open FaultProgram OidfJournal OidfGuard OidfSession

/-! ## The state of the first phase -/

inductive GroupStatus where
  | passed
  | review
  | warning
  | skipped
  | failed
  | incomplete
  | running
  | remaining
  deriving DecidableEq, Repr

structure GroupProgress where
  id : String
  profile : String
  completed : ℕ
  total : ℕ
  status : GroupStatus
  passed : ℕ
  reviewed : ℕ
  warnings : ℕ
  skipped : ℕ
  failed : ℕ
  incomplete : ℕ
  running : ℕ
  remaining : ℕ
  deriving DecidableEq, Repr

structure PlanReport where
  matrixPlanId : String
  suitePlanId : Option String
  planName : String
  definedModules : ℕ
  createdInstances : ℕ
  deriving DecidableEq, Repr

structure MatrixPlan where
  id : String
  plan : String
  variant : List (String × String)
  expectedResults : List (String × String)
  deriving DecidableEq, Repr

structure MatrixGroup where
  id : String
  profile : String
  variant : List (String × String)
  plans : List MatrixPlan
  deriving DecidableEq, Repr

def MatrixGroup.effectiveVariant (group : MatrixGroup) (plan : MatrixPlan) :
    List (String × String) :=
  SortedMap.insertAll group.variant plan.variant

structure PlannedPlan where
  groupIndex : ℕ
  matrixPlanId : String
  suitePlanId : String
  planName : String
  variant : List (String × String)
  expectedResults : List (String × String)
  modules : List ModuleDefinition
  reportIndex : ℕ
  deriving DecidableEq, Repr

structure PreparedRun where
  groups : List GroupProgress
  plans : List PlanReport
  planned : List PlannedPlan
  suitePlanIds : List String
  errors : List String
  unknownDeclaredSkipModules : List String
  matrixExpectationsSatisfied : Bool
  enumeratedPlanCount : ℕ
  observedModules : ℕ
  deriving DecidableEq, Repr

def openGroup (group : MatrixGroup) : GroupProgress where
  id := group.id
  profile := group.profile
  completed := 0
  total := 0
  status := .remaining
  passed := 0
  reviewed := 0
  warnings := 0
  skipped := 0
  failed := 0
  incomplete := 0
  running := 0
  remaining := 0

def PreparedRun.initial (groups : List MatrixGroup) : PreparedRun where
  groups := groups.map openGroup
  plans := []
  planned := []
  suitePlanIds := []
  errors := []
  unknownDeclaredSkipModules := []
  matrixExpectationsSatisfied := true
  enumeratedPlanCount := 0
  observedModules := 0

def PreparedRun.push (prepared : PreparedRun) (errors : List String) : PreparedRun :=
  { prepared with errors := prepared.errors ++ errors }

def PreparedRun.modifyGroup (prepared : PreparedRun) (index : ℕ)
    (change : GroupProgress → GroupProgress) : PreparedRun :=
  { prepared with groups := prepared.groups.modify index change }

def GroupProgress.fail (group : GroupProgress) : GroupProgress := { group with status := .failed }

def PreparedRun.fail (prepared : PreparedRun) (index : ℕ) (errors : List String) : PreparedRun :=
  (prepared.push errors).modifyGroup index GroupProgress.fail

/-! ## The observer -/

structure SuiteResourceObserver where
  retainSuitePlansForCertification : Bool
  retainFailedSuitePlansForDiagnosis : Bool
  planCreateIntent : String → Recovering Unit
  planCreated : String → String → Recovering Unit
  moduleCreateIntent : String → Recovering Unit
  moduleCreated : String → String → Recovering Unit
  planDeleted : String → Recovering Unit

def prefixed {α : Type} (text : String) (p : Recovering α) : Recovering α := do
  let result ← Program.attempt p
  match result with
  | .ok value => pure value
  | .error failure => Program.throw (text ++ failure)

def durableSuiteObserver (origin : String) (retainSuitePlans : Bool) : SuiteResourceObserver where
  retainSuitePlansForCertification := retainSuitePlans
  retainFailedSuitePlansForDiagnosis := retainSuitePlans
  planCreateIntent intentId := prefixed "failed to persist Suite plan create intent: "
    (method (beginSuiteCreate origin intentId true))
  planCreated intentId planId := prefixed "failed to persist Suite plan allocation: "
    (method (recordSuitePlan origin intentId planId))
  moduleCreateIntent intentId := prefixed "failed to persist Suite module create intent: "
    (method (beginSuiteCreate origin intentId true))
  moduleCreated intentId moduleId := prefixed "failed to persist Suite module allocation: "
    (method (recordSuiteModule intentId moduleId))
  planDeleted planId := prefixed "failed to release deleted Suite plan: "
    (method (releaseDeletedSuitePlan planId))

/-! ## A created plan -/

def compactMap (entries : List (String × String)) : String :=
  "\x7b" ++ ",".intercalate
    (entries.map fun entry => JsonText.quoted entry.1 ++ ":" ++ JsonText.quoted entry.2) ++ "\x7d"

def definitionIdentity (matrixPlanId : String) (module : ModuleDefinition) : String :=
  if module.variant = [] then matrixPlanId ++ "/" ++ module.testName
  else matrixPlanId ++ "/" ++ module.testName ++ "?variant=" ++ compactMap module.variant

/-- The definitions that repeat an earlier one. -/
def duplicateDefinitions : List ModuleDefinition → List ModuleDefinition → List ModuleDefinition
  | _, [] => []
  | before, module :: rest =>
    (if module ∈ before then [module] else []) ++ duplicateDefinitions (module :: before) rest

/-- The expected results whose test the plan does not define exactly once. -/
def unknownExpected (plan : MatrixPlan) (created : PlanCreated) : List String :=
  ((plan.expectedResults.map (·.1)).filter fun testName =>
    (created.modules.map (·.testName)).count testName ≠ 1).map fun testName =>
      plan.id ++ "/" ++ testName

def unknownExpectedError (identity : String) : String :=
  "bundled Matrix expected SKIPPED module is not uniquely defined by Suite plan: " ++ identity

def duplicateError (identity : String) : String :=
  "Suite plan defines an exact duplicate module definition: " ++ identity

def maxU32 : ℕ := 4294967295

/-- A module count that the budget of the run does not cover. -/
def overBudget (budget observed : ℕ) (created : PlanCreated) : Prop :=
  maxU32 < observed + created.modules.length ∨ budget < observed + created.modules.length

instance (budget observed : ℕ) (created : PlanCreated) :
    Decidable (overBudget budget observed created) :=
  inferInstanceAs (Decidable (_ ∨ _))

def definitionErrors (budget observed : ℕ) (plan : MatrixPlan) (created : PlanCreated) :
    List String :=
  (unknownExpected plan created).map unknownExpectedError ++
    (if overBudget budget observed created then
      ["Suite module allocation exceeds the artifact-wide resource bound"] else []) ++
    ((duplicateDefinitions [] created.modules).map fun module =>
      duplicateError (definitionIdentity plan.id module))

def countedGroup (created : PlanCreated) (group : GroupProgress) : GroupProgress :=
  { group with
    total := group.total + created.modules.length
    remaining := group.remaining + created.modules.length }

def planReport (plan : MatrixPlan) (created : PlanCreated) : PlanReport where
  matrixPlanId := plan.id
  suitePlanId := some created.id
  planName := created.name
  definedModules := created.modules.length
  createdInstances := 0

def PreparedRun.reported (prepared : PreparedRun) (index : ℕ) (plan : MatrixPlan)
    (created : PlanCreated) : PreparedRun :=
  let unknown := unknownExpected plan created
  let counted := prepared.modifyGroup index (countedGroup created)
  { counted with
    plans := counted.plans ++ [planReport plan created]
    matrixExpectationsSatisfied := counted.matrixExpectationsSatisfied && unknown.isEmpty
    unknownDeclaredSkipModules := counted.unknownDeclaredSkipModules ++ unknown
    enumeratedPlanCount := counted.enumeratedPlanCount + 1 }

def plannedPlan (index : ℕ) (group : MatrixGroup) (plan : MatrixPlan) (created : PlanCreated)
    (reportIndex : ℕ) : PlannedPlan where
  groupIndex := index
  matrixPlanId := plan.id
  suitePlanId := created.id
  planName := created.name
  variant := group.effectiveVariant plan
  expectedResults := plan.expectedResults
  modules := created.modules
  reportIndex

/-- The checks of a plan whose id is recorded, and whether the phase goes on. -/
def PreparedRun.admitted (prepared : PreparedRun) (budget index : ℕ) (group : MatrixGroup)
    (plan : MatrixPlan) (created : PlanCreated) : PreparedRun × Bool :=
  let errors := definitionErrors budget prepared.observedModules plan created
  let reported := prepared.reported index plan created
  if errors = [] then
    let planned := plannedPlan index group plan created prepared.plans.length
    ({ reported with
        observedModules := prepared.observedModules + created.modules.length
        planned := reported.planned ++ [planned] }, true)
  else (reported.fail index errors, false)

/-! ## The first phase -/

def isInterrupted : Recovering Bool := fun e w => (.ok (e.interrupted w.clock), w.tick)

def newIntentId : Recovering String := fun e w => (.ok (e.intentId w.clock), w.tick)

def requestPlan : Recovering (Except SuiteClientError PlanCreated) := fun e w =>
  (.ok (e.createPlan w.clock), w.tick)

def probeAuth : Recovering (Option SuiteClientError) := fun e w =>
  (.ok (e.probeAuth w.clock), w.tick)

/-- The recorded id of a created plan, before anything else of it is looked at. -/
def recordCreated (observer : SuiteResourceObserver) (intentId : String) (budget index : ℕ)
    (group : MatrixGroup) (plan : MatrixPlan) (created : PlanCreated) (prepared : PreparedRun) :
    Recovering (PreparedRun × Bool) := do
  let prepared := { prepared with suitePlanIds := prepared.suitePlanIds ++ [created.id] }
  let recorded ← Program.attempt (observer.planCreated intentId created.id)
  match recorded with
  | .error failure => pure (prepared.fail index [failure], false)
  | .ok _ => pure (prepared.admitted budget index group plan created)

def createPlan (observer : SuiteResourceObserver) (budget index : ℕ) (group : MatrixGroup)
    (plan : MatrixPlan) (prepared : PreparedRun) : Recovering (PreparedRun × Bool) := do
  let intentId ← newIntentId
  let intended ← Program.attempt (observer.planCreateIntent intentId)
  match intended with
  | .error failure => pure (prepared.fail index [failure], false)
  | .ok _ => do
    let answer ← requestPlan
    match answer with
    | .error error => pure (prepared.fail index [error.text], false)
    | .ok created => recordCreated observer intentId budget index group plan created prepared

def createPlans (observer : SuiteResourceObserver) (budget index : ℕ) (group : MatrixGroup) :
    List MatrixPlan → PreparedRun → Recovering (PreparedRun × Bool)
  | [], prepared => pure (prepared, true)
  | plan :: rest, prepared => do
    let interrupted ← isInterrupted
    if interrupted = true then pure (prepared.push ["run interrupted"], false)
    else
      let next ← createPlan observer budget index group plan prepared
      if next.2 = true then createPlans observer budget index group rest next.1 else pure next

def createGroups (observer : SuiteResourceObserver) (budget : ℕ) :
    ℕ → List MatrixGroup → PreparedRun → Recovering PreparedRun
  | _, [], prepared => pure prepared
  | index, group :: rest, prepared => do
    let interrupted ← isInterrupted
    if interrupted = true then pure (prepared.push ["run interrupted"])
    else
      let next ← createPlans observer budget index group group.plans prepared
      if next.2 = true then createGroups observer budget (index + 1) rest next.1
      else pure next.1

/-- `prepare_run`. -/
def prepareRun (observer : SuiteResourceObserver) (budget : ℕ) (groups : List MatrixGroup) :
    Recovering PreparedRun := do
  let probe ← probeAuth
  match probe with
  | some error => pure ((PreparedRun.initial groups).push [error.text])
  | none => createGroups observer budget 0 groups (.initial groups)

end NazoAuthCtl.OidfPrepare
