import NazoAuthCtl.OidfPlan
import NazoAuthCtl.ReleaseCandidate

/-!
# From a command line to the conformance runner

The command line and the driver plan are checked before a tenant is provisioned. The runner
checks its configuration once more, after that. The texts are those of the English output.
-/

set_option autoImplicit false
set_option linter.all false

namespace NazoAuthCtl.OidfAdmission

open SortedMap OidfPlan
open FaultProgram (bind_eq_ok)
open ReleaseCandidate (Value)

/-! ## The options of a run -/

def maxParallelJobs : ℕ := 4
def maxPollTimeoutSeconds : ℕ := 86400
def defaultPollTimeoutSeconds : ℕ := 1800
def defaultJobs : ℕ := 4

inductive RunRefusal where
  /-- The help was printed, and the process has ended with success. -/
  | help
  | message (text : String)
  deriving DecidableEq, Repr

structure RunOptions where
  tokenStdin : Bool
  json : Bool
  deleteSuitePlans : Bool
  selector : Option String
  excludedPlans : List String
  failFast : Bool
  pollTimeout : ℕ
  jobs : ℕ
  deriving DecidableEq, Repr

def RunOptions.initial : RunOptions where
  tokenStdin := false
  json := false
  deleteSuitePlans := false
  selector := none
  excludedPlans := []
  failFast := false
  pollTimeout := defaultPollTimeoutSeconds
  jobs := defaultJobs

structure RunInvocation where
  instanceAlias : Option String
  tokenStdin : Bool
  json : Bool
  deleteSuitePlans : Bool
  groups : List String
  plans : List String
  excludedPlans : List String
  pollTimeout : ℕ
  jobs : ℕ
  failFast : Bool
  deriving DecidableEq, Repr

def RunInvocation.selection (invocation : RunInvocation) : OidfPlanSelection :=
  ⟨invocation.groups, invocation.plans, invocation.excludedPlans⟩

/-- `str::parse` to an unsigned number of 64 bits. -/
def parseUnsigned (text : String) : Option ℕ :=
  let digits := if text.toList.head? = some '+' then text.toList.tail else text.toList
  let number := digits.foldl (fun number digit => 10 * number + (digit.toNat - 48)) 0
  if digits ≠ [] ∧ digits.all Char.isDigit ∧ number ≤ maxU64 then some number else none

/-- An option with the value behind it. -/
def RunOptions.withValue (options : RunOptions) (option value : String) :
    Except RunRefusal RunOptions :=
  if option = "--poll-timeout" then
    match parseUnsigned value with
    | some seconds => .ok { options with pollTimeout := seconds }
    | none => .error (.message "--poll-timeout must be an integer")
  else if option = "--jobs" then
    match parseUnsigned value with
    | some jobs => .ok { options with jobs }
    | none => .error (.message "--jobs must be an integer")
  else if value ∈ options.excludedPlans then
    .error (.message (option ++ " values must be unique"))
  else .ok { options with excludedPlans := options.excludedPlans ++ [value] }

def onlyOnce (option : String) : RunRefusal :=
  .message (option ++ " may be specified only once")

/-- An option without a value, or the selector. -/
def RunOptions.withFlag (options : RunOptions) (option : String) :
    Except RunRefusal RunOptions :=
  if option = "--token-stdin" then
    if options.tokenStdin then .error (onlyOnce option) else .ok { options with tokenStdin := true }
  else if option = "--json" then
    if options.json then .error (onlyOnce option) else .ok { options with json := true }
  else if option = "--delete-suite-plans" then
    if options.deleteSuitePlans then .error (onlyOnce option)
    else .ok { options with deleteSuitePlans := true }
  else if option = "--fail-fast" then
    if options.failFast then .error (onlyOnce option) else .ok { options with failFast := true }
  else if option.toList.head? = some '-' then
    .error (.message ("unknown oidf run option: " ++ option))
  else if options.selector ≠ none then .error (onlyOnce "OIDF selector")
  else .ok { options with selector := some option }

def takesValue (option : String) : Prop :=
  option = "--poll-timeout" ∨ option = "--jobs" ∨ option = "--exclude-plan"

instance (option : String) : Decidable (takesValue option) :=
  inferInstanceAs (Decidable (_ ∨ _ ∨ _))

def readOptions : RunOptions → List String → Except RunRefusal RunOptions
  | options, [] => .ok options
  | options, option :: rest =>
    if takesValue option then
      match rest with
      | [] => .error (.message (option ++ " requires a value"))
      | value :: rest => do readOptions (← options.withValue option value) rest
    else do readOptions (← options.withFlag option) rest

variable {γ υ : Type}

/-- `bundled_oidf_selection_choices`. -/
def bundledOidfSelectionChoices (bundled : BundledOidfMatrix γ) :
    Except OidfPlanError (List String) := do
  let matrix ← bundledOidfMatrix bundled
  pure (["oidc", "ciba", "fapi", "openid4vci", "openid4vp", "openid4vc"] ++
    matrix.groups.map (·.id) ++ matrix.entries.map (·.2.id))

def planErrorText : OidfPlanError → String
  | .malformedDriver => "bundled driver handler is missing"
  | .malformedMatrix => "bundled Matrix could not be decoded"
  | .invalidSelection => "plan selection contains an invalid or duplicate identifier"
  | .unknownSelection => "plan selection names an unknown group or plan"
  | .emptySelection => "group and plan filters select no common plan"
  | .resourceBound => "selected plan resource budget overflow"

def selectionRefusal (bundled : BundledOidfMatrix γ) (selector : Option String)
    (failure : OidfPlanError) : RunRefusal :=
  if failure = .unknownSelection then
    let choices := match bundledOidfSelectionChoices bundled with
      | .ok choices => ", ".intercalate choices
      | .error _ => "oidc, ciba, fapi, openid4vci, openid4vp, openid4vc"
    .message ("unknown OIDF selector `" ++ selector.getD "" ++ "`; valid choices: " ++ choices)
  else .message ("bundled OIDF Matrix is invalid: " ++ planErrorText failure)

def resolveSelection (bundled : BundledOidfMatrix γ) (selector : Option String) :
    Except RunRefusal OidfPlanSelection :=
  match resolveBundledOidfSelection bundled selector with
  | .ok selection => .ok selection
  | .error failure => .error (selectionRefusal bundled selector failure)

def resolveExcluded (bundled : BundledOidfMatrix γ) :
    List String → Except RunRefusal (List String)
  | [] => .ok []
  | reference :: rest =>
    match resolveBundledOidfPlanId bundled reference with
    | .error _ =>
      .error (.message ("unknown or ambiguous excluded OIDF plan `" ++ reference ++ "`"))
    | .ok id => do pure (id :: (← resolveExcluded bundled rest))

def RunOptions.invocation (options : RunOptions) (selection : OidfPlanSelection)
    (excludedPlans : List String) (instanceAlias : Option String) : RunInvocation where
  instanceAlias
  tokenStdin := options.tokenStdin
  json := options.json
  deleteSuitePlans := options.deleteSuitePlans
  groups := selection.groups
  plans := selection.plans
  excludedPlans
  pollTimeout := options.pollTimeout
  jobs := options.jobs
  failFast := options.failFast

/-- `parse_run_options`. -/
def parseRunOptions (bundled : BundledOidfMatrix γ) (values : List String)
    (instanceAlias : Option String) : Except RunRefusal RunInvocation :=
  if "-h" ∈ values ∨ "--help" ∈ values then .error .help
  else do
    let options ← readOptions .initial values
    let selection ← resolveSelection bundled options.selector
    let excludedPlans ← resolveExcluded bundled options.excludedPlans
    if options.pollTimeout = 0 ∨ maxPollTimeoutSeconds < options.pollTimeout ∨
        ¬(1 ≤ options.jobs ∧ options.jobs ≤ maxParallelJobs) then
      .error (.message ("poll timeout must be between 1 and 86400 seconds and jobs must be " ++
        "between 1 and 4"))
    else .ok (options.invocation selection excludedPlans instanceAlias)

/-! ## What a run hands to the runner -/

structure MatrixPlan where
  id : String
  config : Value

structure MatrixGroup where
  id : String
  plans : List MatrixPlan

/-- The materialized Matrix of the selected plans. -/
abbrev MatrixDocument := List MatrixGroup

def planCount (document : MatrixDocument) : ℕ :=
  (document.map (·.plans.length)).sum

/-- The plans of a document in order, each with the id of its group. -/
def documentPlans (document : MatrixDocument) : List (String × MatrixPlan) :=
  document.flatMap fun group => group.plans.map fun plan => (group.id, plan)

def BundledOidfMatrixGroup.only (group : BundledOidfMatrixGroup γ)
    (selected : List (String × String)) : BundledOidfMatrixGroup γ :=
  { group with plans := group.plans.filter fun plan => (group.id, plan.id) ∈ selected }

/-- `select_bundled_matrix_for_run`. -/
def selectBundledMatrixForRun (matrix : BundledOidfMatrix γ) (selected : List (String × String)) :
    BundledOidfMatrix γ :=
  let groups := matrix.groups.map (BundledOidfMatrixGroup.only · selected)
  { matrix with groups := groups.filter fun group => !group.plans.isEmpty }

/-- What a run derives from the driver plan before it provisions a tenant. -/
structure PreparedRun (γ : Type) where
  matrix : BundledOidfMatrix γ
  planLanes : List (String × OidfDriverLane)
  planResourceBudgets : List (String × OidfPlanResourceBudget)
  selectedResourceBudget : OidfPlanResourceBudget

def planLanes (plan : OidfExecutionPlan) : List (String × OidfDriverLane) :=
  collect (plan.plans.map fun entry => (entry.planId, entry.driverHandler.lane))

def planResourceBudgets (plan : OidfExecutionPlan) : List (String × OidfPlanResourceBudget) :=
  collect (plan.plans.map fun entry => (entry.planId, entry.resourceBudget))

def prepareRun (bundled : BundledOidfMatrix γ) (plan : OidfExecutionPlan) :
    Except String (PreparedRun γ) :=
  match bundledOidfMatrix bundled with
  | .error _ => .error "bundled OIDF Matrix is malformed"
  | .ok matrix =>
    if (planLanes plan).length ≠ plan.plans.length then
      .error "signed driver plan contains duplicate Matrix plan IDs"
    else .ok ⟨selectBundledMatrixForRun matrix
        (plan.plans.map fun entry => (entry.groupId, entry.planId)),
      planLanes plan, planResourceBudgets plan,
      { plan.selectedResourceBudget with modules := plan.moduleLimit }⟩

/-- `materialize_matrix_document`, by what a plan's content is materialized to. -/
def materializeMatrixDocument (materialize : γ → Value) (matrix : BundledOidfMatrix γ) :
    MatrixDocument :=
  matrix.groups.map fun group =>
    ⟨group.id, group.plans.map fun plan => ⟨plan.id, materialize plan.content⟩⟩

/-- The drivers that one worker owns. -/
structure ConformanceAutomation where
  verifier : Bool
  issuer : Bool
  cibaApprover : Bool
  deriving DecidableEq, Repr

structure ConformanceRunConfig where
  matrix : MatrixDocument
  pollTimeout : ℕ
  planLanes : List (String × OidfDriverLane)
  planResourceBudgets : List (String × OidfPlanResourceBudget)
  selectedResourceBudget : OidfPlanResourceBudget
  jobs : ℕ
  automation : List ConformanceAutomation

def requiresAutomation (plan : OidfExecutionPlan) : ConformanceAutomation where
  verifier := plan.plans.any fun entry =>
    match entry.driverHandler.automation with
    | .openid4vp _ => true
    | _ => false
  issuer := plan.plans.any fun entry => entry.driverHandler.automation = .openid4vci
  cibaApprover := plan.plans.any fun entry => entry.driverHandler.lane = .ciba

/-- The configuration that `run_signed_suite` builds. -/
def signedSuiteConfig (invocation : RunInvocation) (plan : OidfExecutionPlan)
    (materialize : γ → Value) (prepared : PreparedRun γ) : ConformanceRunConfig :=
  let selected := materializeMatrixDocument materialize prepared.matrix
  let jobs := min invocation.jobs (planCount selected)
  { matrix := selected
    pollTimeout := invocation.pollTimeout
    planLanes := prepared.planLanes
    planResourceBudgets := prepared.planResourceBudgets
    selectedResourceBudget := prepared.selectedResourceBudget
    jobs := invocation.jobs
    automation := List.replicate jobs (requiresAutomation plan) }

/-! ## The runner -/

/-- `Url::parse` and what an origin check reads of a URL. -/
structure UrlRules (υ : Type) where
  parse : String → Option υ
  scheme : υ → String
  hasHost : υ → Bool
  sameSuite : υ → Bool
  /-- `BrowserTargetOrigin::allows`. -/
  sameTarget : υ → Bool

/-- A string between slashes is a URL in the sense of `validate_value_origins`. -/
def namesUrl (text : String) : Bool :=
  (text.toList.tails.any fun tail => "://".toList.isPrefixOf tail)

def urlAllowed (rules : UrlRules υ) (key : Option String) (text : String) : Bool :=
  match rules.parse text with
  | none => false
  | some url =>
    rules.hasHost url
      && (rules.scheme url = "https" || (rules.scheme url = "http" && rules.sameTarget url))
      && (rules.sameSuite url || rules.sameTarget url || key = some "issuer"
        || key = some "request_object_trust_anchor_uri")

mutual

/-- `validate_value_origins`. -/
def valueOriginsAllowed (rules : UrlRules υ) (key : Option String) : Value → Bool
  | .array items => itemOriginsAllowed rules key items
  | .object fields => fieldOriginsAllowed rules fields
  | .string text =>
    if "//".toList.isPrefixOf text.toList ∧ key ≠ some "commands" then false
    else if namesUrl text then urlAllowed rules key text
    else true
  | .null => true
  | .bool _ => true
  | .number _ => true

def itemOriginsAllowed (rules : UrlRules υ) (key : Option String) : List Value → Bool
  | [] => true
  | item :: rest => valueOriginsAllowed rules key item && itemOriginsAllowed rules key rest

def fieldOriginsAllowed (rules : UrlRules υ) : List (String × Value) → Bool
  | [] => true
  | (key, value) :: rest =>
    valueOriginsAllowed rules (some key) value && fieldOriginsAllowed rules rest

end

/-- `validate_matrix_origins`. -/
def matrixOriginsAllowed (rules : UrlRules υ) (document : MatrixDocument) : Bool :=
  (documentPlans document).all fun plan => valueOriginsAllowed rules none plan.2.config

/-- `plan_lanes_match_selected`. -/
def planLanesMatchSelected (document : MatrixDocument)
    (planLanes : List (String × OidfDriverLane)) : Prop :=
  let selected := ((documentPlans document).map (·.2.id)).dedup
  selected.length = planCount document ∧ selected.length = planLanes.length ∧
    ∀ planId ∈ keys planLanes, planId ∈ selected

instance (document : MatrixDocument) (planLanes : List (String × OidfDriverLane)) :
    Decidable (planLanesMatchSelected document planLanes) :=
  inferInstanceAs (Decidable (_ ∧ _ ∧ _))

/-- `resource_budget_totals_match`. -/
def resourceBudgetTotalsMatch (planResourceBudgets : List (String × OidfPlanResourceBudget))
    (selected : OidfPlanResourceBudget) : Prop :=
  ∃ summed ∈ (values planResourceBudgets).foldlM OidfPlanResourceBudget.checkedAdd .zero,
    summed.modules ≤ selected.modules ∧ summed.clients = selected.clients ∧
      summed.wallClockSeconds = selected.wallClockSeconds

instance (planResourceBudgets : List (String × OidfPlanResourceBudget))
    (selected : OidfPlanResourceBudget) :
    Decidable (resourceBudgetTotalsMatch planResourceBudgets selected) :=
  inferInstanceAs (Decidable (∃ summed ∈ _, _))

/-- What `ConformanceRunner::new` checks. -/
def runnerChecks (rules : UrlRules υ) (config : ConformanceRunConfig) : Prop :=
  (0 < config.pollTimeout ∧ config.pollTimeout ≤ maxPollTimeoutSeconds) ∧
    (1 ≤ config.jobs ∧ config.jobs ≤ maxParallelJobs) ∧
    (config.automation = [] ∨ config.automation.length = config.jobs) ∧
    planLanesMatchSelected config.matrix config.planLanes ∧
    keys config.planLanes = keys config.planResourceBudgets ∧
    resourceBudgetTotalsMatch config.planResourceBudgets config.selectedResourceBudget ∧
    matrixOriginsAllowed rules config.matrix = true

instance (rules : UrlRules υ) (config : ConformanceRunConfig) :
    Decidable (runnerChecks rules config) :=
  inferInstanceAs (Decidable (_ ∧ _ ∧ _ ∧ _ ∧ _ ∧ _ ∧ _))

/-- A runner exists only for a configuration that was checked. -/
structure ConformanceRunner (rules : UrlRules υ) where
  config : ConformanceRunConfig
  checked : runnerChecks rules config

inductive OrchestrationError where
  | invalidInput
  deriving DecidableEq, Repr

def ConformanceRunner.new (rules : UrlRules υ) (config : ConformanceRunConfig) :
    Except OrchestrationError (ConformanceRunner rules) :=
  if checked : runnerChecks rules config then .ok ⟨config, checked⟩ else .error .invalidInput

structure PlannedPlan where
  groupId : String
  matrixPlanId : String
  /-- No lane would end the process. -/
  lane : Option OidfDriverLane
  deriving DecidableEq, Repr

/-- The plans that `prepare_run` creates at the Suite, in their order. -/
def plannedPlans (config : ConformanceRunConfig) : List PlannedPlan :=
  (documentPlans config.matrix).map fun plan =>
    ⟨plan.1, plan.2.id, get config.planLanes plan.2.id⟩

/-- The workers of a parallel run take the plans from one queue, in some order of the workers. -/
def launched : List ℕ → List PlannedPlan → List (ℕ × PlannedPlan)
  | worker :: order, plan :: queue => (worker, plan) :: launched order queue
  | _, _ => []

/-- The plans that a run executes, in the order in which they are begun, if nothing stops it. -/
inductive Executes (config : ConformanceRunConfig) : List PlannedPlan → Prop
  | serial (alone : config.jobs = 1 ∨ planCount config.matrix ≤ 1) :
      Executes config (plannedPlans config)
  | parallel (several : config.jobs ≠ 1 ∧ 1 < planCount config.matrix) (order : List ℕ)
      (workers : ∀ worker ∈ order, worker < min config.jobs (plannedPlans config).length)
      (drained : (plannedPlans config).length ≤ order.length) :
      Executes config ((launched order (plannedPlans config)).map (·.2))

/-! ## The selected Matrix -/

section selected

variable {matrix : BundledOidfMatrix γ} {plan : OidfExecutionPlan}
  {choose : String → String → Bool}

theorem planCount_eq (document : MatrixDocument) :
    planCount document = (documentPlans document).length := by
  simp [planCount, documentPlans, List.length_flatMap]

theorem groups_plans (groups : List (BundledOidfMatrixGroup γ))
    (selected : List (String × String)) :
    ((groups.map (BundledOidfMatrixGroup.only · selected)).filter
        fun group => !group.plans.isEmpty).flatMap
      (fun group => group.plans.map fun plan => (group.id, plan)) =
    (groups.flatMap fun group => group.plans.map fun plan => (group.id, plan)).filter
      fun entry => (entry.1, entry.2.id) ∈ selected := by
  induction groups with
  | nil => rfl
  | cons group rest ih =>
    rw [List.flatMap_cons, List.filter_append, ← ih, List.map_cons, List.filter_cons]
    have kept : (group.plans.map fun plan => (group.id, plan)).filter
        (fun entry => (entry.1, entry.2.id) ∈ selected) =
        (BundledOidfMatrixGroup.only group selected).plans.map fun plan => (group.id, plan) := by
      rw [List.filter_map]
      rfl
    rw [kept]
    by_cases empty : (BundledOidfMatrixGroup.only group selected).plans = []
    · simp [empty]
    · have full : (!(BundledOidfMatrixGroup.only group selected).plans.isEmpty) = true := by
        simp [empty]
      rw [if_pos full, List.flatMap_cons]
      rfl

/-- The selected Matrix holds the plans whose ids were selected, in their order. -/
theorem selected_entries (matrix : BundledOidfMatrix γ) (selected : List (String × String)) :
    (selectBundledMatrixForRun matrix selected).entries =
      matrix.entries.filter fun entry => (entry.1, entry.2.id) ∈ selected :=
  groups_plans matrix.groups selected

theorem materialized_plans (materialize : γ → Value) (matrix : BundledOidfMatrix γ) :
    documentPlans (materializeMatrixDocument materialize matrix) =
      matrix.entries.map fun entry => (entry.1, ⟨entry.2.id, materialize entry.2.content⟩) := by
  unfold documentPlans materializeMatrixDocument BundledOidfMatrix.entries
  rw [List.flatMap_map, List.map_flatMap]
  simp only [List.map_map]
  rfl

theorem selected_filter (selects : Selects matrix choose plan) :
    (matrix.entries.filter fun entry => (entry.1, entry.2.id) ∈
        plan.plans.map fun entry => (entry.groupId, entry.planId)) =
      matrix.entries.filter fun entry => choose entry.1 entry.2.id := by
  apply List.filter_congr
  intro entry inside
  rw [selects.compiled.plans, Bool.eq_iff_iff, decide_eq_true_iff, List.mem_map]
  constructor
  · rintro ⟨other, chosen, same⟩
    have ids := Prod.mk.inj same
    rw [← ids.1, ← ids.2]
    exact (List.mem_filter.mp chosen).2
  · intro chosen
    exact ⟨entry, List.mem_filter.mpr ⟨inside, chosen⟩, rfl⟩

end selected

/-! ## What the runner finds in the configuration of a run -/

section admission

variable {matrix : BundledOidfMatrix γ} {plan : OidfExecutionPlan}
  {choose : String → String → Bool}

theorem parse_bounds {bundled : BundledOidfMatrix γ} {options : List String}
    {instanceAlias : Option String} {invocation : RunInvocation}
    (parsed : parseRunOptions bundled options instanceAlias = .ok invocation) :
    (0 < invocation.pollTimeout ∧ invocation.pollTimeout ≤ maxPollTimeoutSeconds) ∧
      1 ≤ invocation.jobs ∧ invocation.jobs ≤ maxParallelJobs := by
  unfold parseRunOptions at parsed
  split_ifs at parsed with help
  obtain ⟨read, _, parsed⟩ := bind_eq_ok parsed
  obtain ⟨selection, _, parsed⟩ := bind_eq_ok parsed
  obtain ⟨excludedPlans, _, parsed⟩ := bind_eq_ok parsed
  split_ifs at parsed with outside
  cases parsed
  rw [not_or, not_or, not_not, Nat.not_lt] at outside
  exact ⟨⟨Nat.pos_of_ne_zero outside.1, outside.2.1⟩, outside.2.2⟩

/-- What a prepared run was derived from. -/
structure Prepared (bundled : BundledOidfMatrix γ) (plan : OidfExecutionPlan)
    (prepared : PreparedRun γ) : Prop where
  matrix : prepared.matrix = selectBundledMatrixForRun bundled
    (plan.plans.map fun entry => (entry.groupId, entry.planId))
  lanes : prepared.planLanes = planLanes plan
  budgets : prepared.planResourceBudgets = planResourceBudgets plan
  selected : prepared.selectedResourceBudget =
    { plan.selectedResourceBudget with modules := plan.moduleLimit }
  distinct : (plan.plans.map (·.planId)).Nodup

theorem prepareRun_prepared {bundled : BundledOidfMatrix γ} {prepared : PreparedRun γ}
    (h : prepareRun bundled plan = .ok prepared) : Prepared bundled plan prepared := by
  unfold prepareRun bundledOidfMatrix at h
  split_ifs at h with schema duplicate
  cases h
  refine ⟨rfl, rfl, rfl, rfl, ?_⟩
  have sized : (planLanes plan).length =
      (plan.plans.map fun entry => (entry.planId, entry.driverHandler.lane)).length := by
    rw [List.length_map]
    exact not_not.mp duplicate
  have distinct := (collect_length_iff _).mp sized
  simpa [keys, Function.comp_def] using distinct

variable {materialize : γ → Value} {prepared : PreparedRun γ}

theorem document_plans (selects : Selects matrix choose plan)
    (derived : Prepared matrix plan prepared) :
    documentPlans (materializeMatrixDocument materialize prepared.matrix) =
      (matrix.entries.filter fun entry => choose entry.1 entry.2.id).map
        fun entry => (entry.1, ⟨entry.2.id, materialize entry.2.content⟩) := by
  rw [materialized_plans, derived.matrix, selected_entries, selected_filter selects]

theorem document_ids (selects : Selects matrix choose plan)
    (derived : Prepared matrix plan prepared) :
    (documentPlans (materializeMatrixDocument materialize prepared.matrix)).map
        (fun entry => (entry.1, entry.2.id)) =
      plan.plans.map fun entry => (entry.groupId, entry.planId) := by
  rw [document_plans selects derived, selects.compiled.plans, List.map_map]
  rfl

theorem document_count (selects : Selects matrix choose plan)
    (derived : Prepared matrix plan prepared) :
    planCount (materializeMatrixDocument materialize prepared.matrix) = plan.plans.length := by
  have ids : (documentPlans (materializeMatrixDocument materialize prepared.matrix)).map
      (fun entry => (entry.1, entry.2.id)) = _ := document_ids selects derived
  have lengths := congrArg List.length ids
  rw [List.length_map, List.length_map] at lengths
  rw [planCount_eq, lengths]

theorem lanes_match (selects : Selects matrix choose plan)
    (derived : Prepared matrix plan prepared) :
    planLanesMatchSelected (materializeMatrixDocument materialize prepared.matrix)
      prepared.planLanes := by
  have ids : (documentPlans (materializeMatrixDocument materialize prepared.matrix)).map
      (·.2.id) = plan.plans.map (·.planId) := by
    have pairs : (documentPlans (materializeMatrixDocument materialize prepared.matrix)).map
        (fun entry => (entry.1, entry.2.id)) = _ := document_ids selects derived
    simpa [Function.comp_def] using congrArg (List.map Prod.snd) pairs
  have laneKeys : keys (plan.plans.map fun entry => (entry.planId, entry.driverHandler.lane)) =
      plan.plans.map (·.planId) := by
    simp [keys, Function.comp_def]
  unfold planLanesMatchSelected
  rw [ids, derived.distinct.dedup, document_count selects derived, derived.lanes]
  refine ⟨List.length_map _, ?_, ?_⟩
  · have sized := (collect_length_iff _).mpr (laneKeys.symm ▸ derived.distinct)
    rw [planLanes, sized, List.length_map, List.length_map]
  · intro planId inside
    rw [planLanes, mem_keys_collect, laneKeys] at inside
    exact inside

theorem keys_match (derived : Prepared matrix plan prepared) :
    keys prepared.planLanes = keys prepared.planResourceBudgets := by
  have same : (plan.plans.map fun entry => (entry.planId, entry.driverHandler.lane)).map (·.1) =
      (plan.plans.map fun entry => (entry.planId, entry.resourceBudget)).map (·.1) := by
    simp [Function.comp_def]
  have empty : keys ([] : List (String × OidfDriverLane)) =
      keys ([] : List (String × OidfPlanResourceBudget)) := rfl
  rw [derived.lanes, derived.budgets]
  exact keys_insertAll empty same

theorem totals_match (selects : Selects matrix choose plan)
    (derived : Prepared matrix plan prepared) :
    resourceBudgetTotalsMatch prepared.planResourceBudgets prepared.selectedResourceBudget := by
  have distinct : (keys (plan.plans.map fun entry =>
      (entry.planId, entry.resourceBudget))).Nodup := by
    have same : keys (plan.plans.map fun entry => (entry.planId, entry.resourceBudget)) =
        plan.plans.map (·.planId) := by
      simp [keys, Function.comp_def]
    rw [same]
    exact derived.distinct
  have order : (values prepared.planResourceBudgets).Perm (plan.plans.map (·.resourceBudget)) := by
    have moved := (collect_perm distinct).map (·.2)
    rw [derived.budgets]
    simpa [values, planResourceBudgets, Function.comp_def] using moved
  have total : OidfPlanResourceBudget.zero.sums (values prepared.planResourceBudgets) =
      plan.selectedResourceBudget := by
    rw [sums_perm _ order, selects.compiled.adds]
  refine ⟨plan.selectedResourceBudget, ?_, ?_, ?_, ?_⟩
  · rw [← total]
    apply budgets_total
    rw [total]
    exact selects.compiled.bounded
  · rw [derived.selected]
    show plan.selectedResourceBudget.modules ≤ plan.moduleLimit
    have part : (plan.plans.map (·.resourceBudget)).map (·.modules) =
        ((matrix.entries.filter fun entry => choose entry.1 entry.2.id)).map
          (·.2.resourceBudget.modules) := by
      rw [selects.compiled.budgets, List.map_map]
      rfl
    have modules : plan.selectedResourceBudget.modules =
        ((plan.plans.map (·.resourceBudget)).map (·.modules)).sum := by
      rw [selects.compiled.adds]
      exact Nat.zero_add _
    rw [modules, part, selects.limit]
    apply List.Sublist.sum_le_sum
    · exact List.filter_sublist.map _
    · intro _ _
      exact Nat.zero_le _
  · rw [derived.selected]
  · rw [derived.selected]

end admission

/-- The runner accepts the configuration, and a run of it executes the plans of the driver plan,
each once and in its lane. -/
structure Runs (rules : UrlRules υ) (plan : OidfExecutionPlan) (config : ConformanceRunConfig) :
    Prop where
  accepted : ∃ runner, ConformanceRunner.new rules config = .ok runner
  executes : ∀ executed, Executes config executed →
    executed.map (fun plan => (plan.groupId, plan.matrixPlanId, plan.lane)) =
      plan.plans.map fun entry => (entry.groupId, entry.planId, some entry.driverHandler.lane)
  once : (plan.plans.map (·.planId)).Nodup

/-- The materialized plans name no URLs but those of the Suite, of the target and of issuers. -/
def OriginsAllowed (rules : UrlRules υ) (materialize : γ → Value) (matrix : BundledOidfMatrix γ) :
    Prop :=
  ∀ entry ∈ matrix.entries, valueOriginsAllowed rules none (materialize entry.2.content) = true

theorem launched_all (order : List ℕ) (queue : List PlannedPlan)
    (drained : queue.length ≤ order.length) : (launched order queue).map (·.2) = queue := by
  induction order generalizing queue with
  | nil =>
    have empty : queue = [] := List.length_eq_zero_iff.mp (Nat.le_zero.mp drained)
    rw [empty]
    rfl
  | cons worker order ih =>
    cases queue with
    | nil => rfl
    | cons plan queue => exact congrArg (plan :: ·) (ih queue (Nat.le_of_succ_le_succ drained))

section running

variable {rules : UrlRules υ} {matrix : BundledOidfMatrix γ} {plan : OidfExecutionPlan}
  {choose : String → String → Bool} {materialize : γ → Value} {prepared : PreparedRun γ}
  {invocation : RunInvocation}

theorem executes_planned {config : ConformanceRunConfig} {executed : List PlannedPlan}
    (h : Executes config executed) : executed = plannedPlans config := by
  cases h with
  | serial _ => rfl
  | parallel _ order _ drained => exact launched_all order _ drained

theorem planned_lanes (selects : Selects matrix choose plan)
    (derived : Prepared matrix plan prepared) :
    (plannedPlans (signedSuiteConfig invocation plan materialize prepared)).map
        (fun plan => (plan.groupId, plan.matrixPlanId, plan.lane)) =
      plan.plans.map fun entry => (entry.groupId, entry.planId, some entry.driverHandler.lane) := by
  have ids : (documentPlans (materializeMatrixDocument materialize prepared.matrix)).map
      (fun entry => (entry.1, entry.2.id)) = _ := document_ids selects derived
  have lanes := congrArg
    (List.map fun pair : String × String => (pair.1, pair.2, get prepared.planLanes pair.2)) ids
  rw [List.map_map, List.map_map] at lanes
  unfold plannedPlans
  rw [List.map_map]
  refine lanes.trans (List.map_congr_left fun entry inside => ?_)
  have there : (entry.planId, entry.driverHandler.lane) ∈ planLanes plan := by
    have keysDistinct : (keys (plan.plans.map fun entry =>
        (entry.planId, entry.driverHandler.lane))).Nodup := by
      have same : keys (plan.plans.map fun entry => (entry.planId, entry.driverHandler.lane)) =
          plan.plans.map (·.planId) := by
        simp [keys, Function.comp_def]
      rw [same]
      exact derived.distinct
    exact (collect_perm keysDistinct).mem_iff.mpr (List.mem_map.mpr ⟨entry, inside, rfl⟩)
  have found : get prepared.planLanes entry.planId = some entry.driverHandler.lane := by
    rw [derived.lanes]
    exact get_of_mem (sorted_collect _).nodup there
  show (entry.groupId, entry.planId, get prepared.planLanes entry.planId) = _
  rw [found]

theorem origins_allowed :
    matrixOriginsAllowed rules (materializeMatrixDocument materialize prepared.matrix) = true ↔
      OriginsAllowed rules materialize prepared.matrix := by
  unfold matrixOriginsAllowed OriginsAllowed
  rw [materialized_plans, List.all_map, List.all_eq_true]
  rfl

/-- There is an entry for each job just if there are as many plans as jobs. -/
theorem automation_iff (selects : Selects matrix choose plan)
    (derived : Prepared matrix plan prepared) (_ : 1 ≤ invocation.jobs) :
    ((signedSuiteConfig invocation plan materialize prepared).automation = [] ∨
        (signedSuiteConfig invocation plan materialize prepared).automation.length =
          invocation.jobs) ↔ invocation.jobs ≤ plan.plans.length := by
  have plans : 0 < plan.plans.length := List.length_pos_iff.mpr selects.nonempty
  have length : (signedSuiteConfig invocation plan materialize prepared).automation.length =
      min invocation.jobs plan.plans.length := by
    have count : planCount (materializeMatrixDocument materialize prepared.matrix) = _ :=
      document_count selects derived
    rw [← count]
    exact List.length_replicate
  rw [← List.length_eq_zero_iff, length]
  omega

end running

/-- A configuration of an accepted run is accepted by the runner just where there are as many
selected plans as jobs and no plan names a foreign URL. -/
theorem accepted_run_runs_iff (rules : UrlRules υ) (materialize : γ → Value)
    (bundled : BundledOidfMatrix γ) (driver : List OidfDriverHandler) (options : List String)
    (instanceAlias : Option String) (invocation : RunInvocation) (plan : OidfExecutionPlan)
    (prepared : PreparedRun γ)
    (parsed : parseRunOptions bundled options instanceAlias = .ok invocation)
    (compiled : openBundledOidfDriverPlan bundled driver invocation.selection = .ok plan)
    (ready : prepareRun bundled plan = .ok prepared) :
    Runs rules plan (signedSuiteConfig invocation plan materialize prepared) ↔
      invocation.jobs ≤ plan.plans.length ∧ OriginsAllowed rules materialize prepared.matrix := by
  obtain ⟨timeout, jobs⟩ := parse_bounds parsed
  obtain ⟨matrix, same, compiled⟩ := bind_eq_ok compiled
  have same : matrix = bundled := by
    unfold bundledOidfMatrix at same
    split_ifs at same
    cases same
    rfl
  obtain ⟨choose, selects⟩ := compileOidfPlan_selects compiled
  rw [same] at selects
  have derived := prepareRun_prepared ready
  have checks : runnerChecks rules (signedSuiteConfig invocation plan materialize prepared) ↔
      invocation.jobs ≤ plan.plans.length ∧ OriginsAllowed rules materialize prepared.matrix := by
    rw [← automation_iff selects derived jobs.1, ← origins_allowed]
    constructor
    · rintro ⟨_, _, automation, _, _, _, origins⟩
      exact ⟨automation, origins⟩
    · rintro ⟨automation, origins⟩
      exact ⟨timeout, jobs, automation, lanes_match selects derived, keys_match derived,
        totals_match selects derived, origins⟩
  constructor
  · rintro ⟨⟨runner, accepted⟩, _, _⟩
    unfold ConformanceRunner.new at accepted
    split_ifs at accepted with checked
    exact checks.mp checked
  · intro condition
    refine ⟨⟨⟨_, checks.mpr condition⟩, dif_pos (checks.mpr condition)⟩, ?_, derived.distinct⟩
    intro executed ran
    rw [executes_planned ran]
    exact planned_lanes selects derived

/-- A Matrix of one plan. -/
def singlePlanMatrix : BundledOidfMatrix Value where
  schema := 3
  groups := [⟨"oidc-core", [⟨"oidc-core-p001", "browser", ⟨30, 2, 600⟩, [], .null⟩]⟩]

def browserHandler : OidfDriverHandler := ⟨"browser", .browser, .parallel⟩

def singlePlan : OidfExecutionPlan where
  selectedGroupCount := 1
  selectedPlanCount := 1
  selectedResourceBudget := ⟨30, 2, 600⟩
  moduleLimit := 30
  plans := [⟨"oidc-core", "oidc-core-p001", browserHandler, ⟨30, 2, 600⟩, []⟩]

def singlePlanPrepared : PreparedRun Value where
  matrix := singlePlanMatrix
  planLanes := [("oidc-core-p001", .parallel)]
  planResourceBudgets := [("oidc-core-p001", ⟨30, 2, 600⟩)]
  selectedResourceBudget := ⟨30, 2, 600⟩

def singlePlanInvocation (jobs : ℕ) : RunInvocation where
  instanceAlias := none
  tokenStdin := false
  json := false
  deleteSuitePlans := false
  groups := []
  plans := ["oidc-core-p001"]
  excludedPlans := []
  pollTimeout := 1800
  jobs := jobs
  failFast := false

def noUrls : UrlRules Unit where
  parse := fun _ => none
  scheme := fun _ => ""
  hasHost := fun _ => false
  sameSuite := fun _ => false
  sameTarget := fun _ => false

theorem singlePlan_parsed : parseRunOptions singlePlanMatrix ["oidc-core-p001"] none =
    .ok (singlePlanInvocation 4) := by rfl

theorem singlePlan_parsed_alone :
    parseRunOptions singlePlanMatrix ["--jobs", "1", "oidc-core-p001"] none =
      .ok (singlePlanInvocation 1) := by rfl

theorem singlePlan_compiled (jobs : ℕ) :
    openBundledOidfDriverPlan singlePlanMatrix [browserHandler]
      (singlePlanInvocation jobs).selection = .ok singlePlan := by rfl

theorem singlePlan_ready : prepareRun singlePlanMatrix singlePlan = .ok singlePlanPrepared := by
  rfl

/-- With the default number of jobs a single plan is accepted by the planner only. -/
theorem singlePlan_refused :
    parseRunOptions singlePlanMatrix ["oidc-core-p001"] none = .ok (singlePlanInvocation 4) ∧
      openBundledOidfDriverPlan singlePlanMatrix [browserHandler]
        (singlePlanInvocation 4).selection = .ok singlePlan ∧
      prepareRun singlePlanMatrix singlePlan = .ok singlePlanPrepared ∧
      ConformanceRunner.new noUrls
        (signedSuiteConfig (singlePlanInvocation 4) singlePlan id singlePlanPrepared) =
          .error .invalidInput ∧
      ¬Runs noUrls singlePlan
        (signedSuiteConfig (singlePlanInvocation 4) singlePlan id singlePlanPrepared) := by
  have unequal : ¬runnerChecks noUrls
      (signedSuiteConfig (singlePlanInvocation 4) singlePlan id singlePlanPrepared) := by
    rintro ⟨_, _, automation, _⟩
    rcases automation with none | full
    · exact absurd none (by decide)
    · exact absurd full (by decide)
  have refused : ConformanceRunner.new noUrls
      (signedSuiteConfig (singlePlanInvocation 4) singlePlan id singlePlanPrepared) =
        .error .invalidInput := dif_neg unequal
  refine ⟨singlePlan_parsed, singlePlan_compiled 4, singlePlan_ready, refused, ?_⟩
  rintro ⟨⟨runner, accepted⟩, _, _⟩
  rw [refused] at accepted
  cases accepted

theorem singlePlan_alone_runs :
    Runs noUrls singlePlan
      (signedSuiteConfig (singlePlanInvocation 1) singlePlan id singlePlanPrepared) := by
  refine (accepted_run_runs_iff noUrls id singlePlanMatrix [browserHandler]
    ["--jobs", "1", "oidc-core-p001"] none (singlePlanInvocation 1) singlePlan singlePlanPrepared
    singlePlan_parsed_alone (singlePlan_compiled 1) singlePlan_ready).mpr ⟨Nat.le_refl 1, ?_⟩
  intro entry inside
  have only := List.mem_singleton.mp inside
  rw [only]
  rfl

end NazoAuthCtl.OidfAdmission
