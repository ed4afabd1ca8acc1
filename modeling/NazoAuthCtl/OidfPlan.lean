import Mathlib.Algebra.GroupWithZero.Nat
import Mathlib.Algebra.Order.BigOperators.Group.List
import Mathlib.Data.String.Basic
import NazoAuthCtl.FaultProgram
import NazoAuthCtl.SortedMap

/-!
# Selecting and compiling conformance plans

The Matrix lists groups of Suite plans. `oidf run` takes one selector and a list of excluded
plans, and the driver plan is compiled from the plans that are left. What a plan and a group
hold for the Suite, apart from what is read here, is their content.
-/

set_option autoImplicit false
set_option linter.all false

namespace NazoAuthCtl.OidfPlan

open SortedMap
open FaultProgram (bind_eq_ok)

structure OidfPlanResourceBudget where
  modules : ℕ
  clients : ℕ
  wallClockSeconds : ℕ
  deriving DecidableEq, Repr

structure BundledOidfMatrixPlan (γ : Type) where
  id : String
  driverHandler : String
  resourceBudget : OidfPlanResourceBudget
  /-- By test name, in the order of the names. -/
  expectedResults : List (String × String)
  content : γ

structure BundledOidfMatrixGroup (γ : Type) where
  id : String
  plans : List (BundledOidfMatrixPlan γ)

structure BundledOidfMatrix (γ : Type) where
  schema : ℕ
  groups : List (BundledOidfMatrixGroup γ)

inductive OidfDriverAutomation where
  | none
  | browser
  | openid4vci
  | openid4vp (haip : Bool)
  deriving DecidableEq, Repr

inductive OidfDriverLane where
  | parallel
  | ciba
  deriving DecidableEq, Repr

structure OidfDriverHandler where
  id : String
  automation : OidfDriverAutomation
  lane : OidfDriverLane
  deriving DecidableEq, Repr

structure OidfPlanSelection where
  groups : List String
  plans : List String
  excludedPlans : List String
  deriving DecidableEq, Repr

structure OidfDriverPlanEntry where
  groupId : String
  planId : String
  driverHandler : OidfDriverHandler
  resourceBudget : OidfPlanResourceBudget
  expectedSkippedModules : List String
  deriving DecidableEq, Repr

structure OidfExecutionPlan where
  selectedGroupCount : ℕ
  selectedPlanCount : ℕ
  selectedResourceBudget : OidfPlanResourceBudget
  moduleLimit : ℕ
  plans : List OidfDriverPlanEntry
  deriving DecidableEq, Repr

inductive OidfPlanError where
  | malformedDriver
  | malformedMatrix
  | invalidSelection
  | unknownSelection
  | emptySelection
  | resourceBound
  deriving DecidableEq, Repr

def oidfMatrixSchemaVersion : ℕ := 3
def maxU32 : ℕ := 2 ^ 32 - 1
def maxU64 : ℕ := 2 ^ 64 - 1

variable {γ : Type}

/-- The plans of the Matrix in order, each with the id of its group. -/
def BundledOidfMatrix.entries (matrix : BundledOidfMatrix γ) :
    List (String × BundledOidfMatrixPlan γ) :=
  matrix.groups.flatMap fun group => group.plans.map fun plan => (group.id, plan)

/-! ## Selectors -/

/-- `bundled_oidf_matrix`. -/
def bundledOidfMatrix (matrix : BundledOidfMatrix γ) :
    Except OidfPlanError (BundledOidfMatrix γ) :=
  if matrix.schema = oidfMatrixSchemaVersion then .ok matrix else .error .malformedMatrix

def matchingGroups (matrix : BundledOidfMatrix γ) (choose : String → Bool) : List String :=
  (matrix.groups.map (·.id)).filter choose

/-- The groups of a public alias or of an exact group id. -/
def selectorGroups (matrix : BundledOidfMatrix γ) (selector : String) : Option (List String) :=
  if selector = "oidc" then some (matchingGroups matrix (· == "oidc-core"))
  else if selector = "ciba" then some (matchingGroups matrix (· == "fapi-ciba"))
  else if selector = "fapi" then some (matchingGroups matrix ("fapi-".toList.isPrefixOf ·.toList))
  else if selector = "openid4vci" then
    some (matchingGroups matrix ("openid4vc-vci".toList.isPrefixOf ·.toList))
  else if selector = "openid4vp" then
    some (matchingGroups matrix ("openid4vc-vp".toList.isPrefixOf ·.toList))
  else if selector = "openid4vc" then
    some (matchingGroups matrix ("openid4vc-".toList.isPrefixOf ·.toList))
  else if selector ∈ matrix.groups.map (·.id) then some [selector]
  else none

/-- `resolve_bundled_oidf_selection`. -/
def resolveBundledOidfSelection (bundled : BundledOidfMatrix γ) :
    Option String → Except OidfPlanError OidfPlanSelection
  | none => .ok ⟨[], [], []⟩
  | some selector => do
    let matrix ← bundledOidfMatrix bundled
    match selectorGroups matrix selector with
    | some groups =>
      if groups = [] then .error .unknownSelection else .ok ⟨groups, [], []⟩
    | none =>
      if selector ∈ matrix.entries.map (·.2.id) then .ok ⟨[], [selector], []⟩
      else .error .unknownSelection

/-- The part of an id after its last hyphen. -/
def lastSegment (id : String) : String :=
  String.ofList (id.toList.reverse.takeWhile (· ≠ '-')).reverse

/-- `resolve_bundled_oidf_plan_id`. -/
def resolveBundledOidfPlanId (bundled : BundledOidfMatrix γ) (reference : String) :
    Except OidfPlanError String := do
  let matrix ← bundledOidfMatrix bundled
  match (matrix.entries.map (·.2.id)).filter
      (fun id => id = reference ∨ lastSegment id = reference) with
  | [id] => .ok id
  | _ => .error .unknownSelection

/-! ## The driver plan -/

/-- `plan::validate_identifier`. -/
def validIdentifier (maximum : ℕ) (value : String) : Bool :=
  value ≠ "" && value.utf8ByteSize ≤ maximum
    && value.toList.all (fun c => c.isAlphanum || "._:/@+-".toList.contains c)

/-- `selection_set`. -/
def selectionSet (values : List String) : Except OidfPlanError (List String) :=
  if (∀ value ∈ values, validIdentifier 128 value = true) ∧ values.Nodup then .ok values
  else .error .invalidSelection

/-- `checked_add` on numbers up to a bound. -/
def checkedAdd (bound a b : ℕ) : Option ℕ :=
  if a + b ≤ bound then some (a + b) else none

def OidfPlanResourceBudget.zero : OidfPlanResourceBudget := ⟨0, 0, 0⟩

def OidfPlanResourceBudget.checkedAdd (a b : OidfPlanResourceBudget) :
    Option OidfPlanResourceBudget := do
  let modules ← OidfPlan.checkedAdd maxU32 a.modules b.modules
  let clients ← OidfPlan.checkedAdd maxU32 a.clients b.clients
  let wallClockSeconds ← OidfPlan.checkedAdd maxU64 a.wallClockSeconds b.wallClockSeconds
  pure ⟨modules, clients, wallClockSeconds⟩

/-- What is left out or unknown is refused: a wanted group, a wanted plan, an excluded plan. -/
def knownSelection (matrix : BundledOidfMatrix γ) (groups plans excluded : List String) : Prop :=
  (∀ wanted ∈ groups, wanted ∈ matrix.groups.map (·.id)) ∧
    (∀ wanted ∈ plans, wanted ∈ matrix.entries.map (·.2.id)) ∧
    ∀ wanted ∈ excluded, wanted ∈ matrix.entries.map (·.2.id)

instance (matrix : BundledOidfMatrix γ) (groups plans excluded : List String) :
    Decidable (knownSelection matrix groups plans excluded) :=
  inferInstanceAs (Decidable (_ ∧ _ ∧ _))

/-- The plans that the group and plan filters leave. -/
def filteredPlans (matrix : BundledOidfMatrix γ) (groups plans : List String) :
    List (String × BundledOidfMatrixPlan γ) :=
  matrix.entries.filter fun entry =>
    (groups = [] ∨ entry.1 ∈ groups) ∧ (plans = [] ∨ entry.2.id ∈ plans)

/-- The entries of the selected plans and the sum of their budgets. -/
def compileEntries (handlers : List (String × OidfDriverHandler)) :
    OidfPlanResourceBudget → List (String × BundledOidfMatrixPlan γ) →
      Except OidfPlanError (OidfPlanResourceBudget × List OidfDriverPlanEntry)
  | budget, [] => .ok (budget, [])
  | budget, (groupId, plan) :: rest =>
    match budget.checkedAdd plan.resourceBudget with
    | none => .error .resourceBound
    | some budget =>
      match get handlers plan.driverHandler with
      | none => .error .malformedDriver
      | some driverHandler => do
        let (total, entries) ← compileEntries handlers budget rest
        pure (total, ⟨groupId, plan.id, driverHandler, plan.resourceBudget,
          plan.expectedResults.map (·.1)⟩ :: entries)

/-- The sum of the modules of all plans. -/
def moduleLimit (matrix : BundledOidfMatrix γ) : Option ℕ :=
  matrix.entries.foldlM
    (fun sum entry => checkedAdd maxU32 sum entry.2.resourceBudget.modules) 0

/-- `compile_oidf_plan`. -/
def compileOidfPlan (matrix : BundledOidfMatrix γ) (driver : List OidfDriverHandler)
    (selection : OidfPlanSelection) : Except OidfPlanError OidfExecutionPlan :=
  match moduleLimit matrix with
  | none => .error .resourceBound
  | some moduleLimit => do
    let handlers := collect (driver.map fun handler => (handler.id, handler))
    let groups ← selectionSet selection.groups
    let plans ← selectionSet selection.plans
    let excluded ← selectionSet selection.excludedPlans
    if ¬knownSelection matrix groups plans excluded then .error .unknownSelection
    else
      let filtered := filteredPlans matrix groups plans
      if ∃ plan ∈ excluded, plan ∉ filtered.map (·.2.id) then .error .unknownSelection
      else do
        let (budget, entries) ← compileEntries handlers .zero
          (filtered.filter fun entry => entry.2.id ∉ excluded)
        if entries = [] then .error .emptySelection
        else if maxU32 < entries.length then .error .resourceBound
        else .ok ⟨(entries.map (·.groupId)).dedup.length, entries.length, budget, moduleLimit,
          entries⟩

/-- `open_bundled_oidf_driver_plan`. -/
def openBundledOidfDriverPlan (bundled : BundledOidfMatrix γ) (driver : List OidfDriverHandler)
    (selection : OidfPlanSelection) : Except OidfPlanError OidfExecutionPlan := do
  compileOidfPlan (← bundledOidfMatrix bundled) driver selection

/-! ## What a compiled plan holds -/

/-- The sum of a budget and those of a list. -/
def OidfPlanResourceBudget.sums (budget : OidfPlanResourceBudget)
    (others : List OidfPlanResourceBudget) : OidfPlanResourceBudget where
  modules := budget.modules + (others.map (·.modules)).sum
  clients := budget.clients + (others.map (·.clients)).sum
  wallClockSeconds := budget.wallClockSeconds + (others.map (·.wallClockSeconds)).sum

def OidfPlanResourceBudget.Bounded (budget : OidfPlanResourceBudget) : Prop :=
  budget.modules ≤ maxU32 ∧ budget.clients ≤ maxU32 ∧ budget.wallClockSeconds ≤ maxU64

theorem checkedAdd_some {bound a b c : ℕ} :
    checkedAdd bound a b = some c ↔ a + b ≤ bound ∧ a + b = c := by
  unfold checkedAdd
  split_ifs with fits <;> simp [fits]

theorem budget_checkedAdd {a b c : OidfPlanResourceBudget} :
    a.checkedAdd b = some c ↔ c = a.sums [b] ∧ c.Bounded := by
  obtain ⟨modules, clients, seconds⟩ := c
  simp only [OidfPlanResourceBudget.checkedAdd, Option.bind_eq_bind, Option.bind_eq_some_iff,
    checkedAdd_some, OidfPlanResourceBudget.sums, OidfPlanResourceBudget.Bounded,
    OidfPlanResourceBudget.mk.injEq, List.map_cons, List.map_nil, List.sum_cons, List.sum_nil,
    Nat.add_zero, Option.pure_def, Option.some.injEq]
  constructor
  · rintro ⟨_, ⟨fits, rfl⟩, _, ⟨fits', rfl⟩, _, ⟨fits'', rfl⟩, rfl, rfl, rfl⟩
    exact ⟨⟨rfl, rfl, rfl⟩, fits, fits', fits''⟩
  · rintro ⟨⟨rfl, rfl, rfl⟩, fits, fits', fits''⟩
    exact ⟨_, ⟨fits, rfl⟩, _, ⟨fits', rfl⟩, _, ⟨fits'', rfl⟩, rfl, rfl, rfl⟩

theorem sums_cons (a b : OidfPlanResourceBudget) (rest : List OidfPlanResourceBudget) :
    (a.sums [b]).sums rest = a.sums (b :: rest) := by
  simp [OidfPlanResourceBudget.sums, Nat.add_assoc]

/-- Sums of the same budgets in another order are the same. -/
theorem sums_perm (a : OidfPlanResourceBudget) {l m : List OidfPlanResourceBudget}
    (h : l.Perm m) : a.sums l = a.sums m := by
  unfold OidfPlanResourceBudget.sums
  rw [(h.map _).sum_eq, (h.map _).sum_eq, (h.map _).sum_eq]

theorem Bounded.part {a : OidfPlanResourceBudget} {l : List OidfPlanResourceBudget}
    (h : (a.sums l).Bounded) : a.Bounded := by
  unfold OidfPlanResourceBudget.Bounded OidfPlanResourceBudget.sums at h
  dsimp only at h
  unfold OidfPlanResourceBudget.Bounded
  omega

/-- A total that fits is found by checked additions, in whatever order. -/
theorem budgets_total {a : OidfPlanResourceBudget} {l : List OidfPlanResourceBudget}
    (fits : (a.sums l).Bounded) :
    l.foldlM OidfPlanResourceBudget.checkedAdd a = some (a.sums l) := by
  induction l generalizing a with
  | nil => simp [OidfPlanResourceBudget.sums]
  | cons b rest ih =>
    rw [← sums_cons] at fits
    have first : a.checkedAdd b = some (a.sums [b]) := budget_checkedAdd.mpr ⟨rfl, Bounded.part fits⟩
    rw [List.foldlM_cons, first, ← sums_cons a b rest]
    exact ih fits

theorem moduleLimit_eq {l : List (String × BundledOidfMatrixPlan γ)} {start limit : ℕ}
    (h : l.foldlM (fun sum entry => checkedAdd maxU32 sum entry.2.resourceBudget.modules) start =
      some limit) :
    limit = start + (l.map (·.2.resourceBudget.modules)).sum := by
  induction l generalizing start with
  | nil =>
    have same : start = limit := Option.some.inj h
    simp [same]
  | cons entry rest ih =>
    rw [List.foldlM_cons] at h
    obtain ⟨next, added, after⟩ := Option.bind_eq_some_iff.mp h
    obtain ⟨_, rfl⟩ := checkedAdd_some.mp added
    rw [ih after]
    simp [Nat.add_assoc]

/-- The entries name the plans in their order, and the budget is the sum of theirs. -/
structure Compiled (budget : OidfPlanResourceBudget)
    (selected : List (String × BundledOidfMatrixPlan γ)) (total : OidfPlanResourceBudget)
    (entries : List OidfDriverPlanEntry) : Prop where
  plans : entries.map (fun entry => (entry.groupId, entry.planId)) =
    selected.map fun entry => (entry.1, entry.2.id)
  budgets : entries.map (·.resourceBudget) = selected.map (·.2.resourceBudget)
  adds : total = budget.sums (entries.map (·.resourceBudget))
  bounded : total.Bounded

theorem compileEntries_compiled {handlers : List (String × OidfDriverHandler)}
    {budget total : OidfPlanResourceBudget} {selected : List (String × BundledOidfMatrixPlan γ)}
    {entries : List OidfDriverPlanEntry} (bounded : budget.Bounded)
    (h : compileEntries handlers budget selected = .ok (total, entries)) :
    Compiled budget selected total entries := by
  induction selected generalizing budget total entries with
  | nil =>
    cases h
    exact ⟨rfl, rfl, rfl, bounded⟩
  | cons head rest ih =>
    obtain ⟨groupId, plan⟩ := head
    unfold compileEntries at h
    cases added : budget.checkedAdd plan.resourceBudget with
    | none => simp [added] at h
    | some next =>
      obtain ⟨same, fits⟩ := budget_checkedAdd.mp added
      cases found : get handlers plan.driverHandler with
      | none => simp [added, found] at h
      | some handler =>
        simp only [added, found] at h
        cases run : compileEntries handlers next rest with
        | error failure => simp [run] at h
        | ok result =>
          rw [run] at h
          cases h
          have later := ih fits run
          refine ⟨congrArg _ later.plans, congrArg _ later.budgets, ?_, later.bounded⟩
          rw [later.adds, same, sums_cons]
          rfl

/-- What was compiled: the plans of a selection by the ids, with the modules of the whole Matrix
as their limit. -/
structure Selects (matrix : BundledOidfMatrix γ) (choose : String → String → Bool)
    (plan : OidfExecutionPlan) : Prop where
  compiled : Compiled .zero (matrix.entries.filter fun entry => choose entry.1 entry.2.id)
    plan.selectedResourceBudget plan.plans
  limit : plan.moduleLimit = (matrix.entries.map (·.2.resourceBudget.modules)).sum
  nonempty : plan.plans ≠ []

theorem zero_bounded : OidfPlanResourceBudget.zero.Bounded :=
  ⟨Nat.zero_le _, Nat.zero_le _, Nat.zero_le _⟩

theorem compileOidfPlan_selects {matrix : BundledOidfMatrix γ} {driver : List OidfDriverHandler}
    {selection : OidfPlanSelection} {plan : OidfExecutionPlan}
    (h : compileOidfPlan matrix driver selection = .ok plan) :
    ∃ choose, Selects matrix choose plan := by
  unfold compileOidfPlan at h
  cases limited : moduleLimit matrix with
  | none => simp [limited] at h
  | some limit =>
    rw [limited] at h
    dsimp only at h
    have limit_eq : limit = (matrix.entries.map (·.2.resourceBudget.modules)).sum := by
      rw [moduleLimit_eq limited, Nat.zero_add]
    obtain ⟨groups, _, h⟩ := bind_eq_ok h
    obtain ⟨plans, _, h⟩ := bind_eq_ok h
    obtain ⟨excluded, _, h⟩ := bind_eq_ok h
    by_cases known : knownSelection matrix groups plans excluded
    · rw [if_neg (not_not.mpr known)] at h
      split_ifs at h with outside
      obtain ⟨⟨budget, entries⟩, compiled, h⟩ := bind_eq_ok h
      dsimp only at h
      split_ifs at h with empty large
      cases h
      refine ⟨fun groupId planId => (groups = [] ∨ groupId ∈ groups) ∧
        (plans = [] ∨ planId ∈ plans) ∧ planId ∉ excluded, ?_, limit_eq, empty⟩
      have selected : (filteredPlans matrix groups plans).filter
          (fun entry => entry.2.id ∉ excluded) = matrix.entries.filter fun entry =>
            decide ((groups = [] ∨ entry.1 ∈ groups) ∧
              (plans = [] ∨ entry.2.id ∈ plans) ∧ entry.2.id ∉ excluded) := by
        unfold filteredPlans
        rw [List.filter_filter]
        apply List.filter_congr
        intro entry _
        simp only [Bool.decide_and, Bool.and_comm, Bool.and_assoc]
      rw [← selected]
      exact compileEntries_compiled zero_bounded compiled
    · rw [if_pos known] at h
      cases h

end NazoAuthCtl.OidfPlan
