import NazoAuthCtl.OidfFrames

/-!
# A failed create on the Suite

The intent of a create is recorded before its request, and only the id of an answer removes
it. If the request fails, the intent stays. The settlement of the run refuses to mark the
Suite as clean, to retain its plans, to release a deleted plan and to delete what is
recorded while an intent is pending, and it returns the last of these refusals instead of
its report.
-/

set_option autoImplicit false
set_option linter.all false

namespace NazoAuthCtl.SuiteCreates

open FaultProgram OidfJournal OidfGuard OidfSession OidfPrepare OidfRecover OidfSettlement
  OidfFrames

/-! ## The Suite's phase -/

inductive CreateKind where
  | plan
  | module
  deriving DecidableEq, Repr

/-- How far a worker is with a create. -/
inductive CreateStage where
  | idle
  | intended (kind : CreateKind) (intentId : String)
  | answered (kind : CreateKind) (intentId resourceId : String)
  deriving DecidableEq, Repr

def createIntent (observer : SuiteResourceObserver) : CreateKind → String → Recovering Unit
  | .plan => observer.planCreateIntent
  | .module => observer.moduleCreateIntent

def recordCreate (observer : SuiteResourceObserver) :
    CreateKind → String → String → Recovering Unit
  | .plan => observer.planCreated
  | .module => observer.moduleCreated

/-- A run between the beginning and the settlement of the Suite's phase. `failed` lists the
creates whose request failed; no process reads it. -/
structure Phase where
  world : World
  stages : ℕ → CreateStage
  failed : List (String × SuiteClientError)

def Phase.at (phase : Phase) (world : World) (worker : ℕ) (stage : CreateStage) : Phase :=
  { phase with world, stages := Function.update phase.stages worker stage }

def Phase.withFailure (phase : Phase) (entry : String × SuiteClientError) : Phase :=
  { phase with failed := entry :: phase.failed }

/-- What the requests of one worker do to the guard that all of them share. Every call of
the guard holds its lock, so that the calls interleave as a whole. A worker may stop after
any failure, and what it does between two creates leaves the guard alone. -/
inductive PhaseStep (observer : SuiteResourceObserver) (e : Tape) (phase : Phase) : Phase → Prop
  | intend (worker : ℕ) (kind : CreateKind) (intentId : String) (world : World)
      (idle : phase.stages worker = .idle)
      (recorded : createIntent observer kind intentId e phase.world = (.ok (), world)) :
      PhaseStep observer e phase (phase.at world worker (.intended kind intentId))
  | intendFailed (worker : ℕ) (kind : CreateKind) (intentId failure : String) (world : World)
      (idle : phase.stages worker = .idle)
      (refused : createIntent observer kind intentId e phase.world = (.error failure, world)) :
      PhaseStep observer e phase (phase.at world worker .idle)
  | answer (worker : ℕ) (kind : CreateKind) (intentId resourceId : String)
      (sent : phase.stages worker = .intended kind intentId) :
      PhaseStep observer e phase
        (phase.at phase.world.tick worker (.answered kind intentId resourceId))
  | fail (worker : ℕ) (kind : CreateKind) (intentId : String) (error : SuiteClientError)
      (sent : phase.stages worker = .intended kind intentId) :
      PhaseStep observer e phase
        ((phase.at phase.world.tick worker .idle).withFailure (intentId, error))
  | record (worker : ℕ) (kind : CreateKind) (intentId resourceId : String)
      (outcome : Outcome String Unit) (world : World)
      (sent : phase.stages worker = .answered kind intentId resourceId)
      (told : recordCreate observer kind intentId resourceId e phase.world = (outcome, world)) :
      PhaseStep observer e phase (phase.at world worker .idle)
  | release (planId : String) (outcome : Outcome String Unit) (world : World)
      (told : observer.planDeleted planId e phase.world = (outcome, world)) :
      PhaseStep observer e phase { phase with world }
  | wait : PhaseStep observer e phase { phase with world := phase.world.tick }

inductive PhaseRun (observer : SuiteResourceObserver) (e : Tape) (start : Phase) : Phase → Prop
  | refl : PhaseRun observer e start start
  | step {middle last : Phase} (before : PhaseRun observer e start middle)
      (next : PhaseStep observer e middle last) : PhaseRun observer e start last

/-! ## An owed create -/

/-- The open Suite state of a run with a pending intent. -/
structure Owes (binding : TenantResourceRecoveryBinding) (intentId : String)
    (journal : TenantResourceRecoveryJournal) : Prop where
  bound : journal.binding = binding
  active : ∃ requested, journal.suiteRetention = .active requested
  pending : ∃ suite, journal.suite = some suite ∧ intentId ∈ suite.pendingCreateIntents ∧
    suite.cleanupComplete = false

abbrev Held (binding : TenantResourceRecoveryBinding) (intentId : String) : World → Prop :=
  Durable (Owes binding intentId) binding.runId

section

variable {binding : TenantResourceRecoveryBinding} {intentId : String}
  {journal : TenantResourceRecoveryJournal}

theorem owes_samePart {after : TenantResourceRecoveryJournal} (part : SamePart journal after)
    (owes : Owes binding intentId journal) : Owes binding intentId after := by
  obtain ⟨suite, present, member, opened⟩ := owes.pending
  obtain ⟨requested, active⟩ := owes.active
  exact ⟨part.binding.trans owes.bound, ⟨requested, part.retention.trans active⟩,
    suite, part.suite.trans present, member, opened⟩

theorem owes_withSuite (owes : Owes binding intentId journal) {suite : SuiteRecoveryState}
    (member : intentId ∈ suite.pendingCreateIntents) (opened : suite.cleanupComplete = false) :
    Owes binding intentId (withSuiteState journal suite) :=
  ⟨owes.bound, owes.active, suite, rfl, member, opened⟩

theorem suiteInvariant_held (binding : TenantResourceRecoveryBinding) (intentId : String) :
    SuiteInvariant (Held binding intentId) :=
  suiteInvariant_durable fun _ _ => owes_samePart

theorem keeps_beginSuiteCreate (origin other : String) (retain : Bool) :
    MutationKeeps (Owes binding intentId) (beginSuiteCreate origin other retain) := by
  intro library journal owes
  obtain ⟨suite, present, member, opened⟩ := owes.pending
  have asked : Owes binding intentId (requested journal retain) :=
    ⟨owes.bound, ⟨retain, rfl⟩, owes.pending⟩
  unfold beginSuiteCreate
  cases checkCreate library journal origin other retain with
  | error failure => exact owes
  | ok origin =>
    have found : suiteOf journal origin = suite := by
      rw [suiteOf, present]
      rfl
    simp only [found]
    cases checkIntent suite origin other with
    | error failure => exact owes_withSuite asked member opened
    | ok _ =>
      have later : intentId ∈ suite.pendingCreateIntents ++ [other] :=
        List.mem_append_left _ member
      exact owes_withSuite (owes_withSuite asked member opened) later opened

theorem member_resolved {suite : SuiteRecoveryState} {other : String} (apart : intentId ≠ other)
    (member : intentId ∈ suite.pendingCreateIntents) :
    intentId ∈ (resolved suite other).pendingCreateIntents :=
  (List.mem_erase_of_ne apart).mpr member

theorem keeps_recordSuitePlan (origin planId : String) {other : String}
    (apart : intentId ≠ other) :
    MutationKeeps (Owes binding intentId) (recordSuitePlan origin other planId) := by
  intro library journal owes
  obtain ⟨suite, present, member, opened⟩ := owes.pending
  unfold recordSuitePlan
  cases checkPlan library origin planId with
  | error failure => exact owes
  | ok origin =>
    have found : suiteOf journal origin = suite := by
      rw [suiteOf, present]
      rfl
    simp only [found]
    cases checkAllocation suite origin other with
    | error failure => exact owes_withSuite owes member opened
    | ok _ => exact owes_withSuite owes (member_resolved apart member) opened

theorem keeps_onSuite {missing : String} {check : SuiteRecoveryState → Except String Unit}
    {change : SuiteRecoveryState → SuiteRecoveryState}
    (kept : ∀ suite, intentId ∈ suite.pendingCreateIntents → suite.cleanupComplete = false →
      check suite = .ok () → intentId ∈ (change suite).pendingCreateIntents ∧
        (change suite).cleanupComplete = false) :
    MutationKeeps (Owes binding intentId) (onSuite missing check change) := by
  intro library journal owes
  obtain ⟨suite, present, member, opened⟩ := owes.pending
  unfold onSuite
  simp only [present]
  cases checked : check suite with
  | error failure => exact owes
  | ok _ =>
    have changed := kept suite member opened checked
    exact owes_withSuite owes changed.1 changed.2

theorem keeps_recordSuiteModule (moduleId : String) {other : String} (apart : intentId ≠ other) :
    MutationKeeps (Owes binding intentId) (recordSuiteModule other moduleId) := by
  intro library journal owes
  unfold recordSuiteModule
  cases validateComponent moduleId "Suite module ID" with
  | error failure => exact owes
  | ok _ =>
    apply keeps_onSuite _ library journal owes
    intro suite member opened _
    exact ⟨member_resolved apart member, opened⟩

/-- No plan is released while an intent is pending. -/
theorem keeps_releaseDeletedSuitePlan (planId : String) :
    MutationKeeps (Owes binding intentId) (releaseDeletedSuitePlan planId) := by
  intro library journal owes
  unfold releaseDeletedSuitePlan
  cases validateComponent planId "Suite plan ID" with
  | error failure => exact owes
  | ok _ =>
    apply keeps_onSuite _ library journal owes
    intro suite member opened _
    exact ⟨member, opened⟩

end


/-! ## The refusals of the settlement -/

/-- A mutation that changes no journal with the property and does not pass on it. -/
def Refused (P : TenantResourceRecoveryJournal → Prop) (mutation : Mutation) : Prop :=
  ∀ library journal, P journal →
    (mutation library journal).2 = journal ∧ ∃ failure, (mutation library journal).1 = .error failure

section

variable {binding : TenantResourceRecoveryBinding} {intentId : String}

theorem never_method {P : TenantResourceRecoveryJournal → Prop} {runId : String}
    {mutation : Mutation} (refused : Refused P mutation) :
    Program.Upholds (Durable P runId) (method mutation) fun _ => False := by
  have mutated : Program.Upholds (Durable P runId) (mutate mutation) fun _ => False := by
    intro e w durable
    obtain ⟨same, failure, failed⟩ := refused e.library w.guard.journal durable.held
    constructor
    · have kept : P (mutation e.library w.guard.journal).2 := same.symm ▸ durable.held
      exact ⟨kept, durable.written⟩
    · intro u returned
      have passed : Outcome.ofExcept (mutation e.library w.guard.journal).1 = .ok u := returned
      rw [failed] at passed
      cases passed
  exact Program.upholds_bind mutated fun _ impossible => impossible.elim

theorem refused_markSuiteCleanupComplete :
    Refused (Owes binding intentId) markSuiteCleanupComplete := by
  intro library journal owes
  obtain ⟨suite, present, member, opened⟩ := owes.pending
  obtain ⟨requested, active⟩ := owes.active
  have pending : suite.pendingCreateIntents ≠ [] := List.ne_nil_of_mem member
  have unsettled : unsettledDisposition (.active requested) = true := rfl
  unfold markSuiteCleanupComplete
  rw [active, unsettled, if_neg (by decide)]
  simp only [present]
  rw [if_pos pending]
  exact ⟨rfl, _, rfl⟩

theorem refused_prepareSuitePlanRetention (manifest : SuiteRetentionManifest) (path : Path) :
    Refused (Owes binding intentId) (prepareSuitePlanRetention manifest path) := by
  intro library journal owes
  obtain ⟨suite, present, member, opened⟩ := owes.pending
  have pending : suite.pendingCreateIntents ≠ [] := List.ne_nil_of_mem member
  unfold prepareSuitePlanRetention
  by_cases other : journal.suiteRetention ≠ .active true
  · rw [if_pos other]
    exact ⟨rfl, _, rfl⟩
  · have unsettled : checkRetention library journal suite manifest =
        .error "Suite retention requires a settled allocation" := by
      unfold checkRetention Checks.check
      rw [if_neg fun settled => pending settled.2]
      rfl
    rw [if_neg other]
    simp only [present, unsettled]
    exact ⟨trivial, _, rfl⟩

theorem unsettled_of_owes {journal : TenantResourceRecoveryJournal}
    (owes : Owes binding intentId journal) : suiteResourcesSettled journal = false := by
  obtain ⟨suite, present, member, opened⟩ := owes.pending
  obtain ⟨requested, active⟩ := owes.active
  unfold suiteResourcesSettled
  simp only [active, present]
  exact opened

/-- A recovery of the Suite starts only without a pending intent. -/
theorem never_recoverSuiteResources {I : World → Prop} (origin : String)
    {suite : SuiteRecoveryState} (member : intentId ∈ suite.pendingCreateIntents) :
    Program.Upholds I (recoverSuiteResources origin suite) fun _ => False :=
  Program.upholds_bind (Program.upholds_require _ _) fun _ _ =>
    Program.upholds_bind (Program.upholds_require _ _) fun _ nothing =>
    absurd nothing (List.ne_nil_of_mem member)

theorem keeping_discardPreparedSuiteRetentionStaging :
    Keeping (Held binding intentId) discardPreparedSuiteRetentionStaging := by
  refine Program.upholds_bind Program.upholds_get fun w held => ?_
  obtain ⟨requested, active⟩ := held.held.active
  simp only [active]
  exact Program.upholds_pure trivial

theorem never_cleanupUnretainedSuite (origin : String) :
    Program.Upholds (Held binding intentId) (cleanupUnretainedSuite origin) fun _ => False := by
  refine Program.upholds_bind Program.upholds_get fun w held => ?_
  obtain ⟨suite, present, member, opened⟩ := held.held.pending
  rw [if_neg (by rw [unsettled_of_owes held.held]; decide)]
  refine Program.upholds_bind keeping_discardPreparedSuiteRetentionStaging fun _ _ => ?_
  simp only [present]
  exact Program.upholds_bind (never_recoverSuiteResources origin member) fun _ impossible =>
    impossible.elim

/-! ### The settlement -/

theorem never_prepareRetention (s : Settling) (report : RunReport) :
    Program.Upholds (Held binding intentId) (prepareRetention s report) fun _ => False :=
  Program.upholds_bind Program.upholds_get.weaken fun _ _ =>
    Program.upholds_bind (keeping_library _) fun _ _ =>
    Program.upholds_bind (Program.upholds_ofExcept fun _ _ => trivial) fun _ _ =>
    never_method (refused_prepareSuitePlanRetention _ _)

theorem ineligible_settleSuite (s : Settling) :
    Program.Upholds (Held binding intentId) (settleSuite s) fun result => result.1 = false := by
  unfold settleSuite
  by_cases complete : s.reports (·.cleanupComplete) = true
  · rw [if_pos complete]
    exact Program.upholds_bind (never_method refused_markSuiteCleanupComplete)
      fun _ impossible => impossible.elim
  · rw [if_neg complete]
    unfold settleRetention Settling.reports
    cases s.run with
    | error failure => exact Program.upholds_pure (Bool.and_false _)
    | ok report =>
      by_cases eligible : (!s.userCancelled && report.retentionEligible) = true
      · simp only [if_pos eligible]
        refine Program.upholds_bind (Program.upholds_attempt (never_prepareRetention s report))
          fun prepared impossible => ?_
        cases prepared with
        | ok _ => exact (impossible () rfl).elim
        | error failure => exact Program.upholds_pure rfl
      · simp only [if_neg eligible]
        exact Program.upholds_pure rfl

/-- A settlement of a run with a pending intent does not reach its report. -/
theorem never_settle (s : Settling) :
    Program.Upholds (Held binding intentId) (settle s) fun _ => False := by
  have inv := suiteInvariant_held binding intentId
  have proxy : Keeping (Held binding intentId) settleProxy :=
    Program.upholds_bind Program.upholds_get.weaken fun _ _ =>
      Program.upholds_onlyIf _ fun _ => inv.tenant _ suiteKept_markProxyCleanupComplete
  refine Program.upholds_bind (ineligible_settleSuite s) fun suite ineligible => ?_
  refine Program.upholds_bind proxy fun _ _ => ?_
  refine Program.upholds_bind
    (Program.upholds_attempt (keeping_cleanupRunResources inv s.session)) fun cleanup _ => ?_
  refine Program.upholds_bind (P := fun _ => False) ?_ fun _ impossible => impossible.elim
  rw [ineligible]
  exact Program.upholds_bind (never_cleanupUnretainedSuite s.suiteOrigin) fun _ impossible =>
    impossible.elim

end


/-! ### A later recovery -/

section

variable {binding : TenantResourceRecoveryBinding} {intentId : String}

theorem keeping_recoverProxyIfOpen {I : World → Prop} (inv : SuiteInvariant I) :
    Keeping I recoverProxyIfOpen := by
  have marked : Keeping I (method markProxyCleanupComplete) :=
    inv.tenant _ suiteKept_markProxyCleanupComplete
  have recovers : Keeping I recoverProxy := by
    refine Program.upholds_bind Program.upholds_get.weaken fun w _ => ?_
    cases w.guard.journal.binding.proxy with
    | none => exact marked
    | some proxy =>
      exact Program.upholds_bind (keeping_change inv _ fun _ inside => inside) fun _ _ => marked
  exact Program.upholds_bind Program.upholds_get.weaken fun _ _ =>
    Program.upholds_onlyIf _ fun _ => recovers

theorem never_recoverSuiteIfOpen (origin : String) :
    Program.Upholds (Held binding intentId) (recoverSuiteIfOpen origin) fun _ => False := by
  refine Program.upholds_bind Program.upholds_get fun w held => ?_
  unfold Program.onlyIf
  rw [if_pos (unsettled_of_owes held.held)]
  refine Program.upholds_bind Program.upholds_get fun w held => ?_
  obtain ⟨suite, present, member, opened⟩ := held.held.pending
  simp only [present]
  exact Program.upholds_bind (never_recoverSuiteResources origin member) fun _ impossible =>
    impossible.elim

/-- A recovery with access to the Suite fails on a run with a pending intent. -/
theorem never_recoverRun (session : ConformanceSession) (origin : String) :
    Program.Upholds (Held binding intentId) (recoverRun session (some origin))
      fun _ => False := by
  have inv := suiteInvariant_held binding intentId
  have absent : ∀ revision, Keeping (Held binding intentId) (method (markTenantAbsent revision)) :=
    fun revision => inv.tenant _ (suiteKept_markTenantAbsent revision)
  refine Program.upholds_bind Program.upholds_get.weaken fun w _ =>
    Program.upholds_bind (keeping_tenantDirectoryPresence inv session _) fun described _ => ?_
  cases w.guard.journal.terminalFailure with
  | some failure =>
    have removed : Keeping (Held binding intentId)
        (removeFailedTenant session described.2 described.1) := by
      unfold removeFailedTenant
      by_cases present : described.2 = true
      · rw [if_pos present]
        exact keeping_cleanupEphemeralTenant inv session
      · rw [if_neg present]
        exact absent described.1
    exact Program.upholds_bind (Program.upholds_attempt removed) fun _ _ => Program.upholds_throw _
  | none =>
    refine Program.upholds_bind (Program.upholds_onlyIf _ fun _ => absent described.1)
      fun _ _ => Program.upholds_bind Program.upholds_get fun w' held => ?_
    obtain ⟨requested, active⟩ := held.held.active
    have uncommitted : suiteRetentionCommitted w'.guard.journal = false := by
      rw [suiteRetentionCommitted, active]
    rw [uncommitted, if_neg Bool.false_ne_true]
    exact Program.upholds_bind (Program.upholds_attempt (keeping_recoverProxyIfOpen inv))
      fun _ _ => Program.upholds_bind (keeping_cleanupRunResources inv session) fun _ _ =>
      Program.upholds_bind (Program.upholds_ofExcept fun _ _ => trivial) fun _ _ =>
      Program.upholds_bind (never_recoverSuiteIfOpen origin) fun _ impossible =>
      impossible.elim

end

/-! ## The runs of the phase -/

/-- An intent that is pending in memory and on disk. -/
def Outstanding (intentId : String) (w : World) : Prop :=
  ∃ binding, Held binding intentId w

def KeepsOutstanding {α : Type} (intentId : String) (p : Recovering α) : Prop :=
  ∀ e w outcome w', p e w = (outcome, w') → Outstanding intentId w → Outstanding intentId w'

section

variable {intentId : String}

theorem keepsOutstanding_of_keeping {α : Type} {p : Recovering α}
    (kept : ∀ binding, Keeping (Held binding intentId) p) : KeepsOutstanding intentId p := by
  intro e w outcome w' ran outstanding
  obtain ⟨binding, held⟩ := outstanding
  have after := (kept binding e w held).1
  rw [ran] at after
  exact ⟨binding, after⟩

theorem keeping_prefixed {α : Type} {I : World → Prop} (text : String) {p : Recovering α}
    (kept : Keeping I p) : Keeping I (prefixed text p) := by
  refine Program.upholds_bind (Program.upholds_attempt kept) fun result _ => ?_
  cases result with
  | ok value => exact Program.upholds_pure trivial
  | error failure => exact Program.upholds_throw _

theorem run_prefixed_ok {text : String} {p : Recovering Unit} {e : Tape} {w w' : World}
    (ran : prefixed text p e w = (.ok (), w')) : p e w = (.ok (), w') := by
  obtain ⟨result, middle, attempted, rest⟩ := Program.run_bind_eq_ok ran
  rw [Program.run_attempt] at attempted
  rcases inner : p e w with ⟨value | failure | _, after⟩
  · rw [inner] at attempted
    cases attempted
    cases rest
    rfl
  · rw [inner] at attempted
    cases attempted
    cases rest
  · rw [inner] at attempted
    cases attempted

theorem keepsOutstanding_createIntent (origin : String) (retain : Bool) (kind : CreateKind)
    (other : String) :
    KeepsOutstanding intentId (createIntent (durableSuiteObserver origin retain) kind other) := by
  apply keepsOutstanding_of_keeping
  intro binding
  cases kind with
  | plan => exact keeping_prefixed _ (keeping_method (keeps_beginSuiteCreate origin other true))
  | module => exact keeping_prefixed _ (keeping_method (keeps_beginSuiteCreate origin other true))

theorem keepsOutstanding_recordCreate (origin : String) (retain : Bool) (kind : CreateKind)
    (resourceId : String) {other : String} (apart : intentId ≠ other) :
    KeepsOutstanding intentId
      (recordCreate (durableSuiteObserver origin retain) kind other resourceId) := by
  apply keepsOutstanding_of_keeping
  intro binding
  cases kind with
  | plan =>
    exact keeping_prefixed _ (keeping_method (keeps_recordSuitePlan origin resourceId apart))
  | module => exact keeping_prefixed _ (keeping_method (keeps_recordSuiteModule resourceId apart))

theorem keepsOutstanding_planDeleted (origin : String) (retain : Bool) (planId : String) :
    KeepsOutstanding intentId ((durableSuiteObserver origin retain).planDeleted planId) := by
  apply keepsOutstanding_of_keeping
  intro binding
  exact keeping_prefixed _ (keeping_method (keeps_releaseDeletedSuitePlan planId))

/-- A begun create has a new intent. -/
theorem beginSuiteCreate_ok {library : Library} {journal : TenantResourceRecoveryJournal}
    {origin : String} {retain : Bool}
    (begun : (beginSuiteCreate origin intentId retain library journal).1 = .ok ()) :
    Owes journal.binding intentId (beginSuiteCreate origin intentId retain library journal).2 ∧
      ¬Owes journal.binding intentId journal := by
  unfold beginSuiteCreate at begun ⊢
  cases created : checkCreate library journal origin intentId retain with
  | error failure =>
    rw [created] at begun
    cases begun
  | ok origin =>
    simp only [created] at begun ⊢
    cases checked : checkIntent (suiteOf journal origin) origin intentId with
    | error failure =>
      rw [checked] at begun
      cases begun
    | ok _ =>
      obtain ⟨_, first, _⟩ := bind_eq_ok checked
      obtain ⟨_, opened, fresh⟩ := Checks.check_ok.mp first
      constructor
      · exact ⟨rfl, ⟨retain, rfl⟩, _, rfl, List.mem_append_right _ (List.mem_singleton_self _),
          opened⟩
      · intro owes
        obtain ⟨suite, present, member, _⟩ := owes.pending
        rw [suiteOf, present] at fresh
        exact fresh member

theorem outstanding_createIntent {origin : String} {retain : Bool} {kind : CreateKind} {e : Tape}
    {w w' : World}
    (ran : createIntent (durableSuiteObserver origin retain) kind intentId e w = (.ok (), w')) :
    Outstanding intentId w' ∧ ¬Outstanding intentId w := by
  have begun : method (beginSuiteCreate origin intentId true) e w = (.ok (), w') := by
    cases kind with
    | plan => exact run_prefixed_ok ran
    | module => exact run_prefixed_ok ran
  obtain ⟨passed, held, written⟩ := run_method_ok begun
  obtain ⟨owes, fresh⟩ := beginSuiteCreate_ok passed
  rw [← held] at owes
  have bound := owes.bound
  rw [bound] at written
  constructor
  · exact ⟨_, owes, _, written, owes⟩
  · intro outstanding
    obtain ⟨binding, before⟩ := outstanding
    have same := before.held.bound
    subst same
    exact fresh before.held

end


/-! ### The open intents -/

def CreateStage.intent : CreateStage → Option String
  | .idle => none
  | .intended _ intentId | .answered _ intentId _ => some intentId

/-- Every intent of a worker or of a failed create is pending, and no two are the same. -/
structure Tracked (phase : Phase) : Prop where
  failed : ∀ entry ∈ phase.failed, Outstanding entry.1 phase.world
  opened : ∀ worker intentId, (phase.stages worker).intent = some intentId →
    Outstanding intentId phase.world
  apart : ∀ first second intentId, (phase.stages first).intent = some intentId →
    (phase.stages second).intent = some intentId → first = second
  fresh : ∀ worker intentId, (phase.stages worker).intent = some intentId →
    intentId ∉ phase.failed.map Prod.fst

theorem stages_at (phase : Phase) (world : World) (worker other : ℕ) (stage : CreateStage) :
    ((phase.at world worker stage).stages other) =
      if other = worker then stage else phase.stages other := by
  unfold Phase.at
  by_cases same : other = worker
  · subst same
    rw [if_pos rfl]
    exact Function.update_self ..
  · rw [if_neg same]
    exact Function.update_of_ne same _ _

theorem stages_withFailure (phase : Phase) (entry : String × SuiteClientError) :
    (phase.withFailure entry).stages = phase.stages := rfl

theorem tracked_world {phase : Phase} (tracked : Tracked phase) {world : World}
    (kept : ∀ intentId, Outstanding intentId phase.world → Outstanding intentId world) :
    Tracked { phase with world } where
  failed entry member := kept _ (tracked.failed entry member)
  opened worker intentId stage := kept _ (tracked.opened worker intentId stage)
  apart := tracked.apart
  fresh := tracked.fresh

/-- A worker that keeps its intent, or gives it up. -/
theorem tracked_stage {phase : Phase} (tracked : Tracked phase) {world : World} (worker : ℕ)
    (stage : CreateStage)
    (same : ∀ intentId, stage.intent = some intentId →
      (phase.stages worker).intent = some intentId)
    (kept : ∀ intentId, (phase.stages worker).intent ≠ some intentId ∨
      stage.intent = some intentId → Outstanding intentId phase.world →
      Outstanding intentId world) :
    Tracked (phase.at world worker stage) := by
  have before : ∀ other intentId,
      ((phase.at world worker stage).stages other).intent = some intentId →
      (phase.stages other).intent = some intentId := by
    intro other intentId stays
    rw [stages_at] at stays
    by_cases own : other = worker
    · rw [if_pos own] at stays
      rw [own]
      exact same intentId stays
    · rwa [if_neg own] at stays
  constructor
  · intro entry member
    apply kept _ _ (tracked.failed entry member)
    by_cases own : (phase.stages worker).intent = some entry.1
    · exact absurd (List.mem_map_of_mem member) (tracked.fresh worker _ own)
    · exact .inl own
  · intro other intentId stays
    apply kept _ _ (tracked.opened other intentId (before other intentId stays))
    by_cases own : (phase.stages worker).intent = some intentId
    · have here : other = worker :=
        tracked.apart other worker intentId (before other intentId stays) own
      rw [stages_at, if_pos here] at stays
      exact .inr stays
    · exact .inl own
  · intro first second intentId one two
    exact tracked.apart first second intentId (before first intentId one)
      (before second intentId two)
  · intro other intentId stays
    exact tracked.fresh other intentId (before other intentId stays)

theorem tracked_intend {phase : Phase} (tracked : Tracked phase) {world : World} {worker : ℕ}
    {kind : CreateKind} {intentId : String} (idle : phase.stages worker = .idle)
    (pending : Outstanding intentId world) (new : ¬Outstanding intentId phase.world)
    (kept : ∀ other, Outstanding other phase.world → Outstanding other world) :
    Tracked (phase.at world worker (.intended kind intentId)) := by
  have elsewhere : ∀ other, (phase.stages other).intent ≠ some intentId :=
    fun other stage => new (tracked.opened other intentId stage)
  have own : ∀ other, (phase.stages worker).intent ≠ some other := by
    intro other stage
    rw [idle] at stage
    cases stage
  constructor
  · intro entry member
    exact kept _ (tracked.failed entry member)
  · intro other found stage
    rw [stages_at] at stage
    by_cases here : other = worker
    · rw [if_pos here] at stage
      cases stage
      exact pending
    · rw [if_neg here] at stage
      exact kept _ (tracked.opened other found stage)
  · intro first second found one two
    rw [stages_at] at one two
    by_cases left : first = worker
    · by_cases right : second = worker
      · rw [left, right]
      · rw [if_pos left] at one
        rw [if_neg right] at two
        cases one
        exact absurd two (elsewhere second)
    · rw [if_neg left] at one
      by_cases right : second = worker
      · rw [if_pos right] at two
        cases two
        exact absurd one (elsewhere first)
      · rw [if_neg right] at two
        exact tracked.apart first second found one two
  · intro other found stage
    rw [stages_at] at stage
    by_cases here : other = worker
    · rw [if_pos here] at stage
      cases stage
      intro member
      obtain ⟨entry, recorded, same⟩ := List.mem_map.mp member
      subst same
      exact new (tracked.failed entry recorded)
    · rw [if_neg here] at stage
      exact tracked.fresh other found stage

theorem tracked_fail {phase : Phase} (tracked : Tracked phase) {worker : ℕ} {kind : CreateKind}
    {intentId : String} (error : SuiteClientError)
    (sent : phase.stages worker = .intended kind intentId) :
    Tracked ((phase.at phase.world.tick worker .idle).withFailure (intentId, error)) := by
  have own : (phase.stages worker).intent = some intentId := by
    rw [sent]
    rfl
  have ticked : ∀ other, Outstanding other phase.world → Outstanding other phase.world.tick := by
    intro other outstanding
    obtain ⟨binding, held⟩ := outstanding
    exact ⟨binding, held.tick⟩
  have idle : Tracked (phase.at phase.world.tick worker .idle) := by
    apply tracked_stage tracked worker .idle
    · intro other stage
      cases stage
    · intro other _
      exact ticked other
  constructor
  · intro entry member
    rcases List.mem_cons.mp member with rfl | before
    · exact ticked _ (tracked.opened worker _ own)
    · exact ticked _ (tracked.failed entry before)
  · exact idle.opened
  · exact idle.apart
  · intro other found stage member
    rw [stages_withFailure] at stage
    rcases List.mem_cons.mp member with same | before
    · rw [stages_at, same] at stage
      by_cases here : other = worker
      · rw [if_pos here] at stage
        cases stage
      · rw [if_neg here] at stage
        exact here (tracked.apart other worker intentId stage own)
    · exact idle.fresh other found stage before


theorem outstanding_tick {intentId : String} {w : World} (outstanding : Outstanding intentId w) :
    Outstanding intentId w.tick := by
  obtain ⟨binding, held⟩ := outstanding
  exact ⟨binding, held.tick⟩

theorem tracked_step {origin : String} {retain : Bool} {e : Tape} {phase next : Phase}
    (step : PhaseStep (durableSuiteObserver origin retain) e phase next)
    (tracked : Tracked phase) : Tracked next := by
  cases step with
  | intend worker kind intentId world idle recorded =>
    obtain ⟨pending, new⟩ := outstanding_createIntent recorded
    exact tracked_intend tracked idle pending new fun other =>
      keepsOutstanding_createIntent origin retain kind intentId _ _ _ _ recorded
  | intendFailed worker kind intentId failure world idle refused =>
    apply tracked_stage tracked worker .idle
    · intro other stage
      cases stage
    · intro other _
      exact keepsOutstanding_createIntent origin retain kind intentId _ _ _ _ refused
  | answer worker kind intentId resourceId sent =>
    apply tracked_stage tracked worker
    · intro other stage
      rw [sent]
      exact stage
    · intro other _
      exact outstanding_tick
  | fail worker kind intentId error sent => exact tracked_fail tracked error sent
  | record worker kind intentId resourceId outcome world sent told =>
    apply tracked_stage tracked worker .idle
    · intro other stage
      cases stage
    · intro other elsewhere
      have apart : other ≠ intentId := by
        intro same
        subst same
        rw [sent] at elsewhere
        rcases elsewhere with own | idle
        · exact own rfl
        · cases idle
      exact keepsOutstanding_recordCreate origin retain kind resourceId apart _ _ _ _ told
  | release planId outcome world told =>
    exact tracked_world tracked fun intentId =>
      keepsOutstanding_planDeleted origin retain planId _ _ _ _ told
  | wait => exact tracked_world tracked fun intentId => outstanding_tick

def Phase.initial (world : World) : Phase := ⟨world, fun _ => .idle, []⟩

theorem tracked_run {origin : String} {retain : Bool} {e : Tape} {world : World} {phase : Phase}
    (run : PhaseRun (durableSuiteObserver origin retain) e (.initial world) phase) :
    Tracked phase := by
  induction run with
  | refl =>
    constructor
    · intro entry member
      cases member
    · intro worker intentId stage
      cases stage
    · intro first second intentId stage
      cases stage
    · intro worker intentId stage
      cases stage
  | step before next ih => exact tracked_step next ih

/-! ## What a failed create costs -/

/-- A status of the 4xx class: nothing was allocated. -/
def definitive : SuiteClientError → Bool
  | .httpStatus code => decide (400 ≤ code ∧ code < 500)
  | .other _ => false

def pendingIntents (journal : TenantResourceRecoveryJournal) : List String :=
  (journal.suite.map (·.pendingCreateIntents)).getD []

/-- The settlement of a phase in which creates failed: the process reaches its report, the
tenant and the plans are settled, and a refused create leaves nothing behind. -/
structure CostsNoMoreThanItself (s : Settling) (e : Tape) (phase : Phase) : Prop where
  reported : ∃ output, (settle s e phase.world).1 = .ok output
  tenant : (settle s e phase.world).2.guard.journal.tenantCleanupComplete = true
  plans : suiteResourcesSettled (settle s e phase.world).2.guard.journal = true
  refused : ∀ entry ∈ phase.failed, definitive entry.2 = true →
    entry.1 ∉ pendingIntents (settle s e phase.world).2.guard.journal

theorem settle_of_outstanding {intentId : String} (s : Settling) (e : Tape) {w : World}
    (outstanding : Outstanding intentId w) :
    (∀ output, (settle s e w).1 ≠ .ok output) ∧ Outstanding intentId (settle s e w).2 := by
  obtain ⟨binding, held⟩ := outstanding
  obtain ⟨kept, never⟩ := never_settle s e w held
  exact ⟨fun output returned => never output returned, binding, kept⟩

theorem recoverRun_of_outstanding {intentId : String} (session : ConformanceSession)
    (origin : String) (e : Tape) {w : World} (outstanding : Outstanding intentId w) :
    (∀ receipt, (recoverRun session (some origin) e w).1 ≠ .ok receipt) ∧
      Outstanding intentId (recoverRun session (some origin) e w).2 := by
  obtain ⟨binding, held⟩ := outstanding
  obtain ⟨kept, never⟩ := never_recoverRun session origin e w held
  exact ⟨fun receipt returned => never receipt returned, binding, kept⟩

theorem outstanding_of_failed {origin : String} {retain : Bool} {e : Tape} {world : World}
    {phase : Phase} (run : PhaseRun (durableSuiteObserver origin retain) e (.initial world) phase)
    {entry : String × SuiteClientError} (failed : entry ∈ phase.failed) :
    Outstanding entry.1 phase.world :=
  (tracked_run run).failed entry failed

/-- After a failed create the settlement never reaches its report, and the intent stays. -/
theorem never_costs_no_more {origin : String} {retain : Bool} {e : Tape} {world : World}
    {phase : Phase} (s : Settling)
    (run : PhaseRun (durableSuiteObserver origin retain) e (.initial world) phase)
    (failed : phase.failed ≠ []) : ¬CostsNoMoreThanItself s e phase := by
  intro costs
  obtain ⟨entry, rest, listed⟩ := List.exists_cons_of_ne_nil failed
  have member : entry ∈ phase.failed := by
    rw [listed]
    exact List.mem_cons_self
  obtain ⟨output, returned⟩ := costs.reported
  exact (settle_of_outstanding s e (outstanding_of_failed run member)).1 output returned


/-! ### The first phase of a run -/

/-- A run of the phase that ends in a world, with the first worker between two creates. -/
def ReachesIdle (observer : SuiteResourceObserver) (e : Tape) (start : Phase) (world : World) :
    Prop :=
  ∃ phase, PhaseRun observer e start phase ∧ phase.world = world ∧ phase.stages 0 = .idle

section

variable {observer : SuiteResourceObserver} {e : Tape} {start : Phase}

theorem reachesIdle_wait {world : World} (reached : ReachesIdle observer e start world) :
    ReachesIdle observer e start world.tick := by
  obtain ⟨phase, run, rfl, idle⟩ := reached
  exact ⟨_, .step run .wait, rfl, idle⟩

theorem run_attempt_ok {α : Type} {p : Recovering α} {e : Tape} {w w' : World}
    {result : Except String α} (ran : Program.attempt p e w = (.ok result, w')) :
    p e w = (Outcome.ofExcept result, w') := by
  rw [Program.run_attempt] at ran
  rcases inner : p e w with ⟨value | failure | _, after⟩
  · rw [inner] at ran
    cases ran
    rfl
  · rw [inner] at ran
    cases ran
    rfl
  · rw [inner] at ran
    cases ran

theorem idle_at (phase : Phase) (world : World) (worker : ℕ) (stage : CreateStage) :
    (phase.at world worker stage).stages worker = stage :=
  (stages_at phase world worker worker stage).trans (if_pos rfl)

theorem createPlan_reachesIdle {budget index : ℕ} {group : MatrixGroup} {plan : MatrixPlan}
    {prepared : PreparedRun} {result : PreparedRun × Bool} {w w' : World}
    (ran : createPlan observer budget index group plan prepared e w = (.ok result, w'))
    (reached : ReachesIdle observer e start w) : ReachesIdle observer e start w' := by
  obtain ⟨_, _, chosen, ran⟩ := Program.run_bind_eq_ok ran
  cases chosen
  obtain ⟨phase, run, here, idle⟩ := reachesIdle_wait reached
  obtain ⟨intended, afterIntent, attempted, ran⟩ := Program.run_bind_eq_ok ran
  have intention := run_attempt_ok attempted
  rw [← here] at intention
  cases intended with
  | error failure =>
    cases ran
    exact ⟨_, .step run (.intendFailed 0 .plan _ failure _ idle intention), rfl,
      idle_at ..⟩
  | ok _ =>
    have sent := PhaseRun.step run (.intend 0 .plan _ _ idle intention)
    obtain ⟨answer, _, requested, ran⟩ := Program.run_bind_eq_ok ran
    cases requested
    cases created : e.createPlan afterIntent.clock with
    | error error =>
      rw [created] at ran
      cases ran
      have gone := PhaseRun.step sent (.fail 0 .plan _ error (idle_at ..))
      exact ⟨_, gone, rfl, (congrFun (stages_withFailure _ _) 0).trans (idle_at ..)⟩
    | ok plan' =>
      rw [created] at ran
      have answered := PhaseRun.step sent
        (.answer 0 .plan _ plan'.id (idle_at ..))
      obtain ⟨recorded, _, attempted, ran⟩ := Program.run_bind_eq_ok ran
      have told := run_attempt_ok attempted
      have settled := PhaseRun.step answered
        (.record 0 .plan _ plan'.id _ _ (idle_at ..) told)
      cases recorded with
      | error failure =>
        cases ran
        exact ⟨_, settled, rfl, idle_at ..⟩
      | ok _ =>
        cases ran
        exact ⟨_, settled, rfl, idle_at ..⟩

theorem createPlans_reachesIdle {budget index : ℕ} {group : MatrixGroup} (plans : List MatrixPlan)
    {prepared : PreparedRun} {result : PreparedRun × Bool} {w w' : World}
    (ran : createPlans observer budget index group plans prepared e w = (.ok result, w'))
    (reached : ReachesIdle observer e start w) : ReachesIdle observer e start w' := by
  induction plans generalizing prepared w with
  | nil =>
    cases ran
    exact reached
  | cons plan rest ih =>
    obtain ⟨interrupted, _, looked, ran⟩ := Program.run_bind_eq_ok ran
    cases looked
    have waited := reachesIdle_wait reached
    by_cases stop : e.interrupted w.clock = true
    · simp only [if_pos stop] at ran
      cases ran
      exact waited
    · simp only [if_neg stop] at ran
      obtain ⟨next, _, created, ran⟩ := Program.run_bind_eq_ok ran
      have after := createPlan_reachesIdle created waited
      by_cases goes : next.2 = true
      · rw [if_pos goes] at ran
        exact ih ran after
      · rw [if_neg goes] at ran
        cases ran
        exact after

theorem createGroups_reachesIdle {budget : ℕ} (groups : List MatrixGroup) {index : ℕ}
    {prepared result : PreparedRun} {w w' : World}
    (ran : createGroups observer budget index groups prepared e w = (.ok result, w'))
    (reached : ReachesIdle observer e start w) : ReachesIdle observer e start w' := by
  induction groups generalizing index prepared w with
  | nil =>
    cases ran
    exact reached
  | cons group rest ih =>
    obtain ⟨interrupted, _, looked, ran⟩ := Program.run_bind_eq_ok ran
    cases looked
    have waited := reachesIdle_wait reached
    by_cases stop : e.interrupted w.clock = true
    · simp only [if_pos stop] at ran
      cases ran
      exact waited
    · simp only [if_neg stop] at ran
      obtain ⟨next, _, created, ran⟩ := Program.run_bind_eq_ok ran
      have after := createPlans_reachesIdle group.plans created waited
      by_cases goes : next.2 = true
      · rw [if_pos goes] at ran
        exact ih ran after
      · rw [if_neg goes] at ran
        cases ran
        exact after

end


/-! ### A failed create on a machine -/

theorem failed_create_blocks {origin : String} {retain : Bool} {e : Tape} {world : World}
    {phase : Phase} (s : Settling)
    (run : PhaseRun (durableSuiteObserver origin retain) e (.initial world) phase)
    (failed : phase.failed ≠ []) :
    ¬CostsNoMoreThanItself s e phase ∧
      ∀ entry ∈ phase.failed, Outstanding entry.1 (settle s e phase.world).2 ∧
        ∀ session e' w, Outstanding entry.1 w →
          (∀ receipt, (recoverRun session (some origin) e' w).1 ≠ .ok receipt) ∧
            Outstanding entry.1 (recoverRun session (some origin) e' w).2 := by
  refine ⟨never_costs_no_more s run failed, fun entry member => ⟨?_, fun session e' w => ?_⟩⟩
  · exact (settle_of_outstanding s e (outstanding_of_failed run member)).2
  · exact recoverRun_of_outstanding session origin e'

theorem run_prefixed_of_ok {text : String} {p : Recovering Unit} {e : Tape} {w w' : World}
    (ran : p e w = (.ok (), w')) : prefixed text p e w = (.ok (), w') := by
  have attempted : Program.attempt p e w = (.ok (.ok ()), w') := by
    rw [Program.run_attempt, ran]
  exact Program.run_bind_ok attempted

theorem failed_reached {observer : SuiteResourceObserver} {e : Tape} {w w' : World}
    {kind : CreateKind} {intentId : String} (error : SuiteClientError)
    (intended : createIntent observer kind intentId e w = (.ok (), w')) :
    PhaseRun observer e (.initial w)
      ((((Phase.initial w).at w' 0 (.intended kind intentId)).at w'.tick 0 .idle).withFailure
        (intentId, error)) :=
  .step (.step .refl (.intend 0 kind intentId w' rfl intended))
    (.fail 0 kind intentId error (idle_at ..))

theorem createIntent_plan (origin intentId : String) (retain : Bool) :
    createIntent (durableSuiteObserver origin retain) .plan intentId =
      prefixed "failed to persist Suite plan create intent: "
        (method (beginSuiteCreate origin intentId true)) := rfl

def exampleOperation (operationId : String) (data : ControlResultData) :
    TenantResourceControlOperation where
  operationId
  requestHash := zeros
  controllerKid := "0000000000000000000000000000000000000000000"
  result := ⟨operationId, zeros, .succeeded, none, some data⟩

/-- The journal of a run whose tenant and resources are set up. -/
def readyJournal : TenantResourceRecoveryJournal :=
  { ordinaryJournal exampleBinding with
    phase := .applied
    tenantCreated := true
    tenantKeyGenerated := true
    tenantReloadExpectedRevision := some 2
    tenantReloaded := true
    baselineEnumerate := some (exampleOperation "77777777-7777-4777-8777-777777777777"
      (.tenantResourceEnumerate 2 [] zeros))
    apply := some (exampleOperation "88888888-8888-4888-8888-888888888888"
      (.tenantResourceApply 3 exampleBinding.resourceIdentities [] zeros)) }

def readyWorld : World :=
  (exampleWorld.setJournal readyJournal).putJournal exampleBinding.runId (some readyJournal)

def exampleIntent : String := "66666666-6666-4666-8666-666666666666"

def exampleObserver : SuiteResourceObserver := durableSuiteObserver "https://suite.example" false

def intendedJournal : TenantResourceRecoveryJournal :=
  withSuiteState (requested readyJournal true)
    { emptySuite "https://suite.example" with pendingCreateIntents := [exampleIntent] }

def intendedWorld : World :=
  (readyWorld.setJournal intendedJournal).tick.putJournal intendedJournal.binding.runId
    (some intendedJournal)

/-- The Suite has refused the first create of the run with a status of 400. -/
def refusedPhase : Phase :=
  (((Phase.initial readyWorld).at intendedWorld 0 (.intended .plan exampleIntent)).at
    intendedWorld.tick 0 .idle).withFailure (exampleIntent, .httpStatus 400)

set_option maxRecDepth 10000 in
theorem intended_passed : beginSuiteCreate "https://suite.example" exampleIntent true
    calmTape.library readyWorld.guard.journal = (.ok (), intendedJournal) := by
  decide

set_option maxRecDepth 10000 in
theorem intended_valid : validateJournal calmTape.library intendedJournal
    readyWorld.guard.deploymentId intendedJournal.binding.runId = .ok () := by
  decide

theorem zeros_short (depth : ℕ) : (JsonText.string zeros depth).utf8ByteSize ≤ 386 :=
  JsonText.string_size_le (by decide) depth

theorem exampleIdentity_short : (JsonText.array
    (exampleBinding.resourceIdentities.map calmTape.library.identity) 2).utf8ByteSize ≤ 2000 := by
  have item : (calmTape.library.identity ⟨.user, "alice", zeros⟩ 3).utf8ByteSize ≤ 1000 := by
    refine Nat.le_trans (JsonText.size_object_le 40 [40, 386] (by decide) ?_) (by decide)
    exact .cons (JsonText.string_size_le (by decide) 4) (.cons (zeros_short 4) .nil)
  exact Nat.le_trans (JsonText.size_array_le [1000] (.cons item .nil)) (by decide)

theorem exampleBinding_short :
    (bindingText calmTape.library exampleBinding 1).utf8ByteSize ≤ 9000 := by
  have uuid : ∀ text ∈ ["11111111-1111-4111-8111-111111111111",
      "22222222-2222-4222-8222-222222222222", "33333333-3333-4333-8333-333333333333",
      "44444444-4444-4444-8444-444444444444"], 6 * text.utf8ByteSize + 2 ≤ 218 := by decide
  simp only [List.forall_mem_cons] at uuid
  obtain ⟨tenant, realm, organization, run, -⟩ := uuid
  refine Nat.le_trans (JsonText.size_object_le 40
    [26, 218, 80, 218, 218, 218, 1, 700, 386, 4, 4, 2000] ?_ ?_) ?_
  · decide
  · refine .cons (JsonText.string_size_le (by decide) 2) <|
      .cons (JsonText.string_size_le tenant 2) <| .cons (JsonText.string_size_le (by decide) 2) <|
      .cons (JsonText.string_size_le realm 2) <| .cons (JsonText.string_size_le organization 2) <|
      .cons (JsonText.string_size_le run 2) <| .cons (by decide) <|
      .cons (JsonText.string_size_le (by decide) 2) <|
      .cons (zeros_short 2) <| .cons (by decide) <| .cons (by decide) <|
      .cons exampleIdentity_short .nil
  · decide

theorem exampleOperation_short (operationId : String) (data : ControlResultData)
    (short : 6 * operationId.utf8ByteSize + 2 ≤ 218) :
    (operationText calmTape.library (exampleOperation operationId data) 1).utf8ByteSize ≤
      3000 := by
  have resultNames : ∀ label ∈ ["operation_id"], label.utf8ByteSize ≤ 40 := by decide
  have names : ∀ label ∈ ["operation_id", "request_hash", "controller_kid", "result"],
      label.utf8ByteSize ≤ 40 := by decide
  have kid : 6 * "0000000000000000000000000000000000000000000".utf8ByteSize + 2 ≤ 262 := by decide
  have result : (calmTape.library.controlResult
      (exampleOperation operationId data).result 2).utf8ByteSize ≤ 600 := by
    refine Nat.le_trans (JsonText.size_object_le 40 [218] resultNames ?_) ?_
    · exact .cons (JsonText.string_size_le short 3) .nil
    · show 4 * 2 + 6 + ([218].sum + 1 * (6 * 40 + 2 * 2 + 8)) ≤ 600
      decide
  refine Nat.le_trans (JsonText.size_object_le 40 [218, 386, 262, 600] names ?_) ?_
  · exact .cons (JsonText.string_size_le short 2) (.cons (zeros_short 2)
      (.cons (JsonText.string_size_le kid 2) (.cons result .nil)))
  · show 4 * 1 + 6 + ([218, 386, 262, 600].sum + 4 * (6 * 40 + 2 * 1 + 8)) ≤ 3000
    decide

theorem exampleSuite_short : (suiteText { emptySuite "https://suite.example" with
    pendingCreateIntents := [exampleIntent] } 1).utf8ByteSize ≤ 3000 := by
  have intent : (JsonText.array [JsonText.string exampleIntent] 2).utf8ByteSize ≤ 400 := by
    refine Nat.le_trans (JsonText.size_array_le [218] (.cons ?_ .nil)) (by decide)
    exact JsonText.string_size_le (by decide) 3
  refine Nat.le_trans (JsonText.size_object_le 40 [200, 2, 2, 400, 5] (by decide) ?_) (by decide)
  exact .cons (JsonText.string_size_le (by decide) 2) (.cons (by decide) (.cons (by decide)
    (.cons intent (.cons (by decide) .nil))))

theorem intended_short : (journalText calmTape.library intendedJournal 0).utf8ByteSize ≤
    maxRecoveryJournalBytes := by
  unfold journalText
  refine Nat.le_trans (JsonText.size_object_le 40 [1, 300, 9000, 100, 5, 5, 4, 5, 4, 5, 4, 5, 4,
    3000, 3000, 4, 4, 4, 5, 5, 5, 5, 3000, 1000] ?_ ?_) ?_
  · decide
  · refine .cons (by decide) <| .cons (JsonText.string_size_le (by decide) 1) <|
      .cons exampleBinding_short <| .cons (JsonText.string_size_le (by decide) 1) <|
      .cons (by decide) <| .cons (by decide) <| .cons (by decide) <| .cons (by decide) <|
      .cons (by decide) <| .cons (by decide) <| .cons (by decide) <| .cons (by decide) <|
      .cons (by decide) <| .cons (exampleOperation_short _ _ (by decide)) <|
      .cons (exampleOperation_short _ _ (by decide)) <| .cons (by decide) <| .cons (by decide) <|
      .cons (by decide) <| .cons (by decide) <| .cons (by decide) <| .cons (by decide) <|
      .cons (by decide) <| .cons exampleSuite_short <|
      .cons (by decide) .nil
  · decide

theorem intended_ok : createIntent exampleObserver .plan exampleIntent calmTape readyWorld =
    (.ok (), intendedWorld) := by
  have method_ok := run_method_calm intended_passed intended_valid
    (canonicalJournalBytes_short intended_short) rfl
  unfold exampleObserver
  rw [createIntent_plan]
  exact run_prefixed_of_ok method_ok

theorem refusedPhase_reached :
    PhaseRun exampleObserver calmTape (.initial readyWorld) refusedPhase :=
  failed_reached _ intended_ok

def exampleSettling : Settling where
  session := ⟨"prod", "1", "0000000000000000000000000000000000000000000"⟩
  suiteOrigin := "https://suite.example"
  artifactDigest := zeros
  matrixSha256 := zeros
  evidenceDirectory := ["evidence"]
  userCancelled := false
  run := .error "HTTP response status 400"
  writeEvidence _ _ := pure ()

/-- A plan that the Suite refuses as a bad request keeps the run from its report. -/
theorem refused_plan_blocks :
    PhaseRun exampleObserver calmTape (.initial readyWorld) refusedPhase ∧
      refusedPhase.failed = [(exampleIntent, .httpStatus 400)] ∧
      definitive (.httpStatus 400) = true ∧
      ¬CostsNoMoreThanItself exampleSettling calmTape refusedPhase :=
  ⟨refusedPhase_reached, rfl, rfl, never_costs_no_more exampleSettling refusedPhase_reached
    (List.cons_ne_nil _ _)⟩

theorem failed_create_blocks_refused_plan :
    ¬CostsNoMoreThanItself exampleSettling calmTape refusedPhase ∧
      ∀ entry ∈ refusedPhase.failed, Outstanding entry.1
          (settle exampleSettling calmTape refusedPhase.world).2 ∧
        ∀ session e' w, Outstanding entry.1 w →
          (∀ receipt,
            (recoverRun session (some "https://suite.example") e' w).1 ≠ .ok receipt) ∧
            Outstanding entry.1 (recoverRun session (some "https://suite.example") e' w).2 :=
  failed_create_blocks exampleSettling refusedPhase_reached (List.cons_ne_nil _ _)

end NazoAuthCtl.SuiteCreates
