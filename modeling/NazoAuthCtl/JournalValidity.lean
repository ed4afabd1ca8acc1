import NazoAuthCtl.OidfGuard

/-!
# Which mutations keep a journal valid

A journal is validated as a whole. Each method of the guard checks only what it changes, so
that a change can pass its own check and still leave a journal that is refused. For every
method this states what it needs besides its check.
-/

set_option autoImplicit false
set_option linter.all false

namespace NazoAuthCtl.JournalValidity

open Checks OidfJournal OidfGuard

/-! ## The parts of the validation -/

/-- What `validate_journal` asks of a journal under the name of its own run. -/
structure Valid (library : Library) (deploymentId : String)
    (journal : TenantResourceRecoveryJournal) : Prop where
  discriminator : journal.schema = tenantResourceRecoveryJournalSchema ∧
    journal.kind = tenantResourceRecoveryKind
  binding : validateOrdinaryBinding library journal.binding deploymentId = .ok ()
  phase : journal.phase = expectedPhase journal
  failure : checkOptional (validateTerminalFailure library journal) journal.terminalFailure = .ok ()
  cleanup : journal.cleanupComplete = true → tenantResourceObligationsComplete journal = true
  settled : journal.tenantCleanupComplete = true →
    journal.tenantCreated = true ∨ journal.tenantAbsenceRevision ≠ none
  absent : journal.tenantAbsenceRevision ≠ none →
    journal.tenantCleanupComplete = true ∧ journal.cleanupComplete = true ∧
    journal.tenantDisableExpectedRevision = none ∧ journal.tenantDisabled = false ∧
    journal.tenantFinalizeExpectedRevision = none
  lifecycle : journal.tenantAbsenceRevision = none → lifecycleConsistent journal
  removal : journal.manifestRemovalIntent = true →
    journal.cleanupComplete = true ∧ journal.binding.manifestPath ≠ none
  removed : journal.manifestCleanupComplete = true → journal.manifestRemovalIntent = true
  proxy : journal.binding.proxy = none → journal.proxyCleanupComplete = true
  suite : checkOptional (validateSuiteState library) journal.suite = .ok ()
  disposition : validateDisposition library journal = .ok ()
  baseline : checkOptional (validateEnumerateOperation library journal.binding)
    journal.baselineEnumerate = .ok ()
  applied : checkOptional (validateApplyOrder library journal) journal.apply = .ok ()
  enumerated : checkOptional (validateCleanupOrder library journal) journal.cleanupEnumerate = .ok ()
  revoked : checkOptional (validateRevokeOrder library journal) journal.cleanupRevoke = .ok ()

theorem validateJournal_ok {library : Library} {deploymentId : String}
    {journal : TenantResourceRecoveryJournal} :
    validateJournal library journal deploymentId journal.binding.runId = .ok () ↔
      Valid library deploymentId journal := by
  unfold validateJournal validateTenantResourceJournal validateTenantState validateOperations
  simp only [bind_ok, check_ok, exists_unit]
  constructor
  · rintro ⟨-, discriminator, binding, phase, failure,
      ⟨cleanup, settled, absent, lifecycle, removal, removed, proxy⟩, suite, disposition,
      baseline, applied, enumerated, revoked⟩
    exact ⟨discriminator, binding, phase, failure, cleanup, settled, absent, lifecycle, removal,
      removed, proxy, suite, disposition, baseline, applied, enumerated, revoked⟩
  · intro valid
    exact ⟨trivial, valid.discriminator, valid.binding, valid.phase, valid.failure,
      ⟨valid.cleanup, valid.settled, valid.absent, valid.lifecycle, valid.removal,
        valid.removed, valid.proxy⟩, valid.suite, valid.disposition, valid.baseline,
      valid.applied, valid.enumerated, valid.revoked⟩

section

variable {library : Library} {deploymentId : String} {journal : TenantResourceRecoveryJournal}

/-! ## The tenant -/

theorem valid_checked {check : Library → TenantResourceRecoveryJournal → Except String Unit}
    {change : TenantResourceRecoveryJournal → TenantResourceRecoveryJournal}
    (valid : Valid library deploymentId journal)
    (changed : check library journal = .ok () → Valid library deploymentId (change journal)) :
    Valid library deploymentId (checked check change library journal).2 := by
  unfold checked
  cases passed : check library journal with
  | error failure => exact valid
  | ok u => exact changed passed

theorem valid_markTenantCreated (valid : Valid library deploymentId journal) :
    Valid library deploymentId (markTenantCreated library journal).2 := by
  refine valid_checked valid fun _ => { valid with settled := ?_, lifecycle := ?_ }
  · exact fun _ => .inl rfl
  · intro present
    have before := valid.lifecycle present
    exact ⟨fun _ => rfl, before.2.1, before.2.2.1, fun _ => rfl, before.2.2.2.2⟩

theorem valid_markTenantKeyGenerated (valid : Valid library deploymentId journal) :
    Valid library deploymentId (markTenantKeyGenerated library journal).2 := by
  refine valid_checked valid fun passed => { valid with lifecycle := ?_ }
  intro present
  have before := valid.lifecycle present
  exact ⟨fun _ => check_ok.mp passed, fun _ => rfl, before.2.2⟩

theorem valid_prepareTenantReload (revision : ℕ) (valid : Valid library deploymentId journal) :
    Valid library deploymentId (prepareTenantReload revision library journal).2 := by
  refine valid_checked valid fun passed => { valid with lifecycle := ?_ }
  intro present
  have before := valid.lifecycle present
  simp only [bind_ok, check_ok, exists_unit] at passed
  exact ⟨before.1, fun _ => passed.1, fun _ => Option.some_ne_none revision, before.2.2.2⟩

theorem valid_markTenantReloaded (valid : Valid library deploymentId journal) :
    Valid library deploymentId (markTenantReloaded library journal).2 := by
  refine valid_checked valid fun passed => { valid with lifecycle := ?_ }
  intro present
  have before := valid.lifecycle present
  exact ⟨before.1, before.2.1, fun _ => check_ok.mp passed, before.2.2.2⟩

/-- Nothing in the method asks for a tenant that is recorded and there. -/
theorem valid_prepareTenantDisable (revision : ℕ) (valid : Valid library deploymentId journal)
    (ready : journal.tenantDisableExpectedRevision = none →
      journal.tenantCreated = true ∧ journal.tenantAbsenceRevision = none) :
    Valid library deploymentId (prepareTenantDisable revision library journal).2 := by
  refine valid_checked valid fun passed => ?_
  have there : journal.tenantCreated = true ∧ journal.tenantAbsenceRevision = none := by
    cases recorded : journal.tenantDisableExpectedRevision with
    | none => exact ready recorded
    | some earlier =>
      have named : journal.tenantDisableExpectedRevision ≠ none := by
        rw [recorded]
        exact Option.some_ne_none earlier
      have present : journal.tenantAbsenceRevision = none := by
        by_contra absent
        exact named (valid.absent absent).2.2.1
      exact ⟨(valid.lifecycle present).2.2.2.1 named, present⟩
  obtain ⟨created, present⟩ := there
  refine { valid with absent := ?_, lifecycle := ?_ }
  · intro absent
    exact absurd present absent
  · intro _
    have before := valid.lifecycle present
    exact ⟨before.1, before.2.1, before.2.2.1, fun _ => created,
      fun _ => Option.some_ne_none revision, before.2.2.2.2.2⟩

theorem valid_markTenantDisabled (valid : Valid library deploymentId journal) :
    Valid library deploymentId (markTenantDisabled library journal).2 := by
  refine valid_checked valid fun passed => { valid with absent := ?_, lifecycle := ?_ }
  · intro absent
    exact absurd (valid.absent absent).2.2.1 (check_ok.mp passed)
  · intro present
    have before := valid.lifecycle present
    exact ⟨before.1, before.2.1, before.2.2.1, before.2.2.2.1, fun _ => check_ok.mp passed,
      fun _ => rfl, before.2.2.2.2.2.2⟩

theorem valid_prepareTenantFinalize (revision : ℕ) (valid : Valid library deploymentId journal) :
    Valid library deploymentId (prepareTenantFinalize revision library journal).2 := by
  refine valid_checked valid fun passed => ?_
  simp only [bind_ok, check_ok, exists_unit] at passed
  refine { valid with absent := ?_, lifecycle := ?_ }
  · intro absent
    exact absurd (passed.1.symm.trans (valid.absent absent).2.2.2.1) (by decide)
  · intro present
    have before := valid.lifecycle present
    exact ⟨before.1, before.2.1, before.2.2.1, before.2.2.2.1, before.2.2.2.2.1,
      fun _ => passed.1, fun _ => Option.some_ne_none revision⟩

theorem valid_markTenantCleanupComplete (valid : Valid library deploymentId journal) :
    Valid library deploymentId (markTenantCleanupComplete library journal).2 := by
  refine valid_checked valid fun passed => ?_
  have passed := check_ok.mp passed
  have present : journal.tenantAbsenceRevision = none := by
    by_contra absent
    exact absurd (passed.1.symm.trans (valid.absent absent).2.2.2.1) (by decide)
  have before := valid.lifecycle present
  refine { valid with settled := ?_, absent := ?_, lifecycle := ?_ }
  · exact fun _ => .inl (before.2.2.2.1 (before.2.2.2.2.1 passed.1))
  · intro absent
    exact absurd present absent
  · exact fun _ => ⟨before.1, before.2.1, before.2.2.1, before.2.2.2.1, before.2.2.2.2.1,
      before.2.2.2.2.2.1, fun _ => passed.2⟩

theorem valid_markProxyCleanupComplete (valid : Valid library deploymentId journal) :
    Valid library deploymentId (markProxyCleanupComplete library journal).2 :=
  valid_checked valid fun _ => { valid with proxy := fun _ => rfl }

theorem valid_markTenantAbsent (revision : ℕ) (valid : Valid library deploymentId journal) :
    Valid library deploymentId (markTenantAbsent revision library journal).2 :=
  valid_checked valid fun _ =>
    { valid with
      failure := rfl
      cleanup := fun _ => rfl
      settled := fun _ => .inr (Option.some_ne_none revision)
      absent := fun _ => ⟨rfl, rfl, rfl, rfl, rfl⟩
      lifecycle := fun present => absurd present (Option.some_ne_none revision)
      removal := fun intended => ⟨rfl, (valid.removal intended).2⟩ }

/-! ### A failure that is taken back -/

theorem filter_failure (operationId : String) (failure : Option TenantResourceControlOperation) :
    failure.filter (·.operationId ≠ operationId) = failure ∨
      failure.filter (·.operationId ≠ operationId) = none := by
  cases failure with
  | none => exact .inl rfl
  | some operation =>
    by_cases same : operation.operationId ≠ operationId
    · exact .inl (Option.filter_some_pos (decide_eq_true same))
    · exact .inr (Option.filter_some_neg (decide_eq_false same))

/-- Without its failure a journal has at least the obligations done that it had with it. -/
theorem obligations_without_failure
    (done : tenantResourceObligationsComplete journal = true) :
    tenantResourceObligationsComplete { journal with terminalFailure := none } = true := by
  unfold tenantResourceObligationsComplete at done ⊢
  by_cases failed : journal.terminalFailure.isSome = true
  · rw [if_pos failed] at done
    cases done
  · rw [if_neg failed] at done
    exact done

theorem valid_withoutFailureOf (operationId : String) (valid : Valid library deploymentId journal) :
    Valid library deploymentId
      { journal with terminalFailure := withoutFailureOf journal operationId } := by
  unfold withoutFailureOf
  rcases filter_failure operationId journal.terminalFailure with same | none
  · rw [same]
    exact valid
  · rw [none]
    exact { valid with
      failure := rfl
      cleanup := fun complete => obligations_without_failure (valid.cleanup complete) }

theorem valid_resetFailedTenantCleanup (result : ControlResult)
    (valid : Valid library deploymentId journal) :
    Valid library deploymentId (resetFailedTenantCleanup result library journal).2 := by
  refine valid_checked valid fun passed => ?_
  have open' := (check_ok.mp passed).2
  have present : journal.tenantAbsenceRevision = none := by
    by_contra absent
    exact absurd ((valid.absent absent).1.symm.trans open') (by decide)
  have kept := valid_withoutFailureOf result.operationId valid
  have before := valid.lifecycle present
  have unsettled : journal.tenantCleanupComplete ≠ true := by
    rw [open']
    decide
  by_cases disabled : journal.tenantDisabled = true
  · simp only [if_pos disabled]
    refine { kept with absent := ?_, lifecycle := ?_ }
    · intro absent
      exact absurd present absent
    · exact fun _ => ⟨before.1, before.2.1, before.2.2.1, before.2.2.2.1, before.2.2.2.2.1,
        fun some => absurd rfl some, fun settled => absurd settled unsettled⟩
  · simp only [if_neg disabled]
    refine { kept with absent := ?_, lifecycle := ?_ }
    · intro absent
      exact absurd present absent
    · exact fun _ => ⟨before.1, before.2.1, before.2.2.1, fun some => absurd rfl some,
        fun yes => absurd yes disabled, before.2.2.2.2.2⟩

/-! ## Control operations -/

/-- A result of a phase comes after what the phase needs and before those of later phases. -/
def InOrder (journal : TenantResourceRecoveryJournal) : TenantResourceRecoveryPhase → Prop
  | .intent => True
  | .baselineEnumerated =>
    journal.apply = none ∧ journal.cleanupEnumerate = none ∧ journal.cleanupRevoke = none
  | .applied => journal.baselineEnumerate ≠ none ∧ journal.cleanupEnumerate = none ∧
      journal.cleanupRevoke = none
  | .cleanupEnumerated => journal.cleanupRevoke = none
  | .cleanupRevoked => True

section recorded

variable (baseline apply enumerate revoke : Option TenantResourceControlOperation)

def withOperations (journal : TenantResourceRecoveryJournal)
    (baseline apply enumerate revoke : Option TenantResourceControlOperation) :
    TenantResourceRecoveryJournal :=
  { journal with
    baselineEnumerate := baseline
    apply
    cleanupEnumerate := enumerate
    cleanupRevoke := revoke }

variable {baseline apply enumerate revoke}

/-- Operations that are there stay, so that what they settle stays settled. -/
theorem obligations_withOperations
    (applied : journal.apply ≠ none → apply ≠ none)
    (enumerated : journal.cleanupEnumerate ≠ none → enumerate = journal.cleanupEnumerate)
    (revoked : journal.cleanupRevoke.isSome = true → revoke.isSome = true)
    (done : tenantResourceObligationsComplete journal = true) :
    tenantResourceObligationsComplete (withOperations journal baseline apply enumerate revoke) =
      true := by
  unfold tenantResourceObligationsComplete withOperations at *
  dsimp only at *
  by_cases failed : journal.terminalFailure.isSome = true
  · rw [if_pos failed] at done
    cases done
  · rw [if_neg failed] at done ⊢
    by_cases absent : journal.tenantAbsenceRevision.isSome = true
    · rw [if_pos absent]
    · rw [if_neg absent] at done ⊢
      cases recorded : journal.cleanupEnumerate with
      | none =>
        rw [recorded] at done
        cases done
      | some operation =>
        rw [enumerated (by rw [recorded]; exact Option.some_ne_none operation), recorded]
        rw [recorded] at done
        dsimp only at done ⊢
        by_cases unapplied : journal.apply = none
        · rw [if_pos unapplied] at done
          cases done
        · rw [if_neg unapplied] at done
          rw [if_neg (applied unapplied)]
          split at done
          · rename_i resources _ listed
            by_cases none : presentResources journal.binding resources = []
            · rw [if_pos none]
            · rw [if_neg none] at done ⊢
              exact revoked done
          · cases done

theorem valid_recordedPhase {phase : TenantResourceRecoveryPhase}
    (valid : Valid library deploymentId journal)
    (ordered : phase = expectedPhase (withOperations journal baseline apply enumerate revoke))
    (kept : tenantResourceObligationsComplete journal = true →
      tenantResourceObligationsComplete (withOperations journal baseline apply enumerate revoke) =
        true)
    (baselined : checkOptional (validateEnumerateOperation library journal.binding) baseline =
      .ok ())
    (applied : checkOptional (validateApplyOrder library
      (withOperations journal baseline apply enumerate revoke)) apply = .ok ())
    (enumerated : checkOptional (validateCleanupOrder library
      (withOperations journal baseline apply enumerate revoke)) enumerate = .ok ())
    (revoked : checkOptional (validateRevokeOrder library
      (withOperations journal baseline apply enumerate revoke)) revoke = .ok ()) :
    Valid library deploymentId
      (recordedPhase (withOperations journal baseline apply enumerate revoke) phase) := by
  have failing : journal.terminalFailure ≠ none →
      tenantResourceObligationsComplete (withOperations journal baseline apply enumerate revoke) =
        false := by
    intro failed
    exact if_pos (Option.isSome_iff_ne_none.mpr failed)
  exact { valid with
    phase := ordered
    failure := by
      cases failed : journal.terminalFailure with
      | none =>
        show checkOptional _ journal.terminalFailure = .ok ()
        rw [failed]
        rfl
      | some failure =>
        have before := valid.failure
        rw [failed] at before
        simp only [checkOptional, validateTerminalFailure, bind_ok, check_ok, exists_unit]
          at before
        show checkOptional _ journal.terminalFailure = .ok ()
        rw [failed]
        simp only [checkOptional, validateTerminalFailure, bind_ok, check_ok, exists_unit]
        exact ⟨before.1, before.2.1,
          failing (by rw [failed]; exact Option.some_ne_none failure), before.2.2.2⟩
    cleanup := id
    absent := fun absent =>
      have before := valid.absent absent
      ⟨before.1, kept (valid.cleanup before.2.1), before.2.2⟩
    removal := fun intended =>
      have before := valid.removal intended
      ⟨kept (valid.cleanup before.1), before.2⟩
    baseline := baselined
    applied
    enumerated
    revoked }

end recorded

theorem valid_storeSucceeded (phase : TenantResourceRecoveryPhase)
    (operation : TenantResourceControlOperation) (valid : Valid library deploymentId journal)
    (passed : checkSucceeded library journal phase operation = .ok ())
    (ordered : InOrder journal phase) :
    Valid library deploymentId (storeSucceeded journal phase operation) := by
  unfold checkSucceeded at passed
  cases phase with
  | intent => exact valid
  | baselineEnumerated =>
    simp only [bind_ok, check_ok, exists_unit] at passed
    have first : expectedPhase (withOperations journal (some operation) journal.apply
        journal.cleanupEnumerate journal.cleanupRevoke) = .baselineEnumerated := by
      unfold expectedPhase withOperations
      rw [ordered.1, ordered.2.1, ordered.2.2]
      rfl
    have applied : checkOptional (validateApplyOrder library
        (withOperations journal (some operation) journal.apply journal.cleanupEnumerate
          journal.cleanupRevoke)) journal.apply = .ok () := by
      rw [ordered.1]
      rfl
    exact valid_recordedPhase valid first.symm
      (obligations_withOperations (fun some => some) (fun _ => rfl) id)
      passed.2.1 applied valid.enumerated valid.revoked
  | applied =>
    simp only [bind_ok, check_ok, exists_unit] at passed
    have second : expectedPhase (withOperations journal journal.baselineEnumerate
        (some operation) journal.cleanupEnumerate journal.cleanupRevoke) = .applied := by
      unfold expectedPhase withOperations
      rw [ordered.2.1, ordered.2.2]
      rfl
    have applied : checkOptional (validateApplyOrder library
        (withOperations journal journal.baselineEnumerate (some operation)
          journal.cleanupEnumerate journal.cleanupRevoke)) (some operation) = .ok () := by
      simp only [checkOptional, validateApplyOrder, bind_ok, check_ok, exists_unit]
      exact ⟨ordered.1, passed.2.1⟩
    have enumerated : checkOptional (validateCleanupOrder library
        (withOperations journal journal.baselineEnumerate (some operation)
          journal.cleanupEnumerate journal.cleanupRevoke)) journal.cleanupEnumerate = .ok () := by
      rw [ordered.2.1]
      rfl
    exact valid_recordedPhase valid second.symm
      (obligations_withOperations (fun _ => Option.some_ne_none operation) (fun _ => rfl) id)
      valid.baseline applied enumerated valid.revoked
  | cleanupEnumerated =>
    simp only [bind_ok, check_ok, exists_unit] at passed
    have third : expectedPhase (withOperations journal journal.baselineEnumerate journal.apply
        (some operation) journal.cleanupRevoke) = .cleanupEnumerated := by
      unfold expectedPhase withOperations
      rw [show journal.cleanupRevoke = none from ordered]
      rfl
    have enumerated : checkOptional (validateCleanupOrder library
        (withOperations journal journal.baselineEnumerate journal.apply (some operation)
          journal.cleanupRevoke)) (some operation) = .ok () := by
      simp only [checkOptional, validateCleanupOrder, bind_ok, check_ok, exists_unit]
      exact ⟨passed.2.1, passed.2.2.1⟩
    have revoked : checkOptional (validateRevokeOrder library
        (withOperations journal journal.baselineEnumerate journal.apply (some operation)
          journal.cleanupRevoke)) journal.cleanupRevoke = .ok () := by
      rw [show journal.cleanupRevoke = none from ordered]
      rfl
    have same : journal.cleanupEnumerate ≠ none →
        some operation = journal.cleanupEnumerate := by
      intro recorded
      obtain ⟨existing, known⟩ := Option.ne_none_iff_exists'.mp recorded
      rw [known, check_ok.mp passed.2.2.2 existing known]
    exact valid_recordedPhase valid third.symm
      (obligations_withOperations (fun some => some) same id)
      valid.baseline valid.applied enumerated revoked
  | cleanupRevoked =>
    cases known : journal.cleanupEnumerate with
    | none =>
      rw [known] at passed
      simp only [bind_ok, check_ok, exists_unit, reduceCtorEq, and_false] at passed
    | some enumerate =>
      rw [known] at passed
      simp only [bind_ok, check_ok, exists_unit] at passed
      have revoked : checkOptional (validateRevokeOrder library
          (withOperations journal journal.baselineEnumerate journal.apply
            journal.cleanupEnumerate (some operation))) (some operation) = .ok () := by
        show validateRevokeOrder library _ operation = .ok ()
        unfold validateRevokeOrder withOperations
        dsimp only
        rw [known]
        exact passed.2.1
      exact valid_recordedPhase valid rfl
        (obligations_withOperations (fun some => some) (fun _ => rfl) fun _ => rfl)
        valid.baseline valid.applied valid.enumerated revoked

theorem valid_recordFailed (operation : TenantResourceControlOperation)
    (valid : Valid library deploymentId journal)
    (identified : validateControlIdentity library operation = .ok ())
    (failed : operation.result.outcome = .failed)
    (passed : checkFailed journal operation = .ok ()) (open' : journal.cleanupComplete = false) :
    Valid library deploymentId { journal with terminalFailure := some operation } := by
  unfold checkFailed at passed
  simp only [bind_ok, check_ok, exists_unit] at passed
  have unintended : journal.manifestRemovalIntent = false := by
    by_contra intended
    have complete := (valid.removal (Bool.not_eq_false _ ▸ intended)).1
    exact absurd (complete.symm.trans open') (by decide)
  have unremoved : journal.manifestCleanupComplete = false := by
    by_contra removed
    have intended := valid.removed (Bool.not_eq_false _ ▸ removed)
    exact absurd (intended.symm.trans unintended) (by decide)
  exact { valid with
    failure := by
      simp only [checkOptional, validateTerminalFailure, bind_ok, check_ok, exists_unit]
      exact ⟨identified, ⟨failed, passed.1.1, passed.1.2⟩, open', unintended, unremoved⟩
    cleanup := fun complete => absurd (complete.symm.trans open') (by decide) }

/-- A success needs its place in the order of the phases, a failure an open cleanup. -/
theorem valid_recordTerminalCompletion (phase : TenantResourceRecoveryPhase)
    (operation : TenantResourceControlOperation) (valid : Valid library deploymentId journal)
    (ordered : operation.result.outcome = .succeeded →
      checkSucceeded library journal phase operation = .ok () → InOrder journal phase)
    (open' : operation.result.outcome = .failed →
      checkFailed journal operation = .ok () → journal.cleanupComplete = false) :
    Valid library deploymentId (recordTerminalCompletion phase operation library journal).2 := by
  refine valid_checked valid fun passed => ?_
  cases outcome : operation.result.outcome with
  | succeeded =>
    simp only [bind_ok, exists_unit, outcome] at passed
    exact valid_storeSucceeded phase operation valid passed.2 (ordered outcome passed.2)
  | failed =>
    simp only [bind_ok, exists_unit, outcome] at passed
    exact valid_recordFailed operation valid passed.1 outcome passed.2
      (open' outcome passed.2)
  | inProgress => exact valid

/-! ## The Suite -/

def UniqueIds (ids : List String) : Prop := (∀ id ∈ ids, ValidComponent id) ∧ ids.Nodup

theorem checkEach_unique {label duplicate : String} {before ids : List String} :
    checkEach (validateUnique label duplicate) before ids = .ok () ↔
      UniqueIds ids ∧ ∀ id ∈ ids, id ∉ before := by
  induction ids generalizing before with
  | nil =>
    constructor
    · intro _
      exact ⟨⟨fun _ member => absurd member List.not_mem_nil, List.nodup_nil⟩,
        fun _ member => absurd member List.not_mem_nil⟩
    · intro _
      rfl
  | cons id rest ih =>
    simp only [checkEach, validateUnique, validateComponent, bind_ok, check_ok, exists_unit, ih]
    unfold UniqueIds
    rw [List.forall_mem_cons, List.forall_mem_cons, List.nodup_cons]
    constructor
    · rintro ⟨⟨component, fresh⟩, ⟨components, nodup⟩, apart⟩
      exact ⟨⟨⟨component, components⟩, fun member => apart id member List.mem_cons_self, nodup⟩,
        fresh, fun other member known => apart other member (List.mem_cons_of_mem id known)⟩
    · rintro ⟨⟨⟨component, components⟩, apart, nodup⟩, fresh, others⟩
      refine ⟨⟨component, fresh⟩, ⟨components, nodup⟩, fun other member known => ?_⟩
      rcases List.mem_cons.mp known with same | known
      · exact apart (same ▸ member)
      · exact others other member known

structure ValidSuite (library : Library) (suite : SuiteRecoveryState) : Prop where
  origin : parseSuite library suite.origin = some suite.origin
  plans : suite.planIds.length ≤ maxSuiteRecoveryPlans
  modules : suite.moduleIds.length ≤ maxSuiteRecoveryModules
  intents : suite.pendingCreateIntents.length ≤ maxSuiteRecoveryPlans + maxSuiteRecoveryModules
  clean : suite.cleanupComplete = true → suite.pendingCreateIntents = []
  planIds : UniqueIds suite.planIds
  moduleIds : UniqueIds suite.moduleIds
  pending : UniqueIds suite.pendingCreateIntents

theorem validateSuiteState_ok {suite : SuiteRecoveryState} :
    validateSuiteState library suite = .ok () ↔ ValidSuite library suite := by
  unfold validateSuiteState
  simp only [bind_ok, check_ok, exists_unit, checkEach_unique]
  constructor
  · rintro ⟨-, ⟨origin, plans, modules, intents, clean⟩, planIds, moduleIds, pending⟩
    exact ⟨origin, plans, modules, intents, clean, planIds.1, moduleIds.1, pending.1⟩
  · intro valid
    have none : ∀ {ids : List String}, ∀ id ∈ ids, id ∉ ([] : List String) :=
      fun _ _ => List.not_mem_nil
    refine ⟨?_, ⟨valid.origin, valid.plans, valid.modules, valid.intents, valid.clean⟩,
      ⟨valid.planIds, none⟩, ⟨valid.moduleIds, none⟩, valid.pending, none⟩
    rw [valid.origin]
    exact Option.some_ne_none _

theorem uniqueIds_nil : UniqueIds [] :=
  ⟨fun _ member => absurd member List.not_mem_nil, List.nodup_nil⟩

theorem UniqueIds.append {ids : List String} {id : String} (unique : UniqueIds ids)
    (component : ValidComponent id) (fresh : id ∉ ids) : UniqueIds (ids ++ [id]) := by
  constructor
  · intro other member
    rcases List.mem_append.mp member with old | new
    · exact unique.1 other old
    · exact List.mem_singleton.mp new ▸ component
  · rw [List.nodup_append]
    refine ⟨unique.2, List.nodup_cons.mpr ⟨List.not_mem_nil, List.nodup_nil⟩, fun other old same new => ?_⟩
    rintro rfl
    exact fresh (List.mem_singleton.mp new ▸ old)

theorem UniqueIds.recordId {ids : List String} {id : String} (unique : UniqueIds ids)
    (component : ValidComponent id) : UniqueIds (recordId ids id) := by
  unfold OidfGuard.recordId
  by_cases known : id ∈ ids
  · rw [if_pos known]
    exact unique
  · rw [if_neg known]
    exact unique.append component known

theorem UniqueIds.erase {ids : List String} (unique : UniqueIds ids) (id : String) :
    UniqueIds (ids.erase id) :=
  ⟨fun other member => unique.1 other (List.mem_of_mem_erase member), unique.2.erase id⟩

theorem length_recordId {ids : List String} {id : String} {bound : ℕ}
    (within : ids.length ≤ bound) (room : ids.length < bound ∨ id ∈ ids) :
    (recordId ids id).length ≤ bound := by
  unfold recordId
  by_cases known : id ∈ ids
  · rw [if_pos known]
    exact within
  · rw [if_neg known, List.length_append]
    rcases room with room | known'
    · exact room
    · exact absurd known' known

theorem Valid.ofSuite {suite : SuiteRecoveryState} (valid : Valid library deploymentId journal)
    (present : journal.suite = some suite) : ValidSuite library suite := by
  have before := valid.suite
  rw [present] at before
  exact validateSuiteState_ok.mp before

theorem valid_withSuite {suite : SuiteRecoveryState} {retention : SuiteRetentionDisposition}
    (valid : Valid library deploymentId journal) (state : ValidSuite library suite)
    (disposition : validateDisposition library
      { withSuiteState journal suite with suiteRetention := retention } = .ok ()) :
    Valid library deploymentId
      { withSuiteState journal suite with suiteRetention := retention } :=
  { valid with
    suite := validateSuiteState_ok.mpr state
    disposition }

/-- Retained, prepared and cleaned plans have no intent left. -/
theorem active_of_intent {suite : SuiteRecoveryState} {intentId : String}
    (valid : Valid library deploymentId journal) (present : journal.suite = some suite)
    (pending : intentId ∈ suite.pendingCreateIntents) :
    ∃ requested, journal.suiteRetention = .active requested := by
  have some : suite.pendingCreateIntents ≠ [] := List.ne_nil_of_mem pending
  have disposition := valid.disposition
  unfold validateDisposition at disposition
  cases retention : journal.suiteRetention with
  | active requested => exact ⟨requested, rfl⟩
  | cleaned =>
    rw [retention] at disposition
    simp only [withSuite, present, check_ok] at disposition
    exact absurd disposition.2.1 some
  | retentionPrepared record =>
    rw [retention] at disposition
    simp only [withSuite, present, bind_ok, check_ok, exists_unit] at disposition
    exact absurd disposition.1.2 some
  | retained record =>
    rw [retention] at disposition
    simp only [withSuite, present, bind_ok, check_ok, exists_unit] at disposition
    exact absurd disposition.1.2.1 some

theorem active_of_none (valid : Valid library deploymentId journal)
    (missing : journal.suite = none) :
    ∃ requested, journal.suiteRetention = .active requested := by
  have disposition := valid.disposition
  unfold validateDisposition at disposition
  cases retention : journal.suiteRetention with
  | active requested => exact ⟨requested, rfl⟩
  | cleaned =>
    rw [retention] at disposition
    simp only [withSuite, missing, reduceCtorEq] at disposition
  | retentionPrepared record =>
    rw [retention] at disposition
    simp only [withSuite, missing, reduceCtorEq] at disposition
  | retained record =>
    rw [retention] at disposition
    simp only [withSuite, missing, reduceCtorEq] at disposition

/-- An origin is its own canonical text. -/
def Canonical (library : Library) : Prop :=
  ∀ value origin, parseSuite library value = some origin → parseSuite library origin = some origin

theorem validSuite_empty {origin : String} (parsed : parseSuite library origin = some origin) :
    ValidSuite library (emptySuite origin) where
  origin := parsed
  plans := Nat.zero_le _
  modules := Nat.zero_le _
  intents := Nat.zero_le _
  clean := fun _ => rfl
  planIds := uniqueIds_nil
  moduleIds := uniqueIds_nil
  pending := uniqueIds_nil

theorem validSuite_suiteOf {origin : String} (valid : Valid library deploymentId journal)
    (parsed : parseSuite library origin = some origin) :
    ValidSuite library (suiteOf journal origin) := by
  unfold suiteOf
  cases present : journal.suite with
  | none => exact validSuite_empty parsed
  | some suite => exact valid.ofSuite present

theorem withSuite_same {suite : SuiteRecoveryState} {retention : SuiteRetentionDisposition}
    (present : journal.suite = some suite) (kept : journal.suiteRetention = retention) :
    { withSuiteState journal suite with suiteRetention := retention } = journal := by
  unfold withSuiteState
  rw [← present, ← kept]

theorem suiteOf_some {origin : String} {suite : SuiteRecoveryState}
    (present : journal.suite = some suite) : suiteOf journal origin = suite := by
  rw [suiteOf, present]
  rfl

theorem valid_beginSuiteCreate (canonical : Canonical library) (origin intentId : String)
    (retain : Bool) (valid : Valid library deploymentId journal) :
    Valid library deploymentId (beginSuiteCreate origin intentId retain library journal).2 := by
  unfold beginSuiteCreate
  cases asked : checkCreate library journal origin intentId retain with
  | error failure => exact valid
  | ok parsed =>
    have checked : parseSuite library origin = some parsed ∧ ValidComponent intentId ∧
        checkPolicy journal retain = .ok () := by
      unfold checkCreate at asked
      cases read : parseSuite library origin with
      | none =>
        rw [read] at asked
        cases asked
      | some found =>
        rw [read] at asked
        simp only [validateComponent, bind_ok, check_ok, exists_unit, pure_ok] at asked
        exact ⟨congrArg some asked.2.2, asked.1, asked.2.1⟩
    have state := validSuite_suiteOf valid (canonical origin parsed checked.1)
    dsimp only
    cases intended : checkIntent (suiteOf journal parsed) parsed intentId with
    | error failure => exact valid_withSuite valid state rfl
    | ok u =>
      unfold checkIntent at intended
      simp only [bind_ok, check_ok, exists_unit] at intended
      have added : ValidSuite library
          { suiteOf journal parsed with
            pendingCreateIntents := (suiteOf journal parsed).pendingCreateIntents ++ [intentId] } :=
        { state with
          intents := by
            show (_ ++ [intentId]).length ≤ _
            rw [List.length_append]
            exact intended.2
          clean := fun clean => absurd (clean.symm.trans intended.1.2.1) (by decide)
          pending := state.pending.append checked.2.1 intended.1.2.2 }
      exact valid_withSuite valid added rfl

theorem validSuite_resolved {suite : SuiteRecoveryState} (state : ValidSuite library suite)
    (intentId : String) : ValidSuite library (resolved suite intentId) :=
  { state with
    intents := Nat.le_trans (List.length_erase_le ..) state.intents
    clean := fun clean => by
      show suite.pendingCreateIntents.erase intentId = []
      rw [state.clean clean]
      rfl
    pending := state.pending.erase intentId }

/-- Nothing in the method counts the plans. -/
theorem valid_recordSuitePlan (canonical : Canonical library) (origin intentId planId : String)
    (valid : Valid library deploymentId journal)
    (room : ∀ parsed, checkPlan library origin planId = .ok parsed →
      checkAllocation (suiteOf journal parsed) parsed intentId = .ok () →
      (suiteOf journal parsed).planIds.length < maxSuiteRecoveryPlans ∨
        planId ∈ (suiteOf journal parsed).planIds) :
    Valid library deploymentId (recordSuitePlan origin intentId planId library journal).2 := by
  unfold recordSuitePlan
  cases asked : checkPlan library origin planId with
  | error failure => exact valid
  | ok parsed =>
    have checked : parseSuite library origin = some parsed ∧ ValidComponent planId := by
      unfold checkPlan at asked
      cases read : parseSuite library origin with
      | none =>
        rw [read] at asked
        cases asked
      | some found =>
        rw [read] at asked
        simp only [validateComponent, bind_ok, check_ok, exists_unit, pure_ok] at asked
        exact ⟨congrArg some asked.2, asked.1⟩
    have state := validSuite_suiteOf valid (canonical origin parsed checked.1)
    dsimp only
    cases allocated : checkAllocation (suiteOf journal parsed) parsed intentId with
    | error failure =>
      cases present : journal.suite with
      | none =>
        obtain ⟨requested, active⟩ := active_of_none valid present
        have opened := @valid_withSuite _ _ _ _ (.active requested) valid state rfl
        rwa [← active] at opened
      | some suite =>
        rw [suiteOf_some present]
        exact (withSuite_same present rfl).symm ▸ valid
    | ok u =>
      have room := room parsed asked allocated
      unfold checkAllocation at allocated
      simp only [bind_ok, check_ok, exists_unit] at allocated
      cases present : journal.suite with
      | none =>
        rw [suiteOf, present] at allocated
        exact absurd allocated.2 List.not_mem_nil
      | some suite =>
        rw [suiteOf_some present] at state allocated room ⊢
        obtain ⟨requested, active⟩ := active_of_intent valid present allocated.2
        have settled := validSuite_resolved state intentId
        have recorded : ValidSuite library
            { resolved suite intentId with planIds := recordId suite.planIds planId } :=
          { settled with
            plans := length_recordId state.plans room
            planIds := state.planIds.recordId checked.2 }
        have opened := @valid_withSuite _ _ _ _ (.active requested) valid recorded rfl
        rwa [← active] at opened

/-- Nothing in the method counts the modules. -/
theorem valid_recordSuiteModule (intentId moduleId : String)
    (valid : Valid library deploymentId journal)
    (room : ValidComponent moduleId → ∀ suite ∈ journal.suite,
      suite.cleanupComplete = false → intentId ∈ suite.pendingCreateIntents →
      suite.moduleIds.length < maxSuiteRecoveryModules ∨ moduleId ∈ suite.moduleIds) :
    Valid library deploymentId (recordSuiteModule intentId moduleId library journal).2 := by
  unfold recordSuiteModule
  cases component : validateComponent moduleId "Suite module ID" with
  | error failure => exact valid
  | ok u =>
    have component := check_ok.mp component
    unfold onSuite
    cases present : journal.suite with
    | none => exact valid
    | some suite =>
      dsimp only
      split
      · exact valid
      · rename_i passed
        simp only [bind_ok, check_ok, exists_unit] at passed
        have state := valid.ofSuite present
        obtain ⟨requested, active⟩ := active_of_intent valid present passed.2
        have settled := validSuite_resolved state intentId
        have recorded : ValidSuite library
            { resolved suite intentId with moduleIds := recordId suite.moduleIds moduleId } :=
          { settled with
            modules := length_recordId state.modules
              (room component suite present passed.1 passed.2)
            moduleIds := state.moduleIds.recordId component }
        have opened := @valid_withSuite _ _ _ _ (.active requested) valid recorded rfl
        rwa [← active] at opened

/-- Nothing in the method asks whether a manifest lists the plan. -/
theorem valid_releaseDeletedSuitePlan (planId : String)
    (valid : Valid library deploymentId journal)
    (unprepared : ValidComponent planId → ∀ suite ∈ journal.suite,
      suite.cleanupComplete = false ∧ suite.pendingCreateIntents = [] → planId ∈ suite.planIds →
      ∀ record, journal.suiteRetention ≠ .retentionPrepared record) :
    Valid library deploymentId (releaseDeletedSuitePlan planId library journal).2 := by
  unfold releaseDeletedSuitePlan
  cases component : validateComponent planId "Suite plan ID" with
  | error failure => exact valid
  | ok u =>
    unfold onSuite
    cases present : journal.suite with
    | none => exact valid
    | some suite =>
      dsimp only
      split
      · exact valid
      · rename_i passed
        simp only [bind_ok, check_ok, exists_unit] at passed
        have state := valid.ofSuite present
        have owned : suite.planIds ≠ [] := List.ne_nil_of_mem passed.2
        have disposition := valid.disposition
        unfold validateDisposition at disposition
        have erased : ValidSuite library { suite with planIds := suite.planIds.erase planId } :=
          { state with
            plans := Nat.le_trans (List.length_erase_le ..) state.plans
            planIds := state.planIds.erase planId }
        cases retention : journal.suiteRetention with
        | active requested =>
          have opened := @valid_withSuite _ _ _ _ (.active requested) valid erased rfl
          rwa [← retention] at opened
        | cleaned =>
          rw [retention] at disposition
          simp only [withSuite, present, check_ok] at disposition
          exact absurd disposition.2.2.1 owned
        | retentionPrepared record =>
          have unprepared := unprepared (check_ok.mp component) suite present passed.1 passed.2
          exact absurd retention (unprepared record)
        | retained record =>
          rw [retention] at disposition
          simp only [withSuite, present, bind_ok, check_ok, exists_unit] at disposition
          exact absurd disposition.1.2.2.1 owned

theorem valid_markSuiteCleanupComplete (valid : Valid library deploymentId journal) :
    Valid library deploymentId (markSuiteCleanupComplete library journal).2 := by
  unfold markSuiteCleanupComplete
  by_cases settled : unsettledDisposition journal.suiteRetention = false
  · rw [if_pos settled]
    exact valid
  · rw [if_neg settled]
    cases present : journal.suite with
    | none => exact valid
    | some suite =>
      dsimp only
      by_cases pending : suite.pendingCreateIntents ≠ []
      · rw [if_pos pending]
        exact valid
      · rw [if_neg pending]
        have none : suite.pendingCreateIntents = [] := not_not.mp pending
        have state := valid.ofSuite present
        have cleaned : ValidSuite library (cleanedSuite suite) :=
          { state with
            plans := Nat.zero_le _
            modules := Nat.zero_le _
            clean := fun _ => none
            planIds := uniqueIds_nil
            moduleIds := uniqueIds_nil }
        have disposition : validateDisposition library
            { withSuiteState journal (cleanedSuite suite) with suiteRetention := .cleaned } =
            .ok () := by
          simp only [validateDisposition, withSuite, withSuiteState, check_ok]
          exact ⟨rfl, none, rfl, rfl⟩
        exact valid_withSuite valid cleaned disposition

/-! ## Retention and removal -/

/-- The path of a retained manifest, as the validation wants it. -/
def ManifestPath (binding : TenantResourceRecoveryBinding) (path : Path) : Prop :=
  path.absolute = true ∧ path.fileName = some (retainedManifestName binding) ∧
    ".." ∉ path.components

/-- Nothing in the method looks at the path. -/
theorem valid_prepareSuitePlanRetention (manifest : SuiteRetentionManifest) (path : Path)
    (valid : Valid library deploymentId journal)
    (placed : journal.suiteRetention = .active true → ∀ suite ∈ journal.suite,
      checkRetention library journal suite manifest = .ok () →
      ManifestPath journal.binding path) :
    Valid library deploymentId
      (prepareSuitePlanRetention manifest path library journal).2 := by
  unfold prepareSuitePlanRetention
  by_cases unrequested : journal.suiteRetention ≠ .active true
  · rw [if_pos unrequested]
    exact valid
  · rw [if_neg unrequested]
    cases present : journal.suite with
    | none => exact valid
    | some suite =>
      dsimp only
      cases passed : checkRetention library journal suite manifest with
      | error failure => exact valid
      | ok u =>
        have placed := placed (not_not.mp unrequested) suite present passed
        unfold checkRetention at passed
        simp only [bind_ok, check_ok, exists_unit] at passed
        have state := valid.ofSuite present
        have owned : ValidSuite library { suite with moduleIds := [] } :=
          { state with
            modules := Nat.zero_le _
            moduleIds := uniqueIds_nil }
        have disposition : validateDisposition library
            { withSuiteState journal { suite with moduleIds := [] } with
              suiteRetention := .retentionPrepared (preparedRecord library manifest path) } =
            .ok () := by
          simp only [validateDisposition, withSuite, withSuiteState, validateSuiteRetentionRecord,
            preparedRecord, bind_ok, check_ok, exists_unit]
          exact ⟨passed.1, passed.2.1, trivial, check_ok.mpr placed⟩
        exact valid_withSuite valid owned disposition

/-- What `commit_suite_plan_retention` makes of the journal, its files apart. -/
def commitRetention (journal : TenantResourceRecoveryJournal) :
    Except String TenantResourceRecoveryJournal := do
  check (tenantResourceObligationsComplete journal = true ∧
    journal.tenantCleanupComplete = true ∧ journal.proxyCleanupComplete = true)
    "Suite retention cannot commit before ordinary and proxy cleanup complete"
  let record ← preparedRetention journal
  let suite ← ownedSuite journal
  pure (committedJournal journal record suite)

theorem commitRetention_ok {after : TenantResourceRecoveryJournal}
    (committed : commitRetention journal = .ok after) :
    ∃ record suite, journal.suiteRetention = .retentionPrepared record ∧
      journal.suite = some suite ∧ after = committedJournal journal record suite := by
  unfold commitRetention preparedRetention ownedSuite at committed
  simp only [bind_ok, check_ok, exists_unit, pure_ok] at committed
  obtain ⟨-, record, prepared, suite, owned, same⟩ := committed
  cases retention : journal.suiteRetention with
  | retentionPrepared found =>
    cases present : journal.suite with
    | none =>
      rw [present] at owned
      cases owned
    | some state =>
      rw [retention] at prepared
      rw [present] at owned
      cases prepared
      cases owned
      exact ⟨record, suite, rfl, rfl, same.symm⟩
  | active requested =>
    rw [retention] at prepared
    cases prepared
  | retained found =>
    rw [retention] at prepared
    cases prepared
  | cleaned =>
    rw [retention] at prepared
    cases prepared

theorem valid_commitRetention {after : TenantResourceRecoveryJournal}
    (valid : Valid library deploymentId journal) (committed : commitRetention journal = .ok after) :
    Valid library deploymentId after := by
  obtain ⟨record, suite, prepared, present, rfl⟩ := commitRetention_ok committed
  have state := valid.ofSuite present
  have before := valid.disposition
  unfold validateDisposition at before
  rw [prepared] at before
  simp only [withSuite, present, validateSuiteRetentionRecord, validateSuiteRetentionManifest,
    bind_ok, check_ok, exists_unit] at before
  obtain ⟨⟨opened, pending⟩, ⟨origin, policy, plans, deferred, -⟩, digest, path⟩ := before
  have owned : ValidSuite library { suite with planIds := [], moduleIds := [] } :=
    { state with
      plans := Nat.zero_le _
      modules := Nat.zero_le _
      planIds := uniqueIds_nil
      moduleIds := uniqueIds_nil }
  have disposition : validateDisposition library
      { withSuiteState journal { suite with planIds := [], moduleIds := [] } with
        suiteRetention := .retained record } = .ok () := by
    simp only [validateDisposition, withSuite, withSuiteState, validateSuiteRetentionRecord,
      validateSuiteRetentionManifest, checkOptional, bind_ok, check_ok, exists_unit]
    exact ⟨⟨opened, pending, trivial, trivial⟩,
      ⟨origin, check_ok.mpr policy, plans, deferred, trivial⟩, digest, check_ok.mpr path⟩
  exact valid_withSuite valid owned disposition

/-- The first mark of `finish`, behind its checks. -/
def intendRemoval : Mutation :=
  checked (fun _ journal => check (tenantResourceObligationsComplete journal = true ∧
      journal.proxyCleanupComplete = true ∧ suiteResourcesSettled journal = true ∧
      journal.binding.manifestPath ≠ none) "conformance recovery obligations are incomplete")
    removalIntent

/-- The last mark of `finish`, after the first. -/
def completeRemoval : Mutation :=
  checked (fun _ journal => check (journal.manifestRemovalIntent = true)
      "tenant-resource manifest cleanup marker has no intent")
    removalDone

theorem no_failure_of_done (done : tenantResourceObligationsComplete journal = true) :
    journal.terminalFailure = none := by
  by_contra failed
  have open' : tenantResourceObligationsComplete journal = false :=
    if_pos (Option.isSome_iff_ne_none.mpr failed)
  exact absurd (done.symm.trans open') (by decide)

theorem failure_of_none {after : TenantResourceRecoveryJournal}
    (none : after.terminalFailure = none) :
    checkOptional (validateTerminalFailure library after) after.terminalFailure = .ok () := by
  rw [none]
  rfl

theorem valid_intendRemoval (valid : Valid library deploymentId journal) :
    Valid library deploymentId (intendRemoval library journal).2 := by
  refine valid_checked valid fun passed => ?_
  have passed := check_ok.mp passed
  exact { valid with
    failure := failure_of_none (no_failure_of_done passed.1)
    cleanup := fun _ => passed.1
    absent := fun absent =>
      have before := valid.absent absent
      ⟨before.1, rfl, before.2.2⟩
    removal := fun _ => ⟨rfl, passed.2.2.2⟩
    removed := fun _ => rfl }

theorem valid_completeRemoval (valid : Valid library deploymentId journal) :
    Valid library deploymentId (completeRemoval library journal).2 := by
  refine valid_checked valid fun passed => ?_
  have intended := check_ok.mp passed
  have done := valid.cleanup (valid.removal intended).1
  exact { valid with
    failure := failure_of_none (no_failure_of_done done)
    removed := fun _ => intended }

/-- The first journal of a run. -/
theorem valid_ordinaryJournal {binding : TenantResourceRecoveryBinding}
    (accepted : validateOrdinaryBinding library binding deploymentId = .ok ()) :
    Valid library deploymentId (ordinaryJournal binding) where
  discriminator := ⟨rfl, rfl⟩
  binding := accepted
  phase := rfl
  failure := rfl
  cleanup := fun complete => by cases complete
  settled := fun settled => by cases settled
  absent := fun absent => absurd rfl absent
  lifecycle := fun _ => by
    refine ⟨?_, ?_, ?_, ?_, ?_, ?_, ?_⟩
    all_goals
      intro marked
      first
        | cases marked
        | exact absurd rfl marked
  removal := fun intended => by cases intended
  removed := fun removed => by cases removed
  proxy := fun none => by
    show binding.proxy.isNone = true
    rw [show binding.proxy = .none from none]
    rfl
  suite := rfl
  disposition := rfl
  baseline := rfl
  applied := rfl
  enumerated := rfl
  revoked := rfl

end

end NazoAuthCtl.JournalValidity
