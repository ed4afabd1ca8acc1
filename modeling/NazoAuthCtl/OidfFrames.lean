import NazoAuthCtl.OidfSettlement

/-!
# What the steps of a conformance run leave alone

The operations on the tenant and on its resources change no part of a journal that names
the Suite or the run. An invariant of the worlds that such changes keep is kept by every
control operation, by the removal of the tenant and by that of its resources.
-/

set_option autoImplicit false
set_option linter.all false

namespace NazoAuthCtl.OidfFrames

open FaultProgram OidfJournal OidfGuard OidfSession OidfPrepare OidfRecover

/-! ## Mutations that keep the Suite's part -/

/-- The part of a journal that the tenant's operations do not touch. -/
structure SamePart (before after : TenantResourceRecoveryJournal) : Prop where
  suite : after.suite = before.suite
  retention : after.suiteRetention = before.suiteRetention
  binding : after.binding = before.binding

theorem SamePart.refl (journal : TenantResourceRecoveryJournal) : SamePart journal journal :=
  ⟨rfl, rfl, rfl⟩

def SuiteKept (mutation : Mutation) : Prop :=
  ∀ library journal, SamePart journal (mutation library journal).2

theorem suiteKept_checked
    {check : Library → TenantResourceRecoveryJournal → Except String Unit}
    {change : TenantResourceRecoveryJournal → TenantResourceRecoveryJournal}
    (kept : ∀ journal, SamePart journal (change journal)) : SuiteKept (checked check change) := by
  intro library journal
  unfold checked
  cases check library journal with
  | error failure => exact .refl journal
  | ok _ => exact kept journal

theorem suiteKept_markTenantCreated : SuiteKept markTenantCreated :=
  suiteKept_checked fun _ => ⟨rfl, rfl, rfl⟩

theorem suiteKept_markTenantKeyGenerated : SuiteKept markTenantKeyGenerated :=
  suiteKept_checked fun _ => ⟨rfl, rfl, rfl⟩

theorem suiteKept_prepareTenantReload (revision : ℕ) : SuiteKept (prepareTenantReload revision) :=
  suiteKept_checked fun _ => ⟨rfl, rfl, rfl⟩

theorem suiteKept_markTenantReloaded : SuiteKept markTenantReloaded :=
  suiteKept_checked fun _ => ⟨rfl, rfl, rfl⟩

theorem suiteKept_prepareTenantDisable (revision : ℕ) :
    SuiteKept (prepareTenantDisable revision) :=
  suiteKept_checked fun _ => ⟨rfl, rfl, rfl⟩

theorem suiteKept_markTenantDisabled : SuiteKept markTenantDisabled :=
  suiteKept_checked fun _ => ⟨rfl, rfl, rfl⟩

theorem suiteKept_prepareTenantFinalize (revision : ℕ) :
    SuiteKept (prepareTenantFinalize revision) :=
  suiteKept_checked fun _ => ⟨rfl, rfl, rfl⟩

theorem suiteKept_resetFailedTenantCleanup (result : ControlResult) :
    SuiteKept (resetFailedTenantCleanup result) := by
  apply suiteKept_checked
  intro journal
  by_cases disabled : journal.tenantDisabled = true
  · rw [if_pos disabled]
    exact ⟨rfl, rfl, rfl⟩
  · rw [if_neg disabled]
    exact ⟨rfl, rfl, rfl⟩

theorem suiteKept_markTenantAbsent (revision : ℕ) : SuiteKept (markTenantAbsent revision) :=
  suiteKept_checked fun _ => ⟨rfl, rfl, rfl⟩

theorem suiteKept_markTenantCleanupComplete : SuiteKept markTenantCleanupComplete :=
  suiteKept_checked fun _ => ⟨rfl, rfl, rfl⟩

theorem suiteKept_markProxyCleanupComplete : SuiteKept markProxyCleanupComplete :=
  suiteKept_checked fun _ => ⟨rfl, rfl, rfl⟩

theorem suiteKept_recordTerminalCompletion (phase : TenantResourceRecoveryPhase)
    (operation : TenantResourceControlOperation) :
    SuiteKept (recordTerminalCompletion phase operation) := by
  apply suiteKept_checked
  intro journal
  cases operation.result.outcome with
  | succeeded =>
    cases phase with
    | intent => exact .refl journal
    | baselineEnumerated => exact ⟨rfl, rfl, rfl⟩
    | applied => exact ⟨rfl, rfl, rfl⟩
    | cleanupEnumerated => exact ⟨rfl, rfl, rfl⟩
    | cleanupRevoked => exact ⟨rfl, rfl, rfl⟩
  | failed => exact ⟨rfl, rfl, rfl⟩
  | inProgress => exact .refl journal

/-! ## Invariants of worlds -/

/-- A returned value without a property. -/
abbrev Keeping {α : Type} (I : World → Prop) (p : Recovering α) : Prop :=
  Program.Upholds I p fun _ => True

structure SuiteInvariant (I : World → Prop) : Prop where
  tick : ∀ w, I w → I w.tick
  slot : ∀ w entry, I w → I (w.putSlot entry)
  tenant : ∀ mutation, SuiteKept mutation → Keeping I (method mutation)

variable {I : World → Prop} {α : Type}

theorem keeping_library (I : World → Prop) : Keeping I library :=
  fun _ _ inside => ⟨inside, fun _ _ => trivial⟩

theorem upholds_change (refuse : String → String) {body : World → World}
    (tick : ∀ w, I w → I w.tick) (kept : ∀ w, I w → I (body w)) :
    Keeping I (change refuse body) := by
  intro e w inside
  refine ⟨?_, fun _ _ => trivial⟩
  unfold change
  cases e.write w.clock with
  | none => exact kept _ (tick w inside)
  | refused detail => exact tick w inside
  | unsynced detail => exact kept _ (tick w inside)
  | lostBefore => exact tick w inside
  | lostAfter => exact kept _ (tick w inside)

section

variable (inv : SuiteInvariant I)

include inv

theorem keeping_change (refuse : String → String) {body : World → World}
    (kept : ∀ w, I w → I (body w)) : Keeping I (change refuse body) :=
  upholds_change refuse inv.tick kept

theorem keeping_look (refuse : String → String) : Keeping I (look refuse) := by
  intro e w inside
  refine ⟨?_, fun _ _ => trivial⟩
  unfold look
  cases e.read w.clock with
  | some detail => exact inv.tick w inside
  | none => exact inv.tick w inside

/-! ### One operation -/

theorem keeping_pendingControlOperation : Keeping I pendingControlOperation :=
  Program.upholds_bind (keeping_look inv _) fun _ _ =>
    Program.upholds_bind Program.upholds_get fun _ _ => Program.upholds_pure trivial

theorem keeping_dispatchFresh (session : ConformanceSession)
    (payload : ControlOperationPayload) : Keeping I (dispatchFresh session payload) := by
  have signed : Keeping I (sign session payload) :=
    fun _ w inside => ⟨inv.tick w inside, fun _ _ => trivial⟩
  exact Program.upholds_bind signed fun entry _ =>
    Program.upholds_bind (keeping_change inv _ fun w => inv.slot w (some entry)) fun _ _ =>
      Program.upholds_pure trivial

theorem keeping_prepareControlOperation (session : ConformanceSession)
    (payload : ControlOperationPayload) : Keeping I (prepareControlOperation session payload) := by
  refine Program.upholds_bind (keeping_pendingControlOperation inv) fun journaled _ =>
    Program.upholds_bind (keeping_library I) fun library _ => ?_
  cases journaled with
  | some entry =>
    exact Program.upholds_bind (Program.upholds_require _ _) fun _ _ => Program.upholds_pure trivial
  | none => exact keeping_dispatchFresh inv session payload

theorem keeping_completeControlOperation (entry : PendingOperation)
    (payload : ControlOperationPayload)
    {persist : ConformanceControlCompletion → Recovering Unit}
    (persists : ∀ completion, Keeping I (persist completion)) :
    Keeping I (completeControlOperation entry payload persist) := by
  have asked : Keeping I ask := fun _ w inside => ⟨inv.tick w inside, fun _ _ => trivial⟩
  refine Program.upholds_bind asked fun answer _ => ?_
  cases answer with
  | lost detail => exact Program.upholds_throw detail
  | rejected code =>
    exact Program.upholds_bind
      (Program.upholds_onlyIf _ fun _ => keeping_change inv _ fun w => inv.slot w none)
      fun _ _ => Program.upholds_throw _
  | accepted result =>
    exact Program.upholds_bind (keeping_change inv _ fun _ inside => inside) fun _ _ =>
      Program.upholds_bind (keeping_library I) fun _ _ =>
      Program.upholds_bind (Program.upholds_ofExcept fun _ _ => trivial) fun _ _ =>
      Program.upholds_bind (Program.upholds_require _ _) fun _ _ =>
      Program.upholds_bind (persists _) fun _ _ =>
      Program.upholds_bind (keeping_change inv _ fun w => inv.slot w none) fun _ _ =>
      Program.upholds_pure trivial

theorem keeping_executeControlOperation (session : ConformanceSession)
    (payload : ControlOperationPayload)
    {persist : ConformanceControlCompletion → Recovering Unit}
    (persists : ∀ completion, Keeping I (persist completion)) :
    Keeping I (executeControlOperation session payload persist) :=
  Program.upholds_bind (keeping_prepareControlOperation inv session payload) fun entry _ =>
    keeping_completeControlOperation inv entry payload persists

omit inv in
theorem keeping_persistNothing (completion : ConformanceControlCompletion) :
    Keeping I (persistNothing completion) :=
  Program.upholds_pure trivial

theorem keeping_whenSucceeded {mutation : Mutation} (kept : SuiteKept mutation)
    (completion : ConformanceControlCompletion) : Keeping I (whenSucceeded mutation completion) :=
  Program.upholds_onlyIf _ fun _ => inv.tenant mutation kept

theorem keeping_persistPhase (phase : TenantResourceRecoveryPhase)
    (completion : ConformanceControlCompletion) : Keeping I (persistPhase phase completion) :=
  inv.tenant _ (suiteKept_recordTerminalCompletion phase _)

/-! ### The tenant and its resources -/

theorem keeping_directory (session : ConformanceSession) : Keeping I (directory session) := by
  refine Program.upholds_bind
    (keeping_executeControlOperation inv session _ keeping_persistNothing) fun completion _ =>
    Program.upholds_bind (Program.upholds_require _ _) fun _ _ => ?_
  split
  · exact Program.upholds_pure trivial
  · exact Program.upholds_throw _

theorem keeping_directoryRevision (session : ConformanceSession) :
    Keeping I (directoryRevision session) :=
  Program.upholds_bind (keeping_directory inv session) fun _ _ => Program.upholds_pure trivial

theorem keeping_tenantDirectoryPresence (session : ConformanceSession) (tenantId : String) :
    Keeping I (tenantDirectoryPresence session tenantId) :=
  Program.upholds_bind (keeping_directory inv session) fun _ _ => Program.upholds_pure trivial

theorem keeping_expectedRevision (session : ConformanceSession) (recorded : Option ℕ)
    {prepare : ℕ → Mutation} (kept : ∀ revision, SuiteKept (prepare revision)) :
    Keeping I (expectedRevision session recorded prepare) := by
  cases recorded with
  | some revision => exact Program.upholds_pure trivial
  | none =>
    exact Program.upholds_bind (keeping_directoryRevision inv session) fun revision _ =>
      Program.upholds_bind (inv.tenant _ (kept revision)) fun _ _ => Program.upholds_pure trivial

theorem keeping_resetIfFailed (completion : ConformanceControlCompletion) :
    Keeping I (resetIfFailed completion) :=
  Program.upholds_onlyIf _ fun _ => inv.tenant _ (suiteKept_resetFailedTenantCleanup _)

theorem keeping_disableTenant (session : ConformanceSession) :
    Keeping I (disableTenant session) :=
  Program.upholds_bind Program.upholds_get.weaken fun _ _ =>
    Program.upholds_bind (keeping_expectedRevision inv session _ suiteKept_prepareTenantDisable)
      fun _ _ =>
    Program.upholds_bind (keeping_executeControlOperation inv session _
      (keeping_whenSucceeded inv suiteKept_markTenantDisabled)) fun completion _ =>
    Program.upholds_bind (keeping_resetIfFailed inv completion) fun _ _ =>
    (Program.upholds_require _ _).weaken

theorem keeping_finalizeTenant (session : ConformanceSession) :
    Keeping I (finalizeTenant session) := by
  refine Program.upholds_bind Program.upholds_get.weaken fun _ _ =>
    Program.upholds_bind (keeping_expectedRevision inv session _ suiteKept_prepareTenantFinalize)
      fun _ _ =>
    Program.upholds_bind (keeping_executeControlOperation inv session _
      (keeping_whenSucceeded inv suiteKept_markTenantCleanupComplete)) fun completion _ =>
    Program.upholds_bind (keeping_resetIfFailed inv completion) fun _ _ =>
    Program.upholds_bind (Program.upholds_require _ _) fun _ _ => ?_
  split
  · exact Program.upholds_bind (Program.upholds_require _ _) fun _ _ =>
      inv.tenant _ (suiteKept_markTenantAbsent _)
  · exact Program.upholds_throw _

theorem keeping_cleanupEphemeralTenant (session : ConformanceSession) :
    Keeping I (cleanupEphemeralTenant session) := by
  have removes : Keeping I (removeTenant session) :=
    Program.upholds_bind Program.upholds_get.weaken fun _ _ =>
      Program.upholds_bind (Program.upholds_onlyIf _ fun _ => keeping_disableTenant inv session)
        fun _ _ => keeping_finalizeTenant inv session
  exact Program.upholds_bind Program.upholds_get.weaken fun _ _ =>
    Program.upholds_onlyIf _ fun _ => removes

theorem keeping_cleanupEnumeration (session : ConformanceSession) :
    Keeping I (cleanupEnumeration session) := by
  refine Program.upholds_bind Program.upholds_get.weaken fun w _ => ?_
  split
  · exact Program.upholds_pure trivial
  · exact Program.upholds_bind (keeping_executeControlOperation inv session _
      (keeping_persistPhase inv _)) fun _ _ =>
      Program.upholds_bind (Program.upholds_require _ _) fun _ _ => Program.upholds_pure trivial

theorem keeping_revokeResources (session : ConformanceSession) (tenantId : String)
    (present : List TenantResourceIdentity) :
    Keeping I (revokeResources session tenantId present) :=
  Program.upholds_bind (keeping_executeControlOperation inv session _ (keeping_persistPhase inv _))
    fun _ _ => (Program.upholds_require _ _).weaken

theorem keeping_cleanupAppliedResources (session : ConformanceSession) :
    Keeping I (cleanupAppliedResources session) :=
  Program.upholds_bind (keeping_cleanupEnumeration inv session) fun _ _ =>
    Program.upholds_bind (Program.upholds_ofExcept fun _ _ => trivial) fun _ _ =>
    Program.upholds_bind Program.upholds_get.weaken fun _ _ =>
    Program.upholds_bind (Program.upholds_onlyIf _ fun _ => keeping_revokeResources inv session _ _)
      fun _ _ =>
    Program.upholds_bind Program.upholds_get.weaken fun _ _ =>
    Program.upholds_bind (Program.upholds_require _ _) fun _ _ =>
    Program.upholds_bind (Program.upholds_require _ _) fun _ _ =>
    Program.upholds_bind (keeping_cleanupEphemeralTenant inv session) fun _ _ =>
    Program.upholds_pure trivial

theorem keeping_cleanupRunResources (session : ConformanceSession) :
    Keeping I (cleanupRunResources session) := by
  refine Program.upholds_bind Program.upholds_get.weaken fun w _ => ?_
  split
  · exact Program.upholds_bind (keeping_cleanupEphemeralTenant inv session) fun _ _ =>
      Program.upholds_pure trivial
  · exact keeping_cleanupAppliedResources inv session

end

/-! ## Properties of the held journal and of its file -/

/-- A property of the journal in memory and of the one that is on disk for the run. -/
structure Durable (P : TenantResourceRecoveryJournal → Prop) (runId : String) (w : World) :
    Prop where
  held : P w.guard.journal
  written : ∃ journal, w.files.journals runId = some journal ∧ P journal

def MutationKeeps (P : TenantResourceRecoveryJournal → Prop) (mutation : Mutation) : Prop :=
  ∀ library journal, P journal → P (mutation library journal).2

section

variable {P : TenantResourceRecoveryJournal → Prop} {runId : String}

theorem Durable.tick {w : World} (durable : Durable P runId w) : Durable P runId w.tick :=
  ⟨durable.held, durable.written⟩

theorem durable_putJournal {w : World} (durable : Durable P runId w) (other : String)
    {journal : TenantResourceRecoveryJournal} (holds : P journal) :
    Durable P runId (w.putJournal other (some journal)) := by
  constructor
  · exact durable.held
  · by_cases same : runId = other
    · subst same
      exact ⟨journal, Function.update_self .., holds⟩
    · obtain ⟨written, there, kept⟩ := durable.written
      exact ⟨written, (Function.update_of_ne same _ _).trans there, kept⟩

theorem keeping_writeJournal {journal : TenantResourceRecoveryJournal} (holds : P journal) :
    Keeping (Durable P runId) (writeJournal journal) :=
  Program.upholds_bind (keeping_library _) fun _ _ =>
    Program.upholds_bind (Program.upholds_ofExcept fun _ _ => trivial) fun _ _ =>
    upholds_change _ (fun _ => Durable.tick) fun _ durable => durable_putJournal durable _ holds

theorem keeping_persistSnapshot {journal : TenantResourceRecoveryJournal} (holds : P journal) :
    Keeping (Durable P runId) (persistSnapshot journal) :=
  Program.upholds_bind (keeping_library _) fun _ _ =>
    Program.upholds_bind Program.upholds_get.weaken fun _ _ =>
    Program.upholds_bind (Program.upholds_ofExcept fun _ _ => trivial) fun _ _ =>
    keeping_writeJournal holds

theorem keeping_persist : Keeping (Durable P runId) persist :=
  Program.upholds_bind Program.upholds_get fun _ durable => keeping_persistSnapshot durable.held

theorem keeping_mutate {mutation : Mutation} (kept : MutationKeeps P mutation) :
    Keeping (Durable P runId) (mutate mutation) :=
  fun _ _ durable => ⟨⟨kept _ _ durable.held, durable.written⟩, fun _ _ => trivial⟩

theorem keeping_method {mutation : Mutation} (kept : MutationKeeps P mutation) :
    Keeping (Durable P runId) (method mutation) :=
  Program.upholds_bind (keeping_mutate kept) fun _ _ => keeping_persist

/-- A property of the Suite's part is kept by what the tenant's operations do. -/
theorem suiteInvariant_durable
    (part : ∀ before after, SamePart before after → P before → P after) :
    SuiteInvariant (Durable P runId) where
  tick _ durable := durable.tick
  slot _ _ durable := ⟨durable.held, durable.written⟩
  tenant _ kept := keeping_method fun library journal => part _ _ (kept library journal)

end

/-! ## What a method leaves behind -/

theorem run_change_ok {refuse : String → String} {body : World → World} {e : Tape} {w w' : World}
    (ran : change refuse body e w = (.ok (), w')) : w' = body w.tick := by
  unfold change at ran
  cases fault : e.write w.clock with
  | none =>
    rw [fault] at ran
    cases ran
    rfl
  | refused detail =>
    rw [fault] at ran
    cases ran
  | unsynced detail =>
    rw [fault] at ran
    cases ran
  | lostBefore =>
    rw [fault] at ran
    cases ran
  | lostAfter =>
    rw [fault] at ran
    cases ran

theorem ofExcept_eq_ok {ε α : Type} {x : Except ε α} {a : α}
    (same : Outcome.ofExcept x = .ok a) : x = .ok a := by
  cases x with
  | error failure => cases same
  | ok value =>
    cases same
    rfl

theorem run_checked_ok {α : Type} {x : Except String α} {a : α} {e : Tape} {w w' : World}
    (ran : (Program.ofExcept x : Recovering α) e w = (.ok a, w')) : x = .ok a ∧ w' = w := by
  rw [Program.run_ofExcept] at ran
  obtain ⟨passed, same⟩ := Prod.mk.inj ran
  exact ⟨ofExcept_eq_ok passed, same.symm⟩

theorem run_writeJournal_ok {journal : TenantResourceRecoveryJournal} {e : Tape} {w w' : World}
    (ran : writeJournal journal e w = (.ok (), w')) :
    (∃ text, canonicalJournalBytes e.library journal = .ok text) ∧
      w' = w.tick.putJournal journal.binding.runId (some journal) := by
  obtain ⟨library, _, read, ran⟩ := Program.run_bind_eq_ok ran
  cases read
  obtain ⟨text, _, printed, ran⟩ := Program.run_bind_eq_ok ran
  have passed := run_checked_ok printed
  rw [passed.2] at ran
  exact ⟨⟨text, passed.1⟩, run_change_ok ran⟩

/-- A written journal is valid and not too long. -/
theorem run_persistSnapshot_ok {journal : TenantResourceRecoveryJournal} {e : Tape}
    {w w' : World} (ran : persistSnapshot journal e w = (.ok (), w')) :
    validateJournal e.library journal w.guard.deploymentId journal.binding.runId = .ok () ∧
      (∃ text, canonicalJournalBytes e.library journal = .ok text) ∧
      w' = w.tick.putJournal journal.binding.runId (some journal) := by
  obtain ⟨library, _, read, ran⟩ := Program.run_bind_eq_ok ran
  cases read
  obtain ⟨there, _, looked, ran⟩ := Program.run_bind_eq_ok ran
  cases looked
  obtain ⟨_, _, validated, ran⟩ := Program.run_bind_eq_ok ran
  have passed := run_checked_ok validated
  rw [passed.2] at ran
  exact ⟨passed.1, run_writeJournal_ok ran⟩

/-- A method that returns has checked its change, and has the same journal in memory and on
disk. -/
theorem run_method_ok {mutation : Mutation} {e : Tape} {w w' : World}
    (ran : method mutation e w = (.ok (), w')) :
    (mutation e.library w.guard.journal).1 = .ok () ∧
      w'.guard.journal = (mutation e.library w.guard.journal).2 ∧
      w'.files.journals w'.guard.journal.binding.runId = some w'.guard.journal := by
  obtain ⟨_, changed, mutated, persisted⟩ := Program.run_bind_eq_ok ran
  obtain ⟨passed, rfl⟩ := Prod.mk.inj mutated
  obtain ⟨here, _, looked, persisted⟩ := Program.run_bind_eq_ok persisted
  cases looked
  obtain ⟨_, _, rfl⟩ := run_persistSnapshot_ok persisted
  exact ⟨ofExcept_eq_ok passed, rfl, Function.update_self ..⟩

theorem run_library (e : Tape) (w : World) : library e w = (.ok e.library, w) := rfl

theorem canonicalJournalBytes_short {library : Library} {journal : TenantResourceRecoveryJournal}
    (short : (journalText library journal 0).utf8ByteSize ≤ maxRecoveryJournalBytes) :
    canonicalJournalBytes library journal = .ok (journalText library journal 0) := by
  unfold canonicalJournalBytes
  exact if_neg (Nat.not_lt.mpr short)

theorem run_change_calm {refuse : String → String} {body : World → World} {e : Tape} {w : World}
    (calm : e.write w.clock = .none) : change refuse body e w = (.ok (), body w.tick) := by
  unfold change
  rw [calm]

/-- A method whose change is valid and short enough returns if its write succeeds. -/
theorem run_method_calm {mutation : Mutation} {e : Tape} {w : World}
    {journal : TenantResourceRecoveryJournal} {text : String}
    (passed : mutation e.library w.guard.journal = (.ok (), journal))
    (valid : validateJournal e.library journal w.guard.deploymentId journal.binding.runId =
      .ok ())
    (printed : canonicalJournalBytes e.library journal = .ok text)
    (calm : e.write w.clock = .none) :
    method mutation e w =
      (.ok (), (w.setJournal journal).tick.putJournal journal.binding.runId (some journal)) := by
  have mutated : mutate mutation e w = (.ok (), w.setJournal journal) := by
    unfold mutate
    rw [passed]
    rfl
  have validated : (Program.ofExcept (validateJournal e.library journal
      (w.setJournal journal).guard.deploymentId journal.binding.runId) : Recovering Unit) e
        (w.setJournal journal) = (.ok (), w.setJournal journal) := by
    have same : (w.setJournal journal).guard.deploymentId = w.guard.deploymentId := rfl
    rw [same, valid]
    exact Program.run_ofExcept_ok
  have encoded : (Program.ofExcept (canonicalJournalBytes e.library journal) :
      Recovering String) e (w.setJournal journal) = (.ok text, w.setJournal journal) := by
    rw [printed]
    exact Program.run_ofExcept_ok
  have written : writeJournal journal e (w.setJournal journal) =
      (.ok (), (w.setJournal journal).tick.putJournal journal.binding.runId (some journal)) := by
    unfold writeJournal
    rw [Program.run_bind_ok (run_library e _), Program.run_bind_ok encoded]
    exact run_change_calm calm
  have persisted : persistSnapshot journal e (w.setJournal journal) =
      (.ok (), (w.setJournal journal).tick.putJournal journal.binding.runId (some journal)) := by
    unfold persistSnapshot
    rw [Program.run_bind_ok (run_library e _), Program.run_bind_ok Program.run_get,
      Program.run_bind_ok validated]
    exact written
  unfold method persist
  rw [Program.run_bind_ok mutated, Program.run_bind_ok Program.run_get]
  exact persisted

end NazoAuthCtl.OidfFrames
