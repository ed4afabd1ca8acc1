import NazoAuthCtl.JournalGrowth

/-!
# Runs of a recovery guard

A guard is made by the beginning of a run or by a claim, and its methods come in any order.
Each of them changes the journal in memory and then persists it, and the persist is refused
where the journal is no longer valid or too long. The counts of plans and modules admit more
than the bound on the text.
-/

set_option autoImplicit false
set_option linter.all false

namespace NazoAuthCtl.JournalRuns

open Checks FaultProgram OidfJournal OidfGuard OidfRecover OidfFrames JournalValidity JournalGrowth

/-- What a persist asks of a journal, and a claim of the journal that it reads. -/
def Persistable (library : Library) (deploymentId runId : String)
    (journal : TenantResourceRecoveryJournal) : Prop :=
  validateJournal library journal deploymentId runId = .ok () ∧
    ∃ bytes, canonicalJournalBytes library journal = .ok bytes

theorem persistable_iff {library : Library} {deploymentId runId : String}
    {journal : TenantResourceRecoveryJournal} :
    Persistable library deploymentId runId journal ↔
      journal.binding.runId = runId ∧ Valid library deploymentId journal ∧
        Within library journal := by
  have bytes : (∃ bytes, canonicalJournalBytes library journal = .ok bytes) ↔
      Within library journal := by
    unfold canonicalJournalBytes
    dsimp only
    constructor
    · rintro ⟨bytes, printed⟩
      by_contra unbounded
      have long : maxRecoveryJournalBytes < (journalText library journal 0).utf8ByteSize :=
        Nat.lt_of_not_le unbounded
      rw [if_pos long] at printed
      cases printed
    · intro within
      exact ⟨_, if_neg (Nat.not_lt.mpr within)⟩
  unfold Persistable
  rw [bytes]
  constructor
  · rintro ⟨accepted, within⟩
    have named : journal.binding.runId = runId := by
      unfold validateJournal at accepted
      simp only [bind_ok, check_ok, exists_unit] at accepted
      exact accepted.1
    subst named
    exact ⟨rfl, validateJournal_ok.mp accepted, within⟩
  · rintro ⟨rfl, valid, within⟩
    exact ⟨validateJournal_ok.mpr valid, within⟩

/-- A run of one guard after another over one journal. Between two calls the world may change
as it likes, the journals apart. -/
inductive GuardRun (condition : TenantResourceRecoveryJournal → Move → Prop) (e : Tape)
    (deploymentId runId : String) : World → Prop where
  | begun {binding : TenantResourceRecoveryBinding} {w later : World}
      (named : binding.runId = runId)
      (ran : beginOrdinaryRun deploymentId binding e w = (.ok (), later)) :
      GuardRun condition e deploymentId runId later
  | reopened {binding : TenantResourceRecoveryBinding} {w left later : World}
      {guard : ConformanceRecoveryGuard} (named : binding.runId = runId)
      (free : w.files.journals runId = none)
      (there : left.files.journals runId =
        (beginOrdinaryRun deploymentId binding e w).2.files.journals runId)
      (ran : claimOne deploymentId runId e left = (.ok guard, later)) :
      GuardRun condition e deploymentId runId { later with guard }
  | called {w : World} (move : Move) (before : GuardRun condition e deploymentId runId w)
      (fits : condition w.guard.journal move) :
      GuardRun condition e deploymentId runId (method move.mutation e w).2
  | committed {w : World} (before : GuardRun condition e deploymentId runId w) :
      GuardRun condition e deploymentId runId (commitSuitePlanRetention e w).2
  | claimed {w later : World} {guard : ConformanceRecoveryGuard}
      (before : GuardRun condition e deploymentId runId w)
      (ran : claimOne deploymentId runId e w = (.ok guard, later)) :
      GuardRun condition e deploymentId runId { later with guard }
  | other {w later : World} (before : GuardRun condition e deploymentId runId w)
      (deployment : later.guard.deploymentId = w.guard.deploymentId)
      (held : later.guard.journal = w.guard.journal)
      (there : later.files.journals runId = w.files.journals runId ∨
        later.files.journals runId = none) :
      GuardRun condition e deploymentId runId later

/-! ## One persist -/

section

variable {e : Tape} {deploymentId runId : String}

/-- The guard is kept, and only a valid and short journal gets to the disk. -/
structure Persisted (library : Library) (journal : TenantResourceRecoveryJournal)
    (w later : World) : Prop where
  guard : later.guard = w.guard
  journals : later.files.journals = w.files.journals ∨
    later.files.journals =
        Function.update w.files.journals journal.binding.runId (some journal) ∧
      Persistable library w.guard.deploymentId journal.binding.runId journal

theorem run_writeJournal (journal : TenantResourceRecoveryJournal) (w : World) :
    (writeJournal journal e w).2.guard = w.guard ∧
      ((writeJournal journal e w).2.files.journals = w.files.journals ∨
        (writeJournal journal e w).2.files.journals =
            Function.update w.files.journals journal.binding.runId (some journal) ∧
          ∃ bytes, canonicalJournalBytes e.library journal = .ok bytes) := by
  unfold writeJournal
  rw [Program.run_bind_ok (run_library e w)]
  cases printed : canonicalJournalBytes e.library journal with
  | error failure => exact ⟨rfl, .inl rfl⟩
  | ok bytes =>
    rw [Program.run_bind_ok Program.run_ofExcept_ok]
    unfold change
    cases e.write w.clock with
    | none => exact ⟨rfl, .inr ⟨rfl, bytes, rfl⟩⟩
    | refused detail => exact ⟨rfl, .inl rfl⟩
    | unsynced detail => exact ⟨rfl, .inr ⟨rfl, bytes, rfl⟩⟩
    | lostBefore => exact ⟨rfl, .inl rfl⟩
    | lostAfter => exact ⟨rfl, .inr ⟨rfl, bytes, rfl⟩⟩

theorem run_persistSnapshot (journal : TenantResourceRecoveryJournal) (w : World) :
    Persisted e.library journal w (persistSnapshot journal e w).2 := by
  unfold persistSnapshot
  rw [Program.run_bind_ok (run_library e w), Program.run_bind_ok Program.run_get]
  cases valid : validateJournal e.library journal w.guard.deploymentId journal.binding.runId with
  | error failure => exact ⟨rfl, .inl rfl⟩
  | ok u =>
    rw [Program.run_bind_ok Program.run_ofExcept_ok]
    obtain ⟨guard, kept | ⟨written, printed⟩⟩ := @run_writeJournal e journal w
    · exact ⟨guard, .inl kept⟩
    · exact ⟨guard, .inr ⟨written, valid, printed⟩⟩

/-- A method leaves its journal in memory, and on disk it or the one from before. -/
theorem run_method (mutation : Mutation) (w : World) :
    ∃ later, Persisted e.library (mutation e.library w.guard.journal).2
        (w.setJournal (mutation e.library w.guard.journal).2) later ∧
      (method mutation e w).2 = later := by
  unfold method
  rw [Program.run_bind]
  unfold mutate
  cases (mutation e.library w.guard.journal).1 with
  | error failure => exact ⟨_, ⟨rfl, .inl rfl⟩, rfl⟩
  | ok u => exact ⟨_, run_persistSnapshot _ _, rfl⟩

/-! ## Sound guards -/

structure Sound (library : Library) (deploymentId runId : String) (w : World) : Prop where
  deployment : w.guard.deploymentId = deploymentId
  held : Persistable library deploymentId runId w.guard.journal
  written : ∀ journal ∈ w.files.journals runId, Persistable library deploymentId runId journal

theorem written_update {library : Library} {w later : World}
    {journal : TenantResourceRecoveryJournal} (persisted : Persisted library journal w later)
    (deployment : w.guard.deploymentId = deploymentId) (named : journal.binding.runId = runId)
    (written : ∀ there ∈ w.files.journals runId, Persistable library deploymentId runId there) :
    ∀ there ∈ later.files.journals runId, Persistable library deploymentId runId there := by
  intro there found
  rcases persisted.journals with kept | ⟨updated, passed⟩
  · rw [kept] at found
    exact written there found
  · rw [updated, named, Function.update_self] at found
    cases found
    rw [deployment, named] at passed
    exact passed

theorem sound_method {w : World} (canonical : Canonical e.library) (move : Move)
    (sound : Sound e.library deploymentId runId w)
    (fits : Fits e.library w.guard.journal move) :
    Sound e.library deploymentId runId (method move.mutation e w).2 := by
  obtain ⟨later, persisted, same⟩ := @run_method e move.mutation w
  obtain ⟨named, valid, within⟩ := persistable_iff.mp sound.held
  have after := (congrArg (·.runId)
    (@move_binding e.library w.guard.journal move)).trans named
  rw [same]
  refine ⟨?_, ?_, written_update persisted sound.deployment after sound.written⟩
  · rw [persisted.guard]
    exact sound.deployment
  · rw [persisted.guard]
    exact persistable_iff.mpr
      ⟨after, move_valid canonical move valid fits, move_within move within fits⟩

/-- A claimed journal was on disk. -/
theorem run_claimOne_ok {w later : World} {guard : ConformanceRecoveryGuard}
    (ran : claimOne deploymentId runId e w = (.ok guard, later)) :
    guard.deploymentId = deploymentId ∧ w.files.journals runId = some guard.journal ∧
      later.files.journals = w.files.journals := by
  unfold claimOne at ran
  obtain ⟨_, first, named, ran⟩ := Program.run_bind_eq_ok ran
  rw [(run_checked_ok named).2] at ran
  obtain ⟨_, second, locked, ran⟩ := Program.run_bind_eq_ok ran
  have opened := run_change_ok locked
  obtain ⟨_, third, looked, ran⟩ := Program.run_bind_eq_ok ran
  have read : third = second.tick := by
    unfold look at looked
    cases fault : e.read second.clock with
    | none =>
      rw [fault] at looked
      cases looked
      rfl
    | some detail =>
      rw [fault] at looked
      cases looked
  rw [Program.run_bind_ok Program.run_get, Program.run_bind_ok (run_library e third)] at ran
  have same : third.files.journals = w.files.journals := by
    rw [read, opened]
    rfl
  rw [same] at ran
  cases there : w.files.journals runId with
  | none =>
    rw [there] at ran
    cases ran
  | some journal =>
    rw [there] at ran
    obtain ⟨_, fourth, passed, ran⟩ := Program.run_bind_eq_ok ran
    rw [(run_checked_ok passed).2] at ran
    cases ran
    exact ⟨rfl, rfl, same⟩

theorem sound_claimed {w later : World} {guard : ConformanceRecoveryGuard}
    (written : ∀ journal ∈ w.files.journals runId,
      Persistable e.library deploymentId runId journal)
    (ran : claimOne deploymentId runId e w = (.ok guard, later)) :
    Sound e.library deploymentId runId { later with guard } := by
  obtain ⟨deployment, there, same⟩ := run_claimOne_ok ran
  refine ⟨deployment, written _ there, ?_⟩
  show ∀ journal ∈ later.files.journals runId, _
  rw [same]
  exact written

end

/-! ## The beginning of a run -/

theorem upholds_readText {I : World → Prop} (tick : ∀ w, I w → I w.tick) (path : Path)
    (bound : ℕ) (refuse : String → String) : Keeping I (readText path bound refuse) := by
  intro e w inside
  refine ⟨?_, fun _ _ => trivial⟩
  unfold readText
  cases e.read w.clock with
  | some detail => exact tick w inside
  | none =>
    cases w.files.texts path with
    | none => exact tick w inside
    | some text =>
      dsimp only
      split
      · exact tick w inside
      · exact tick w inside

/-- A look at the private material changes nothing but the clock. -/
theorem upholds_requireManifest {I : World → Prop} (tick : ∀ w, I w → I w.tick)
    (binding : TenantResourceRecoveryBinding) : Keeping I (requireManifest binding) := by
  have validated : Keeping I (validateTenantResourceManifestFile binding) := by
    refine Program.upholds_bind (keeping_library I) fun library _ => ?_
    split
    · refine Program.upholds_bind (Program.upholds_require _ _) fun _ _ => ?_
      refine Program.upholds_bind (upholds_readText tick _ _ _) fun text _ => ?_
      split
      · exact Program.upholds_pure trivial
      · exact Program.upholds_bind (Program.upholds_require _ _) fun _ _ =>
          Program.upholds_pure trivial
    · exact Program.upholds_pure trivial
  exact Program.upholds_bind validated fun _ _ => (Program.upholds_require _ _).weaken

/-- The journals are as they were, or the first journal of an accepted run has been added. -/
def Begun (library : Library) (deploymentId : String) (binding : TenantResourceRecoveryBinding)
    (w later : World) : Prop :=
  later.files.journals = w.files.journals ∨
    later.files.journals =
        Function.update w.files.journals binding.runId (some (ordinaryJournal binding)) ∧
      Persistable library deploymentId binding.runId (ordinaryJournal binding)

theorem persistable_ordinary {library : Library} {deploymentId : String}
    {binding : TenantResourceRecoveryBinding}
    (accepted : validateOrdinaryBinding library binding deploymentId = .ok ())
    (printed : ∃ bytes, canonicalJournalBytes library (ordinaryJournal binding) = .ok bytes) :
    Persistable library deploymentId binding.runId (ordinaryJournal binding) :=
  ⟨validateJournal_ok.mpr (valid_ordinaryJournal accepted), printed⟩

section

variable {e : Tape} {deploymentId runId : String}

theorem run_beginJournal {binding : TenantResourceRecoveryBinding} {w : World}
    (accepted : validateOrdinaryBinding e.library binding deploymentId = .ok ()) :
    Begun e.library deploymentId binding w
        (beginJournal deploymentId (ordinaryJournal binding) e w).2 ∧
      ∀ later, beginJournal deploymentId (ordinaryJournal binding) e w = (.ok (), later) →
        later.guard = ⟨deploymentId, ordinaryJournal binding, .notAttempted⟩ ∧
          later.files.journals =
            Function.update w.files.journals binding.runId (some (ordinaryJournal binding)) ∧
          Persistable e.library deploymentId binding.runId (ordinaryJournal binding) := by
  unfold beginJournal
  have locked : Keeping (fun later => later.files.journals = w.files.journals)
      (change ("failed to open recovery lock: " ++ ·) id) :=
    upholds_change _ (fun _ same => same) fun _ same => same
  have kept := (locked e w rfl).1
  rw [Program.run_bind]
  rcases lock : change ("failed to open recovery lock: " ++ ·) id e w with ⟨outcome, first⟩
  rw [lock] at kept
  cases outcome with
  | error failure => exact ⟨.inl kept, fun later ran => by cases ran⟩
  | crashed => exact ⟨.inl kept, fun later ran => by cases ran⟩
  | ok u =>
    dsimp only
    rw [Program.run_bind]
    unfold look
    cases e.read first.clock with
    | some detail => exact ⟨.inl kept, fun later ran => by cases ran⟩
    | none =>
      dsimp only
      rw [Program.run_bind_ok Program.run_get, Program.run_bind, Program.run_require]
      by_cases free : first.tick.files.journals (ordinaryJournal binding).binding.runId = none
      · rw [if_pos free]
        dsimp only
        rw [Program.run_bind]
        obtain ⟨_, written⟩ := @run_writeJournal e (ordinaryJournal binding) first.tick
        rcases ran : writeJournal (ordinaryJournal binding) e first.tick with ⟨outcome, last⟩
        rw [ran] at written
        have begun : Begun e.library deploymentId binding w last := by
          rcases written with same | ⟨updated, printed⟩
          · exact .inl (same.trans kept)
          · refine .inr ⟨?_, persistable_ordinary accepted printed⟩
            show last.files.journals = _
            rw [updated]
            exact congrArg (Function.update · binding.runId (some (ordinaryJournal binding))) kept
        cases outcome with
        | error failure => exact ⟨begun, fun later ran => by cases ran⟩
        | crashed => exact ⟨begun, fun later ran => by cases ran⟩
        | ok u =>
          refine ⟨begun, fun later same => ?_⟩
          cases same
          obtain ⟨printed, rfl⟩ := run_writeJournal_ok ran
          refine ⟨rfl, ?_, persistable_ordinary accepted printed⟩
          exact congrArg (Function.update · binding.runId (some (ordinaryJournal binding))) kept
      · rw [if_neg free]
        exact ⟨.inl kept, fun later ran => by cases ran⟩

theorem run_beginOrdinaryRun {binding : TenantResourceRecoveryBinding} {w : World} :
    Begun e.library deploymentId binding w (beginOrdinaryRun deploymentId binding e w).2 ∧
      ∀ later, beginOrdinaryRun deploymentId binding e w = (.ok (), later) →
        later.guard = ⟨deploymentId, ordinaryJournal binding, .notAttempted⟩ ∧
          later.files.journals binding.runId = some (ordinaryJournal binding) ∧
          Persistable e.library deploymentId binding.runId (ordinaryJournal binding) := by
  unfold beginOrdinaryRun
  rw [Program.run_bind_ok (run_library e w)]
  cases accepted : validateOrdinaryBinding e.library binding deploymentId with
  | error failure => exact ⟨.inl rfl, fun later ran => by cases ran⟩
  | ok u =>
    rw [Program.run_bind_ok Program.run_ofExcept_ok, Program.run_bind]
    have looked : Keeping (fun later => later.files.journals = w.files.journals)
        (Program.onlyIf (binding.manifestPath.isSome = true) (requireManifest binding)) :=
      Program.upholds_onlyIf _ fun _ => upholds_requireManifest (fun _ same => same) binding
    have kept := (looked e w rfl).1
    rcases ran : Program.onlyIf (binding.manifestPath.isSome = true) (requireManifest binding)
      e w with ⟨outcome, first⟩
    rw [ran] at kept
    cases outcome with
    | error failure => exact ⟨.inl kept, fun later ran => by cases ran⟩
    | crashed => exact ⟨.inl kept, fun later ran => by cases ran⟩
    | ok u =>
      obtain ⟨begun, done⟩ := @run_beginJournal e deploymentId binding first accepted
      refine ⟨?_, fun later ended => ?_⟩
      · rcases begun with same | ⟨updated, held⟩
        · exact .inl (same.trans kept)
        · exact .inr ⟨updated.trans (congrArg (Function.update · _ _) kept), held⟩
      · obtain ⟨guard, updated, held⟩ := done later ended
        refine ⟨guard, ?_, held⟩
        rw [updated]
        exact Function.update_self ..

theorem written_begun {binding : TenantResourceRecoveryBinding} {w : World}
    (named : binding.runId = runId) (free : w.files.journals runId = none) :
    ∀ journal ∈ (beginOrdinaryRun deploymentId binding e w).2.files.journals runId,
      Persistable e.library deploymentId runId journal := by
  subst named
  intro journal found
  rcases (@run_beginOrdinaryRun e deploymentId binding w).1 with same | ⟨updated, held⟩
  · rw [same, free] at found
    cases found
  · rw [updated, Function.update_self] at found
    cases found
    exact held

theorem sound_begun {binding : TenantResourceRecoveryBinding} {w later : World}
    (named : binding.runId = runId)
    (ran : beginOrdinaryRun deploymentId binding e w = (.ok (), later)) :
    Sound e.library deploymentId runId later := by
  subst named
  obtain ⟨guard, there, held⟩ := (@run_beginOrdinaryRun e deploymentId binding w).2 later ran
  refine ⟨by rw [guard], by rw [guard]; exact held, ?_⟩
  intro journal found
  rw [there] at found
  cases found
  exact held

/-! ## The commit of a retention -/

/-- What a commit leaves: nothing but time has passed, or the committed journal has been
persisted. -/
structure Committed (library : Library) (w later : World) : Prop where
  deployment : later.guard.deploymentId = w.guard.deploymentId
  journals : later.guard.journal = w.guard.journal ∧ later.files.journals = w.files.journals ∨
    ∃ after, commitRetention w.guard.journal = .ok after ∧
      (later.guard.journal = w.guard.journal ∨ later.guard.journal = after) ∧
      (later.files.journals = w.files.journals ∨
        later.files.journals =
          Function.update w.files.journals after.binding.runId (some after) ∧
        Persistable library w.guard.deploymentId after.binding.runId after)

theorem commitRetention_eq {journal : TenantResourceRecoveryJournal}
    {record : SuiteRetentionRecord} {suite : SuiteRecoveryState}
    (settled : tenantResourceObligationsComplete journal = true ∧
      journal.tenantCleanupComplete = true ∧ journal.proxyCleanupComplete = true)
    (prepared : preparedRetention journal = .ok record) (owned : ownedSuite journal = .ok suite) :
    commitRetention journal = .ok (committedJournal journal record suite) := by
  unfold commitRetention
  rw [prepared, owned]
  unfold check
  rw [if_pos settled]
  rfl

theorem run_commit (w : World) :
    Committed e.library w (commitSuitePlanRetention e w).2 := by
  have early : ∀ later : World, later.guard = w.guard → later.files.journals = w.files.journals →
      Committed e.library w later := by
    intro later guard journals
    refine ⟨by rw [guard], .inl ⟨by rw [guard], journals⟩⟩
  unfold commitSuitePlanRetention
  rw [Program.run_bind_ok Program.run_get, Program.run_bind_ok (run_library e w),
    Program.run_bind, Program.run_require]
  by_cases settled : tenantResourceObligationsComplete w.guard.journal = true ∧
    w.guard.journal.tenantCleanupComplete = true ∧ w.guard.journal.proxyCleanupComplete = true
  · rw [if_pos settled]
    dsimp only
    cases prepared : preparedRetention w.guard.journal with
    | error failure => exact early _ rfl rfl
    | ok record =>
      rw [Program.run_bind_ok Program.run_ofExcept_ok]
      cases pendingPath record with
      | error failure => exact early _ rfl rfl
      | ok pending =>
        rw [Program.run_bind_ok Program.run_ofExcept_ok]
        cases validateSuiteRetentionEvidence e.library record.manifest
            w.guard.journal.binding with
        | error failure => exact early _ rfl rfl
        | ok u =>
          rw [Program.run_bind_ok Program.run_ofExcept_ok, Program.run_bind]
          have looked := (upholds_readText
            (I := fun later => later.guard = w.guard ∧
              later.files.journals = w.files.journals) (fun _ same => same) pending
            maxSuiteRetentionManifestBytes
            ("retained Suite pending manifest is not secure: " ++ ·) e w ⟨rfl, rfl⟩).1
          rcases read : readText pending maxSuiteRetentionManifestBytes
            ("retained Suite pending manifest is not secure: " ++ ·) e w with ⟨outcome, first⟩
          rw [read] at looked
          cases outcome with
          | error failure => exact early _ looked.1 looked.2
          | crashed => exact early _ looked.1 looked.2
          | ok staged =>
            dsimp only
            rw [Program.run_bind, Program.run_require]
            by_cases present : staged ≠ none
            · rw [if_pos present]
              dsimp only
              rw [Program.run_bind, Program.run_require]
              by_cases same : staged.map e.library.sha256Hex = some record.manifestSha256
              · rw [if_pos same]
                dsimp only
                cases owned : ownedSuite w.guard.journal with
                | error failure => exact early _ looked.1 looked.2
                | ok suite =>
                  rw [Program.run_bind_ok Program.run_ofExcept_ok,
                    Program.run_bind_ok (Program.run_modify _), Program.run_bind]
                  have committed := commitRetention_eq settled prepared owned
                  have persisted := @run_persistSnapshot e
                    (committedJournal w.guard.journal record suite)
                    (first.setResolution .ambiguous)
                  have journals : ∀ last : World, last.files.journals =
                        (persistSnapshot (committedJournal w.guard.journal record suite) e
                          (first.setResolution .ambiguous)).2.files.journals →
                      last.files.journals = w.files.journals ∨
                        last.files.journals = Function.update w.files.journals
                          (committedJournal w.guard.journal record suite).binding.runId
                          (some (committedJournal w.guard.journal record suite)) ∧
                        Persistable e.library w.guard.deploymentId
                          (committedJournal w.guard.journal record suite).binding.runId
                          (committedJournal w.guard.journal record suite) := by
                    intro last same
                    rw [same]
                    rcases persisted.journals with kept | ⟨updated, held⟩
                    · exact .inl (kept.trans looked.2)
                    · refine .inr ⟨updated.trans (congrArg (Function.update · _ _) looked.2), ?_⟩
                      have deployment : (first.setResolution .ambiguous).guard.deploymentId =
                        w.guard.deploymentId := congrArg (·.deploymentId) looked.1
                      rw [deployment] at held
                      exact held
                  have guard := persisted.guard
                  rcases ran : persistSnapshot (committedJournal w.guard.journal record suite) e
                    (first.setResolution .ambiguous) with ⟨outcome, last⟩
                  rw [ran] at guard journals
                  have deployment : last.guard.deploymentId = w.guard.deploymentId :=
                    (congrArg (·.deploymentId) guard).trans (congrArg (·.deploymentId) looked.1)
                  have held : last.guard.journal = w.guard.journal :=
                    (congrArg (·.journal) guard).trans (congrArg (·.journal) looked.1)
                  cases outcome with
                  | error failure =>
                    exact ⟨deployment, .inr ⟨_, committed, .inl held, journals _ rfl⟩⟩
                  | crashed =>
                    exact ⟨deployment, .inr ⟨_, committed, .inl held, journals _ rfl⟩⟩
                  | ok u =>
                    exact ⟨deployment, .inr ⟨_, committed, .inr rfl, journals _ rfl⟩⟩
              · rw [if_neg same]
                exact early _ looked.1 looked.2
            · rw [if_neg present]
              exact early _ looked.1 looked.2
  · rw [if_neg settled]
    exact early _ rfl rfl

end

/-! ## Runs -/

section

variable {e : Tape} {deploymentId runId : String} {w : World}

theorem sound_committed (sound : Sound e.library deploymentId runId w) :
    Sound e.library deploymentId runId (commitSuitePlanRetention e w).2 := by
  obtain ⟨named, valid, within⟩ := persistable_iff.mp sound.held
  have committed := @run_commit e w
  have deployment := committed.deployment.trans sound.deployment
  rcases committed.journals with ⟨held, written⟩ | ⟨after, made, held, written⟩
  · refine ⟨deployment, ?_, ?_⟩
    · rw [held]
      exact sound.held
    · rw [written]
      exact sound.written
  · have bound : after.binding.runId = runId := by
      obtain ⟨record, suite, _, _, rfl⟩ := commitRetention_ok made
      exact named
    refine ⟨deployment, ?_, ?_⟩
    · rcases held with same | same
      · rw [same]
        exact sound.held
      · rw [same]
        exact persistable_iff.mpr
          ⟨bound, valid_commitRetention valid made, within_commitRetention within made⟩
    · rcases written with same | ⟨updated, held⟩
      · rw [same]
        exact sound.written
      · rw [updated, bound, Function.update_self]
        intro journal found
        cases found
        rw [sound.deployment, bound] at held
        exact held

theorem sound_run (canonical : Canonical e.library)
    (run : GuardRun (Fits e.library) e deploymentId runId w) :
    Sound e.library deploymentId runId w := by
  induction run with
  | begun named ran => exact sound_begun named ran
  | reopened named free there ran =>
    refine sound_claimed (fun journal found => ?_) ran
    rw [there] at found
    exact written_begun named free journal found
  | called move before fits ih => exact sound_method canonical move ih fits
  | committed before ih => exact sound_committed ih
  | claimed before ran ih => exact sound_claimed ih.written ran
  | other before deployment held there ih =>
    refine ⟨deployment.trans ih.deployment, ?_, ?_⟩
    · rw [held]
      exact ih.held
    · intro journal found
      rcases there with same | gone
      · rw [same] at found
        exact ih.written journal found
      · rw [gone] at found
        cases found

end

/-! ### One run -/

theorem canonical_example : Canonical exampleLibrary := by
  intro value origin parsed
  unfold parseSuite at parsed
  cases read : exampleLibrary.parseUrl (trimmed value) with
  | none =>
    rw [read] at parsed
    cases parsed
  | some url =>
    have same : url = exampleSuite := by
      unfold exampleLibrary at read
      dsimp only at read
      split at read
      · exact (Option.some.inj read).symm
      · cases read
    rw [read, same] at parsed
    cases parsed
    decide

/-- A machine with a run that has begun. -/
def begunWorld : World := (beginOrdinaryRun "prod" exampleBinding calmTape exampleWorld).2

set_option maxRecDepth 10000 in
theorem accepted_example :
    (beginOrdinaryRun "prod" exampleBinding calmTape exampleWorld).1 = .ok () := by
  decide

theorem began_example :
    beginOrdinaryRun "prod" exampleBinding calmTape exampleWorld = (.ok (), begunWorld) := by
  rw [← accepted_example]
  exact Prod.mk.eta.symm

theorem begun_example (condition : TenantResourceRecoveryJournal → Move → Prop) :
    GuardRun condition calmTape "prod" exampleBinding.runId begunWorld :=
  .begun rfl began_example

theorem begun_journal : begunWorld.guard.journal = ordinaryJournal exampleBinding := by
  rw [((@run_beginOrdinaryRun calmTape "prod" exampleBinding exampleWorld).2 begunWorld
    began_example).1]

theorem created_example : GuardRun (Fits calmTape.library) calmTape "prod" exampleBinding.runId
    (method Move.markTenantCreated.mutation calmTape begunWorld).2 :=
  .called .markTenantCreated (begun_example _) trivial

/-- The counts of plans and modules, which is what the methods promise to admit. -/
def Counted (journal : TenantResourceRecoveryJournal) : Move → Prop
  | .recordSuitePlan _ _ planId => ∀ suite ∈ journal.suite,
    suite.planIds.length < maxSuiteRecoveryPlans ∨ planId ∈ suite.planIds
  | .recordSuiteModule _ moduleId => ∀ suite ∈ journal.suite,
    suite.moduleIds.length < maxSuiteRecoveryModules ∨ moduleId ∈ suite.moduleIds
  | _ => True

theorem linesSize_count {separator least : ℕ} {sizes : List ℕ} (large : ∀ size ∈ sizes, least ≤ size) :
    (least + separator) * sizes.length ≤ JsonText.linesSize separator sizes + separator := by
  induction sizes with
  | nil => exact Nat.zero_le _
  | cons size sizes ih =>
    have first := large size List.mem_cons_self
    cases sizes with
    | nil =>
      show (least + separator) * 1 ≤ size + separator
      omega
    | cons next rest =>
      have others := ih fun size member => large size (List.mem_cons_of_mem _ member)
      show (least + separator) * ((next :: rest).length + 1) ≤
        size + separator + JsonText.linesSize separator (next :: rest) + separator
      rw [Nat.mul_succ]
      omega

/-- Each id takes a line of its own. -/
theorem idsSize_count {ids : List String} (named : ∀ id ∈ ids, id ≠ "") :
    9 * ids.length ≤ idsSize ids + 8 := by
  unfold idsSize
  rw [JsonText.size_array]
  have counted := @linesSize_count (2 * 2 + 4) 1
    ((ids.map JsonText.string).map fun item => (item (2 + 1)).utf8ByteSize) fun size member => by
      rw [List.map_map] at member
      obtain ⟨id, listed, rfl⟩ := List.mem_map.mp member
      have letters := JsonText.length_le_quoted id
      have some : id.toList.length ≠ 0 := fun empty =>
        named id listed (String.toList_eq_nil_iff.mp (List.length_eq_zero_iff.mp empty))
      exact Nat.le_trans (Nat.one_le_iff_ne_zero.mpr some) letters
  rw [List.length_map, List.length_map] at counted
  unfold JsonText.blockSize
  split
  · rename_i none
    have empty : ids = [] := List.map_eq_nil_iff.mp (List.map_eq_nil_iff.mp none)
    rw [empty]
    decide
  · omega

/-- A journal is longer than its list of modules. -/
theorem modules_size (library : Library) {journal : TenantResourceRecoveryJournal}
    {suite : SuiteRecoveryState} (present : journal.suite = some suite) :
    idsSize suite.moduleIds ≤ journalSize library journal := by
  have inner : idsSize suite.moduleIds ≤ suiteSize (some suite) := by
    unfold suiteSize valueSize JsonText.optional suiteText
    refine @JsonText.size_object "module_ids" (JsonText.array (suite.moduleIds.map JsonText.string))
      _ ?_ 1
    simp
  have outer : suiteSize journal.suite ≤ journalSize library journal := by
    unfold journalSize journalText
    refine @JsonText.size_object "suite" (JsonText.optional suiteText journal.suite) _ ?_ 0
    simp
  rw [present] at outer
  exact Nat.le_trans inner outer

theorem utf8_length {letters : List Char} (short : ∀ c ∈ letters, c.utf8Size = 1) :
    (String.ofList letters).utf8ByteSize = letters.length := by
  induction letters with
  | nil => rfl
  | cons c letters ih =>
    have parts : String.ofList (c :: letters) = String.singleton c ++ String.ofList letters := by
      rw [String.singleton_eq_ofList, ← String.ofList_append, List.singleton_append]
    rw [parts, String.utf8ByteSize_append, String.utf8ByteSize_singleton,
      short c List.mem_cons_self, ih fun d member => short d (List.mem_cons_of_mem c member),
      List.length_cons]
    exact Nat.add_comm 1 _

theorem utf8Size_digit {c : Char} (digit : c.isDigit = true) : c.utf8Size = 1 := by
  unfold Char.isDigit at digit
  unfold Char.utf8Size
  simp only [Bool.and_eq_true, decide_eq_true_eq] at digit
  have small : c.val ≤ '9'.val := digit.2
  exact if_pos (Nat.le_trans small (by decide))

theorem validComponent_number {index : ℕ} (small : index < maxSuiteRecoveryModules) :
    ValidComponent index.repr := by
  have digits : ∀ c ∈ Nat.toDigits 10 index, c.isDigit = true := fun c member =>
    Nat.isDigit_of_mem_toDigits (by decide) (by decide) member
  refine ⟨Nat.repr_ne_empty, ?_, ?_⟩
  · rw [Nat.repr_eq_ofList_toDigits, utf8_length fun c member => utf8Size_digit (digits c member)]
    have few : (Nat.toDigits 10 index).length ≤ 5 := by
      rw [Nat.length_toDigits_le_iff (by decide) (by decide)]
      exact Nat.lt_of_lt_of_le small (by decide)
    omega
  · rw [Nat.toList_repr, List.all_eq_true]
    intro c member
    rw [Char.isAlphanum, digits c member, Bool.or_true, Bool.true_or]

theorem repr_inj {index other : ℕ} (same : index.repr = other.repr) : index = other := by
  have digits : Nat.toDigits 10 index = Nat.toDigits 10 other := by
    rw [← Nat.toList_repr, ← Nat.toList_repr, same]
  rw [← @Nat.ofDigitChars_ten_toDigits index, digits, Nat.ofDigitChars_ten_toDigits]

/-- A Suite state with that many modules. -/
def grown (count : ℕ) : SuiteRecoveryState :=
  { emptySuite "https://suite.example" with moduleIds := (List.range count).map Nat.repr }

theorem grown_fresh (count : ℕ) : count.repr ∉ (grown count).moduleIds := by
  intro member
  obtain ⟨index, listed, same⟩ := List.mem_map.mp member
  rw [repr_inj same] at listed
  exact Nat.lt_irrefl _ (List.mem_range.mp listed)

theorem grown_size (count : ℕ) : 9 * count ≤ idsSize (grown count).moduleIds + 8 := by
  have counted := @idsSize_count (grown count).moduleIds fun id member => by
    obtain ⟨index, _, rfl⟩ := List.mem_map.mp member
    exact Nat.repr_ne_empty
  have length : (grown count).moduleIds.length = count := by
    unfold grown
    dsimp only
    rw [List.length_map, List.length_range]
  rw [length] at counted
  exact counted

/-- A state in which the modules up to a count are recorded. -/
def Grown (count : ℕ) (journal : TenantResourceRecoveryJournal) : Prop :=
  suiteOf journal "https://suite.example" = grown count ∧
    journal.suiteRetention = .active false

def intentOf : String := "66666666-6666-4666-8666-666666666666"

/-- The state between the intent and its module. -/
def intending (count : ℕ) : SuiteRecoveryState :=
  { grown count with pendingCreateIntents := [intentOf] }

theorem grown_begin {count : ℕ} {journal : TenantResourceRecoveryJournal}
    (reached : Grown count journal) :
    (beginSuiteCreate "https://suite.example" intentOf false exampleLibrary journal).2 =
      withSuiteState (requested journal false) (intending count) := by
  have created : checkCreate exampleLibrary journal "https://suite.example" intentOf false =
      .ok "https://suite.example" := by
    have policy : checkPolicy journal false = .ok () := by
      unfold checkPolicy
      rw [reached.2]
      exact check_ok.mpr (.inr rfl)
    have parsed : parseSuite exampleLibrary "https://suite.example" =
        some "https://suite.example" := by decide
    have component : validateComponent intentOf "Suite create intent ID" = .ok () := by decide
    unfold checkCreate
    rw [parsed]
    dsimp only
    rw [component, policy]
    rfl
  unfold beginSuiteCreate
  rw [created]
  dsimp only
  rw [reached.1]
  have passed : checkIntent (grown count) "https://suite.example" intentOf = .ok () := rfl
  rw [passed]
  rfl

theorem grown_record {count : ℕ} (small : count < maxSuiteRecoveryModules)
    {journal : TenantResourceRecoveryJournal} (present : journal.suite = some (intending count)) :
    (recordSuiteModule intentOf count.repr exampleLibrary journal).2 =
      withSuiteState journal (grown (count + 1)) := by
  have component : validateComponent count.repr "Suite module ID" = .ok () :=
    check_ok.mpr (validComponent_number small)
  have recorded : recordId (intending count).moduleIds count.repr =
      (grown (count + 1)).moduleIds := by
    have fresh : count.repr ∉ (intending count).moduleIds := grown_fresh count
    unfold recordId
    rw [if_neg fresh]
    unfold intending grown
    dsimp only
    rw [List.range_succ, List.map_append]
    rfl
  unfold recordSuiteModule
  rw [component]
  unfold onSuite
  rw [present]
  dsimp only
  rw [recorded]
  have empty : (intending count).pendingCreateIntents.erase intentOf = [] := rfl
  unfold resolved
  rw [empty]
  rfl

/-- Module after module is admitted, whatever the size of the journal. -/
theorem grown_reached (count : ℕ) (few : count ≤ maxSuiteRecoveryModules) :
    ∃ w, GuardRun Counted calmTape "prod" exampleBinding.runId w ∧ Grown count w.guard.journal := by
  induction count with
  | zero =>
    refine ⟨begunWorld, begun_example Counted, ?_⟩
    rw [begun_journal]
    exact ⟨rfl, rfl⟩
  | succ count ih =>
    obtain ⟨w, run, reached⟩ := ih (Nat.le_of_succ_le few)
    have begun := GuardRun.called (.beginSuiteCreate "https://suite.example" intentOf false) run
      trivial
    obtain ⟨opened, persisted, same⟩ :=
      @run_method calmTape (Move.mutation (.beginSuiteCreate "https://suite.example" intentOf false)) w
    rw [same] at begun
    have intended : opened.guard.journal =
        withSuiteState (requested w.guard.journal false) (intending count) := by
      rw [persisted.guard]
      exact grown_begin reached
    have counted : Counted opened.guard.journal (.recordSuiteModule intentOf count.repr) := by
      intro suite present
      rw [intended] at present
      cases present
      refine .inl ?_
      show ((List.range count).map Nat.repr).length < _
      rw [List.length_map, List.length_range]
      exact few
    have recorded := GuardRun.called (.recordSuiteModule intentOf count.repr) begun counted
    obtain ⟨last, kept, same⟩ :=
      @run_method calmTape (Move.mutation (.recordSuiteModule intentOf count.repr)) opened
    rw [same] at recorded
    refine ⟨last, recorded, ?_⟩
    have after : last.guard.journal =
        withSuiteState opened.guard.journal (grown (count + 1)) := by
      rw [kept.guard]
      exact grown_record few (by rw [intended]; rfl)
    rw [after, intended]
    exact ⟨rfl, rfl⟩

end NazoAuthCtl.JournalRuns
