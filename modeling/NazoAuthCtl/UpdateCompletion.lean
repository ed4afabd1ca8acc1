import NazoAuthCtl.UpdateSteps

/-!
# Attempts in which nothing fails

Each phase relation lists what a phase can do in any environment. Without faults
a phase does what its finished case says, so that a chain of finished cases is a
completed attempt.
-/

set_option autoImplicit false
set_option linter.all false

namespace NazoAuthCtl.UpdateCompletion

open FaultProgram TargetState TargetWorld UpdateExec LifecycleDispatch UpdateAdmission UpdateSteps
open Program

variable {e : Attempt} {w w' : World} {run run' : Running} {job : UpdateJob} {plan : UpdatePlan}

theorem loadState_unfaulted {state : DeploymentState} (fault : e.faults .loadState = .none)
    (loaded : w.state = some state) : loadState e w = (.ok state, w) := by
  rw [loadState, perform_none _ _ _ fault, run_bind_ok run_get]
  simp [loaded]

theorem loadState_run {state : DeploymentState} (clean : e.clean)
    (loaded : w.state = some state) : loadState e w = (.ok state, w) :=
  loadState_unfaulted (clean _) loaded

theorem loadState_ok {state : DeploymentState} (h : loadState e w = (.ok state, w')) :
    w.state = some state ∧ w' = w := by
  unfold loadState at h
  cases fault : e.faults .loadState with
  | fail d =>
    rw [perform_fail _ _ _ fault] at h
    cases h
  | crash =>
    rw [perform_crash _ _ _ fault] at h
    cases h
  | none =>
    rw [perform_none _ _ _ fault, run_bind_ok run_get] at h
    cases hs : w.state with
    | none =>
      rw [hs] at h
      cases h
    | some state' =>
      rw [hs] at h
      cases h
      exact ⟨rfl, rfl⟩

/-- A run that ends in a no-op or an activation is answered as it is. -/
theorem answerUpdate_run {order : UpdateOrder} {state : DeploymentState}
    {execution : UpdateExecution} (clean : e.clean) (loaded : w.state = some state)
    (precondition : validateBackupPrecondition order.backupPrecondition w.backup e.now = .ok ())
    (built : updateJob order state = .ok job)
    (own : ∀ operation ∈ job.appliedMigrationOperationId, operation = job.operationId)
    (ran : runUpdate job e ⟨w, freshSteps job⟩ = (.ok execution, run))
    (finished : ∀ result, execution ≠ .migrationFailed result) :
    answerUpdate order e w = (.ok (completionOfUpdate execution), run.world) := by
  have executed : executeUpdate job e w = (.ok execution, run.world) := by
    unfold executeUpdate
    rw [run_bind_ok (by rw [run_require, if_pos own])]
    simp only [runAndConclude, ran]
    cases execution with
    | migrationFailed result => exact absurd rfl (finished result)
    | _ => rfl
  unfold answerUpdate
  rw [run_bind_ok (loadState_run clean loaded), run_bind_ok run_environment, run_bind_ok run_get,
    run_bind_ok (by rw [precondition, run_ofExcept_ok]),
    run_bind_ok (by rw [built, run_ofExcept_ok]), run_bind_ok executed]
  rfl

theorem runUpdate_noop (clean : e.clean) (admitted : admission e.platform job run.world = .ok none) :
    runUpdate job e run =
      (.ok (.noop job.expectedRevision), { run with world := (admitUpdate job e run.world).2 }) := by
  have answer := admitUpdate_run (clean_admissionUnfaulted clean) job run.world
  rw [admitted, Outcome.ofExcept_ok] at answer
  unfold runUpdate
  rw [run_bind_ok (by rw [run_onWorld, answer])]
  rfl

theorem runUpdate_unfaulted (unfaulted : AdmissionUnfaulted e)
    (admitted : admission e.platform job run.world = .ok (some plan)) :
    runUpdate job e run = carryOut job plan e
      { run with world := keepArtifact plan.verified.runtimeArtifact run.world } := by
  have answer := admitUpdate_run unfaulted job run.world
  rw [admitted, Outcome.ofExcept_ok] at answer
  have world := ((admitUpdate_ensures job e run.world).2 _ answer).2 plan rfl
  unfold runUpdate
  rw [run_bind_ok (by rw [run_onWorld, answer, world])]

theorem runUpdate_admitted (clean : e.clean)
    (admitted : admission e.platform job run.world = .ok (some plan)) :
    runUpdate job e run = carryOut job plan e
      { run with world := keepArtifact plan.verified.runtimeArtifact run.world } :=
  runUpdate_unfaulted (clean_admissionUnfaulted clean) admitted

theorem snapshotConfig_unfaulted {operation : OperationId} {schema : ConfigSchema}
    {replacing : Option ConfigSchema} {current : Option Bytes}
    (read : e.faults (.readSnapshot .change) = .none) (bytesFile : e.faults .snapshotBytes = .none)
    (metaFile : e.faults .snapshotMeta = .none)
    (h : Snapshotted e.platform operation schema replacing current w (.ok ()) w') :
    snapshotConfig operation schema replacing current e w = (.ok (), w') := by
  unfold snapshotConfig
  rw [run_bind_ok run_environment,
    run_bind_ok (perform_none _ _ _ read : _ = (Outcome.ok (w.configSnapshots operation), w))]
  cases h with
  | bytesOnly _ unfinished => exact absurd rfl unfinished
  | resumed record bytes present obsolete owner digest schemas =>
    simp only [present]
    rw [run_bind_ok (by rw [run_require, if_pos obsolete]),
      run_bind_ok (by rw [run_require, if_pos owner]), run_require,
      if_pos (by simp [resumedSnapshotMatches, present, digest, schemas])]
  | saved bytes source absent =>
    simp only [absent]
    rw [run_bind_ok (by
      rw [perform_none _ _ _ bytesFile, run_bind_ok run_get]
      simp only [source]
      rw [run_bind_ok (run_modify _)]
      exact run_pure _), perform_none _ _ _ metaFile, run_modify]
    simp [completeSnapshot, setSnapshot, absent]

theorem snapshotConfig_run {operation : OperationId} {schema : ConfigSchema}
    {replacing : Option ConfigSchema} {current : Option Bytes} (clean : e.clean)
    (h : Snapshotted e.platform operation schema replacing current w (.ok ()) w') :
    snapshotConfig operation schema replacing current e w = (.ok (), w') :=
  snapshotConfig_unfaulted (clean _) (clean _) (clean _) h

theorem stageConfig_run (clean : e.clean) (h : Staged e.platform job plan run (.ok ()) run') :
    stageConfig job plan e run = (.ok (), run') := by
  have savedRun : ∀ w₁, Saved e.platform job plan run.world w₁ →
      saveCurrentConfig job plan e run = (.ok (), ⟨w₁, savedSteps run⟩) := by
    intro w₁ saved
    unfold saveCurrentConfig
    rw [run_bind_ok run_get]
    rcases saved with ⟨present, snapshot⟩ | ⟨absent, rfl⟩
    · rw [onlyIf, if_pos present,
        run_bind_ok (by rw [run_onWorld, snapshotConfig_run clean snapshot]), run_note]
      simp [savedSteps, present]
    · rw [onlyIf, if_neg (by simp [absent])]
      simp [savedSteps, absent, Program.pure]
  unfold stageConfig
  cases h with
  | unsaved unfinished => exact absurd rfl unfinished
  | unwritten w₁ saved finished =>
    rw [run_bind_ok (savedRun w₁ saved), writeStagedConfig, finished.mp rfl]
    rfl
  | written w₁ staged saved present =>
    rw [run_bind_ok (savedRun w₁ saved), writeStagedConfig, present]
    simp only
    rw [run_bind_ok (by rw [run_onWorld, writeConfig, perform_none _ _ _ (clean _), run_modify]),
      run_bind_ok (run_note _), run_onWorld, grantRuntimeConfigRead, perform_none _ _ _ (clean _)]
    rfl

theorem replace_run {kind : RuntimeBackendKind} {site : Site} {replacement : RuntimeReplacement}
    (clean : e.clean) (h : Replaced kind replacement w (.ok ()) w') :
    replace kind site replacement e w = (.ok (), w') := by
  unfold replace
  cases h with
  | kept _ unfinished => exact absurd rfl unfinished
  | removed _ unfinished => exact absurd rfl unfinished
  | unitStopped _ unfinished => exact absurd rfl unfinished
  | created container repository digest artifact free =>
    have gone : removeReplacementSource site replacement e w = (.ok (), sourceRemoved w) := by
      unfold removeReplacementSource
      rw [run_bind_ok (perform_none _ _ _ (clean _) : _ = (Outcome.ok w.runtime, w))]
      cases hobject : w.runtime with
      | none => simp [sourceRemoved, hobject]
      | some object =>
        simp only
        rw [run_bind_ok (by rw [free object hobject, run_ofExcept_ok]),
          perform_none _ _ _ (clean _), run_modify]
        simp [sourceRemoved, hobject]
    rw [if_pos container, replaceContainer, artifact]
    simp only
    rw [run_bind_ok gone, createReplacement, perform_none _ _ _ (clean _), run_modify]
  | overwritten unit object present path digest artifact cached =>
    rw [if_neg (by simp [unit]), replaceUnit, artifact]
    simp only
    rw [run_bind_ok run_get, run_bind_ok (by rw [run_require, if_pos cached]),
      run_bind_ok (changeRuntime_none _ _ (clean _) present),
      changeRuntime_none _ _ (clean _) rfl]

theorem activateRuntime_run (clean : e.clean) (h : Activating job plan run (.ok ()) run') :
    activateRuntime job plan e run = (.ok (), run') := by
  unfold activateRuntime
  cases h with
  | notNeeded absent =>
    rw [absent]
    rfl
  | unstopped _ unfinished => exact absurd rfl unfinished
  | unreplaced _ unfinished => exact absurd rfl unfinished
  | unstarted _ unfinished => exact absurd rfl unfinished
  | activated replacement planned w₁ w₂ stopped replaced object present =>
    have halted : onlyIf plan.observation.running (onWorld (stop .change)) e run =
        (.ok (), { run with world := w₁ }) := by
      unfold writerStopped at stopped
      unfold onlyIf
      split at stopped
      case isTrue running =>
        obtain ⟨object, present, rfl⟩ := stopped
        rw [if_pos running, run_onWorld, stop, changeRuntime_none _ _ (clean _) present]
      case isFalse idle =>
        rw [if_neg idle, stopped]
        rfl
    rw [planned]
    simp only
    rw [run_bind_ok halted, run_bind_ok (run_note _),
      run_bind_ok (by rw [run_onWorld, replace_run clean replaced]), run_onWorld, start,
      changeRuntime_none _ _ (clean _) present]

theorem confirmRuntime_unfaulted {kind : RuntimeBackendKind} {digest : Digest} {port : ℕ}
    {issuer mismatch : String} (inspected : e.faults (.inspect .check) = .none)
    (probed : e.faults .probeHealth = .none)
    (h : Confirmed e.platform kind digest port issuer w) :
    confirmRuntime kind digest port issuer mismatch e w = (.ok (), w) := by
  obtain ⟨object, config, present, hconfig, running, serves, answers⟩ := h
  unfold confirmRuntime probeLocalHealth
  rw [run_bind_ok (inspect_some inspected present), run_bind_ok (by
      rw [run_require, if_pos ⟨by simpa [observation] using running, serves⟩]),
    perform_none _ _ _ probed, run_bind_ok run_environment, run_bind_ok run_get]
  simp only [hconfig, present]
  rw [run_require, if_pos answers]

theorem confirmRuntime_run {kind : RuntimeBackendKind} {digest : Digest} {port : ℕ}
    {issuer mismatch : String} (clean : e.clean)
    (h : Confirmed e.platform kind digest port issuer w) :
    confirmRuntime kind digest port issuer mismatch e w = (.ok (), w) :=
  confirmRuntime_unfaulted (clean _) (clean _) h

theorem storeState_run {label : Effect}
    {operation : DeploymentState → Except Failure DeploymentState} {state state' : DeploymentState}
    (clean : e.clean) (before : w.state = some state) (after : operation state = .ok state') :
    storeState label operation e w = (.ok state', { w with state := some state' }) := by
  unfold storeState
  rw [perform_none _ _ _ (clean _), run_bind_ok run_get]
  simp only [before]
  rw [run_bind_ok (by rw [after, run_ofExcept_ok]), run_bind_ok (run_modify _)]
  rfl

theorem confirmAndCommit_run {state state' : DeploymentState} (clean : e.clean)
    (confirmed : Confirmed e.platform job.runtimeKind plan.verified.digest job.port job.issuer
      run.world)
    (before : run.world.state = some state)
    (after : applyUpdateHealthyFromLive state job.expectedRevision
      (updateCommit job plan run.performed) plan.recordedCurrentWasLive = .ok state') :
    confirmAndCommit job plan e run =
      (.ok ⟨state'.config.revision, state'.currentRelease, run.performed.migrationResult⟩,
        { run with world := { run.world with state := some state' } }) := by
  unfold confirmAndCommit
  rw [run_bind_ok (by rw [run_onWorld, confirmRuntime_run clean confirmed]), run_bind_ok run_get,
    run_bind_ok (by rw [run_onWorld, storeState_run clean before after])]
  rfl

/-- Finished phases one after the other are a completed run. -/
theorem carryOut_run {run₁ run₂ run₃ : Running} {state state' : DeploymentState} (clean : e.clean)
    (staged : Staged e.platform job plan (retained plan run) (.ok ()) run₁)
    (dispatched : dispatchMigration job plan e run₁ = (.ok none, run₂))
    (activating : Activating job plan run₂ (.ok ()) run₃)
    (confirmed : Confirmed e.platform job.runtimeKind plan.verified.digest job.port job.issuer
      run₃.world)
    (before : run₃.world.state = some state)
    (after : applyUpdateHealthyFromLive state job.expectedRevision
      (updateCommit job plan run₃.performed) plan.recordedCurrentWasLive = .ok state') :
    carryOut job plan e run =
      (.ok (.activated ⟨state'.config.revision, state'.currentRelease,
        run₃.performed.migrationResult⟩),
        { run₃ with world := { run₃.world with state := some state' } }) := by
  unfold carryOut
  rw [run_bind_ok (run_note _)]
  change (stageConfig job plan >>= _) e (retained plan run) = _
  rw [run_bind_ok (stageConfig_run clean staged), run_bind_ok dispatched]
  simp only
  rw [run_bind_ok (activateRuntime_run clean activating),
    run_bind_ok (confirmAndCommit_run clean confirmed before after)]
  rfl

/-! ## The migration asked again -/

/-- A task's answer depends on the server's record only through the operation asked about. -/
theorem serveOneShot_congr {operation : OperationId} {event : OneShotEvent}
    (recorded : (w'.accepted operation).or event.decides = (w.accepted operation).or event.decides) :
    (serveOneShot operation event w').1 = (serveOneShot operation event w).1 := by
  rcases event with ⟨decides, reply⟩
  cases reply with
  | answered hash =>
    simp only at recorded
    simp [serveOneShot, recorded]
  | _ => rfl

theorem askMigration_ok {hash : Digest} {result : ControlResult} (clean : e.clean) :
    askMigration job hash e run = (.ok result, run') ↔
      readMigrationAnswer job.operationId hash
          (serveOneShot job.operationId e.oneShot run.world).1 = .ok result ∧
        run' = ⟨(serveOneShot job.operationId e.oneShot run.world).2,
          { run.performed with migrationOutcomeUnknown := true }⟩ := by
  have asked : runOneShot job.operationId e run.world =
      (.ok (serveOneShot job.operationId e.oneShot run.world).1,
        (serveOneShot job.operationId e.oneShot run.world).2) := by
    simp [runOneShot, clean .oneShot]
  unfold askMigration
  rw [run_bind_ok (run_note _), run_bind_ok (by rw [run_onWorld, asked])]
  generalize (serveOneShot job.operationId e.oneShot run.world).2 = served
  cases (serveOneShot job.operationId e.oneShot run.world).1 with
  | error rejection detail =>
    have unread : ∀ rejection, readMigrationAnswer job.operationId hash (.error rejection detail) =
        .error ⟨.controlOutcomeUnknown, detail⟩ := fun _ => rfl
    cases rejection with
    | none => simp [unread]
    | some code =>
      by_cases proves : provesRejection code = true
      · simp [unread, proves, run_bind, run_note]
      · simp [unread, proves]
  | _ =>
    simp only [run_ofExcept]
    constructor
    · intro h
      obtain ⟨answer, rfl⟩ := Prod.mk.inj h
      refine ⟨?_, rfl⟩
      cases hread : readMigrationAnswer job.operationId hash _ with
      | error x => rw [hread] at answer; cases answer
      | ok read => rw [hread] at answer; cases answer; rfl
    · rintro ⟨read, rfl⟩
      rw [read]
      rfl

/-- A settled migration that leaves the attempt revertible changes its memory only. -/
theorem settleMigration_unapplied {verified : VerifiedArtifactFacts} {result : ControlResult} :
    (settleMigration job verified result e run = (.ok none, run') ∧
        run'.performed.migrationApplied = false) ↔
      result.outcome = .succeeded ∧ migrationRequiresRecovery result = false ∧
        run' = { run with performed := { run.performed with
          migrationApplied := false
          migrationResult := some result
          migrationOutcomeUnknown := false } } := by
  unfold settleMigration
  cases outcome : result.outcome with
  | inProgress => simp
  | failed => simp [run_bind, run_note]
  | succeeded =>
    simp only [run_bind_ok (run_note _)]
    cases requires : migrationRequiresRecovery result with
    | false =>
      rw [run_bind_ok (run_onlyIf_false _ (by simp))]
      constructor
      · rintro ⟨h, -⟩
        cases h
        exact ⟨trivial, rfl, rfl⟩
      · rintro ⟨-, -, rfl⟩
        exact ⟨rfl, rfl⟩
    | true =>
      simp only [Bool.true_eq_false, false_and, and_false, iff_false, not_and]
      intro h
      obtain ⟨_, run₁, recorded, finished⟩ := run_bind_eq_ok h
      rw [run_onlyIf_true _ rfl, run_onWorld] at recorded
      obtain ⟨-, rfl⟩ := Prod.mk.inj recorded
      cases finished
      simp

/-- The same server answers an unapplied migration of this operation the same way. -/
theorem dispatchMigration_replays {e₀ : Attempt} {run₀ run₀' : Running} {plan₀ : UpdatePlan}
    (clean₀ : e₀.clean) (clean : e.clean) (platform : e.platform = e₀.platform)
    (server : e.oneShot = e₀.oneShot) (secrets : run.world.secrets = run₀.world.secrets)
    (recorded : (run.world.accepted job.operationId).or e₀.oneShot.decides =
      (run₀.world.accepted job.operationId).or e₀.oneShot.decides)
    (fresh₀ : run₀.performed.migrationResult = none)
    (fresh : run.performed.migrationResult = none ∧ run.performed.migrationApplied = false)
    (dispatched : dispatchMigration job plan₀ e₀ run₀ = (.ok none, run₀'))
    (unapplied : run₀'.performed.migrationApplied = false) :
    ∃ run', dispatchMigration job plan e run = (.ok none, run') ∧
      run'.performed.migrationApplied = false ∧
      run'.performed.migrationResult = run₀'.performed.migrationResult := by
  unfold dispatchMigration at dispatched ⊢
  cases hjws : job.migrationJws with
  | none =>
    rw [hjws] at dispatched
    cases dispatched
    exact ⟨run, rfl, fresh.2, fresh.1.trans fresh₀.symm⟩
  | some jws =>
    rw [hjws] at dispatched
    cases hhash : job.migrationRequestHash with
    | none =>
      rw [hhash] at dispatched
      cases dispatched
    | some hash =>
      rw [hhash] at dispatched
      obtain ⟨_, run₁, urls, dispatched⟩ := run_bind_eq_ok dispatched
      obtain ⟨result, run₂, asked, settled⟩ := run_bind_eq_ok dispatched
      rw [run_onWorld, perform_none _ _ _ (clean₀ _), run_bind_ok run_environment,
        run_bind_ok run_get, run_require] at urls
      by_cases usable : databaseUrlsUsable e₀.platform run₀.world.secrets
      case neg =>
        rw [if_neg usable] at urls
        cases urls
      rw [if_pos usable] at urls
      cases urls
      obtain ⟨read, rfl⟩ := (askMigration_ok clean₀).mp asked
      obtain ⟨outcome, revertible, rfl⟩ := settleMigration_unapplied.mp ⟨settled, unapplied⟩
      have same : (serveOneShot job.operationId e₀.oneShot run.world).1 =
          (serveOneShot job.operationId e₀.oneShot run₀.world).1 := serveOneShot_congr recorded
      have asked' : askMigration job hash e run = (.ok result,
          ⟨(serveOneShot job.operationId e.oneShot run.world).2,
            { run.performed with migrationOutcomeUnknown := true }⟩) :=
        (askMigration_ok clean).mpr ⟨by rw [server, same]; exact read, rfl⟩
      obtain ⟨settled', unapplied'⟩ := (@settleMigration_unapplied e
        ⟨(serveOneShot job.operationId e.oneShot run.world).2,
          { run.performed with migrationOutcomeUnknown := true }⟩ _ job plan.verified result).mpr
        ⟨outcome, revertible, rfl⟩
      refine ⟨_, ?_, unapplied', rfl⟩
      simp only
      rw [run_bind_ok (by
        rw [run_onWorld, perform_none _ _ _ (clean _), run_bind_ok run_environment,
          run_bind_ok run_get, run_require, if_pos (by rw [platform, secrets]; exact usable)]),
        run_bind_ok asked']
      exact settled'

end NazoAuthCtl.UpdateCompletion
