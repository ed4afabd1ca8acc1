import NazoAuthCtl.RollbackExec

/-!
# Answering update and rollback orders

`answer_update` and `answer_rollback` build each job from the live state at the
moment of the attempt. A resumed attempt therefore sees whatever an earlier
attempt of the same order left behind.
-/

set_option autoImplicit false
set_option linter.all false

namespace NazoAuthCtl.LifecycleDispatch

open FaultProgram TargetState TargetWorld UpdateExec RollbackExec

inductive UpdateBackupPrecondition where
  | notRequired
  | require (manifestSha256 : Digest) (restoreTestedAt : ℤ) (maxAgeSeconds : ℕ)
  deriving DecidableEq, Repr

structure UpdateOrder where
  operationId : OperationId
  expectedRevision : ℕ
  requestedVersion : Option ReleaseVersion
  backupPrecondition : UpdateBackupPrecondition
  config : Option StagedConfig
  migrationJws : Option Bytes
  migrationRequestHash : Option Digest
  deriving DecidableEq, Repr

structure RollbackOrder where
  operationId : OperationId
  expectedRevision : ℕ
  deriving DecidableEq, Repr

inductive CompletionBody where
  | stateMutateNoop (revision : ℕ)
  | stateMutateApplied (revision : ℕ) (controlResult : Option ControlResult)
  | stateMutateMigrationFailed (result : ControlResult)
  | stateMutateRecoveryRequired (result : ControlResult) (detail : String)
  deriving DecidableEq, Repr

/-- The answers of an order that took effect or had nothing to do. -/
def CompletionBody.completes : CompletionBody → Prop
  | .stateMutateNoop _ => True
  | .stateMutateApplied _ _ => True
  | .stateMutateMigrationFailed _ => False
  | .stateMutateRecoveryRequired _ _ => False

/-- The answer reports a migration that cannot be rolled back. -/
def CompletionBody.irreversible : CompletionBody → Prop
  | .stateMutateApplied _ (some result) => migrationRequiresRecovery result = true
  | _ => False

def preconditionFailed (detail : String) : Failure :=
  ⟨.backupUpdatePreconditionFailed, detail⟩

/-- `validate_loaded_backup_projection`. -/
def validateLoadedBackupProjection (manifestSha256 : Digest) (restoreTestedAt : ℤ)
    (maxAgeSeconds : ℕ) (projection : Except String (Option SnapshotProjection)) (now : ℤ) :
    Except Failure Unit :=
  match projection with
  | .error detail =>
    .error (preconditionFailed s!"current backup evidence is invalid: {detail}")
  | .ok none =>
    .error (preconditionFailed "the required snapshot manifest no longer exists")
  | .ok (some current) =>
    if current.manifestSha256 ≠ manifestSha256 then
      .error (preconditionFailed "the snapshot manifest changed after controller inspection")
    else match current.restoreTestedAt with
      | none =>
        .error (preconditionFailed "the required restore-test receipt no longer exists")
      | some restoredAt =>
        if restoredAt ≠ restoreTestedAt then
          .error (preconditionFailed
            "the restore-test receipt changed after controller inspection")
        else if now - restoredAt < 0 then
          .error (preconditionFailed "the restore-test receipt timestamp is in the future")
        else if (maxAgeSeconds : ℤ) < now - restoredAt then
          .error (preconditionFailed "the restore-test receipt exceeds its required age")
        else .ok ()

/-- `validate_backup_precondition`. -/
def validateBackupPrecondition (precondition : UpdateBackupPrecondition)
    (projection : Except String (Option SnapshotProjection)) (now : ℤ) : Except Failure Unit :=
  match precondition with
  | .notRequired => .ok ()
  | .require manifestSha256 restoreTestedAt maxAgeSeconds =>
    validateLoadedBackupProjection manifestSha256 restoreTestedAt maxAgeSeconds projection now

/-- The job of an update order, from the facts of one live state. -/
def orderedJob (order : UpdateOrder) (state : DeploymentState) (currentArtifact : Digest)
    (secretsRoot : Path) : UpdateJob where
  operationId := order.operationId
  deploymentId := state.deploymentId
  issuer := state.issuer
  runtimeKind := state.runtime.kind
  configReference := state.config.reference
  port := state.runtime.loopbackPort
  secretsRoot := secretsRoot
  runtimeRoot := state.directory "app-binary"
  configSchema := state.config.schema
  currentArtifact := currentArtifact
  currentVersion := state.currentRelease
  expectedRevision := order.expectedRevision
  appliedMigrationOperationId := state.appliedMigration.map (·.operationId)
  requestedVersion := order.requestedVersion
  config := order.config
  migrationJws := order.migrationJws
  migrationRequestHash := order.migrationRequestHash

/-- The checks `answer_update` makes on the live state before it has a job. -/
def updateJob (order : UpdateOrder) (state : DeploymentState) : Except Failure UpdateJob :=
  match state.artifact.current with
  | none => .error ⟨.hostErrOperationInvalid,
      "the deployment records no current artifact reference; adopt or install it first"⟩
  | some currentArtifact =>
    match state.directory "app-data" with
    | none => .error ⟨.hostErrOperationInvalid,
        "deployment state has no app-data directory resource"⟩
    | some _ =>
      match state.directory "app-secrets" with
      | none => .error ⟨.hostErrOperationInvalid,
          "deployment state has no app-secrets directory resource"⟩
      | some secretsRoot => .ok (orderedJob order state currentArtifact secretsRoot)

theorem updateJob_ok {order : UpdateOrder} {state : DeploymentState} {job : UpdateJob}
    (h : updateJob order state = .ok job) :
    ∃ current secrets, state.artifact.current = some current ∧
      state.directory "app-secrets" = some secrets ∧ (state.directory "app-data").isSome ∧
      job = orderedJob order state current secrets := by
  unfold updateJob at h
  split at h
  · cases h
  rename_i current hcurrent
  split at h
  · cases h
  rename_i data hdata
  split at h
  · cases h
  rename_i secrets hsecrets
  cases h
  exact ⟨current, secrets, hcurrent, hsecrets, by simp [hdata], rfl⟩

theorem updateJob_built {order : UpdateOrder} {state : DeploymentState} {current : Digest}
    {secrets : Path} (hcurrent : state.artifact.current = some current)
    (hsecrets : state.directory "app-secrets" = some secrets)
    (hdata : (state.directory "app-data").isSome) :
    updateJob order state = .ok (orderedJob order state current secrets) := by
  obtain ⟨data, hdata⟩ := Option.isSome_iff_exists.mp hdata
  simp [updateJob, hcurrent, hsecrets, hdata]

def loadState : Exec DeploymentState :=
  perform .loadState .deploymentUnknown do
    match (← Program.get).state with
    | none => Program.throw ⟨.deploymentUnknown, "no DeploymentState exists"⟩
    | some state => pure state

def completionOfUpdate : UpdateExecution → CompletionBody
  | .noop revision => .stateMutateNoop revision
  | .activated facts => .stateMutateApplied facts.revision facts.migrationResult
  | .migrationFailed result => .stateMutateMigrationFailed result
  | .recoveryRequired result detail => .stateMutateRecoveryRequired result detail

/-- `answer_update`. -/
def answerUpdate (order : UpdateOrder) : Exec CompletionBody := do
  let state ← loadState
  let attempt ← Program.environment
  Program.ofExcept (validateBackupPrecondition order.backupPrecondition
    (← Program.get).backup attempt.now)
  let job ← Program.ofExcept (updateJob order state)
  let execution ← executeUpdate job
  pure (completionOfUpdate execution)

/-- The job of a rollback order under one live state. -/
def rollbackJob (order : RollbackOrder) (state : DeploymentState) (currentArtifact : Digest) :
    RollbackJob where
  operationId := order.operationId
  deploymentId := state.deploymentId
  issuer := state.issuer
  runtimeKind := state.runtime.kind
  configReference := state.config.reference
  port := state.runtime.loopbackPort
  runtimeRoot := state.directory "app-binary"
  configSchema := state.config.schema
  currentArtifact
  previousArtifact := state.artifact.previous
  previousConfigSnapshot := state.previousConfigSnapshot
  expectedRevision := order.expectedRevision

/-- `answer_rollback`. -/
def answerRollback (order : RollbackOrder) : Exec CompletionBody := do
  let state ← loadState
  if state.producedBy order.operationId then
    pure (.stateMutateApplied state.config.revision none)
  else do
    Program.require (state.config.revision = order.expectedRevision)
      (revisionMismatch order.expectedRevision state)
    Program.require (state.appliedMigration = none) ⟨.rollbackRecoveryRequired,
      "an applied migration forbids artifact/config rollback; keep the writer stopped and recover " ++
        "a verified backup"⟩
    match state.artifact.current with
    | none => Program.throw ⟨.rollbackUnavailable,
        "the deployment records no current artifact reference"⟩
    | some currentArtifact => do
      let facts ← executeRollback (rollbackJob order state currentArtifact)
      pure (.stateMutateApplied facts.revision none)

structure ApplyConfigOrder where
  operationId : OperationId
  expectedRevision : ℕ
  reference : Path
  schema : ConfigSchema
  deriving DecidableEq, Repr

/-- The `ApplyConfig` branch of `dispatch_validated_host_operation`: one store operation. -/
def answerApplyConfig (order : ApplyConfigOrder) : Exec CompletionBody := do
  let state ← storeState .commitState fun state =>
    applyConfig state order.expectedRevision order.reference order.schema order.operationId
  pure (.stateMutateApplied state.config.revision none)

end NazoAuthCtl.LifecycleDispatch
