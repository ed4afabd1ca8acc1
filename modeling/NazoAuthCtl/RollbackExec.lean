import NazoAuthCtl.UpdateExec

/-!
# Executing a rollback order

`execute_rollback`: the previous verified artifact and the config snapshot paired
with it are put back, and the pair they replace becomes the new previous one.
-/

set_option autoImplicit false
set_option linter.all false

namespace NazoAuthCtl.RollbackExec

open FaultProgram TargetState TargetWorld UpdateExec

structure RollbackJob where
  operationId : OperationId
  deploymentId : DeploymentId
  issuer : String
  runtimeKind : RuntimeBackendKind
  configReference : Path
  port : ℕ
  runtimeRoot : Option Path
  configSchema : ConfigSchema
  currentArtifact : Digest
  previousArtifact : Option Digest
  previousConfigSnapshot : Option OperationId
  expectedRevision : ℕ
  deriving DecidableEq, Repr

/-- `require_observation_serves`. -/
def requireObservationServes (observation : RuntimeObservation) (expected : Digest) :
    Except Failure Unit :=
  match observation.digest with
  | none => .error ⟨.objectIdentityMismatch,
      "the running runtime object does not report a digest-bound artifact"⟩
  | some digest =>
    if digest = expected then .ok ()
    else .error ⟨.objectIdentityMismatch,
      "runtime object does not serve the artifact the deployment state records"⟩

/-- The locally kept bytes of the previous artifact; nothing is fetched. -/
def previousRuntimeArtifact (kind : RuntimeBackendKind) (observation : RuntimeObservation)
    (runtimeRoot : Option Path) (previous : Digest) (w : World) :
    Except Failure ArtifactReference :=
  if kind = .host then
    match runtimeRoot with
    | none => .error ⟨.hostErrOperationInvalid,
        "systemd deployment state has no app-binary directory resource"⟩
    | some root =>
      if previous ∈ w.hostArtifacts then .ok (.hostBinary (artifactPath root previous) previous)
      else .error ⟨.rollbackArtifactMissing,
        "previous host binary is not present in the verified target cache"⟩
  else
    match observation.artifact with
    | .oci repository _ =>
      if (repository, previous) ∈ w.images then .ok (.oci repository previous)
      else .error ⟨.rollbackArtifactMissing,
        "previous artifact is not present in the local image store; pull it explicitly before " ++
          "rolling back"⟩
    | _ => .error ⟨.objectIdentityMismatch,
        "the running runtime object does not report a digest-bound OCI artifact"⟩

structure RollbackPlan where
  observation : RuntimeObservation
  previous : Digest
  artifact : ArtifactReference
  restored : Bytes
  restoredSchema : ConfigSchema
  before : Option RuntimeReplacement
  deriving DecidableEq, Repr

/-- Steps 0 to 2 of `run_rollback`, up to the first durable change. -/
def admitRollback (job : RollbackJob) : Exec RollbackPlan := do
  privilegeGate
  match job.previousArtifact with
  | none => Program.throw ⟨.rollbackUnavailable,
      "no previous verified artifact reference is saved; rollback never guesses"⟩
  | some previous => do
    let observation ← inspect job.runtimeKind .change
    Program.ofExcept (requireObservationServes observation job.currentArtifact)
    let before ← Program.ofExcept
      (if job.runtimeKind.isContainer then (exactReplacementFromObservation observation).map some
      else .ok none)
    let artifact ← perform .imageExists .rollbackArtifactMissing do
      Program.ofExcept (previousRuntimeArtifact job.runtimeKind observation job.runtimeRoot previous
        (← Program.get))
    match job.previousConfigSnapshot with
    | none => Program.throw ⟨.rollbackArtifactMissing,
        "previous artifact has no paired configuration snapshot; recover a verified backup"⟩
    | some snapshot =>
      match ← readRestorableSnapshot .change snapshot .hostErrOperationInvalid with
      | none => Program.throw ⟨.rollbackArtifactMissing,
          "paired configuration snapshot is missing"⟩
      | some (restored, restoredSchema) =>
        pure { observation, previous, artifact, restored, restoredSchema, before }

/-- The current pair is snapshotted under this operation, then the paired config
is put in its place. -/
def restorePairedConfig (job : RollbackJob) (plan : RollbackPlan) : Run Unit := do
  onWorld (snapshotConfig job.operationId job.configSchema (some plan.restoredSchema) none)
  match ← onWorld (readRestorableSnapshot .check job.operationId .configInvalid) with
  | none => Program.throw ⟨.configInvalid, "rollback starting configuration is missing"⟩
  | some (starting, _) => do
    note fun performed => { performed with configBeforeRollback := some starting }
    onWorld (writeConfig .change plan.restored)
    note fun performed => { performed with wroteConfig := true }
    onWorld (grantRuntimeConfigRead .change)

/-- `HostLifecycleExecutor::run_rollback`. The source is replaced without being
stopped first, which a container engine refuses for a running one. -/
def runRollback (job : RollbackJob) : Run LifecycleFacts := do
  let plan ← onWorld (admitRollback job)
  note (retainRuntime plan.before plan.observation)
  restorePairedConfig job plan
  let replacement ← Program.ofExcept (replacementFromObservation plan.observation plan.artifact)
  note fun performed => { performed with replacedRuntime := true }
  onWorld (replace job.runtimeKind .change replacement)
  onWorld (start .change)
  onWorld (confirmRuntime job.runtimeKind plan.previous job.port job.issuer
    "the rolled-back runtime does not serve the previous verified artifact")
  let state ← onWorld (storeState .commitState fun state =>
    applyRollbackHealthy state job.expectedRevision
      (some (job.configReference, plan.restoredSchema)) job.operationId)
  pure { revision := state.config.revision, release := none, migrationResult := none }

/-- `restore_current_after_failed_rollback`. -/
def restoreCurrentAfterFailedRollback (job : RollbackJob) (performed : PerformedSteps) :
    Exec Unit := do
  let config ← Program.attempt
    (if performed.wroteConfig then
      match performed.configBeforeRollback with
      | none => Program.throw ⟨.activationFailed,
          "pre-rollback configuration bytes were not retained before replacement"⟩
      | some bytes => do
        writeConfig .undo bytes
        grantRuntimeConfigRead .undo
    else pure ())
  let runtime ← Program.attempt
    (if performed.replacedRuntime then
      restoreRuntimeBeforeChange job.runtimeKind job.currentArtifact job.runtimeRoot performed
    else pure ())
  Program.ofExcept (rollbackResult [config, runtime])

/-- How `execute_rollback` concludes a run, if the process is still there. -/
def concludeRollback (job : RollbackJob) (performed : PerformedSteps) :
    Outcome Failure LifecycleFacts → Exec LifecycleFacts
  | .crashed => Program.lost
  | .ok facts => pure facts
  | .error failure => do
    match ← Program.attempt (restoreCurrentAfterFailedRollback job performed) with
    | .ok () => Program.throw failure
    | .error cleanup => Program.throw ⟨failure.code,
        s!"{failure.detail}; rollback recovery was incomplete: {cleanup.detail}"⟩

/-- `HostLifecycleExecutor::execute_rollback`. -/
def executeRollback (job : RollbackJob) : Exec LifecycleFacts := fun attempt w =>
  let (outcome, run) := runRollback job attempt ⟨w, {}⟩
  concludeRollback job run.performed outcome attempt run.world

end NazoAuthCtl.RollbackExec
