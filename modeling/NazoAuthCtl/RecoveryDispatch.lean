import NazoAuthCtl.BackupRecover
import NazoAuthCtl.StoreMutations

/-!
# Answering a recovery order

The `BackupRecover` branch of `dispatch_validated_host_operation`: the revision is
checked, the runtime is quiesced, the snapshot is restored, and the recovered facts
are committed. A restore that fails before the first formal path is switched starts
again the runtime that this attempt has stopped.
-/

set_option autoImplicit false
set_option linter.all false

namespace NazoAuthCtl.RecoveryDispatch

open FaultProgram TargetState TargetWorld RecoveryWorld BackupRecover StoreMutations
open Program (get modify environment require onlyIf ofExcept attempt zoom)

structure RecoveryOrder where
  operationId : OperationId
  expectedRevision : ℕ
  expectedManifestSha256 : Digest
  stateEpoch : Bytes
  deriving DecidableEq, Repr

/-- `state.json` and what the restore works on. -/
structure RecoveryScope where
  state : Option DeploymentState
  restore : Restore

structure BackupRecovered where
  snapshotId : OperationId
  manifestSha256 : Digest
  revision : ℕ
  deriving DecidableEq, Repr

abbrev RecoveringScope := Recovering RecoveryScope

def onRestore {α : Type} (p : Restoring α) : RecoveringScope α :=
  zoom RecoveryScope.restore (fun restore scope => { scope with restore }) p

/-- An operation of the store, which has its own code for a failure of the disk. -/
def stored {α : Type} (label : RecoveryEffect) (body : RecoveringScope α) : RecoveringScope α :=
  Program.effect (fun attempt => attempt.faults label) (fun detail => ⟨.deploymentUnknown, detail⟩)
    body

def loadExisting : RecoveringScope DeploymentState :=
  stored .loadState do
    match (← get).state with
    | none => Program.throw ⟨.deploymentUnknown, "no DeploymentState exists"⟩
    | some state => pure state

/-- An object that is gone is not running. -/
def runtimeRunning (label : RecoveryEffect) : Restoring Bool :=
  step label (do pure ((← get).runtime.any (·.running)))

/-- `quiesce_for_recovery`: whether this attempt has stopped the runtime. -/
def quiesceForRecovery : Restoring Bool := do
  if ← runtimeRunning .inspectRunning then
    step .stop (modify fun r => { r with runtime := r.runtime.map (·.halted) })
    let remained ← runtimeRunning .inspectStopped
    require (remained = false) (refuse "recovery runtime remained active after stop")
    pure true
  else pure false

/-- The restart of a runtime that the failed restore has left in place. -/
def restartOriginal (failure : Failure) : Restoring Failure := do
  match ← attempt (step .restart
      (modify fun r => { r with runtime := r.runtime.map (·.launched) })) with
  | .ok () =>
    pure { failure with
      detail := failure.detail ++ "; original runtime restarted after safe recovery abort" }
  | .error cleanup =>
    pure { failure with
      detail := failure.detail ++ s!"; original runtime restart failed: {cleanup.detail}" }

/-- What a failed restore answers. A marker that cannot be read may be there. -/
def abortRecovery (wasRunning : Bool) (failure : Failure) : Restoring Failure :=
  if wasRunning then do
    match ← attempt (step .readMarker (do pure (← get).pathsSwitching)) with
    | .ok false => restartOriginal failure
    | _ => pure failure
  else pure failure

/-- The restore under a quiesced runtime. -/
def restoreQuiesced (order : RecoveryOrder) (state : DeploymentState) : Restoring RecoveryFacts := do
  let wasRunning ← quiesceForRecovery
  match ← attempt (recover state order.expectedManifestSha256 order.stateEpoch order.operationId) with
  | .ok facts => pure facts
  | .error failure => do
    let aborted ← abortRecovery wasRunning failure
    Program.throw aborted

/-- `TargetStateStore::apply_recovery`. -/
def commitRecovery (order : RecoveryOrder) (facts : RecoveryFacts) :
    RecoveringScope DeploymentState := do
  stored .commitRecovery do
    match (← get).state with
    | none => Program.throw ⟨.deploymentUnknown, "no DeploymentState exists"⟩
    | some state => do
      let state' ← ofExcept (applyRecovery state order.expectedRevision facts order.operationId)
      modify fun scope => { scope with state := some state' }
      pure state'

/-- The `BackupRecover` branch of `dispatch_validated_host_operation`. -/
def answerBackupRecover (order : RecoveryOrder) : RecoveringScope BackupRecovered := do
  let state ← loadExisting
  require (state.config.revision = order.expectedRevision ∨ state.producedBy order.operationId)
    ⟨.configRevisionMismatch, "recovery plan no longer matches the deployment revision"⟩
  let facts ← onRestore (restoreQuiesced order state)
  let committed ← commitRecovery order facts
  pure ⟨facts.snapshotId, facts.manifestSha256, committed.config.revision⟩

theorem stored_none {α : Type} {e : RecoveryAttempt} {label : RecoveryEffect}
    (scope : RecoveryScope) (body : RecoveringScope α) (fault : e.faults label = .none) :
    stored label body e scope = body e scope := by
  simp [stored, Program.effect, fault]

theorem loadExisting_run {e : RecoveryAttempt} {scope : RecoveryScope} {state : DeploymentState}
    (fault : e.faults .loadState = .none) (loaded : scope.state = some state) :
    loadExisting e scope = (.ok state, scope) := by
  rw [loadExisting, stored_none _ _ fault, Program.run_bind_ok Program.run_get, loaded]
  rfl

/-- A stale revision is refused whatever the other effects of the attempt would do. -/
theorem answerBackupRecover_stale {order : RecoveryOrder} {e : RecoveryAttempt}
    {scope : RecoveryScope} {state : DeploymentState} (fault : e.faults .loadState = .none)
    (loaded : scope.state = some state) (stale : state.config.revision ≠ order.expectedRevision)
    (foreign : ¬state.producedBy order.operationId) :
    answerBackupRecover order e scope =
      (.error ⟨.configRevisionMismatch,
        "recovery plan no longer matches the deployment revision"⟩, scope) := by
  unfold answerBackupRecover
  rw [Program.run_bind_ok (loadExisting_run fault loaded),
    Program.run_bind_error (by rw [Program.run_require, if_neg (not_or.mpr ⟨stale, foreign⟩)])]

end NazoAuthCtl.RecoveryDispatch
