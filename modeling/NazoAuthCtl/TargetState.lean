import NazoAuthCtl.FaultProgram

/-!
# The target's DeploymentState and its store

`state.json` of one deployment and the store operations that change it. Each
operation loads the document, replays when the document already names the
operation as its producer, checks the revision it was built for, and persists
one new document atomically. Timestamps and the texts of health records are
left out. A sha256 digest is its value, so that the `sha256:` prefix which
recorded references carry and every comparison strips has no place here.
-/

set_option autoImplicit false
set_option linter.all false

namespace NazoAuthCtl.TargetState

open FaultProgram

abbrev Bytes := List UInt8
abbrev Digest := ℕ
abbrev OperationId := ℕ
abbrev DeploymentId := String
/-- A path by its components. -/
abbrev Path := List String

/-- `validate_identifier`. -/
def isIdentifier (maxChars : ℕ) (value : String) : Bool :=
  value ≠ "" && value.utf8ByteSize ≤ maxChars
    && value.toList.all (fun c => c.isAlphanum || ".:_+-".toList.contains c)
    && !(value.toList.head? = some '-') && value ≠ "." && value ≠ ".."

/-- A schema token that has passed `validate_identifier(_, 64, "config schema")`,
as staged configurations and loaded states have. -/
abbrev ConfigSchema := {value : String // isIdentifier 64 value}

theorem isIdentifier_v1 : isIdentifier 64 "v1" := by decide

/-- A release version that has passed `ReleaseVersion::validate`. -/
abbrev ReleaseVersion := {version : String // isIdentifier 64 version}

inductive RuntimeBackendKind where
  | podman
  | docker
  | host
  deriving DecidableEq, Repr

def RuntimeBackendKind.isContainer : RuntimeBackendKind → Bool
  | .podman | .docker => true
  | .host => false

inductive FailureCode where
  | activationFailed
  | artifactUnverified
  | backupUpdatePreconditionFailed
  | configInvalid
  | configRevisionMismatch
  | controlExecutionUnavailable
  | controlOutcomeUnknown
  | controlTargetDrift
  | controllerKeyUnauthorized
  | deploymentUnknown
  | healthProbeFailed
  | hostErrOperationInvalid
  | inputInvalid
  | objectIdentityMismatch
  | operationIdConflict
  | outcomeUnknown
  | privilegeRequired
  | recoveryFailed
  | restoreTestFailed
  | rollbackArtifactMissing
  | rollbackRecoveryRequired
  | rollbackUnavailable
  | signingKeyMigrationRequired
  | targetIdentityMismatch
  | targetJournalCapacity
  deriving DecidableEq, Repr

structure Failure where
  code : FailureCode
  detail : String
  deriving DecidableEq, Repr

structure RuntimeSurface where
  kind : RuntimeBackendKind
  object : String
  loopbackPort : ℕ
  deriving DecidableEq, Repr

structure ArtifactRefs where
  current : Option Digest
  previous : Option Digest
  deriving DecidableEq, Repr

structure ConfigState where
  reference : Path
  schema : ConfigSchema
  revision : ℕ
  deriving DecidableEq, Repr

inductive ResourceOwnership where
  | managed
  | external
  deriving DecidableEq, Repr

inductive ResourceScope where
  | deployment
  | shared
  deriving DecidableEq, Repr

structure Resource where
  resourceId : String
  kind : String
  locator : Path
  ownership : ResourceOwnership
  scope : ResourceScope
  deriving DecidableEq, Repr

structure AppliedMigration where
  operationId : OperationId
  targetArtifact : Digest
  deriving DecidableEq, Repr

structure DeploymentState where
  deploymentId : DeploymentId
  issuer : String
  runtime : RuntimeSurface
  artifact : ArtifactRefs
  config : ConfigState
  resources : List Resource
  healthy : Bool
  appliedMigration : Option AppliedMigration
  activeHostOperation : Option OperationId
  currentRelease : Option ReleaseVersion
  previousRelease : Option ReleaseVersion
  previousConfigSnapshot : Option OperationId
  deriving DecidableEq, Repr

/-- `ConfigState::advance`. -/
def ConfigState.advance (config : ConfigState) (reference : Path)
    (schema : ConfigSchema) : ConfigState :=
  { reference, schema, revision := config.revision + 1 }

/-- The directory resource registered under a name. -/
def DeploymentState.directory (state : DeploymentState) (name : String) : Option Path :=
  (state.resources.find? fun r => r.resourceId = name ∧ r.kind = "directory").map (·.locator)

/-- The producing operation recorded in the document is this one. -/
def DeploymentState.producedBy (state : DeploymentState) (operation : OperationId) : Prop :=
  state.activeHostOperation = some operation

instance (state : DeploymentState) (operation : OperationId) :
    Decidable (state.producedBy operation) :=
  inferInstanceAs (Decidable (state.activeHostOperation = some operation))

structure UpdateCommit where
  configSnapshot : Option OperationId
  artifact : Digest
  release : Option ReleaseVersion
  config : Option (Path × ConfigSchema)
  operationId : OperationId
  deriving DecidableEq, Repr

def revisionMismatch (expected : ℕ) (state : DeploymentState) : Failure :=
  ⟨.configRevisionMismatch,
    s!"expected config revision {expected} but target holds revision {state.config.revision}"⟩

/-- `TargetStateStore::apply_config` on the loaded document. -/
def applyConfig (state : DeploymentState) (expectedRevision : ℕ) (reference : Path)
    (schema : ConfigSchema) (operation : OperationId) : Except Failure DeploymentState :=
  if state.producedBy operation then .ok state
  else if state.config.revision ≠ expectedRevision then
    .error (revisionMismatch expectedRevision state)
  else
    .ok { state with
      config := state.config.advance reference schema
      activeHostOperation := some operation }

/-- `TargetStateStore::record_migration_applied` on the loaded document. -/
def recordMigrationApplied (state : DeploymentState) (expectedRevision : ℕ)
    (operation : OperationId) (targetArtifact : Digest) : Except Failure DeploymentState :=
  if state.config.revision ≠ expectedRevision then
    .error (revisionMismatch expectedRevision state)
  else match state.appliedMigration with
    | some existing =>
      if existing.operationId = operation ∧ existing.targetArtifact = targetArtifact then
        .ok state
      else .error ⟨.rollbackRecoveryRequired,
        "a different applied migration already fences this deployment; keep the writer stopped " ++
          "and run verified backup recover"⟩
    | none => .ok { state with appliedMigration := some ⟨operation, targetArtifact⟩ }

/-- No generation to roll back to. -/
def DeploymentState.dropLineage (state : DeploymentState) : DeploymentState :=
  { state with
    artifact := { state.artifact with previous := none }
    previousRelease := none
    previousConfigSnapshot := none }

/-- The current generation becomes the one to roll back to. -/
def DeploymentState.keepLineage (state : DeploymentState) (snapshot : Option OperationId) :
    DeploymentState :=
  { state with
    artifact := { state.artifact with previous := state.artifact.current }
    previousRelease := state.currentRelease
    previousConfigSnapshot := snapshot }

def DeploymentState.withCurrent (state : DeploymentState) (artifact : Digest) : DeploymentState :=
  { state with artifact := { state.artifact with current := some artifact } }

/-- The lineage half of `apply_update_healthy_from_live`: which generation the
committed one can be rolled back to. -/
def advanceLineage (state : DeploymentState) (commit : UpdateCommit)
    (recordedCurrentWasLive : Bool) : DeploymentState :=
  let unfenced := if state.appliedMigration.isSome then state.dropLineage else state
  if unfenced.artifact.current ≠ some commit.artifact ∨ commit.config.isSome then
    (if recordedCurrentWasLive ∧ state.appliedMigration = none
      then unfenced.keepLineage commit.configSnapshot
      else unfenced.dropLineage).withCurrent commit.artifact
  else unfenced

/-- `TargetStateStore::apply_update_healthy_from_live` on the loaded document. -/
def applyUpdateHealthyFromLive (state : DeploymentState) (expectedRevision : ℕ)
    (commit : UpdateCommit) (recordedCurrentWasLive : Bool) : Except Failure DeploymentState :=
  if state.producedBy commit.operationId then .ok state
  else if state.config.revision ≠ expectedRevision then
    .error (revisionMismatch expectedRevision state)
  else if ∃ migration ∈ state.appliedMigration,
      migration.operationId ≠ commit.operationId ∨ migration.targetArtifact ≠ commit.artifact then
    .error ⟨.rollbackRecoveryRequired,
      "the update does not match the recorded migration; resume that operation or recover a " ++
        "verified backup"⟩
  else
    let lineage := advanceLineage state commit recordedCurrentWasLive
    .ok { lineage with
      currentRelease := commit.release
      appliedMigration := none
      config := match commit.config with
        | some (reference, schema) => state.config.advance reference schema
        | none => state.config
      activeHostOperation := some commit.operationId
      healthy := true }

/-- `TargetStateStore::apply_rollback_healthy` on the loaded document. -/
def applyRollbackHealthy (state : DeploymentState) (expectedRevision : ℕ)
    (config : Option (Path × ConfigSchema)) (operation : OperationId) :
    Except Failure DeploymentState :=
  if state.producedBy operation then .ok state
  else if state.config.revision ≠ expectedRevision then
    .error (revisionMismatch expectedRevision state)
  else if state.appliedMigration.isSome then
    .error ⟨.rollbackRecoveryRequired,
      "an applied migration forbids artifact/config rollback; keep the writer stopped and recover " ++
        "a verified backup"⟩
  else match state.artifact.previous with
    | none => .error ⟨.rollbackUnavailable,
        "no previous verified artifact reference is saved; rollback restores saved facts only and " ++
          "never guesses"⟩
    | some previous =>
      .ok { state with
        artifact := { current := some previous, previous := state.artifact.current }
        currentRelease := state.previousRelease
        previousRelease := state.currentRelease
        previousConfigSnapshot := config.map fun _ => operation
        config := match config with
          | some (reference, schema) => state.config.advance reference schema
          | none => state.config
        activeHostOperation := some operation
        healthy := true }

theorem recordMigrationApplied_ok {state state' : DeploymentState} {expectedRevision : ℕ}
    {operation : OperationId} {targetArtifact : Digest}
    (h : recordMigrationApplied state expectedRevision operation targetArtifact = .ok state') :
    state' = { state with appliedMigration := some ⟨operation, targetArtifact⟩ } ∧
      state.config.revision = expectedRevision ∧
      (∀ fence ∈ state.appliedMigration, fence = ⟨operation, targetArtifact⟩) := by
  unfold recordMigrationApplied at h
  split at h
  · cases h
  rename_i revision
  cases hfence : state.appliedMigration with
  | none =>
    rw [hfence] at h
    cases h
    exact ⟨rfl, not_not.mp revision, by simp⟩
  | some fence =>
    rw [hfence] at h
    simp only at h
    split at h
    · rename_i same
      have fence_eq : fence = ⟨operation, targetArtifact⟩ := by
        cases fence
        simp_all
      cases h
      refine ⟨?_, not_not.mp revision, by simp [fence_eq]⟩
      rw [← fence_eq, ← hfence]
    · cases h

/-- What a first commit of an update makes of the document. -/
structure UpdateCommitted (state : DeploymentState) (expectedRevision : ℕ)
    (commit : UpdateCommit) (state' : DeploymentState) : Prop where
  deploymentId : state'.deploymentId = state.deploymentId
  issuer : state'.issuer = state.issuer
  runtime : state'.runtime = state.runtime
  resources : state'.resources = state.resources
  revision : state.config.revision = expectedRevision
  config : state'.config = match commit.config with
    | some (reference, schema) => state.config.advance reference schema
    | none => state.config
  current : state'.artifact.current = some commit.artifact
  release : state'.currentRelease = commit.release
  unfenced : state'.appliedMigration = none
  produced : state'.activeHostOperation = some commit.operationId
  fence : ∀ fence ∈ state.appliedMigration, fence = ⟨commit.operationId, commit.artifact⟩

theorem advanceLineage_rest (state : DeploymentState) (commit : UpdateCommit)
    (wasLive : Bool) :
    (advanceLineage state commit wasLive).deploymentId = state.deploymentId ∧
      (advanceLineage state commit wasLive).issuer = state.issuer ∧
      (advanceLineage state commit wasLive).runtime = state.runtime ∧
      (advanceLineage state commit wasLive).resources = state.resources ∧
      (advanceLineage state commit wasLive).artifact.current = some commit.artifact := by
  simp only [advanceLineage]
  split_ifs
  all_goals
    simp_all [DeploymentState.dropLineage, DeploymentState.keepLineage,
      DeploymentState.withCurrent]

theorem applyUpdateHealthyFromLive_ok {state state' : DeploymentState} {expectedRevision : ℕ}
    {commit : UpdateCommit} {wasLive : Bool}
    (h : applyUpdateHealthyFromLive state expectedRevision commit wasLive = .ok state') :
    (state.producedBy commit.operationId ∧ state' = state) ∨
      (¬state.producedBy commit.operationId ∧
        UpdateCommitted state expectedRevision commit state') := by
  unfold applyUpdateHealthyFromLive at h
  split at h
  · cases h
    exact .inl ⟨‹_›, rfl⟩
  rename_i fresh
  split at h
  · cases h
  rename_i revision
  split at h
  · cases h
  rename_i fence
  obtain ⟨deploymentId, issuer, runtime, resources, current⟩ :=
    advanceLineage_rest state commit wasLive
  cases h
  refine .inr ⟨fresh, deploymentId, issuer, runtime, resources, not_not.mp revision, rfl, current,
    rfl, rfl, rfl, fun found hfound => ?_⟩
  by_contra other
  refine fence ⟨found, hfound, ?_⟩
  by_contra same
  push Not at same
  exact other (by cases found; simp_all)

end NazoAuthCtl.TargetState
