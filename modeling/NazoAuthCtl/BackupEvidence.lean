import NazoAuthCtl.SnapshotImport

/-!
# The evidence of a backup

Three operations write what a deployment shows of its backups: a snapshot, a restore test and
the record of a copy on another host. The latest manifest and its two receipts are files of
their own, beside the immutable documents that each operation keeps.
-/

set_option autoImplicit false
set_option linter.all false

namespace NazoAuthCtl.BackupEvidence

open Checks StateDocument FaultProgram SnapshotManifests
open SnapshotImport (OffHostCopyReceipt offHostCopyReceiptSchema sanitize backupFailure)

inductive RestoreTestEnvironment where
  | sameHostIsolated
  deriving DecidableEq, Repr

structure RestoreTestReceipt where
  schema : UInt32
  deploymentId : String
  snapshotId : String
  manifestSha256 : String
  restoredAt : Timestamp
  isolatedDatabase : String
  candidateRuntimeObject : String
  runtimeInstanceKeyId : String
  databaseSentinelSha256 : String
  environment : RestoreTestEnvironment
  deriving DecidableEq, Repr

def restoreTestReceiptSchema : UInt32 := 2

/-- `OffHostCopyReceipt::validate_against`. -/
def validateOffHost (receipt : OffHostCopyReceipt) (manifest : SnapshotManifest) :
    Except String Unit := do
  check (receipt.schema = offHostCopyReceiptSchema ∧
      receipt.deploymentId = manifest.deploymentId ∧ receipt.snapshotId = manifest.snapshotId ∧
      receipt.manifestSha256 = manifest.manifestSha256)
    "off-host receipt does not bind the current snapshot manifest"
  validateIdentifier receipt.sourceHostId 128 "source host id"
  validateIdentifier receipt.destinationHostId 128 "destination host id"
  check (receipt.sourceHostId ≠ receipt.destinationHostId)
    "off-host receipt names the source host as its destination"

def RestoreTestReceipt.validateAgainst (receipt : RestoreTestReceipt)
    (manifest : SnapshotManifest) : Except String Unit := do
  check (receipt.schema = restoreTestReceiptSchema)
    s!"unsupported restore-test receipt schema {receipt.schema}"
  check (receipt.deploymentId = manifest.deploymentId ∧
      receipt.snapshotId = manifest.snapshotId ∧
      receipt.manifestSha256 = manifest.manifestSha256)
    "restore-test receipt does not bind the current snapshot manifest"
  validateIdentifier receipt.isolatedDatabase 128 "isolated restore database"
  validateIdentifier receipt.candidateRuntimeObject 256 "restore-test runtime object"
  check (receipt.runtimeInstanceKeyId = manifest.runtimeInstanceKeyId ∧
      receipt.databaseSentinelSha256 = manifest.databaseSentinelSha256)
    "restore-test receipt does not bind restored identity and database facts"

/-! ## The store -/

/-- A snapshot directory. -/
structure Published where
  files : Directory
  manifest : Option SnapshotManifest
  offHostCopy : Option OffHostCopyReceipt

/-- What the operation of a restore test keeps. -/
structure RestoreTest where
  manifest : Option SnapshotManifest
  receipt : Option RestoreTestReceipt
  deriving DecidableEq, Repr

structure EvidenceStore where
  /-- `backup/snapshots`, in the order of publication. -/
  snapshots : List (String × Published)
  /-- `backup/snapshot-manifest.json`. -/
  manifest : Option SnapshotManifest
  /-- `backup/restore-test-receipt.json`. -/
  restoreReceipt : Option RestoreTestReceipt
  /-- `backup/off-host-copy-receipt.json`. -/
  offHostReceipt : Option OffHostCopyReceipt
  /-- `backup/restore-tests`, by operation. -/
  restoreTests : String → RestoreTest

def EvidenceStore.published (s : EvidenceStore) (snapshotId : String) : Option Published :=
  (s.snapshots.find? fun entry => entry.1 = snapshotId).map Prod.snd

inductive EvidenceEffect where
  | loadManifest
  | verifySnapshot
  | ensureRoot
  | removePartial
  | createPartial
  | createSnapshot
  | writeImmutable
  | publish
  | syncParent
  | writeManifest
  | removeRestoreReceipt
  | removeOffHostReceipt
  | loadPinned
  | writePinned
  | loadReceipt
  | inspectCandidate
  | removeCandidate
  | removeWork
  | createWork
  | rehearse
  | dropWork
  | dropFailure
  | writeOwnReceipt
  | loadLatest
  | writeLatestReceipt
  deriving DecidableEq, Repr

/-- What a snapshot observes of its deployment and writes to its staging directory. -/
structure Captured where
  runtimeArtifact : ArtifactReference
  release : ReleaseVersion
  configSchema : String
  dump : Bytes
  archive : Bytes
  archiveFiles : List SnapshotFile
  databaseSentinelSha256 : String
  runtimeInstanceKeyId : String
  oidcSigningKeyIds : List String

/-- One call of an operation. -/
structure Attempt where
  faults : EvidenceEffect → Fault String
  stateValid : Except String Unit
  isContainer : Bool
  captured : Captured
  /-- What `run_restore_rehearsal` answers for a snapshot. -/
  rehearsal : SnapshotManifest → Except String Unit
  now : Timestamp

abbrev Evidencing := Program Attempt EvidenceStore Failure

structure EvidencePlatform extends BackupPlatform where
  /-- `Uuid::parse_str`, and the text of the result. -/
  parseUuid : String → Except String String

def restoreFailure (error : String) : Failure := ⟨"RESTORE_TEST_FAILED", sanitize error⟩

variable {α : Type}

def backing (label : EvidenceEffect) (body : Evidencing α) : Evidencing α :=
  Program.effect (fun attempt => attempt.faults label) backupFailure body

def restoring (label : EvidenceEffect) (body : Evidencing α) : Evidencing α :=
  Program.effect (fun attempt => attempt.faults label) restoreFailure body

section platform

variable (platform : EvidencePlatform) (deploymentId : String)

/-- `load_manifest_at` of a document that the store has written. -/
def loadManifest : Option SnapshotManifest → Except String (Option SnapshotManifest)
  | none => .ok none
  | some manifest => match manifest.validate platform.toBackupPlatform with
    | .ok () => .ok (some manifest)
    | .error _ => .error "failed to read backup snapshot manifest"

/-! ## Snapshots -/

def maxSnapshotFileBytes : ℕ := 64 * 1024 * 1024 * 1024

def snapshotFile (path : String) (bytes : Bytes) : Except String SnapshotFile := do
  check (bytes.length ≤ maxSnapshotFileBytes) "snapshot artifact is not an allowed regular file"
  .ok ⟨path, bytes.length, platform.sha256 bytes⟩

def stagedFiles (captured : Captured) : Directory := fun name =>
  if name = "postgresql.dump" then some (.file captured.dump)
  else if name = "deployment.tar" then some (.file captured.archive)
  else none

/-- `create_snapshot`, from what it observes. -/
def createSnapshot (captured : Captured) (now : Timestamp) (snapshotId : String) :
    Except String SnapshotManifest := do
  match captured.archiveFiles.find? fun file => file.path = "app-secrets/mfa-totp-key" with
  | none => .error "create_deployment_archive includes every required secret"
  | some mfaKey => do
    let dump ← snapshotFile platform "postgresql.dump" captured.dump
    let archive ← snapshotFile platform "deployment.tar" captured.archive
    let manifest : SnapshotManifest := {
      schema := backupManifestSchema
      rollbackPolicy := none
      deploymentId := deploymentId
      snapshotId := snapshotId
      createdAt := now
      runtimeArtifact := captured.runtimeArtifact
      release := captured.release
      configSchema := captured.configSchema
      files := [dump, archive]
      archiveFiles := captured.archiveFiles
      databaseSentinelSha256 := captured.databaseSentinelSha256
      mfaKeySha256 := mfaKey.sha256
      runtimeInstanceKeyId := captured.runtimeInstanceKeyId
      oidcSigningKeyIds := captured.oidcSigningKeyIds
      manifestSha256 := "" }
    manifest.validateContents platform.toBackupPlatform
    .ok { manifest with manifestSha256 := platform.computedSha256 manifest }

def removeReceiptIfPresent : Evidencing Unit := do
  backing .removeRestoreReceipt (Program.modify fun s => { s with restoreReceipt := none })
  backing .removeOffHostReceipt (Program.modify fun s => { s with offHostReceipt := none })

/-- The end of both branches of a snapshot. -/
def showSnapshot (manifest : SnapshotManifest) : Evidencing SnapshotManifest := do
  backing .writeManifest (Program.modify fun s => { s with manifest := some manifest })
  removeReceiptIfPresent
  pure manifest

/-- The branch of a snapshot directory that is there. -/
def completedSnapshot (snapshotId : String) (published : Published) :
    Evidencing SnapshotManifest := do
  let existing ← backing .loadManifest (Program.ofExcept
    ((loadManifest platform published.manifest).mapError backupFailure))
  match existing with
  | none => Program.throw ⟨"BACKUP_EXECUTION_FAILED",
      "completed snapshot directory has no immutable manifest"⟩
  | some existing => do
    Program.require (existing.snapshotId = snapshotId ∧ existing.deploymentId = deploymentId)
      ⟨"BACKUP_EXECUTION_FAILED",
        "immutable snapshot manifest does not bind this operation and deployment"⟩
    backing .verifySnapshot (Program.ofExcept
      ((verifySnapshotFiles platform.toBackupPlatform published.files existing).mapError
        backupFailure))
    showSnapshot existing

/-- The branch of a snapshot that is still to be made. -/
def newSnapshot (snapshotId : String) : Evidencing SnapshotManifest := do
  let e ← Program.environment
  Program.require (e.isContainer = true) ⟨"BACKUP_EXECUTION_FAILED",
    "backup snapshot requires a Docker or Podman deployment; host runtime is not supported"⟩
  backing .ensureRoot (pure ())
  backing .removePartial (pure ())
  backing .createPartial (pure ())
  let manifest ← backing .createSnapshot (Program.ofExcept
    ((createSnapshot platform deploymentId e.captured e.now snapshotId).mapError backupFailure))
  backing .writeImmutable (pure ())
  backing .publish (Program.modify fun s => { s with
    snapshots := s.snapshots ++ [(snapshotId, ⟨stagedFiles e.captured, some manifest, none⟩)] })
  backing .syncParent (pure ())
  showSnapshot manifest

def snapshot (operationId : String) : Evidencing SnapshotManifest := do
  match platform.parseUuid operationId with
  | .error _ => Program.throw ⟨"OPERATION_INVALID",
      "backup operation id must be a UUID for deterministic crash recovery"⟩
  | .ok snapshotId => do
    Program.ofExcept ((← Program.environment).stateValid.mapError backupFailure)
    match (← Program.get).published snapshotId with
    | some published => completedSnapshot platform deploymentId snapshotId published
    | none => newSnapshot platform deploymentId snapshotId

/-! ## Restore tests -/

/-- The receipt becomes the latest one if its manifest still is. -/
def showReceipt (manifest : SnapshotManifest) (receipt : RestoreTestReceipt) :
    Evidencing RestoreTestReceipt := do
  let latest ← restoring .loadLatest (Program.ofExcept
    ((loadManifest platform (← Program.get).manifest).mapError restoreFailure))
  Program.onlyIf (∃ current ∈ latest, current.manifestSha256 = manifest.manifestSha256)
    (restoring .writeLatestReceipt (Program.modify fun s => { s with
      restoreReceipt := some receipt }))
  pure receipt

def simpleUuid (text : String) : String := String.ofList (text.toList.filter (· ≠ '-'))

def candidateName (source id : String) : String :=
  s!"{String.ofList (source.toList.take 180)}-restore-{simpleUuid id}"

def rehearsalReceipt (manifest : SnapshotManifest) (id : String) (now : Timestamp) :
    RestoreTestReceipt where
  schema := restoreTestReceiptSchema
  deploymentId := deploymentId
  snapshotId := manifest.snapshotId
  manifestSha256 := manifest.manifestSha256
  restoredAt := now
  isolatedDatabase := s!"nazo_restore_{simpleUuid id}"
  candidateRuntimeObject := candidateName deploymentId id
  runtimeInstanceKeyId := manifest.runtimeInstanceKeyId
  databaseSentinelSha256 := manifest.databaseSentinelSha256
  environment := .sameHostIsolated

/-- What an interrupted rehearsal has left is removed. -/
def dropRemains : Evidencing Unit := do
  restoring .inspectCandidate (pure ())
  restoring .removeCandidate (pure ())
  restoring .removeWork (pure ())

def rehearse (manifest : SnapshotManifest) (id : String) (resuming : Bool) :
    Evidencing RestoreTestReceipt := do
  let e ← Program.environment
  Program.onlyIf (resuming = true) dropRemains
  restoring .createWork (pure ())
  restoring .rehearse (Program.ofExcept ((e.rehearsal manifest).mapError restoreFailure))
  restoring .dropWork (pure ())
  restoring .dropFailure (pure ())
  let receipt := rehearsalReceipt deploymentId manifest id e.now
  Program.ofExcept ((receipt.validateAgainst manifest).mapError restoreFailure)
  restoring .writeOwnReceipt (Program.modify fun s => { s with
    restoreTests := fun other =>
      if other = id then { s.restoreTests id with receipt := some receipt }
      else s.restoreTests other })
  showReceipt platform manifest receipt

/-- The manifest of the operation, or the latest one. -/
def chosenManifest (pinned : Option SnapshotManifest) : Evidencing SnapshotManifest := do
  match pinned with
  | some manifest => pure manifest
  | none => do
    let latest ← restoring .loadManifest (Program.ofExcept
      ((loadManifest platform (← Program.get).manifest).mapError restoreFailure))
    match latest with
    | some manifest => pure manifest
    | none => Program.throw ⟨"RESTORE_TEST_FAILED", "no snapshot manifest exists"⟩

def restoreTest (operationId : String) : Evidencing RestoreTestReceipt := do
  let e ← Program.environment
  Program.require (e.isContainer = true) ⟨"RESTORE_TEST_FAILED",
    "backup restore-test requires a Docker or Podman deployment; host runtime is not supported"⟩
  let id ← Program.ofExcept ((platform.parseUuid operationId).mapError restoreFailure)
  let pinned ← restoring .loadPinned (Program.ofExcept
    ((loadManifest platform ((← Program.get).restoreTests id).manifest).mapError restoreFailure))
  let manifest ← chosenManifest platform pinned
  Program.require (manifest.deploymentId = deploymentId) ⟨"RESTORE_TEST_FAILED",
    "snapshot manifest is not bound to this deployment"⟩
  Program.ofExcept (e.stateValid.mapError restoreFailure)
  restoring .verifySnapshot (Program.ofExcept ((verifySnapshotFiles platform.toBackupPlatform
    ((((← Program.get).published manifest.snapshotId).map (·.files)).getD fun _ => none)
      manifest).mapError restoreFailure))
  restoring .writePinned (Program.modify fun s => { s with
    restoreTests := fun other =>
      if other = id then { s.restoreTests id with manifest := some manifest }
      else s.restoreTests other })
  restoring .loadReceipt (pure ())
  match ((← Program.get).restoreTests id).receipt with
  | some receipt => do
    Program.ofExcept ((receipt.validateAgainst manifest).mapError restoreFailure)
    showReceipt platform manifest receipt
  | none => rehearse platform deploymentId manifest id pinned.isSome

/-! ## Copies on another host -/

def withCopy (snapshotId : String) (receipt : OffHostCopyReceipt)
    (snapshots : List (String × Published)) : List (String × Published) :=
  snapshots.map fun entry =>
    if entry.1 = snapshotId then (entry.1, { entry.2 with offHostCopy := some receipt }) else entry

def recordOffHostCopy (receipt : OffHostCopyReceipt) : Evidencing Unit := do
  let snapshotId ← Program.ofExcept
    ((platform.parseUuid receipt.snapshotId).mapError backupFailure)
  let manifest ← backing .loadManifest (Program.ofExcept ((loadManifest platform
    (((← Program.get).published snapshotId).bind (·.manifest))).mapError backupFailure))
  match manifest with
  | none => Program.throw ⟨"BACKUP_EXECUTION_FAILED", "no snapshot manifest exists"⟩
  | some manifest => do
    Program.ofExcept ((validateOffHost receipt manifest).mapError backupFailure)
    backing .writeOwnReceipt (Program.modify fun s => { s with
      snapshots := withCopy snapshotId receipt s.snapshots })
    let latest ← backing .loadLatest (Program.ofExcept
      ((loadManifest platform (← Program.get).manifest).mapError backupFailure))
    Program.onlyIf (∃ current ∈ latest, current.snapshotId = manifest.snapshotId ∧
        current.manifestSha256 = manifest.manifestSha256)
      (backing .writeLatestReceipt (Program.modify fun s => { s with
        offHostReceipt := some receipt }))

/-- The answer of the target to `BackupOffHostRecord`. -/
def answerOffHostRecord (localTargetId : String) (receipt : OffHostCopyReceipt) :
    Evidencing Unit := do
  Program.require (receipt.sourceHostId = localTargetId ∧
      receipt.destinationHostId ≠ localTargetId) ⟨"OPERATION_INVALID",
    "off-host receipt identities do not bind this source and a distinct destination"⟩
  recordOffHostCopy platform receipt

/-! ## What is shown -/

structure SnapshotProjection where
  snapshotId : String
  createdAt : Timestamp
  manifestSha256 : String
  restoreTestedAt : Option Timestamp
  offHostVerifiedAt : Option Timestamp
  deriving DecidableEq, Repr

structure BackupProjection where
  localRollbackReady : Bool
  snapshot : Option SnapshotProjection
  deriving DecidableEq, Repr

def currentManifest (s : EvidenceStore) : Except String (Option SnapshotManifest) := do
  let manifest ← loadManifest platform s.manifest
  check (∀ current ∈ manifest, current.deploymentId = deploymentId)
    "backup manifest deployment does not match DeploymentState"
  .ok manifest

def restoreTestedAt (s : EvidenceStore) (manifest : SnapshotManifest) :
    Except String (Option Timestamp) :=
  match s.restoreReceipt with
  | none => .ok none
  | some receipt => do
    receipt.validateAgainst manifest
    .ok (some receipt.restoredAt)

def offHostVerifiedAt (s : EvidenceStore) (manifest : SnapshotManifest) :
    Except String (Option Timestamp) :=
  match s.offHostReceipt with
  | none => .ok none
  | some receipt => do
    validateOffHost receipt manifest
    .ok (some receipt.verifiedAt)

/-- A value, or its diagnostic. -/
def diagnosed (label : String) : Except String (Option α) → Option α × List String
  | .ok value => (value, [])
  | .error error => (none, [sanitize s!"{label}: {error}"])

def inspectBackup (hasPrevious : Bool) (s : EvidenceStore) : BackupProjection × List String :=
  match diagnosed "backup manifest" (currentManifest platform deploymentId s) with
  | (none, diagnostics) => (⟨hasPrevious, none⟩, diagnostics)
  | (some manifest, _) =>
    let (restored, first) := diagnosed "restore-test receipt" (restoreTestedAt s manifest)
    let (verified, second) := diagnosed "off-host receipt" (offHostVerifiedAt s manifest)
    (⟨hasPrevious, some ⟨manifest.snapshotId, manifest.createdAt, manifest.manifestSha256,
      restored, verified⟩⟩, first ++ second)

def backupProjection (hasPrevious : Bool) (s : EvidenceStore) : Except String BackupProjection :=
  let (projection, diagnostics) := inspectBackup platform deploymentId hasPrevious s
  if diagnostics = [] then .ok projection else .error ("; ".intercalate diagnostics)

/-! ## Operations -/

inductive BackupCall where
  | snapshot (operationId : String)
  | restoreTest (operationId : String)
  | offHostRecord (receipt : OffHostCopyReceipt)
  deriving DecidableEq, Repr

/-- The store after a call. -/
def answer (localTargetId : String) (e : Attempt) (s : EvidenceStore) : BackupCall → EvidenceStore
  | .snapshot operationId => (snapshot platform deploymentId operationId e s).2
  | .restoreTest operationId => (restoreTest platform deploymentId operationId e s).2
  | .offHostRecord receipt => (answerOffHostRecord platform localTargetId receipt e s).2

end platform

end NazoAuthCtl.BackupEvidence
