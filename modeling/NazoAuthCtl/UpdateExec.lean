import NazoAuthCtl.TargetWorld

/-!
# Executing an update order

`execute_update` and everything it calls, in the order of the source. The steps
an attempt has performed live in the memory of that attempt; a lost process
loses them, and the next attempt starts from an empty record. `run_update` is
cut into the phases its own comments number: admission reads and verifies,
staging snapshots and writes the config, the migration is dispatched, the
runtime is replaced, and the new runtime is confirmed and committed.
-/

set_option autoImplicit false
set_option linter.all false

namespace NazoAuthCtl.UpdateExec

open FaultProgram TargetState TargetWorld

structure StagedConfig where
  content : Bytes
  sha256 : Digest
  schema : ConfigSchema
  deriving DecidableEq, Repr

structure UpdateJob where
  operationId : OperationId
  deploymentId : DeploymentId
  issuer : String
  runtimeKind : RuntimeBackendKind
  configReference : Path
  port : ℕ
  secretsRoot : Path
  runtimeRoot : Option Path
  configSchema : ConfigSchema
  currentArtifact : Digest
  currentVersion : Option ReleaseVersion
  expectedRevision : ℕ
  appliedMigrationOperationId : Option OperationId
  requestedVersion : Option ReleaseVersion
  config : Option StagedConfig
  migrationJws : Option Bytes
  migrationRequestHash : Option Digest
  deriving DecidableEq, Repr

structure LifecycleFacts where
  revision : ℕ
  release : Option ReleaseVersion
  migrationResult : Option ControlResult
  deriving DecidableEq, Repr

inductive UpdateExecution where
  | noop (revision : ℕ)
  | activated (facts : LifecycleFacts)
  | migrationFailed (result : ControlResult)
  | recoveryRequired (result : ControlResult) (detail : String)
  deriving DecidableEq, Repr

structure PerformedSteps where
  snapshottedConfig : Bool := false
  wroteConfig : Bool := false
  replacedRuntime : Bool := false
  configBeforeRollback : Option Bytes := none
  migrationApplied : Bool := false
  migrationOutcomeUnknown : Bool := false
  migrationResult : Option ControlResult := none
  runtimeBeforeChange : Option RuntimeReplacement := none
  runtimeBeforeChangeWasRunning : Bool := false
  deriving DecidableEq, Repr

/-- One attempt in progress: the durable world and the attempt's own memory. -/
structure Running where
  world : World
  performed : PerformedSteps

abbrev Run := Program Attempt Running Failure

variable {α : Type}

def onWorld (p : Exec α) : Run α :=
  Program.zoom Running.world (fun w run => { run with world := w }) p

def note (f : PerformedSteps → PerformedSteps) : Run Unit :=
  Program.modify fun run => { run with performed := f run.performed }

theorem run_onWorld {e : Attempt} {run : Running} (p : Exec α) :
    onWorld p e run = ((p e run.world).1, { run with world := (p e run.world).2 }) := rfl

theorem run_note {e : Attempt} {run : Running} (f : PerformedSteps → PerformedSteps) :
    note f e run = (.ok (), { run with performed := f run.performed }) := rfl

@[simp] theorem ensures_onWorld {e : Attempt} {run : Running} (p : Exec α)
    (Q : Outcome Failure α → Running → Prop) :
    Program.Ensures (onWorld p) e Q run ↔
      Program.Ensures p e (fun o w => Q o { run with world := w }) run.world :=
  Iff.rfl

@[simp] theorem ensures_note {e : Attempt} {run : Running} (f : PerformedSteps → PerformedSteps)
    (Q : Outcome Failure Unit → Running → Prop) :
    Program.Ensures (note f) e Q run ↔
      Q (.ok ()) { run with performed := f run.performed } :=
  Iff.rfl

/-! ## Admission -/

def privilegeGate : Exec Unit :=
  perform .privilegeGate .privilegeRequired (pure ())

/-- `require_observation_owned`. -/
def requireObservationOwned (observation : RuntimeObservation) (kind : RuntimeBackendKind)
    (deploymentId : DeploymentId) : Except Failure Unit :=
  if observation.serverCommandVerified = false then
    .error ⟨.objectIdentityMismatch, "the runtime object is not a verified NazoAuth server"⟩
  else if observation.safeEnvironment.lookup "DEPLOYMENT_ID" ≠ some deploymentId then
    .error ⟨.objectIdentityMismatch,
      "the runtime object deployment environment does not match this deployment"⟩
  else if kind.isContainer ∧ observation.labels.lookup ownershipLabel ≠ some deploymentId then
    .error ⟨.objectIdentityMismatch,
      "the runtime object ownership label does not match this deployment"⟩
  else .ok ()

/-- `require_host_artifact_continuity`: whether the live artifact is the recorded one. -/
def requireHostArtifactContinuity (kind : RuntimeBackendKind) (live recorded : Digest) :
    Except Failure Bool :=
  if kind = .host ∧ live ≠ recorded then
    .error ⟨.objectIdentityMismatch,
      "the systemd runtime artifact differs from deployment state; refusing an update because the " ++
        "live executable is not a recoverable rollback source"⟩
  else .ok (live = recorded)

/-- `version_floor_for_update`. -/
def versionFloorForUpdate (requested current : Option ReleaseVersion) : Option ReleaseVersion :=
  if requested.isNone then current else none

structure VerifiedArtifactFacts where
  digest : Digest
  runtimeArtifact : ArtifactReference
  release : ReleaseVersion
  deriving DecidableEq, Repr

/-- The Release a request resolves to, unless it lies below the floor. -/
def verifiedRelease (platform : Platform) (requested floor : Option ReleaseVersion) :
    Except Failure VerifiedRelease :=
  match platform.published requested with
  | none => .error ⟨.artifactUnverified, "the selected Release did not verify"⟩
  | some release =>
    if ∃ trusted ∈ floor, platform.precedence release.version trusted = .lt then
      .error ⟨.artifactUnverified, "Release anti-downgrade policy rejected the selected Release"⟩
    else .ok release

def artifactPath (runtimeRoot : Path) (digest : Digest) : Path :=
  runtimeRoot ++ ["artifacts", toString digest, "nazoauth"]

/-- What the verified Release runs as on this backend. -/
def artifactFacts (kind : RuntimeBackendKind) (runtimeRoot : Option Path)
    (release : VerifiedRelease) : Except Failure VerifiedArtifactFacts :=
  if kind = .host then
    match runtimeRoot with
    | none => .error ⟨.hostErrOperationInvalid,
        "systemd deployment state has no app-binary directory resource"⟩
    | some root => .ok {
        digest := release.binarySha256
        runtimeArtifact := .hostBinary (artifactPath root release.binarySha256)
          release.binarySha256
        release := release.version }
  else
    match release.ociDigest with
    | none => .error ⟨.artifactUnverified, "the Release has no image for this platform"⟩
    | some digest => .ok {
        digest
        runtimeArtifact := .oci release.ociRepository digest
        release := release.version }

/-- Keep the verified bytes locally: the binary cache or the engine's image store. -/
def keepArtifact (artifact : ArtifactReference) (w : World) : World :=
  match artifact with
  | .oci repository digest => { w with images := (repository, digest) :: w.images }
  | .hostBinary _ digest => { w with hostArtifacts := digest :: w.hostArtifacts }
  | .unknown => w

/-- `verify_pinned_artifact_facts`. -/
def verifyPinnedArtifactFacts (kind : RuntimeBackendKind)
    (requested floor : Option ReleaseVersion) (runtimeRoot : Option Path) :
    Exec VerifiedArtifactFacts := do
  let facts ← perform .verifyRelease .artifactUnverified do
    let attempt ← Program.environment
    let release ← Program.ofExcept (verifiedRelease attempt.platform requested floor)
    Program.ofExcept (artifactFacts kind runtimeRoot release)
  let refused := if kind = .host then .hostErrOperationInvalid else .artifactUnverified
  perform .fetchArtifact refused (Program.modify (keepArtifact facts.runtimeArtifact))
  pure facts

/-- `update_is_noop`. -/
def updateIsNoop (live recorded selected : Digest) (hasStagedConfig : Bool) : Bool :=
  !hasStagedConfig && live = selected && live = recorded

/-- `runtime_replacement_required`. -/
def runtimeReplacementRequired (current selected : Digest) (hasStagedConfig : Bool) : Bool :=
  hasStagedConfig || current ≠ selected

def containerSecretsDir : Path := ["run", "secrets"]

def signingKeyRefusal : Failure :=
  ⟨.signingKeyMigrationRequired,
    "provision a valid deployment signing-key root and configure its runtime access before " ++
      "updating; no runtime or database change was made"⟩

/-- One configured key file: its path, its bytes and, in a container, its mount. -/
def signingKeyFileUsable (platform : Platform) (secretsRoot : Path) (secrets : Option Tree)
    (kind : RuntimeBackendKind) (mounts : List NeutralMount) (name : String) (file : Path) : Bool :=
  let root := secretsRoot ++ [name]
  let runtimePath := if kind.isContainer then containerSecretsDir ++ [name] else root
  file = runtimePath
    && ((secrets.bind (·.lookup [name])).any platform.validSigningKey)
    && (!kind.isContainer
      || mounts.any fun mount => mount.source = root && mount.destination = runtimePath)

/-- `require_shared_signing_key_root`. -/
def requireSharedSigningKeyRoot (platform : Platform) (secretsRoot : Path)
    (secrets : Option Tree) (config : Bytes) (kind : RuntimeBackendKind)
    (mounts : List NeutralMount) : Except Failure Unit :=
  match platform.signingKeyConfig config with
  | none => .error signingKeyRefusal
  | some configured =>
    if signingKeyFileUsable platform secretsRoot secrets kind mounts
        "signing-key-encryption-key" configured.file
      ∧ ∀ file ∈ configured.previousFile,
        signingKeyFileUsable platform secretsRoot secrets kind mounts
          "signing-key-previous-encryption-key" file then .ok ()
    else .error signingKeyRefusal

/-- What admission has established, before the first durable change. -/
structure UpdatePlan where
  observation : RuntimeObservation
  verified : VerifiedArtifactFacts
  recordedCurrentWasLive : Bool
  currentConfig : Option Bytes
  replacement : Option RuntimeReplacement
  before : Option RuntimeReplacement
  deriving DecidableEq, Repr

/-- The live object's facts: it is ours and bound to a digest. -/
def admitObservation (job : UpdateJob) (observation : RuntimeObservation) :
    Except Failure (Digest × Bool) := do
  requireObservationOwned observation job.runtimeKind job.deploymentId
  match observation.digest with
  | none => .error ⟨.objectIdentityMismatch,
      "the owned runtime object does not report a digest-bound artifact"⟩
  | some live =>
    let wasLive ← requireHostArtifactContinuity job.runtimeKind live job.currentArtifact
    .ok (live, wasLive)

/-- The config the new runtime will read, and the bytes on disk when none is staged. -/
def readUpdateConfig (job : UpdateJob) : Exec (Bytes × Option Bytes) :=
  match job.config with
  | some staged => pure (staged.content, none)
  | none => perform .readConfig .configInvalid do
      let attempt ← Program.environment
      match (← Program.get).config with
      | none => Program.throw ⟨.configInvalid, "deployment configuration is missing"⟩
      | some bytes =>
        Program.require (attempt.platform.isUtf8 bytes)
          ⟨.configInvalid, "deployment configuration must be UTF-8"⟩
        pure (bytes, some bytes)

/-- The executable replacement, when one is needed, and the exact container to
go back to. -/
def planReplacement (job : UpdateJob) (observation : RuntimeObservation) (live : Digest)
    (verified : VerifiedArtifactFacts) :
    Except Failure (Option RuntimeReplacement × Option RuntimeReplacement) :=
  if runtimeReplacementRequired live verified.digest job.config.isSome then do
    let replacement ← replacementFromObservation observation verified.runtimeArtifact
    if job.runtimeKind.isContainer then
      let before ← exactReplacementFromObservation observation
      .ok (some replacement, some before)
    else .ok (some replacement, none)
  else .ok (none, none)

/-- Steps 0 and 1 of `run_update`. None is the no-op answer. -/
def admitUpdate (job : UpdateJob) : Exec (Option UpdatePlan) := do
  privilegeGate
  let attempt ← Program.environment
  Program.require (∀ staged ∈ job.config, attempt.platform.sha256 staged.content = staged.sha256)
    ⟨.configInvalid, "staged config content does not match its declared digest"⟩
  let observation ← inspect job.runtimeKind .change
  let (live, recordedCurrentWasLive) ← Program.ofExcept (admitObservation job observation)
  let verified ← verifyPinnedArtifactFacts job.runtimeKind job.requestedVersion
    (versionFloorForUpdate job.requestedVersion job.currentVersion) job.runtimeRoot
  if job.appliedMigrationOperationId.isNone
      ∧ updateIsNoop live job.currentArtifact verified.digest job.config.isSome then
    pure none
  else
    let (config, currentConfig) ← readUpdateConfig job
    perform .readSigningKey .signingKeyMigrationRequired do
      let w ← Program.get
      Program.ofExcept (requireSharedSigningKeyRoot attempt.platform job.secretsRoot w.secrets
        config job.runtimeKind observation.mounts)
    let (replacement, before) ← Program.ofExcept (planReplacement job observation live verified)
    pure (some { observation, verified, recordedCurrentWasLive, currentConfig, replacement, before })

/-! ## Staging the config -/

def snapshotMetaSchema : ℕ := 2

/-- A snapshot this operation has already completed, as a resumed attempt checks it. -/
def resumedSnapshotMatches (platform : Platform) (snapshot : ConfigSnapshot)
    (record : ConfigSnapshotMeta) (currentSchema : ConfigSchema)
    (replacingSchema : Option ConfigSchema) : Bool :=
  snapshot.bytes.any fun saved => platform.sha256 saved = record.contentSha256
    && record.configSchema = currentSchema && record.replacedBySchema = replacingSchema

def setSnapshot (w : World) (operation : OperationId) (snapshot : ConfigSnapshot) : World :=
  { w with configSnapshots := Function.update w.configSnapshots operation snapshot }

/-- `snapshot_config`: the bytes file, then the metadata that completes it. -/
def snapshotConfig (operation : OperationId) (currentSchema : ConfigSchema)
    (replacingSchema : Option ConfigSchema) (currentConfig : Option Bytes) : Exec Unit := do
  let attempt ← Program.environment
  let snapshot ← perform (.readSnapshot .change) .hostErrOperationInvalid
    (do pure ((← Program.get).configSnapshots operation))
  match snapshot.record with
  | some record =>
    Program.require (record.schema = snapshotMetaSchema)
      ⟨.hostErrOperationInvalid,
        "obsolete config snapshot requires explicit cleanup before update"⟩
    Program.require (record.operationId = operation)
      ⟨.hostErrOperationInvalid, "configuration snapshot belongs to another operation"⟩
    Program.require
      (resumedSnapshotMatches attempt.platform snapshot record currentSchema replacingSchema)
      ⟨.hostErrOperationInvalid,
        "resumed update config snapshot does not match its operation"⟩
  | none =>
    let bytes ← perform .snapshotBytes .hostErrOperationInvalid do
      match currentConfig.or (← Program.get).config with
      | none => Program.throw ⟨.hostErrOperationInvalid, "deployment configuration is missing"⟩
      | some bytes =>
        Program.modify fun w =>
          setSnapshot w operation { w.configSnapshots operation with bytes := some bytes }
        pure bytes
    perform .snapshotMeta .hostErrOperationInvalid
      (Program.modify fun w => setSnapshot w operation
        { w.configSnapshots operation with
          record := some {
            schema := snapshotMetaSchema
            operationId := operation
            contentSha256 := attempt.platform.sha256 bytes
            configSchema := currentSchema
            replacedBySchema := replacingSchema } })

def writeConfig (site : Site) (content : Bytes) : Exec Unit :=
  perform (.writeConfig site) .configInvalid
    (Program.modify fun w => { w with config := some content })

/-- `grant_runtime_config_read`: ownership and mode only. -/
def grantRuntimeConfigRead (site : Site) : Exec Unit :=
  perform (.grantConfigRead site) .configInvalid (pure ())

/-- Step 2 of `run_update`: an existing config is saved under this operation. -/
def saveCurrentConfig (job : UpdateJob) (plan : UpdatePlan) : Run Unit := do
  let run ← Program.get
  Program.onlyIf run.world.config.isSome do
    onWorld (snapshotConfig job.operationId job.configSchema (job.config.map (·.schema))
      plan.currentConfig)
    note fun performed => { performed with snapshottedConfig := true }

/-- Step 3 of `run_update`. -/
def writeStagedConfig (job : UpdateJob) : Run Unit :=
  match job.config with
  | none => pure ()
  | some staged => do
    onWorld (writeConfig .change staged.content)
    note fun performed => { performed with wroteConfig := true }
    onWorld (grantRuntimeConfigRead .change)

def stageConfig (job : UpdateJob) (plan : UpdatePlan) : Run Unit := do
  saveCurrentConfig job plan
  writeStagedConfig job

/-! ## The application migration -/

/-- `runtime_database_role` and `lifecycle_database_url` on the secrets directory. -/
def databaseUrlsUsable (platform : Platform) (secrets : Option Tree) : Bool :=
  (((secrets.bind (·.lookup ["database-runtime-url"])).bind platform.parseUrl).any fun url =>
    url.username ≠ "" && url.username.utf8ByteSize ≤ 63
      && url.username.toList.all (fun c => c.isAlphanum || c = '_' || c = '-'))
  && (((secrets.bind (·.lookup ["database-lifecycle-url"])).bind platform.parseUrl).any fun url =>
    (url.scheme = "postgres" || url.scheme = "postgresql") && url.username ≠ "")

inductive OneShotAnswer where
  | error (rejection : Option FailureCode) (detail : String)
  | noFrame
  | manyFrames
  | unparsable (detail : String)
  | frame (result : ControlResult)
  deriving DecidableEq, Repr

/-- The server's side of one operator task: an operation that is not rejected is
accepted, and its first terminal result is what every later task reads back. -/
def serveOneShot (operation : OperationId) (event : OneShotEvent) (w : World) :
    OneShotAnswer × World :=
  let recorded := (w.accepted operation).or event.decides
  let w' := { w with accepted := Function.update w.accepted operation recorded }
  match event.reply with
  | .rejected code => (.error (some code) "operator rejected the operation", w)
  | .failed detail => (.error none detail, w')
  | .noFrame => (.noFrame, w')
  | .manyFrames => (.manyFrames, w')
  | .unparsable detail => (.unparsable detail, w')
  | .answered requestHash =>
    (.frame (recorded.getD ⟨operation, requestHash, .inProgress, none⟩), w')

/-- `run_one_shot`. A task that could not be run reaches no server. -/
def runOneShot (operation : OperationId) : Exec OneShotAnswer := fun attempt w =>
  match attempt.faults .oneShot with
  | .none => let (answer, w') := serveOneShot operation attempt.oneShot w; (.ok answer, w')
  | .fail detail => (.ok (.error none detail), w)
  | .crash => (.crashed, w)

/-- `migration_dispatch_failure`: the classes that prove the operation was not accepted. -/
def provesRejection (code : FailureCode) : Bool :=
  code = .controlExecutionUnavailable || code = .controllerKeyUnauthorized
    || code = .targetIdentityMismatch || code = .configRevisionMismatch

/-- `decode_operator_answer`. -/
def decodeOperatorAnswer (operation : OperationId) : OneShotAnswer → Except Failure ControlResult
  | .error _ detail => .error ⟨.controlOutcomeUnknown, detail⟩
  | .noFrame => .error ⟨.controlOutcomeUnknown,
      "the local NazoAuth operator produced no ControlResult; the outcome is unknown and only a " ++
        "resumed resend of the same operation can resolve it"⟩
  | .manyFrames => .error ⟨.controlOutcomeUnknown,
      "the local NazoAuth operator emitted more than one non-empty ControlResult frame; the " ++
        "outcome is unknown"⟩
  | .unparsable detail => .error ⟨.controlOutcomeUnknown, detail⟩
  | .frame result =>
    if result.operationId = operation then .ok result
    else .error ⟨.hostErrOperationInvalid, "the operator answered another operation"⟩

/-- `validate_migration_result`: `validate_control_result_binding` for MigrateApply. -/
def validateMigrationResult (operation : OperationId) (requestHash : Digest)
    (result : ControlResult) : Except Failure Unit :=
  if result.operationId ≠ operation then
    .error ⟨.controlOutcomeUnknown, "ControlResult operation id does not match"⟩
  else if result.requestHash ≠ requestHash then
    .error ⟨.controlOutcomeUnknown, "ControlResult request hash does not match"⟩
  else if result.outcome ≠ .succeeded then .ok ()
  else match result.result with
    | none | some (.migrationApplied _) => .ok ()
    | _ => .error ⟨.controlOutcomeUnknown,
        "ControlResult data does not match the prepared operation"⟩

def readMigrationAnswer (operation : OperationId) (requestHash : Digest)
    (answer : OneShotAnswer) : Except Failure ControlResult := do
  let result ← decodeOperatorAnswer operation answer
  validateMigrationResult operation requestHash result
  pure result

/-- `migration_requires_recovery`. -/
def migrationRequiresRecovery (result : ControlResult) : Bool :=
  result.result ≠ some (.migrationApplied true)

/-- The one-shot task and the reading of its answer. -/
def askMigration (job : UpdateJob) (requestHash : Digest) : Run ControlResult := do
  note fun performed => { performed with migrationOutcomeUnknown := true }
  match ← onWorld (runOneShot job.operationId) with
  | .error (some code) detail =>
    if provesRejection code then
      note fun performed => { performed with migrationOutcomeUnknown := false }
      Program.throw ⟨code, detail⟩
    else Program.throw ⟨.controlOutcomeUnknown, detail⟩
  | answer => Program.ofExcept (readMigrationAnswer job.operationId requestHash answer)

def recordMigration (job : UpdateJob) (verified : VerifiedArtifactFacts) : Exec Unit := do
  let _ ← storeState .recordMigration fun state =>
    recordMigrationApplied state job.expectedRevision job.operationId verified.digest

/-- What a terminal or pending answer makes of the attempt. -/
def settleMigration (job : UpdateJob) (verified : VerifiedArtifactFacts)
    (result : ControlResult) : Run (Option ControlResult) :=
  match result.outcome with
  | .succeeded => do
    note fun performed => { performed with
      migrationApplied := migrationRequiresRecovery result
      migrationResult := some result
      migrationOutcomeUnknown := false }
    Program.onlyIf (migrationRequiresRecovery result) (onWorld (recordMigration job verified))
    pure none
  | .failed => do
    note fun performed => { performed with migrationOutcomeUnknown := false }
    pure (some result)
  | .inProgress => Program.throw ⟨.controlOutcomeUnknown,
      "the application migration is still in progress; resume the same operation"⟩

/-- Step 3.5 of `run_update`. The result is that of a durably failed migration. -/
def dispatchMigration (job : UpdateJob) (plan : UpdatePlan) : Run (Option ControlResult) :=
  match job.migrationJws with
  | none => pure none
  | some _ =>
    match job.migrationRequestHash with
    | none => Program.throw
        ⟨.hostErrOperationInvalid, "update migration JWS has no request-hash binding"⟩
    | some requestHash => do
      onWorld (perform .readDatabaseUrls .hostErrOperationInvalid do
        let attempt ← Program.environment
        Program.require (databaseUrlsUsable attempt.platform (← Program.get).secrets)
          ⟨.hostErrOperationInvalid, "database URLs are unusable"⟩)
      let result ← askMigration job requestHash
      settleMigration job plan.verified result

/-! ## Activation, confirmation and commit -/

/-- Step 4 of `run_update`. -/
def activateRuntime (job : UpdateJob) (plan : UpdatePlan) : Run Unit :=
  match plan.replacement with
  | none => pure ()
  | some replacement => do
    Program.onlyIf plan.observation.running (onWorld (stop .change))
    note fun performed => { performed with replacedRuntime := true }
    onWorld (replace job.runtimeKind .change replacement)
    onWorld (start .change)

/-- `probe_local_health`: the readiness probe under the config on disk. -/
def probeLocalHealth (port : ℕ) (issuer : String) : Exec Unit :=
  perform .probeHealth .healthProbeFailed do
    let attempt ← Program.environment
    let w ← Program.get
    match w.config, w.runtime with
    | none, _ => Program.throw ⟨.healthProbeFailed, "cannot read readiness configuration"⟩
    | _, none => Program.throw ⟨.healthProbeFailed, "local readiness probe timed out"⟩
    | some config, some object =>
      Program.require (attempt.platform.serves object port issuer config)
        ⟨.healthProbeFailed, "local readiness probe timed out"⟩

/-- Steps 5 and 6: the started object is the verified one and answers. -/
def confirmRuntime (kind : RuntimeBackendKind) (digest : Digest) (port : ℕ) (issuer : String)
    (mismatch : String) : Exec Unit := do
  let activated ← inspect kind .check
  Program.require (activated.running ∧ activated.digest = some digest)
    ⟨.targetIdentityMismatch, mismatch⟩
  probeLocalHealth port issuer

def updateCommit (job : UpdateJob) (plan : UpdatePlan) (performed : PerformedSteps) :
    UpdateCommit where
  configSnapshot := if performed.snapshottedConfig then some job.operationId else none
  artifact := plan.verified.digest
  release := some plan.verified.release
  config := job.config.map fun staged => (job.configReference, staged.schema)
  operationId := job.operationId

/-- Steps 5 to 7 of `run_update`. -/
def confirmAndCommit (job : UpdateJob) (plan : UpdatePlan) : Run LifecycleFacts := do
  onWorld (confirmRuntime job.runtimeKind plan.verified.digest job.port job.issuer
    "the started runtime does not serve the verified artifact")
  let performed := (← Program.get).performed
  let state ← onWorld (storeState .commitState fun state =>
    applyUpdateHealthyFromLive state job.expectedRevision (updateCommit job plan performed)
      plan.recordedCurrentWasLive)
  pure {
    revision := state.config.revision
    release := state.currentRelease
    migrationResult := performed.migrationResult }

/-- The exact container to go back to is kept in memory. -/
def retainRuntime (before : Option RuntimeReplacement) (observation : RuntimeObservation)
    (performed : PerformedSteps) : PerformedSteps :=
  match before with
  | none => performed
  | some replacement => { performed with
      runtimeBeforeChange := some replacement
      runtimeBeforeChangeWasRunning := observation.running }

/-- Everything after admission. -/
def carryOut (job : UpdateJob) (plan : UpdatePlan) : Run UpdateExecution := do
  note (retainRuntime plan.before plan.observation)
  stageConfig job plan
  match ← dispatchMigration job plan with
  | some result => pure (.migrationFailed result)
  | none =>
    activateRuntime job plan
    let facts ← confirmAndCommit job plan
    pure (.activated facts)

/-- `HostLifecycleExecutor::run_update`. -/
def runUpdate (job : UpdateJob) : Run UpdateExecution := do
  match ← onWorld (admitUpdate job) with
  | none => pure (.noop job.expectedRevision)
  | some plan => carryOut job plan

/-! ## Undo and conclusion -/

/-- `read_restorable_snapshot`. -/
def readRestorableSnapshot (site : Site) (operation : OperationId) (code : FailureCode) :
    Exec (Option (Bytes × ConfigSchema)) :=
  perform (.readSnapshot site) code do
    let attempt ← Program.environment
    let snapshot := (← Program.get).configSnapshots operation
    match snapshot.record, snapshot.bytes with
    | some record, some bytes =>
      Program.require (record.schema = snapshotMetaSchema)
        ⟨code, "unsupported config snapshot schema"⟩
      Program.require (record.operationId = operation)
        ⟨code, "configuration snapshot belongs to another operation"⟩
      Program.require (attempt.platform.sha256 bytes = record.contentSha256)
        ⟨code, "config snapshot bytes no longer match their recorded digest"⟩
      pure (some (bytes, record.configSchema))
    | _, _ => pure none

/-- `restore_snapshot_bytes`. -/
def restoreSnapshotBytes (operation : OperationId) : Exec Unit := do
  match ← readRestorableSnapshot .undo operation .configInvalid with
  | none => Program.throw ⟨.configInvalid, "operation configuration snapshot is missing"⟩
  | some (bytes, _) =>
    writeConfig .undo bytes
    grantRuntimeConfigRead .undo

/-- `redeploy_digest`, which only the systemd undo path calls. -/
def redeployDigest (kind : RuntimeBackendKind) (digest : Digest) (runtimeRoot : Option Path) :
    Exec Unit := do
  let observed ← inspect kind .undo
  match runtimeRoot with
  | none => Program.throw ⟨.hostErrOperationInvalid,
      "systemd deployment state has no app-binary directory resource"⟩
  | some root =>
    let replacement ← Program.ofExcept
      (replacementFromObservation observed (.hostBinary (artifactPath root digest) digest))
    replace kind .undo replacement
    start .undo

/-- `restore_runtime_before_change`. -/
def restoreRuntimeBeforeChange (kind : RuntimeBackendKind) (artifact : Digest)
    (runtimeRoot : Option Path) (performed : PerformedSteps) : Exec Unit :=
  if kind = .host then redeployDigest kind artifact runtimeRoot
  else match performed.runtimeBeforeChange with
    | none => Program.throw
        ⟨.activationFailed, "the exact runtime was not retained before replacement"⟩
    | some replacement => do
      replace kind .undo replacement
      if performed.runtimeBeforeChangeWasRunning then start .undo else stop .undo

def restoreConfig (job : UpdateJob) (performed : PerformedSteps) : Exec Unit :=
  if performed.wroteConfig then
    if performed.snapshottedConfig then restoreSnapshotBytes job.operationId
    else perform .removeConfig .configInvalid
      (Program.modify fun w => { w with config := none })
  else pure ()

/-- `rollback_result`: one failure that names every undo step that failed. -/
def rollbackResult : List (Except Failure Unit) → Except Failure Unit
  | [] => .ok ()
  | results =>
    let errors := results.filterMap fun
      | .error failure => some failure.detail
      | .ok () => none
    if errors = [] then .ok () else .error ⟨.activationFailed, "; ".intercalate errors⟩

/-- `rollback_update`: both halves are tried. -/
def rollbackUpdate (job : UpdateJob) (performed : PerformedSteps) : Exec Unit := do
  let config ← Program.attempt (restoreConfig job performed)
  let runtime ← Program.attempt
    (if performed.replacedRuntime then
      restoreRuntimeBeforeChange job.runtimeKind job.currentArtifact job.runtimeRoot performed
    else pure ())
  Program.ofExcept (rollbackResult [config, runtime])

/-- The writer is stopped if it can be; the status goes into the failure's text. -/
def stopWriter (onFailure : String) : Exec String := do
  match ← Program.attempt (stop .fence) with
  | .ok () => pure "writer is stopped"
  | .error failure => pure s!"writer stop failed ({failure.detail}); {onFailure}"

/-- `stop_writer_for_recovery`. -/
def stopWriterForRecovery (failure : Failure) : Exec Failure := do
  let status ← stopWriter "do not start the old release"
  pure ⟨.rollbackRecoveryRequired,
    s!"{failure.detail}; the verified Release forbids rollback after its applied migration; " ++
      s!"{status}; recovery must use nazoauthctl recover from a verified backup"⟩

/-- `stop_writer_for_unknown_migration`. -/
def stopWriterForUnknownMigration (failure : Failure) : Exec Failure := do
  let status ← stopWriter "do not start it until the operation is resolved"
  pure ⟨.controlOutcomeUnknown,
    s!"{failure.detail}; migration may have been applied, so {status} until the same operation is " ++
      "resumed"⟩

def migrationReplayConflict : Failure :=
  ⟨.rollbackRecoveryRequired,
    "migration replay conflicts with the recorded successful migration"⟩

/-- A durably failed migration: the provisional changes are undone. -/
def concludeFailedMigration (job : UpdateJob) (performed : PerformedSteps)
    (result : ControlResult) : Exec UpdateExecution :=
  if performed.migrationApplied then do
    Program.throw (← stopWriterForRecovery migrationReplayConflict)
  else do
    match ← Program.attempt (rollbackUpdate job performed) with
    | .ok () => pure (.migrationFailed result)
    | .error cleanup => Program.throw ⟨.activationFailed,
        s!"durable migration failure; rollback was incomplete: {cleanup.detail}"⟩

/-- A failure: what is undone depends on what the migration may have done. -/
def concludeFailure (job : UpdateJob) (performed : PerformedSteps) (failure : Failure) :
    Exec UpdateExecution :=
  if performed.migrationApplied then do
    let failure ← stopWriterForRecovery failure
    match performed.migrationResult with
    | some result => pure (.recoveryRequired result failure.detail)
    | none => Program.throw failure
  else if performed.migrationOutcomeUnknown then do
    Program.throw (← stopWriterForUnknownMigration failure)
  else do
    match ← Program.attempt (rollbackUpdate job performed) with
    | .ok () => Program.throw failure
    | .error cleanup => Program.throw ⟨failure.code,
        s!"{failure.detail}; rollback was incomplete: {cleanup.detail}"⟩

/-- How `execute_update` concludes a run, if the process is still there. -/
def concludeUpdate (job : UpdateJob) (performed : PerformedSteps) :
    Outcome Failure UpdateExecution → Exec UpdateExecution
  | .crashed => Program.lost
  | .ok (.migrationFailed result) => concludeFailedMigration job performed result
  | .ok execution => pure execution
  | .error failure => concludeFailure job performed failure

def freshSteps (job : UpdateJob) : PerformedSteps :=
  { migrationApplied := job.appliedMigrationOperationId.isSome }

/-- The performed steps start empty and are dropped with the attempt. -/
def runAndConclude (job : UpdateJob) : Exec UpdateExecution := fun attempt w =>
  let (outcome, run) := runUpdate job attempt ⟨w, freshSteps job⟩
  concludeUpdate job run.performed outcome attempt run.world

/-- `HostLifecycleExecutor::execute_update`. -/
def executeUpdate (job : UpdateJob) : Exec UpdateExecution := do
  Program.require (∀ operation ∈ job.appliedMigrationOperationId, operation = job.operationId)
    ⟨.rollbackRecoveryRequired,
      "another operation has already applied a migration; resume that operation or recover a " ++
        "verified backup"⟩
  runAndConclude job

end NazoAuthCtl.UpdateExec
