import NazoAuthCtl.Checks
import NazoAuthCtl.DeploymentPaths
import NazoAuthCtl.JsonText

/-!
# The persisted state document

`state.json` with all its fields as texts, its validation, its serialisation and the six
operations of the store that write it. The parser, the URL library and the text of a time
are parameters. The store holds the bytes of every `state.json` by scope directory, and
reading, writing and locking its files does not fail.
-/

set_option autoImplicit false
set_option linter.all false

namespace NazoAuthCtl.StateDocument

open Checks DeploymentPaths JsonText
open TargetState (DeploymentId RuntimeBackendKind ResourceOwnership ResourceScope isIdentifier)

/-- Nanoseconds of `DateTime<Utc>`. -/
abbrev Timestamp := ℤ

structure Failure where
  code : String
  detail : String
  deriving DecidableEq, Repr

structure Resource where
  resourceId : String
  kind : String
  locator : String
  ownership : ResourceOwnership
  scope : ResourceScope
  deriving DecidableEq, Repr

structure RuntimeSurface where
  kind : RuntimeBackendKind
  object : String
  loopbackPort : UInt16
  deriving DecidableEq, Repr

structure ArtifactRefs where
  current : Option String
  previous : Option String
  deriving DecidableEq, Repr

structure ConfigState where
  reference : String
  schema : String
  revision : UInt64
  deriving DecidableEq, Repr

structure HealthRecord where
  healthy : Bool
  summary : String
  checkedAt : Timestamp
  deriving DecidableEq, Repr

structure ReleaseVersion where
  version : String
  deriving DecidableEq, Repr

structure ActiveHostOperationRef where
  operationId : String
  appliedAt : Timestamp
  deriving DecidableEq, Repr

structure AppliedMigration where
  operationId : String
  targetArtifact : String
  appliedAt : Timestamp
  deriving DecidableEq, Repr

structure DeploymentState where
  schema : UInt32
  deploymentId : String
  issuer : String
  runtime : RuntimeSurface
  artifact : ArtifactRefs
  config : ConfigState
  resources : List Resource
  localHealth : HealthRecord
  appliedMigration : Option AppliedMigration
  activeHostOperation : Option ActiveHostOperationRef
  currentRelease : Option ReleaseVersion
  previousRelease : Option ReleaseVersion
  previousConfigSnapshot : Option String
  deriving DecidableEq, Repr

/-- What the URL library says of an issuer. -/
structure IssuerUrl where
  cannotBeABase : Bool
  scheme : String
  username : String
  password : Option String
  deriving DecidableEq, Repr

structure DocumentPlatform where
  /-- The target state root. -/
  root : String
  parseUrl : String → Option IssuerUrl
  /-- RFC 3339, as chrono serialises it. -/
  timeText : Timestamp → String
  /-- The document of some bytes, in the format of any published version. -/
  parse : ByteArray → Except String DeploymentState

def deploymentStateSchema : UInt32 := 8
def maxStateBytes : ℕ := 1024 * 1024

/-! ## Validation -/

def validateIdentifier (value : String) (maxChars : ℕ) (label : String) : Except String Unit :=
  check (isIdentifier maxChars value) (s!"{label} must be 1-{maxChars} characters from " ++
    "[A-Za-z0-9.:_+-] and must not start with '-'")

def isControl (c : Char) : Bool := c.toNat < 32 || (127 ≤ c.toNat && c.toNat < 160)

/-- `White_Space`. -/
def isWhitespace (c : Char) : Bool :=
  (9 ≤ c.toNat && c.toNat ≤ 13) || (8192 ≤ c.toNat && c.toNat ≤ 8202)
    || c.toNat ∈ [32, 133, 160, 5760, 8232, 8233, 8239, 8287, 12288]

def Resource.validate (resource : Resource) : Except String Unit := do
  validateIdentifier resource.resourceId 128 "resource id"
  validateIdentifier resource.kind 64 "resource kind"
  check (resource.locator ≠ "" ∧ resource.locator.utf8ByteSize ≤ 512
      ∧ resource.locator.toList.all (!isControl ·))
    "resource locator must be a single-line reference of at most 512 characters"
  check (¬(resource.ownership = .managed ∧ resource.scope = .shared))
    "managed + shared resources are not supported; shared resources are external"

def RuntimeSurface.validate (surface : RuntimeSurface) : Except String Unit := do
  check (surface.object ≠ "" ∧ surface.object.utf8ByteSize ≤ 256
      ∧ surface.object.toList.all fun c => !isWhitespace c && !isControl c)
    "runtime object must be a single-line name of at most 256 characters"
  check (1024 ≤ surface.loopbackPort)
    "runtime loopback port must be an unprivileged non-zero port"

def validateReference (reference : String) : Except String Unit :=
  validateIdentifier reference 256 "artifact reference"

def ArtifactRefs.validate (artifact : ArtifactRefs) : Except String Unit := do
  checkOptional validateReference artifact.current
  checkOptional validateReference artifact.previous

def ReleaseVersion.validate (release : ReleaseVersion) : Except String Unit :=
  validateIdentifier release.version 64 "release version"

def isLowerHex (c : Char) : Bool := ('0' ≤ c && c ≤ '9') || ('a' ≤ c && c ≤ 'f')

/-- `str::strip_prefix` of `sha256:`. -/
def sha256Digest (reference : String) : Option String :=
  if "sha256:".toList <+: reference.toList then some (String.ofList (reference.toList.drop 7))
  else none

def isSha256 (digest : String) (error : String) : Except String Unit :=
  check (digest.utf8ByteSize = 64 ∧ digest.toList.all isLowerHex) error

def AppliedMigration.validate (migration : AppliedMigration) : Except String Unit := do
  validateIdentifier migration.operationId 128 "applied migration operation id"
  match sha256Digest migration.targetArtifact with
  | none => .error "applied migration artifact must be digest-bound"
  | some digest => isSha256 digest "applied migration artifact must be a lowercase sha256 digest"

def ConfigState.validateFields (reference schema : String) : Except String Unit := do
  check (reference ≠ "" ∧ reference.utf8ByteSize ≤ 512) "config reference must be 1-512 characters"
  validateIdentifier schema 64 "config schema"

def validateResources (seen : List String) : List Resource → Except String Unit
  | [] => .ok ()
  | resource :: rest => do
    resource.validate
    check (resource.resourceId ∉ seen) s!"duplicate resource id '{resource.resourceId}'"
    validateResources (resource.resourceId :: seen) rest

def validateIssuer (platform : DocumentPlatform) (issuer : String) : Except String Unit :=
  match platform.parseUrl issuer with
  | none => .error s!"issuer is not a valid URL: {issuer}"
  | some url => check (url.cannotBeABase = false ∧ url.scheme ∈ ["http", "https"]
      ∧ url.username = "" ∧ url.password = none)
      "issuer must be an http(s) origin URL without credentials"

/-- `DeploymentState::validate`. -/
def DeploymentState.validate (platform : DocumentPlatform) (state : DeploymentState) :
    Except String Unit := do
  check (state.schema = deploymentStateSchema)
    (s!"STATE_RESET_REQUIRED: unsupported DeploymentState schema {state.schema} " ++
      s!"(expected {deploymentStateSchema}); preserve the state and use a controller " ++
      "supporting this format")
  check (isDeploymentScope state.deploymentId)
    "TARGET_JOURNAL_INVALID: deployment_id is not usable as a journal scope"
  validateIssuer platform state.issuer
  state.runtime.validate
  state.artifact.validate
  checkOptional AppliedMigration.validate state.appliedMigration
  ConfigState.validateFields state.config.reference state.config.schema
  check (state.config.revision ≠ 0) "config revision is monotonic from 1"
  validateResources [] state.resources
  check (state.localHealth.summary.utf8ByteSize ≤ 512)
    "health summary must be at most 512 characters"
  check (∀ active ∈ state.activeHostOperation,
      active.operationId ≠ "" ∧ active.operationId.utf8ByteSize ≤ 128)
    "active_host_operation.operation_id is not a valid token"
  checkOptional ReleaseVersion.validate state.currentRelease
  checkOptional ReleaseVersion.validate state.previousRelease


/-! ## Serialisation -/

def kindText : RuntimeBackendKind → String
  | .podman => "podman"
  | .docker => "docker"
  | .host => "host"

def ownershipText : ResourceOwnership → String
  | .managed => "managed"
  | .external => "external"

def scopeText : ResourceScope → String
  | .deployment => "deployment"
  | .shared => "shared"

/-- A field with `skip_serializing_if = "Option::is_none"`. -/
def optionalField {α : Type} (name : String) (printer : α → Printer) :
    Option α → List (String × Printer)
  | none => []
  | some value => [(name, printer value)]

def Resource.printer (resource : Resource) : Printer :=
  object [("resource_id", string resource.resourceId), ("kind", string resource.kind),
    ("locator", string resource.locator), ("ownership", string (ownershipText resource.ownership)),
    ("scope", string (scopeText resource.scope))]

def RuntimeSurface.printer (surface : RuntimeSurface) : Printer :=
  JsonText.object [("kind", string (kindText surface.kind)), ("object", string surface.object),
    ("loopback_port", number surface.loopbackPort.toNat)]

def ArtifactRefs.printer (artifact : ArtifactRefs) : Printer :=
  object (optionalField "current" string artifact.current ++
    optionalField "previous" string artifact.previous)

def ConfigState.printer (config : ConfigState) : Printer :=
  object [("reference", string config.reference), ("schema", string config.schema),
    ("revision", number config.revision.toNat)]

def ReleaseVersion.printer (release : ReleaseVersion) : Printer :=
  object [("version", string release.version)]

section platform

variable (platform : DocumentPlatform)

def HealthRecord.printer (health : HealthRecord) : Printer :=
  object [("healthy", bool health.healthy), ("summary", string health.summary),
    ("checked_at", string (platform.timeText health.checkedAt))]

def AppliedMigration.printer (migration : AppliedMigration) : Printer :=
  object [("operation_id", string migration.operationId),
    ("target_artifact", string migration.targetArtifact),
    ("applied_at", string (platform.timeText migration.appliedAt))]

def ActiveHostOperationRef.printer (active : ActiveHostOperationRef) : Printer :=
  object [("operation_id", string active.operationId),
    ("applied_at", string (platform.timeText active.appliedAt))]

def DeploymentState.fields (state : DeploymentState) : List (String × Printer) :=
  [("schema", number state.schema.toNat), ("deployment_id", string state.deploymentId),
    ("issuer", string state.issuer), ("runtime", state.runtime.printer),
    ("artifact", state.artifact.printer), ("config", state.config.printer),
    ("resources", array (state.resources.map Resource.printer)),
    ("local_health", state.localHealth.printer platform)]
  ++ optionalField "applied_migration" (AppliedMigration.printer platform) state.appliedMigration
  ++ optionalField "active_host_operation" (ActiveHostOperationRef.printer platform)
    state.activeHostOperation
  ++ optionalField "current_release" ReleaseVersion.printer state.currentRelease
  ++ optionalField "previous_release" ReleaseVersion.printer state.previousRelease
  ++ optionalField "previous_config_snapshot" string state.previousConfigSnapshot

/-- `serde_json::to_vec_pretty`. -/
def document (state : DeploymentState) : ByteArray :=
  (object (state.fields platform) 0).toUTF8

/-! ## The store -/

/-- The bytes of each `state.json` under `deployments`. -/
abbrev Store := List (DeploymentId × ByteArray)

def sanitizeDetail (text : String) : String :=
  String.ofList ((text.toList.take 200).map fun c =>
    if (33 ≤ c.toNat ∧ c.toNat ≤ 126) ∨ c = ' ' then c else '?')

def deploymentScope (deploymentId : DeploymentId) : Except Failure DeploymentId :=
  if isDeploymentScope deploymentId then .ok deploymentId
  else .error ⟨"DEPLOYMENT_UNKNOWN", sanitizeDetail
    "TARGET_JOURNAL_INVALID: deployment_id is not usable as a journal scope"⟩

def scopeDisplay (scope : DeploymentId) : String := s!"{platform.root}/deployments/{scope}"

def invalidState (scope : DeploymentId) (error : String) : Failure :=
  ⟨"STATE_RESET_REQUIRED", "target DeploymentState does not conform to the current " ++
    s!"schema ({scopeDisplay platform scope}/state.json): {error}; preserve the deployment " ++
    "state and use a controller supporting its format"⟩

def oversizedState (scope : DeploymentId) : Failure :=
  ⟨"STATE_RESET_REQUIRED", "target DeploymentState is missing, unsafe to read, or " ++
    s!"oversized ({scopeDisplay platform scope}/state.json): target DeploymentState exceeds " ++
    s!"the {maxStateBytes}-byte limit: {scopeDisplay platform scope}/state.json; preserve the " ++
    "deployment state and use a controller supporting its format"⟩

def unknownDeployment (scope : DeploymentId) : Failure :=
  ⟨"DEPLOYMENT_UNKNOWN", s!"no DeploymentState for '{scope}' under " ++
    s!"{scopeDisplay platform scope}; register or discover the instance first"⟩

def readDeploymentState (bytes : ByteArray) : Except String DeploymentState := do
  let state ← platform.parse bytes
  state.validate platform
  pure state

def readState (store : Store) (scope : DeploymentId) : Except Failure DeploymentState :=
  match store.lookup scope with
  | none => .error (unknownDeployment platform scope)
  | some bytes =>
    if maxStateBytes < bytes.size then .error (oversizedState platform scope)
    else (readDeploymentState platform bytes).mapError (invalidState platform scope)

def loadExisting (store : Store) (deploymentId : DeploymentId) :
    Except Failure DeploymentState := do
  let scope ← deploymentScope deploymentId
  readState platform store scope

def persist (store : Store) (scope : DeploymentId) (state : DeploymentState) : Store :=
  (scope, document platform state) :: store.filter (·.1 ≠ scope)

/-- One pass of the sweep of `list_deployments`, over the directory names. -/
def listEntries (store : Store) : List DeploymentId → Except Failure (List DeploymentState)
  | [] => .ok []
  | scope :: rest =>
    match readState platform store scope with
    | .ok state => do
      let _ ← (deploymentScope scope).mapError fun failure : Failure =>
        Failure.mk "STATE_RESET_REQUIRED" failure.detail
      let states ← listEntries store rest
      pure (state :: states)
    | .error failure =>
      if failure.code = "DEPLOYMENT_UNKNOWN" then listEntries store rest else .error failure

def listDeployments (store : Store) : Except Failure (List DeploymentState) := do
  let states ← listEntries platform store (store.map Prod.fst)
  pure (states.mergeSort fun a b => a.deploymentId ≤ b.deploymentId)

end platform


/-! ## The operations -/

structure BootstrapParams where
  issuer : String
  runtime : RuntimeSurface
  artifact : ArtifactRefs
  configReference : String
  configSchema : String
  resources : List Resource
  currentRelease : Option ReleaseVersion
  deriving DecidableEq, Repr

structure UpdateCommit where
  configSnapshot : Option String
  artifact : String
  release : Option ReleaseVersion
  config : Option (String × String)
  operationId : String
  deriving DecidableEq, Repr

inductive ArtifactReference where
  | oci (imageReference digest : String)
  | hostBinary (path sha256 : String)
  | unknown
  deriving DecidableEq, Repr

/-- The fields of the recovery facts that the commit reads. -/
structure RecoveryFacts where
  operationId : String
  artifact : ArtifactReference
  release : ReleaseVersion
  configSchema : String
  deriving DecidableEq, Repr

def revisionMismatch (deploymentId : DeploymentId) (expected held : UInt64) (advice : String) :
    Failure :=
  ⟨"CONFIG_REVISION_MISMATCH", s!"expected config revision {expected} but target holds " ++
    s!"revision {held} for '{deploymentId}'{advice}"⟩

def operationInvalid (error : String) : Failure := ⟨"OPERATION_INVALID", error⟩

def recoveryRequired (detail : String) : Failure := ⟨"ROLLBACK_RECOVERY_REQUIRED", detail⟩

def ConfigState.seed (revision : UInt64) (reference schema : String) :
    Except String ConfigState := do
  ConfigState.validateFields reference schema
  pure ⟨reference, schema, revision⟩

/-- The addition wraps, as it does in a release build. -/
def ConfigState.advance (config : ConfigState) (reference schema : String) :
    Except String ConfigState :=
  ConfigState.seed (config.revision + 1) reference schema

def DeploymentState.producedBy (state : DeploymentState) (operationId : String) : Prop :=
  ∃ active ∈ state.activeHostOperation, active.operationId = operationId

instance (state : DeploymentState) (operationId : String) :
    Decidable (state.producedBy operationId) := by
  unfold DeploymentState.producedBy
  infer_instance

def canonicalRecoveryArtifact (artifact : ArtifactReference) : Except Failure String := do
  let digest ← match artifact with
    | .oci _ digest => match sha256Digest digest with
      | some digest => pure digest
      | none => .error (operationInvalid "recovery OCI artifact digest must use sha256")
    | .hostBinary _ sha256 => pure sha256
    | .unknown => .error (operationInvalid "recovery artifact is unknown")
  (isSha256 digest
    "recovery artifact digest must be 64 lowercase hexadecimal characters").mapError
    operationInvalid
  pure ("sha256:" ++ digest)

/-- What a call answers where it stamps the operation, and where the health record. -/
structure Clock where
  appliedAt : Timestamp
  checkedAt : Timestamp
  deriving DecidableEq, Repr

def advanced (config : ConfigState) (change : Option (String × String)) :
    Except Failure ConfigState :=
  match change with
  | none => .ok config
  | some (reference, schema) =>
    (config.advance reference schema).mapError fun error => ⟨"CONFIG_REVISION_MISMATCH", error⟩

section platform

variable (platform : DocumentPlatform) (store : Store) (deploymentId : DeploymentId)

/-- The lock, the live state, the change and its persistence. No next state means that the
operation is the one that produced the live state. -/
def commit (change : DeploymentState → Except Failure (Option DeploymentState)) :
    Except Failure (Store × DeploymentState) := do
  let scope ← deploymentScope deploymentId
  let state ← loadExisting platform store deploymentId
  match ← change state with
  | none => pure (store, state)
  | some next => pure (persist platform store scope next, next)

def bootstrapWithHealth (params : BootstrapParams) (operationId : String)
    (localHealth : HealthRecord) (appliedAt : Timestamp) :
    Except Failure (Store × DeploymentState) := do
  let scope ← deploymentScope deploymentId
  match loadExisting platform store deploymentId with
  | .ok existing =>
    if existing.producedBy operationId then
      if existing.localHealth.healthy = localHealth.healthy then pure (store, existing)
      else .error ⟨"DEPLOYMENT_EXISTS", s!"deployment '{deploymentId}' holds an incomplete " ++
        s!"state for operation {operationId}"⟩
    else .error ⟨"DEPLOYMENT_EXISTS", s!"a DeploymentState already exists for " ++
      s!"'{deploymentId}' at revision {existing.config.revision}; bootstrap never overwrites " ++
      "existing state"⟩
  | .error failure =>
    check (failure.code = "DEPLOYMENT_UNKNOWN") failure
    let states ← listDeployments platform store
    match states.find? (·.runtime.loopbackPort = params.runtime.loopbackPort) with
    | some owner => .error (operationInvalid (s!"loopback port {params.runtime.loopbackPort} " ++
        s!"is reserved by deployment '{owner.deploymentId}'"))
    | none =>
      let config ← (ConfigState.seed 1 params.configReference params.configSchema).mapError
        operationInvalid
      let state : DeploymentState :=
        { schema := deploymentStateSchema
          deploymentId := deploymentId
          issuer := params.issuer
          runtime := params.runtime
          artifact := params.artifact
          config := config
          resources := params.resources
          localHealth := localHealth
          appliedMigration := none
          activeHostOperation := some ⟨operationId, appliedAt⟩
          currentRelease := params.currentRelease
          previousRelease := none
          previousConfigSnapshot := none }
      (state.validate platform).mapError operationInvalid
      pure (persist platform store scope state, state)

def bootstrap (params : BootstrapParams) (operationId : String) (clock : Clock) :
    Except Failure (Store × DeploymentState) :=
  bootstrapWithHealth platform store deploymentId params operationId
    ⟨false, "bootstrapped; runtime health not yet observed", clock.checkedAt⟩ clock.appliedAt

def bootstrapHealthy (params : BootstrapParams) (operationId : String) (clock : Clock) :
    Except Failure (Store × DeploymentState) :=
  bootstrapWithHealth platform store deploymentId params operationId
    ⟨true, "local readiness probe passed after clean install", clock.checkedAt⟩ clock.appliedAt

def configChange (expectedRevision : UInt64) (reference schema operationId : String)
    (clock : Clock) (state : DeploymentState) : Except Failure (Option DeploymentState) :=
  if state.producedBy operationId then pure none
  else do
    check (state.config.revision = expectedRevision)
      (revisionMismatch deploymentId expectedRevision state.config.revision
        "; re-read the live state and rebuild the change")
    let config ← advanced state.config (some (reference, schema))
    pure (some { state with
      config := config
      activeHostOperation := some ⟨operationId, clock.appliedAt⟩ })

def applyConfig (expectedRevision : UInt64) (reference schema operationId : String)
    (clock : Clock) : Except Failure (Store × ConfigState) := do
  let (store, state) ← commit platform store deploymentId
    (configChange deploymentId expectedRevision reference schema operationId clock)
  pure (store, state.config)

def migrationChange (expectedRevision : UInt64) (operationId targetArtifact : String)
    (clock : Clock) (state : DeploymentState) : Except Failure (Option DeploymentState) := do
  check (state.config.revision = expectedRevision)
    (revisionMismatch deploymentId expectedRevision state.config.revision "")
  match state.appliedMigration with
  | some existing =>
    if existing.operationId = operationId ∧ existing.targetArtifact = targetArtifact then pure none
    else .error (recoveryRequired ("a different applied migration already fences this " ++
      "deployment; keep the writer stopped and run verified backup recover"))
  | none =>
    let state := { state with
      appliedMigration := some ⟨operationId, targetArtifact, clock.appliedAt⟩ }
    (state.validate platform).mapError operationInvalid
    pure (some state)

def recordMigrationApplied (expectedRevision : UInt64) (operationId targetArtifact : String)
    (clock : Clock) : Except Failure Store := do
  let (store, _) ← commit platform store deploymentId
    (migrationChange platform deploymentId expectedRevision operationId targetArtifact clock)
  pure store

def DeploymentState.dropLineage (state : DeploymentState) : DeploymentState :=
  { state with
    artifact := { state.artifact with previous := none }
    previousRelease := none
    previousConfigSnapshot := none }

def DeploymentState.keepLineage (state : DeploymentState) (snapshot : Option String) :
    DeploymentState :=
  { state with
    artifact := ⟨none, state.artifact.current⟩
    currentRelease := none
    previousRelease := state.currentRelease
    previousConfigSnapshot := snapshot }

/-- The lineage after an update. -/
def DeploymentState.updateLineage (state : DeploymentState) (commit : UpdateCommit)
    (recordedCurrentWasLive : Bool) : DeploymentState :=
  let state := if state.appliedMigration.isSome then state.dropLineage else state
  if state.artifact.current ≠ some commit.artifact ∨ commit.config.isSome then
    let state := if recordedCurrentWasLive ∧ state.appliedMigration = none then
      state.keepLineage commit.configSnapshot else state.dropLineage
    { state with artifact := { state.artifact with current := some commit.artifact } }
  else state

def updateChange (expectedRevision : UInt64) (update : UpdateCommit)
    (recordedCurrentWasLive : Bool) (clock : Clock) (state : DeploymentState) :
    Except Failure (Option DeploymentState) :=
  if state.producedBy update.operationId then pure none
  else do
    check (state.config.revision = expectedRevision)
      (revisionMismatch deploymentId expectedRevision state.config.revision
        "; re-read the live state and rebuild the change")
    (validateReference update.artifact).mapError operationInvalid
    (checkOptional ReleaseVersion.validate update.release).mapError operationInvalid
    check (∀ migration ∈ state.appliedMigration,
        migration.operationId = update.operationId ∧ migration.targetArtifact = update.artifact)
      (recoveryRequired ("the update does not match the recorded migration; resume that " ++
        "operation or recover a verified backup"))
    let state := state.updateLineage update recordedCurrentWasLive
    let config ← advanced state.config update.config
    pure (some { state with
      config := config
      currentRelease := update.release
      appliedMigration := none
      activeHostOperation := some ⟨update.operationId, clock.appliedAt⟩
      localHealth := ⟨true, "local readiness probe passed after update", clock.checkedAt⟩ })

def applyUpdateHealthyFromLive (expectedRevision : UInt64) (update : UpdateCommit)
    (recordedCurrentWasLive : Bool) (clock : Clock) : Except Failure (Store × DeploymentState) :=
  commit platform store deploymentId
    (updateChange deploymentId expectedRevision update recordedCurrentWasLive clock)

def recoveryChange (expectedRevision : UInt64) (facts : RecoveryFacts) (operationId : String)
    (clock : Clock) (state : DeploymentState) : Except Failure (Option DeploymentState) :=
  if state.producedBy operationId then pure none
  else do
    check (state.config.revision = expectedRevision)
      (revisionMismatch deploymentId expectedRevision state.config.revision
        "; re-read the live state and rebuild the recovery")
    check (facts.operationId = operationId)
      (operationInvalid "recovery facts do not belong to the active host operation")
    facts.release.validate.mapError operationInvalid
    let newCurrent ← canonicalRecoveryArtifact facts.artifact
    let config ← advanced state.config (some (state.config.reference, facts.configSchema))
    let state := { state with
      artifact := ⟨some newCurrent, none⟩
      config := config
      appliedMigration := none
      activeHostOperation := some ⟨operationId, clock.appliedAt⟩
      currentRelease := some facts.release
      previousRelease := none
      previousConfigSnapshot := none }
    (state.validate platform).mapError operationInvalid
    pure (some state)

def applyRecovery (expectedRevision : UInt64) (facts : RecoveryFacts) (operationId : String)
    (clock : Clock) : Except Failure (Store × DeploymentState) :=
  commit platform store deploymentId
    (recoveryChange platform deploymentId expectedRevision facts operationId clock)

def rollbackChange (expectedRevision : UInt64) (config : Option (String × String))
    (operationId : String) (clock : Clock) (state : DeploymentState) :
    Except Failure (Option DeploymentState) :=
  if state.producedBy operationId then pure none
  else do
    check (state.config.revision = expectedRevision)
      (revisionMismatch deploymentId expectedRevision state.config.revision "")
    check (state.appliedMigration = none)
      (recoveryRequired ("an applied migration forbids artifact/config rollback; keep the " ++
        "writer stopped and recover a verified backup"))
    match state.artifact.previous with
    | none => .error ⟨"ROLLBACK_UNAVAILABLE", s!"no previous verified artifact reference is " ++
        s!"saved for '{deploymentId}'; rollback restores saved facts only and never guesses"⟩
    | some previous =>
      let next ← advanced state.config config
      pure (some { state with
        artifact := ⟨some previous, state.artifact.current⟩
        config := next
        currentRelease := state.previousRelease
        previousRelease := state.currentRelease
        previousConfigSnapshot := config.map fun _ => operationId
        activeHostOperation := some ⟨operationId, clock.appliedAt⟩
        localHealth := ⟨true, "local readiness probe passed after rollback", clock.checkedAt⟩ })

def applyRollbackHealthy (expectedRevision : UInt64) (config : Option (String × String))
    (operationId : String) (clock : Clock) : Except Failure (Store × DeploymentState) :=
  commit platform store deploymentId
    (rollbackChange deploymentId expectedRevision config operationId clock)

end platform


/-! ## Orders -/

/-- The five operations that change an existing state. -/
inductive Mutation where
  | applyConfig (expectedRevision : UInt64) (reference schema : String)
  | recordMigrationApplied (expectedRevision : UInt64) (targetArtifact : String)
  | applyUpdateHealthyFromLive (expectedRevision : UInt64) (configSnapshot : Option String)
      (artifact : String) (release : Option ReleaseVersion) (config : Option (String × String))
      (recordedCurrentWasLive : Bool)
  | applyRecovery (expectedRevision : UInt64) (facts : RecoveryFacts)
  | applyRollbackHealthy (expectedRevision : UInt64) (config : Option (String × String))
  deriving DecidableEq, Repr

inductive Call where
  | bootstrap (params : BootstrapParams) (healthy : Bool)
  | mutate (mutation : Mutation)
  deriving DecidableEq, Repr

structure Order where
  deploymentId : DeploymentId
  operationId : String
  clock : Clock
  call : Call
  deriving DecidableEq, Repr

def isHexDigit (c : Char) : Bool :=
  ('0' ≤ c && c ≤ '9') || ('a' ≤ c && c ≤ 'f') || ('A' ≤ c && c ≤ 'F')

/-- 32 digits without hyphens, the thirteenth of them the version. -/
def simpleUuidV7 (digits : List Char) : Bool :=
  digits.length = 32 && digits.all isHexDigit && digits[12]? = some '7'

def hyphenatedUuidV7 (text : List Char) : Bool :=
  text.length = 36 && [8, 13, 18, 23].all (fun i => text[i]? = some '-')
    && simpleUuidV7 (text.filter (· ≠ '-'))

/-- `is_uuid_v7`, over the four texts that `Uuid::parse_str` reads. -/
def isUuidV7 (text : String) : Bool :=
  let letters := text.toList
  if text.utf8ByteSize = 32 then simpleUuidV7 letters
  else if text.utf8ByteSize = 36 then hyphenatedUuidV7 letters
  else if text.utf8ByteSize = 38 then
    letters.head? = some '\x7b' && letters.getLast? = some '\x7d'
      && hyphenatedUuidV7 letters.tail.dropLast
  else if text.utf8ByteSize = 45 then
    decide ("urn:uuid:".toList <+: letters) && hyphenatedUuidV7 (letters.drop 9)
  else false

section platform

variable (platform : DocumentPlatform)

def Mutation.change (deploymentId : DeploymentId) (operationId : String) (clock : Clock) :
    Mutation → DeploymentState → Except Failure (Option DeploymentState)
  | .applyConfig expected reference schema =>
    configChange deploymentId expected reference schema operationId clock
  | .recordMigrationApplied expected targetArtifact =>
    migrationChange platform deploymentId expected operationId targetArtifact clock
  | .applyUpdateHealthyFromLive expected configSnapshot artifact release config live =>
    updateChange deploymentId expected ⟨configSnapshot, artifact, release, config, operationId⟩
      live clock
  | .applyRecovery expected facts =>
    recoveryChange platform deploymentId expected facts operationId clock
  | .applyRollbackHealthy expected config =>
    rollbackChange deploymentId expected config operationId clock

/-- The store after an order and the state it answers for. -/
def Order.run (store : Store) (order : Order) : Except Failure (Store × DeploymentState) :=
  match order.call with
  | .bootstrap params false =>
    bootstrap platform store order.deploymentId params order.operationId order.clock
  | .bootstrap params true =>
    bootstrapHealthy platform store order.deploymentId params order.operationId order.clock
  | .mutate mutation =>
    commit platform store order.deploymentId
      (mutation.change platform order.deploymentId order.operationId order.clock)

end platform

end NazoAuthCtl.StateDocument
