import NazoAuthCtl.TargetState

/-!
# The target host as one deployment sees it

The durable things an order can change: the runtime object of the container
engine or of systemd, the config file, the config snapshots of operations,
`state.json`, the artifacts kept locally, and the operations the NazoAuth server
itself has accepted. The engine, the Release feed, the YAML and base64 parsers,
sha256 and the readiness probe are parameters of the platform. `history` is a
record of what happened to the runtime; no modelled function reads it.
-/

set_option autoImplicit false
set_option linter.all false

namespace NazoAuthCtl.TargetWorld

open FaultProgram TargetState

inductive ArtifactReference where
  | oci (imageReference : String) (digest : Digest)
  | hostBinary (path : Path) (sha256 : Digest)
  | unknown
  deriving DecidableEq, Repr

structure NeutralMount where
  source : Path
  destination : Path
  readOnly : Bool
  deriving DecidableEq, Repr

structure PortBinding where
  host : String
  container : String
  deriving DecidableEq, Repr

abbrev Variables := List (String × String)

/-- A container or a systemd unit. -/
structure RuntimeObject where
  artifact : ArtifactReference
  serverCommand : Bool
  running : Bool
  ports : List PortBinding
  networks : List String
  mounts : List NeutralMount
  environment : Variables
  labels : Variables
  deriving DecidableEq, Repr

structure RuntimeObservation where
  backend : RuntimeBackendKind
  running : Bool
  serverCommandVerified : Bool
  artifact : ArtifactReference
  ports : List PortBinding
  networks : List String
  mounts : List NeutralMount
  safeEnvironment : Variables
  labels : Variables
  deriving DecidableEq, Repr

structure RuntimeReplacement where
  artifact : ArtifactReference
  mounts : List NeutralMount
  environment : Variables
  networks : List String
  ports : List PortBinding
  labels : Variables
  deriving DecidableEq, Repr

inductive RuntimeEvent where
  | stopped
  | removed
  | created (object : RuntimeObject)
  | started (object : RuntimeObject)
  deriving DecidableEq, Repr

inductive ControlOutcome where
  | succeeded
  | failed
  | inProgress
  deriving DecidableEq, Repr

inductive ControlResultData where
  | migrationApplied (unchanged : Bool)
  | recoveryInvalidation (stateEpoch : String) (notBefore : ℕ)
  | other
  deriving DecidableEq, Repr

structure ControlResult where
  operationId : OperationId
  requestHash : Digest
  outcome : ControlOutcome
  result : Option ControlResultData
  deriving DecidableEq, Repr

structure ConfigSnapshotMeta where
  schema : ℕ
  operationId : OperationId
  contentSha256 : Digest
  configSchema : ConfigSchema
  replacedBySchema : Option ConfigSchema
  deriving DecidableEq, Repr

/-- The two files of one directory under `config-snapshots`. -/
structure ConfigSnapshot where
  bytes : Option Bytes
  record : Option ConfigSnapshotMeta
  deriving DecidableEq, Repr

/-- A directory by the files in it. -/
abbrev Tree := List (Path × Bytes)

structure SnapshotProjection where
  manifestSha256 : Digest
  restoreTestedAt : Option ℤ
  deriving DecidableEq, Repr

structure World where
  runtime : Option RuntimeObject
  config : Option Bytes
  secrets : Option Tree
  configSnapshots : OperationId → ConfigSnapshot
  state : Option DeploymentState
  /-- What `backup_projection` reads: its diagnostics, or the current snapshot. -/
  backup : Except String (Option SnapshotProjection)
  hostArtifacts : List Digest
  images : List (String × Digest)
  accepted : OperationId → Option ControlResult
  history : List RuntimeEvent

structure SigningKeyEncryptionConfig where
  file : Path
  previousFile : Option Path
  deriving DecidableEq, Repr

structure Url where
  scheme : String
  username : String
  path : String
  deriving DecidableEq, Repr

/-- A Release that passed verification, with what its manifest binds. -/
structure VerifiedRelease where
  version : ReleaseVersion
  binarySha256 : Digest
  ociRepository : String
  ociDigest : Option Digest
  deriving DecidableEq, Repr

/-- What the modelled code calls and does not contain. -/
structure Platform where
  sha256 : Bytes → Digest
  isUtf8 : Bytes → Bool
  signingKeyConfig : Bytes → Option SigningKeyEncryptionConfig
  validSigningKey : Bytes → Bool
  parseUrl : Bytes → Option Url
  /-- The Release a requested version, or none for the latest, resolves to. -/
  published : Option ReleaseVersion → Option VerifiedRelease
  precedence : ReleaseVersion → ReleaseVersion → Ordering
  /-- Whether inspecting a stopped object still reports its published ports. -/
  reportsStoppedPorts : Bool
  serves : RuntimeObject → (port : ℕ) → (issuer : String) → (config : Bytes) → Bool

/-- The backend call sites of one order: the change itself, its final check, the
undo, and the stop that fences the writer. -/
inductive Site where
  | change
  | check
  | undo
  | fence
  deriving DecidableEq, Repr

inductive Effect where
  | loadState
  | privilegeGate
  | inspect (site : Site)
  | verifyRelease
  | fetchArtifact
  | readConfig
  | readSigningKey
  | imageExists
  | readSnapshot (site : Site)
  | snapshotBytes
  | snapshotMeta
  | writeConfig (site : Site)
  | removeConfig
  | grantConfigRead (site : Site)
  | readDatabaseUrls
  | oneShot
  | recordMigration
  | stop (site : Site)
  | inspectSource (site : Site)
  | removeSource (site : Site)
  | createReplacement (site : Site)
  | stopUnit (site : Site)
  | copyBinary (site : Site)
  | start (site : Site)
  | probeHealth
  | commitState
  deriving DecidableEq, Repr

/-- How the one-shot task ends. `decides` is the terminal result the server
records for the operation during the task if it has none yet. -/
inductive OneShotReply where
  | rejected (code : FailureCode)
  | failed (detail : String)
  | noFrame
  | manyFrames
  | unparsable (detail : String)
  | answered (requestHash : Digest)
  deriving DecidableEq, Repr

structure OneShotEvent where
  decides : Option ControlResult
  reply : OneShotReply
  deriving DecidableEq, Repr

/-- The environment of one attempt. -/
structure Attempt where
  platform : Platform
  faults : Effect → Fault String
  oneShot : OneShotEvent
  now : ℤ

abbrev Exec := Program Attempt World Failure

def Attempt.clean (attempt : Attempt) : Prop :=
  ∀ effect, attempt.faults effect = .none

variable {α : Type}

/-- One effect of an order, with the failure code its call site maps errors to. -/
def perform (label : Effect) (code : FailureCode) (body : Exec α) : Exec α :=
  Program.effect (fun attempt => attempt.faults label) (fun detail => ⟨code, detail⟩) body

theorem ensures_perform {e : Attempt} {s : World} (label : Effect) (code : FailureCode)
    (body : Exec α) (Q : Outcome Failure α → World → Prop) :
    Program.Ensures (perform label code body) e Q s ↔
      (e.faults label = .none → Program.Ensures body e Q s) ∧
      (∀ d, e.faults label = .fail d → Q (.error ⟨code, d⟩) s) ∧
      (e.faults label = .crash → Q .crashed s) :=
  Program.ensures_effect _ _ _ _

section perform

variable {e : Attempt} {label : Effect} (w : World) (code : FailureCode) (body : Exec α)

theorem perform_none (fault : e.faults label = .none) :
    perform label code body e w = body e w := by
  simp [perform, Program.effect, fault]

theorem perform_fail {d : String} (fault : e.faults label = .fail d) :
    perform label code body e w = (.error ⟨code, d⟩, w) := by
  simp [perform, Program.effect, fault]

theorem perform_crash (fault : e.faults label = .crash) :
    perform label code body e w = (.crashed, w) := by
  simp [perform, Program.effect, fault]

end perform

def safeVariables : List String :=
  ["ISSUER", "PUBLIC_BASE_URL", "DATA_DIR", "DEPLOYMENT_ID", "RUNTIME_INSTANCE_ID",
    "CONTROL_AUTHORITY", "INSTANCE_IDENTITY_DIR", "VALKEY_STATE_EPOCH",
    "NAZOAUTH_SERVER_CONFIG_FILE", "NAZOAUTH_OPERATOR_CONFIG_REVISION_FILE",
    "MFA_TOTP_ENCRYPTION_KEY_FILE", "SIGNING_KEY_ENCRYPTION_KEY_FILE",
    "SIGNING_KEY_PREVIOUS_ENCRYPTION_KEY_FILE", "CLIENT_SECRET_PEPPER_FILE",
    "DYNAMIC_CLIENT_REGISTRATION_INITIAL_ACCESS_TOKEN_FILE",
    "OPENID4VC_DATA_ENCRYPTION_KEY_FILE", "OPENID4VCI_ISSUER_MANAGEMENT_TOKEN_FILE",
    "OPENID4VP_VERIFIER_MANAGEMENT_TOKEN_FILE"]

def safeEnvironment (values : Variables) : Variables :=
  values.filter fun entry => entry.1 ∈ safeVariables

@[simp] theorem safeEnvironment_idem (values : Variables) :
    safeEnvironment (safeEnvironment values) = safeEnvironment values := by
  simp [safeEnvironment, List.filter_filter]

/-- What `inspect` reports. systemd declares no ports, networks, mounts or
labels; a container engine may not report the ports of a stopped container. -/
def observation (platform : Platform) (kind : RuntimeBackendKind) (object : RuntimeObject) :
    RuntimeObservation where
  backend := kind
  running := object.running
  serverCommandVerified := object.serverCommand
  artifact := object.artifact
  ports := if kind.isContainer ∧ (object.running ∨ platform.reportsStoppedPorts)
    then object.ports else []
  networks := if kind.isContainer then object.networks else []
  mounts := if kind.isContainer then object.mounts else []
  safeEnvironment := safeEnvironment object.environment
  labels := if kind.isContainer then object.labels else []

/-- `observation_digest`. -/
def RuntimeObservation.digest (observation : RuntimeObservation) : Option Digest :=
  match observation.artifact with
  | .oci _ digest => some digest
  | .hostBinary _ sha256 => some sha256
  | .unknown => none

/-- `live_observation`. -/
def inspect (kind : RuntimeBackendKind) (site : Site) : Exec RuntimeObservation :=
  perform (.inspect site) .objectIdentityMismatch do
    let attempt ← Program.environment
    match (← Program.get).runtime with
    | some object => pure (observation attempt.platform kind object)
    | none => Program.throw ⟨.objectIdentityMismatch, "no such runtime object"⟩

theorem inspect_some {kind : RuntimeBackendKind} {site : Site} {e : Attempt} {w : World}
    {object : RuntimeObject} (fault : e.faults (.inspect site) = .none)
    (present : w.runtime = some object) :
    inspect kind site e w = (.ok (observation e.platform kind object), w) := by
  rw [inspect, perform_none _ _ _ fault]
  simp [Program.run_bind, present]

theorem inspect_none {kind : RuntimeBackendKind} {site : Site} {e : Attempt} {w : World}
    (fault : e.faults (.inspect site) = .none) (absent : w.runtime = none) :
    inspect kind site e w =
      (.error ⟨.objectIdentityMismatch, "no such runtime object"⟩, w) := by
  rw [inspect, perform_none _ _ _ fault]
  simp [Program.run_bind, absent]

/-- The runtime becomes another one, or none, by an event of its history. -/
def World.after (w : World) (runtime : Option RuntimeObject) (event : RuntimeEvent) : World :=
  { w with runtime, history := event :: w.history }

section after

variable (w : World) (runtime : Option RuntimeObject) (event : RuntimeEvent)

@[simp] theorem after_runtime : (w.after runtime event).runtime = runtime := rfl
@[simp] theorem after_history : (w.after runtime event).history = event :: w.history := rfl
@[simp] theorem after_config : (w.after runtime event).config = w.config := rfl
@[simp] theorem after_secrets : (w.after runtime event).secrets = w.secrets := rfl
@[simp] theorem after_configSnapshots :
    (w.after runtime event).configSnapshots = w.configSnapshots := rfl
@[simp] theorem after_state : (w.after runtime event).state = w.state := rfl
@[simp] theorem after_backup : (w.after runtime event).backup = w.backup := rfl
@[simp] theorem after_hostArtifacts :
    (w.after runtime event).hostArtifacts = w.hostArtifacts := rfl
@[simp] theorem after_images : (w.after runtime event).images = w.images := rfl
@[simp] theorem after_accepted : (w.after runtime event).accepted = w.accepted := rfl

end after

/-- A change of the present runtime object, recorded as an event. -/
def changeRuntime (label : Effect) (change : RuntimeObject → RuntimeObject)
    (event : RuntimeObject → RuntimeEvent) : Exec Unit :=
  perform label .activationFailed do
    match (← Program.get).runtime with
    | some object => Program.modify fun w => w.after (some (change object)) (event (change object))
    | none => Program.throw ⟨.activationFailed, "no such runtime object"⟩

theorem changeRuntime_cases (label : Effect) (change : RuntimeObject → RuntimeObject)
    (event : RuntimeObject → RuntimeEvent) (e : Attempt) (w : World) :
    (∃ object, w.runtime = some object ∧ changeRuntime label change event e w =
        (.ok (), w.after (some (change object)) (event (change object)))) ∨
      (∃ x, changeRuntime label change event e w = (.error x, w)) ∨
      changeRuntime label change event e w = (.crashed, w) := by
  unfold changeRuntime
  cases fault : e.faults label with
  | fail d => exact .inr (.inl ⟨_, perform_fail _ _ _ fault⟩)
  | crash => exact .inr (.inr (perform_crash _ _ _ fault))
  | none =>
    rw [perform_none _ _ _ fault]
    cases hobject : w.runtime with
    | none => exact .inr (.inl ⟨_, by simp [Program.run_bind, hobject]; rfl⟩)
    | some object => exact .inl ⟨object, rfl, by simp [Program.run_bind, hobject]⟩

theorem changeRuntime_none {label : Effect} (change : RuntimeObject → RuntimeObject)
    (event : RuntimeObject → RuntimeEvent) {e : Attempt} {w : World} {object : RuntimeObject}
    (fault : e.faults label = .none) (present : w.runtime = some object) :
    changeRuntime label change event e w =
      (.ok (), w.after (some (change object)) (event (change object))) := by
  rw [changeRuntime, perform_none _ _ _ fault]
  simp [Program.run_bind, present]

def RuntimeObject.halted (object : RuntimeObject) : RuntimeObject :=
  { object with running := false }

def RuntimeObject.launched (object : RuntimeObject) : RuntimeObject :=
  { object with running := true }

def stop (site : Site) : Exec Unit :=
  changeRuntime (.stop site) RuntimeObject.halted fun _ => .stopped

def start (site : Site) : Exec Unit :=
  changeRuntime (.start site) RuntimeObject.launched .started

def ownershipLabel : String := "io.nazoauth.deployment-id"

/-- `remove_replacement_source` on the inspected source. -/
def mayRemoveSource (replacement : RuntimeReplacement) (object : RuntimeObject) :
    Except Failure Unit :=
  match replacement.labels.lookup ownershipLabel with
  | none => .error ⟨.activationFailed, "replacement has no deployment ownership"⟩
  | some expected =>
    if object.labels.lookup ownershipLabel ≠ some expected then
      .error ⟨.activationFailed, "replacement source belongs to a different deployment"⟩
    else if object.running then
      .error ⟨.activationFailed, "replacement source is not confirmed stopped"⟩
    else .ok ()

theorem mayRemoveSource_ok {replacement : RuntimeReplacement} {object : RuntimeObject} :
    mayRemoveSource replacement object = .ok () ↔
      (∃ owner, replacement.labels.lookup ownershipLabel = some owner ∧
        object.labels.lookup ownershipLabel = some owner) ∧ object.running = false := by
  unfold mayRemoveSource
  cases replacement.labels.lookup ownershipLabel with
  | none => simp
  | some expected =>
    by_cases owned : object.labels.lookup ownershipLabel = some expected
    · cases object.running <;> simp [owned]
    · simp [owned, Ne.symm]

/-- `remove_replacement_source`: an absent source is nothing to remove. -/
def removeReplacementSource (site : Site) (replacement : RuntimeReplacement) : Exec Unit := do
  let source ← perform (.inspectSource site) .activationFailed
    (do pure (← Program.get).runtime)
  match source with
  | none => pure ()
  | some object =>
    Program.ofExcept (mayRemoveSource replacement object)
    perform (.removeSource site) .activationFailed
      (Program.modify fun w => w.after none .removed)

/-- The container `create` of a replacement: a new, stopped object. -/
def createdObject (replacement : RuntimeReplacement) : RuntimeObject where
  artifact := replacement.artifact
  serverCommand := true
  running := false
  ports := replacement.ports
  networks := replacement.networks
  mounts := replacement.mounts
  environment := replacement.environment
  labels := replacement.labels

def createReplacement (site : Site) (replacement : RuntimeReplacement) : Exec Unit :=
  perform (.createReplacement site) .activationFailed
    (Program.modify fun w =>
      w.after (some (createdObject replacement)) (.created (createdObject replacement)))

/-- The Podman and Docker `replace`. It leaves the new container stopped. -/
def replaceContainer (site : Site) (replacement : RuntimeReplacement) : Exec Unit :=
  match replacement.artifact with
  | .oci _ _ => do
    removeReplacementSource site replacement
    createReplacement site replacement
  | _ => Program.throw
      ⟨.activationFailed, "replacement requires a digest-bound OCI artifact"⟩

/-- A unit whose executable has been overwritten in place. -/
def RuntimeObject.withBinary (object : RuntimeObject) (sha256 : Digest) : RuntimeObject :=
  { object with
    artifact := match object.artifact with
      | .hostBinary path _ => .hostBinary path sha256
      | artifact => artifact }

/-- The systemd `replace`: the cached source is checked, the unit is stopped and
its executable overwritten. -/
def replaceUnit (site : Site) (replacement : RuntimeReplacement) : Exec Unit :=
  match replacement.artifact with
  | .hostBinary _ expected => do
    Program.require (expected ∈ (← Program.get).hostArtifacts)
      ⟨.activationFailed, "systemd replacement source digest changed before activation"⟩
    changeRuntime (.stopUnit site) RuntimeObject.halted fun _ => .stopped
    changeRuntime (.copyBinary site) (·.withBinary expected) .created
  | _ => Program.throw
      ⟨.activationFailed, "systemd replacement requires a digest-bound host binary"⟩

def replace (kind : RuntimeBackendKind) (site : Site) (replacement : RuntimeReplacement) :
    Exec Unit :=
  if kind.isContainer then replaceContainer site replacement else replaceUnit site replacement

/-- The observed surface with another artifact. -/
def surfaceWith (observation : RuntimeObservation) (artifact : ArtifactReference) :
    RuntimeReplacement where
  artifact := artifact
  mounts := observation.mounts
  environment := observation.safeEnvironment
  networks := observation.networks
  ports := observation.ports
  labels := observation.labels

/-- `replacement_from_observation`. -/
def replacementFromObservation (observation : RuntimeObservation)
    (artifact : ArtifactReference) : Except Failure RuntimeReplacement :=
  match artifact with
  | .oci _ _ => .ok (surfaceWith observation artifact)
  | .hostBinary _ _ =>
    match observation.artifact with
    | .hostBinary _ _ => .ok (surfaceWith observation artifact)
    | _ => .error ⟨.objectIdentityMismatch,
        "systemd replacement requires a live host-binary observation"⟩
  | .unknown => .error ⟨.artifactUnverified,
      "runtime replacement requires a verified artifact reference"⟩

theorem replacementFromObservation_ok {observation : RuntimeObservation}
    {artifact : ArtifactReference} {replacement : RuntimeReplacement}
    (h : replacementFromObservation observation artifact = .ok replacement) :
    replacement = surfaceWith observation artifact := by
  unfold replacementFromObservation at h
  split at h
  · cases h
    rfl
  · split at h
    · cases h
      rfl
    · cases h
  · cases h

/-- `exact_replacement_from_observation`. -/
def exactReplacementFromObservation (observation : RuntimeObservation) :
    Except Failure RuntimeReplacement :=
  if observation.backend = .host then
    .error ⟨.objectIdentityMismatch,
      "a live systemd executable path is not a recoverable artifact source"⟩
  else replacementFromObservation observation observation.artifact

theorem exactReplacementFromObservation_ok {observation : RuntimeObservation}
    {replacement : RuntimeReplacement}
    (h : exactReplacementFromObservation observation = .ok replacement) :
    replacement = surfaceWith observation observation.artifact := by
  unfold exactReplacementFromObservation at h
  split at h
  · cases h
  · exact replacementFromObservation_ok h

/-- A store operation: the document is loaded, changed and persisted as a whole. -/
def storeState (label : Effect)
    (operation : DeploymentState → Except Failure DeploymentState) : Exec DeploymentState :=
  perform label .deploymentUnknown do
    match (← Program.get).state with
    | none => Program.throw ⟨.deploymentUnknown, "no DeploymentState exists"⟩
    | some state =>
      let state' ← Program.ofExcept (operation state)
      Program.modify fun w => { w with state := some state' }
      pure state'

end NazoAuthCtl.TargetWorld
