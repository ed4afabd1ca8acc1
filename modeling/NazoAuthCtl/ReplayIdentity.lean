import Mathlib.Logic.Equiv.Nat
import NazoAuthCtl.WireValues
import NazoAuthCtl.InstallAdmission
import NazoAuthCtl.SnapshotImport

/-!
# The replay identity of a host operation

A target journal tells a replay from a conflict by the hash of an operation's canonical
value. That value is the wire value, except that an administrator's creation is projected by
hand, without its password. The text of a timestamp is a parameter: it names the instant.
-/

set_option autoImplicit false
set_option linter.all false

namespace NazoAuthCtl.ReplayIdentity

open JsonValue WireValues
open InstallAdmission
  (SecretMaterial OfficialArtifactRef PlannedSecret ExternalEndpoint InstallOrder)
open SnapshotImport (OffHostCopyReceipt)
open TargetState (RuntimeBackendKind ResourceOwnership ResourceScope)
open StateDocument (Resource RuntimeSurface ArtifactRefs Timestamp kindText ownershipText scopeText)

/-! ## Operations -/

def MAX_BACKUP_TRANSFER_CHUNK_BYTES : ℕ := 256 * 1024

/-- What `BackupTransferBytes::try_new` admits. -/
abbrev BackupTransferBytes :=
  {bytes : List UInt8 // bytes ≠ [] ∧ bytes.length ≤ MAX_BACKUP_TRANSFER_CHUNK_BYTES}

structure StagedConfig where
  content : String
  sha256 : String
  schema : String
  deriving DecidableEq

inductive UpdateBackupPrecondition where
  | notRequired
  | require (manifestSha256 : String) (restoreTestedAt : Timestamp) (maxAgeSeconds : UInt64)
  deriving DecidableEq

inductive StateMutationPayload where
  | bootstrap (issuer : String) (runtime : RuntimeSurface) (artifact : Option ArtifactRefs)
      (configReference configSchema : String) (resources : List Resource)
      (install : Option InstallOrder)
  | applyConfig (reference schema : String)
  | update (artifact : OfficialArtifactRef) (backupPrecondition : UpdateBackupPrecondition)
      (config : Option StagedConfig) (migrationJws migrationRequestHash : Option String)
  | rollback
  | uninstall
  deriving DecidableEq

structure RecoveryCandidateEndpoint where
  objectReference : String
  objectId : String
  deploymentId : String
  operationId : String
  loopbackPort : UInt16
  https : Bool
  deriving DecidableEq

inductive HostOperationBody where
  | ping (nonce : String)
  | hello
  | stateInspect
  | stateMutate (mutation : StateMutationPayload)
  | controlOperation (compactJws expectedDeploymentId : String) (changeSet : Option SecretMaterial)
  | stateList
  | adminCreate (email : String) (password : SecretMaterial)
  | runtimeLogs (limit : UInt64)
  | journalRead (limit : UInt64)
  | backupSnapshot
  | backupRestoreTest
  | backupRecover (expectedManifestSha256 stateEpoch : String)
  | backupRecoveryCandidateStage (recoveryOperationId stateEpoch : String)
      (artifact : OfficialArtifactRef)
  | backupRecoveryCandidateControl (endpoint : RecoveryCandidateEndpoint)
      (stateEpoch controlOperationId compactJws : String)
  | backupRecoveryCandidateCleanup (endpoint : RecoveryCandidateEndpoint)
  | backupRecoveryActivate (recoveryOperationId stateEpoch : String) (notBefore : Int64)
  | backupExportPrepare
  | backupImportPrepare
  | backupTransferRead (transferOperationId fileName : String) (offset : UInt64)
      (maximumBytes : UInt32)
  | backupTransferWrite (transferOperationId fileName : String) (offset totalBytes : UInt64)
      (fileSha256 : String) (bytes : BackupTransferBytes)
  | backupImportFinalize (transferOperationId expectedManifestSha256 sourceHostId
      destinationHostId : String)
  | backupOffHostRecord (receipt : OffHostCopyReceipt)
  | backupTransferCleanup (transferOperationId : String)

structure HostOperation where
  schema : UInt32
  operationId : String
  deploymentId : Option String
  expectedRevision : Option UInt64
  operation : HostOperationBody

/-! ## Wire values -/

def revisionNumber (revision : UInt64) : Option Json := natural revision.toNat

def surfaceFields (surface : RuntimeSurface) : Fields :=
  [("kind", text (kindText surface.kind)), ("object", text surface.object),
    ("loopback_port", natural surface.loopbackPort.toNat)]

def refsFields (refs : ArtifactRefs) : Fields :=
  [("current", optionalText refs.current), ("previous", optionalText refs.previous)]

def resourceFields (resource : Resource) : Fields :=
  [("resource_id", text resource.resourceId), ("kind", text resource.kind),
    ("locator", text resource.locator), ("ownership", text (ownershipText resource.ownership)),
    ("scope", text (scopeText resource.scope))]

def artifactFields (artifact : OfficialArtifactRef) : Fields :=
  [("repository", text artifact.repository), ("version", optionalText artifact.version)]

def materialText (material : SecretMaterial) : Option Json := base64Text material.1

def secretFields (secret : PlannedSecret) : Fields :=
  [("purpose", text secret.purpose), ("path", text secret.path),
    ("value", secret.value.bind materialText)]

def endpointFields (endpoint : ExternalEndpoint) : Fields :=
  [("host", text endpoint.host), ("port", natural endpoint.port.toNat),
    ("name", text endpoint.name), ("user", text endpoint.user)]

def orderFields (order : InstallOrder) : Fields :=
  [("artifact", some (objectOf (artifactFields order.artifact))),
    ("config_content", text order.configContent), ("config_sha256", text order.configSha256),
    ("data_root", text order.dataRoot), ("runtime_root", optionalText order.runtimeRoot),
    ("tls_material_root", optionalText order.tlsMaterialRoot),
    ("secrets", some (.array (order.secrets.map fun secret => objectOf (secretFields secret)))),
    ("database_runtime_endpoint", some (objectOf (endpointFields order.databaseRuntimeEndpoint))),
    ("database_lifecycle_endpoint",
      some (objectOf (endpointFields order.databaseLifecycleEndpoint))),
    ("valkey_endpoint", some (objectOf (endpointFields order.valkeyEndpoint)))]

def configFields (config : StagedConfig) : Fields :=
  [("content", text config.content), ("sha256", text config.sha256),
    ("schema", text config.schema)]

def candidateFields (endpoint : RecoveryCandidateEndpoint) : Fields :=
  [("object_reference", text endpoint.objectReference), ("object_id", text endpoint.objectId),
    ("deployment_id", text endpoint.deploymentId), ("operation_id", text endpoint.operationId),
    ("loopback_port", natural endpoint.loopbackPort.toNat), ("https", truth endpoint.https)]

section Timestamps

variable (timeText : Timestamp → String)

def receiptFields (receipt : OffHostCopyReceipt) : Fields :=
  [("schema", natural receipt.schema.toNat), ("deployment_id", text receipt.deploymentId),
    ("snapshot_id", text receipt.snapshotId), ("manifest_sha256", text receipt.manifestSha256),
    ("source_host_id", text receipt.sourceHostId),
    ("destination_host_id", text receipt.destinationHostId),
    ("verified_at", text (timeText receipt.verifiedAt))]

def requirementFields : UpdateBackupPrecondition → Fields
  | .notRequired => [("requirement", text "not-required")]
  | .require manifestSha256 restoreTestedAt maxAgeSeconds =>
    [("requirement", text "require"), ("manifest_sha256", text manifestSha256),
      ("restore_tested_at", text (timeText restoreTestedAt)),
      ("max_age_seconds", natural maxAgeSeconds.toNat)]

def mutationFields : StateMutationPayload → Fields
  | .bootstrap issuer runtime artifact configReference configSchema resources install =>
    [("mutation", text "bootstrap"), ("issuer", text issuer),
      ("runtime", some (objectOf (surfaceFields runtime))),
      ("artifact", artifact.map fun refs => objectOf (refsFields refs)),
      ("config_reference", text configReference), ("config_schema", text configSchema),
      ("resources", some (.array (resources.map fun resource =>
        objectOf (resourceFields resource)))),
      ("install", install.map fun order => objectOf (orderFields order))]
  | .applyConfig reference schema =>
    [("mutation", text "apply-config"), ("reference", text reference), ("schema", text schema)]
  | .update artifact backupPrecondition config migrationJws migrationRequestHash =>
    [("mutation", text "update"), ("artifact", some (objectOf (artifactFields artifact))),
      ("backup_precondition", some (objectOf (requirementFields timeText backupPrecondition))),
      ("config", config.map fun config => objectOf (configFields config)),
      ("migration_jws", optionalText migrationJws),
      ("migration_request_hash", optionalText migrationRequestHash)]
  | .rollback => [("mutation", text "rollback")]
  | .uninstall => [("mutation", text "uninstall")]

/-- The tag of a body, as the derived rename spells it. -/
def HostOperationBody.kind : HostOperationBody → String
  | .ping _ => "ping"
  | .hello => "hello"
  | .stateInspect => "state-inspect"
  | .stateMutate _ => "state-mutate"
  | .controlOperation .. => "control-operation"
  | .stateList => "state-list"
  | .adminCreate .. => "admin-create"
  | .runtimeLogs _ => "runtime-logs"
  | .journalRead _ => "journal-read"
  | .backupSnapshot => "backup-snapshot"
  | .backupRestoreTest => "backup-restore-test"
  | .backupRecover .. => "backup-recover"
  | .backupRecoveryCandidateStage .. => "backup-recovery-candidate-stage"
  | .backupRecoveryCandidateControl .. => "backup-recovery-candidate-control"
  | .backupRecoveryCandidateCleanup _ => "backup-recovery-candidate-cleanup"
  | .backupRecoveryActivate .. => "backup-recovery-activate"
  | .backupExportPrepare => "backup-export-prepare"
  | .backupImportPrepare => "backup-import-prepare"
  | .backupTransferRead .. => "backup-transfer-read"
  | .backupTransferWrite .. => "backup-transfer-write"
  | .backupImportFinalize .. => "backup-import-finalize"
  | .backupOffHostRecord _ => "backup-off-host-record"
  | .backupTransferCleanup _ => "backup-transfer-cleanup"

def payloadFields : HostOperationBody → Fields
  | .ping nonce => [("nonce", text nonce)]
  | .hello => []
  | .stateInspect => []
  | .stateMutate mutation => [("mutation", some (objectOf (mutationFields timeText mutation)))]
  | .controlOperation compactJws expectedDeploymentId changeSet =>
    [("compact_jws", text compactJws), ("expected_deployment_id", text expectedDeploymentId),
      ("change_set", changeSet.bind materialText)]
  | .stateList => []
  | .adminCreate email password => [("email", text email), ("password", materialText password)]
  | .runtimeLogs limit => [("limit", natural limit.toNat)]
  | .journalRead limit => [("limit", natural limit.toNat)]
  | .backupSnapshot => []
  | .backupRestoreTest => []
  | .backupRecover expectedManifestSha256 stateEpoch =>
    [("expected_manifest_sha256", text expectedManifestSha256), ("state_epoch", text stateEpoch)]
  | .backupRecoveryCandidateStage recoveryOperationId stateEpoch artifact =>
    [("recovery_operation_id", text recoveryOperationId), ("state_epoch", text stateEpoch),
      ("artifact", some (objectOf (artifactFields artifact)))]
  | .backupRecoveryCandidateControl endpoint stateEpoch controlOperationId compactJws =>
    [("endpoint", some (objectOf (candidateFields endpoint))), ("state_epoch", text stateEpoch),
      ("control_operation_id", text controlOperationId), ("compact_jws", text compactJws)]
  | .backupRecoveryCandidateCleanup endpoint =>
    [("endpoint", some (objectOf (candidateFields endpoint)))]
  | .backupRecoveryActivate recoveryOperationId stateEpoch notBefore =>
    [("recovery_operation_id", text recoveryOperationId), ("state_epoch", text stateEpoch),
      ("not_before", integer notBefore.toInt)]
  | .backupExportPrepare => []
  | .backupImportPrepare => []
  | .backupTransferRead transferOperationId fileName offset maximumBytes =>
    [("transfer_operation_id", text transferOperationId), ("file_name", text fileName),
      ("offset", natural offset.toNat), ("maximum_bytes", natural maximumBytes.toNat)]
  | .backupTransferWrite transferOperationId fileName offset totalBytes fileSha256 bytes =>
    [("transfer_operation_id", text transferOperationId), ("file_name", text fileName),
      ("offset", natural offset.toNat), ("total_bytes", natural totalBytes.toNat),
      ("file_sha256", text fileSha256), ("bytes", base64Text bytes.1)]
  | .backupImportFinalize transferOperationId expectedManifestSha256 sourceHostId
      destinationHostId =>
    [("transfer_operation_id", text transferOperationId),
      ("expected_manifest_sha256", text expectedManifestSha256),
      ("source_host_id", text sourceHostId), ("destination_host_id", text destinationHostId)]
  | .backupOffHostRecord receipt => [("receipt", some (objectOf (receiptFields timeText receipt)))]
  | .backupTransferCleanup transferOperationId =>
    [("transfer_operation_id", text transferOperationId)]

def bodyFields (body : HostOperationBody) : Fields :=
  ("kind", text body.kind) :: payloadFields timeText body

def operationFields (operation : HostOperation) : Fields :=
  [("schema", natural operation.schema.toNat), ("operation_id", text operation.operationId),
    ("deployment_id", optionalText operation.deploymentId),
    ("expected_revision", operation.expectedRevision.bind revisionNumber),
    ("operation", some (objectOf (bodyFields timeText operation.operation)))]

def ADMIN_CREATE_CREDENTIALS_REDACTED : String := "<redacted>"

def redactedBody (email : String) : Fields :=
  [("kind", text "admin-create"), ("email", text email),
    ("password", text ADMIN_CREATE_CREDENTIALS_REDACTED)]

/-- The projection that is written out for an administrator's creation. -/
def redactedFields (operation : HostOperation) (email : String) : Fields :=
  [("schema", natural operation.schema.toNat), ("operation_id", text operation.operationId),
    ("operation", some (objectOf (redactedBody email))),
    ("deployment_id", optionalText operation.deploymentId),
    ("expected_revision", operation.expectedRevision.bind revisionNumber)]

def canonicalOperationValue (operation : HostOperation) : Json :=
  match operation.operation with
  | .adminCreate email _ => objectOf (redactedFields operation email)
  | _ => objectOf (operationFields timeText operation)

end Timestamps

/-! ## Records are read back -/

@[simp] theorem kindText_inj {a b : RuntimeBackendKind} : kindText a = kindText b ↔ a = b := by
  cases a <;> cases b <;> decide

@[simp] theorem ownershipText_inj {a b : ResourceOwnership} :
    ownershipText a = ownershipText b ↔ a = b := by
  cases a <;> cases b <;> decide

@[simp] theorem scopeText_inj {a b : ResourceScope} : scopeText a = scopeText b ↔ a = b := by
  cases a <;> cases b <;> decide

@[simp] theorem surface_object {a b : RuntimeSurface} :
    objectOf (surfaceFields a) = objectOf (surfaceFields b) ↔ a = b := by
  refine object_iff (fun _ _ => rfl) (by simp [names, surfaceFields]) ?_
  intro a b same
  cases a
  cases b
  simpa [surfaceFields, UInt16.toNat_inj] using same

@[simp] theorem refs_object {a b : ArtifactRefs} :
    objectOf (refsFields a) = objectOf (refsFields b) ↔ a = b := by
  refine object_iff (fun _ _ => rfl) (by simp [names, refsFields]) ?_
  intro a b same
  cases a
  cases b
  simpa [refsFields] using same

@[simp] theorem resource_object {a b : Resource} :
    objectOf (resourceFields a) = objectOf (resourceFields b) ↔ a = b := by
  refine object_iff (fun _ _ => rfl) (by simp [names, resourceFields]) ?_
  intro a b same
  cases a
  cases b
  simpa [resourceFields] using same

@[simp] theorem resource_list {a b : List Resource} :
    (a.map fun resource => objectOf (resourceFields resource)) =
      (b.map fun resource => objectOf (resourceFields resource)) ↔ a = b :=
  (List.map_injective_iff.mpr fun _ _ same => resource_object.mp same).eq_iff

@[simp] theorem artifact_object {a b : OfficialArtifactRef} :
    objectOf (artifactFields a) = objectOf (artifactFields b) ↔ a = b := by
  refine object_iff (fun _ _ => rfl) (by simp [names, artifactFields]) ?_
  intro a b same
  cases a
  cases b
  simpa [artifactFields] using same

@[simp] theorem material_inj {a b : SecretMaterial} :
    materialText a = materialText b ↔ a = b := by
  rw [materialText, materialText, base64Text_inj]
  exact Subtype.val_inj

@[simp] theorem material_option {a b : Option SecretMaterial} :
    a.bind materialText = b.bind materialText ↔ a = b :=
  optional_iff (by simp [materialText, base64Text, text]) fun _ _ same => material_inj.mp same

@[simp] theorem secret_object {a b : PlannedSecret} :
    objectOf (secretFields a) = objectOf (secretFields b) ↔ a = b := by
  refine object_iff (fun _ _ => rfl) (by simp [names, secretFields]) ?_
  intro a b same
  cases a
  cases b
  simpa [secretFields] using same

@[simp] theorem secret_list {a b : List PlannedSecret} :
    (a.map fun secret => objectOf (secretFields secret)) =
      (b.map fun secret => objectOf (secretFields secret)) ↔ a = b :=
  (List.map_injective_iff.mpr fun _ _ same => secret_object.mp same).eq_iff

@[simp] theorem endpoint_object {a b : ExternalEndpoint} :
    objectOf (endpointFields a) = objectOf (endpointFields b) ↔ a = b := by
  refine object_iff (fun _ _ => rfl) (by simp [names, endpointFields]) ?_
  intro a b same
  cases a
  cases b
  simpa [endpointFields, UInt16.toNat_inj] using same

@[simp] theorem order_object {a b : InstallOrder} :
    objectOf (orderFields a) = objectOf (orderFields b) ↔ a = b := by
  refine object_iff (fun _ _ => rfl) (by simp [names, orderFields]) ?_
  intro a b same
  cases a
  cases b
  simpa [orderFields] using same

@[simp] theorem config_object {a b : StagedConfig} :
    objectOf (configFields a) = objectOf (configFields b) ↔ a = b := by
  refine object_iff (fun _ _ => rfl) (by simp [names, configFields]) ?_
  intro a b same
  cases a
  cases b
  simpa [configFields] using same

@[simp] theorem candidate_object {a b : RecoveryCandidateEndpoint} :
    objectOf (candidateFields a) = objectOf (candidateFields b) ↔ a = b := by
  refine object_iff (fun _ _ => rfl) (by simp [names, candidateFields]) ?_
  intro a b same
  cases a
  cases b
  simpa [candidateFields, UInt16.toNat_inj] using same

section Timestamps

variable {timeText : Timestamp → String}

theorem receipt_object (named : Function.Injective timeText) {a b : OffHostCopyReceipt} :
    objectOf (receiptFields timeText a) = objectOf (receiptFields timeText b) ↔ a = b := by
  refine object_iff (fun _ _ => rfl) (by simp [names, receiptFields]) ?_
  intro a b same
  cases a
  cases b
  simpa [receiptFields, UInt32.toNat_inj, named.eq_iff] using same

theorem requirement_distinct (requirement : UpdateBackupPrecondition) :
    (names (requirementFields timeText requirement)).Nodup := by
  cases requirement <;> simp [names, requirementFields]

theorem requirement_object (named : Function.Injective timeText) {a b : UpdateBackupPrecondition} :
    objectOf (requirementFields timeText a) = objectOf (requirementFields timeText b) ↔ a = b := by
  constructor
  · intro same
    have tags := valueOf_same (requirement_distinct a) (requirement_distinct b) same "requirement"
    cases a with
    | notRequired =>
      cases b with
      | notRequired => rfl
      | require => simp [requirementFields, valueOf] at tags
    | require =>
      cases b with
      | notRequired => simp [requirementFields, valueOf] at tags
      | require =>
        have fields := objectOf_inj same rfl (requirement_distinct _)
        simpa [requirementFields, UInt64.toNat_inj, named.eq_iff] using fields
  · rintro rfl
    rfl

theorem mutation_distinct (mutation : StateMutationPayload) :
    (names (mutationFields timeText mutation)).Nodup := by
  cases mutation <;> simp [names, mutationFields]

@[simp] theorem refs_option {a b : Option ArtifactRefs} :
    (a.map fun refs => objectOf (refsFields refs)) =
      (b.map fun refs => objectOf (refsFields refs)) ↔ a = b :=
  (Option.map_injective fun _ _ same => refs_object.mp same).eq_iff

@[simp] theorem order_option {a b : Option InstallOrder} :
    (a.map fun order => objectOf (orderFields order)) =
      (b.map fun order => objectOf (orderFields order)) ↔ a = b :=
  (Option.map_injective fun _ _ same => order_object.mp same).eq_iff

@[simp] theorem config_option {a b : Option StagedConfig} :
    (a.map fun config => objectOf (configFields config)) =
      (b.map fun config => objectOf (configFields config)) ↔ a = b :=
  (Option.map_injective fun _ _ same => config_object.mp same).eq_iff

theorem mutation_object (named : Function.Injective timeText) {a b : StateMutationPayload} :
    objectOf (mutationFields timeText a) = objectOf (mutationFields timeText b) ↔ a = b := by
  constructor
  · intro same
    have tags := valueOf_same (mutation_distinct a) (mutation_distinct b) same "mutation"
    cases a with
    | bootstrap =>
      cases b with
      | bootstrap =>
        have fields := objectOf_inj same rfl (mutation_distinct _)
        simpa [mutationFields] using fields
      | _ => simp [mutationFields, valueOf] at tags
    | applyConfig =>
      cases b with
      | applyConfig =>
        have fields := objectOf_inj same rfl (mutation_distinct _)
        simpa [mutationFields] using fields
      | _ => simp [mutationFields, valueOf] at tags
    | update =>
      cases b with
      | update =>
        have fields := objectOf_inj same rfl (mutation_distinct _)
        simpa [mutationFields, requirement_object named] using fields
      | _ => simp [mutationFields, valueOf] at tags
    | rollback =>
      cases b with
      | rollback => rfl
      | _ => simp [mutationFields, valueOf] at tags
    | uninstall =>
      cases b with
      | uninstall => rfl
      | _ => simp [mutationFields, valueOf] at tags
  · rintro rfl
    rfl

/-! ## Bodies -/

theorem body_distinct (body : HostOperationBody) : (names (bodyFields timeText body)).Nodup := by
  cases body <;> simp [names, bodyFields, payloadFields]

/-- The tags in the order of the constructors. -/
def kinds : List String :=
  ["ping", "hello", "state-inspect", "state-mutate", "control-operation", "state-list",
    "admin-create", "runtime-logs", "journal-read", "backup-snapshot", "backup-restore-test",
    "backup-recover", "backup-recovery-candidate-stage", "backup-recovery-candidate-control",
    "backup-recovery-candidate-cleanup", "backup-recovery-activate", "backup-export-prepare",
    "backup-import-prepare", "backup-transfer-read", "backup-transfer-write",
    "backup-import-finalize", "backup-off-host-record", "backup-transfer-cleanup"]

theorem kind_index (body : HostOperationBody) : kinds.idxOf body.kind = body.ctorIdx := by
  cases body <;> rfl

theorem body_kind {a b : HostOperationBody}
    (same : objectOf (bodyFields timeText a) = objectOf (bodyFields timeText b)) :
    b.ctorIdx = a.ctorIdx := by
  have tags := tag_same (body_distinct a) (body_distinct b) same
  rw [text_inj] at tags
  rw [← kind_index, ← kind_index, tags]

theorem payload_same {a b : HostOperationBody}
    (same : objectOf (bodyFields timeText a) = objectOf (bodyFields timeText b))
    (named : names (bodyFields timeText a) = names (bodyFields timeText b)) :
    payloadFields timeText a = payloadFields timeText b :=
  (List.cons.inj (objectOf_inj same named (body_distinct a))).2

/-- A body is read back from its tag and its payload. -/
theorem body_object (named : Function.Injective timeText) {a b : HostOperationBody} :
    objectOf (bodyFields timeText a) = objectOf (bodyFields timeText b) ↔ a = b := by
  constructor
  · intro same
    have index := body_kind same
    cases a with
    | ping nonce =>
      obtain ⟨nonce', rfl⟩ : ∃ nonce', b = .ping nonce' :=
        HostOperationBody.ping.elim b index fun nonce => ⟨nonce, rfl⟩
      have payload := payload_same same rfl
      simpa [payloadFields] using payload
    | hello => exact HostOperationBody.hello.elim b index rfl
    | stateInspect => exact HostOperationBody.stateInspect.elim b index rfl
    | stateMutate mutation =>
      obtain ⟨mutation', rfl⟩ : ∃ mutation', b = .stateMutate mutation' :=
        HostOperationBody.stateMutate.elim b index fun mutation => ⟨mutation, rfl⟩
      have payload := payload_same same rfl
      simpa [payloadFields, mutation_object named] using payload
    | controlOperation compactJws expected changeSet =>
      obtain ⟨compactJws', expected', changeSet', rfl⟩ : ∃ compactJws' expected' changeSet',
          b = .controlOperation compactJws' expected' changeSet' :=
        HostOperationBody.controlOperation.elim b index fun compactJws expected changeSet =>
          ⟨compactJws, expected, changeSet, rfl⟩
      have payload := payload_same same rfl
      simpa [payloadFields] using payload
    | stateList => exact HostOperationBody.stateList.elim b index rfl
    | adminCreate email password =>
      obtain ⟨email', password', rfl⟩ : ∃ email' password', b = .adminCreate email' password' :=
        HostOperationBody.adminCreate.elim b index fun email password => ⟨email, password, rfl⟩
      have payload := payload_same same rfl
      simpa [payloadFields] using payload
    | runtimeLogs limit =>
      obtain ⟨limit', rfl⟩ : ∃ limit', b = .runtimeLogs limit' :=
        HostOperationBody.runtimeLogs.elim b index fun limit => ⟨limit, rfl⟩
      have payload := payload_same same rfl
      simpa [payloadFields, UInt64.toNat_inj] using payload
    | journalRead limit =>
      obtain ⟨limit', rfl⟩ : ∃ limit', b = .journalRead limit' :=
        HostOperationBody.journalRead.elim b index fun limit => ⟨limit, rfl⟩
      have payload := payload_same same rfl
      simpa [payloadFields, UInt64.toNat_inj] using payload
    | backupSnapshot => exact HostOperationBody.backupSnapshot.elim b index rfl
    | backupRestoreTest => exact HostOperationBody.backupRestoreTest.elim b index rfl
    | backupRecover manifest epoch =>
      obtain ⟨manifest', epoch', rfl⟩ : ∃ manifest' epoch', b = .backupRecover manifest' epoch' :=
        HostOperationBody.backupRecover.elim b index fun manifest epoch => ⟨manifest, epoch, rfl⟩
      have payload := payload_same same rfl
      simpa [payloadFields] using payload
    | backupRecoveryCandidateStage recovery epoch artifact =>
      obtain ⟨recovery', epoch', artifact', rfl⟩ : ∃ recovery' epoch' artifact',
          b = .backupRecoveryCandidateStage recovery' epoch' artifact' :=
        HostOperationBody.backupRecoveryCandidateStage.elim b index fun recovery epoch artifact =>
          ⟨recovery, epoch, artifact, rfl⟩
      have payload := payload_same same rfl
      simpa [payloadFields] using payload
    | backupRecoveryCandidateControl endpoint epoch control compactJws =>
      obtain ⟨endpoint', epoch', control', compactJws', rfl⟩ :
          ∃ endpoint' epoch' control' compactJws',
            b = .backupRecoveryCandidateControl endpoint' epoch' control' compactJws' :=
        HostOperationBody.backupRecoveryCandidateControl.elim b index
          fun endpoint epoch control compactJws => ⟨endpoint, epoch, control, compactJws, rfl⟩
      have payload := payload_same same rfl
      simpa [payloadFields] using payload
    | backupRecoveryCandidateCleanup endpoint =>
      obtain ⟨endpoint', rfl⟩ : ∃ endpoint', b = .backupRecoveryCandidateCleanup endpoint' :=
        HostOperationBody.backupRecoveryCandidateCleanup.elim b index fun endpoint =>
          ⟨endpoint, rfl⟩
      have payload := payload_same same rfl
      simpa [payloadFields] using payload
    | backupRecoveryActivate recovery epoch notBefore =>
      obtain ⟨recovery', epoch', notBefore', rfl⟩ : ∃ recovery' epoch' notBefore',
          b = .backupRecoveryActivate recovery' epoch' notBefore' :=
        HostOperationBody.backupRecoveryActivate.elim b index fun recovery epoch notBefore =>
          ⟨recovery, epoch, notBefore, rfl⟩
      have payload := payload_same same rfl
      simpa [payloadFields, Int64.toInt_inj] using payload
    | backupExportPrepare => exact HostOperationBody.backupExportPrepare.elim b index rfl
    | backupImportPrepare => exact HostOperationBody.backupImportPrepare.elim b index rfl
    | backupTransferRead transfer file offset maximum =>
      obtain ⟨transfer', file', offset', maximum', rfl⟩ : ∃ transfer' file' offset' maximum',
          b = .backupTransferRead transfer' file' offset' maximum' :=
        HostOperationBody.backupTransferRead.elim b index fun transfer file offset maximum =>
          ⟨transfer, file, offset, maximum, rfl⟩
      have payload := payload_same same rfl
      simpa [payloadFields, UInt64.toNat_inj, UInt32.toNat_inj] using payload
    | backupTransferWrite transfer file offset total digest bytes =>
      obtain ⟨transfer', file', offset', total', digest', bytes', rfl⟩ :
          ∃ transfer' file' offset' total' digest' bytes',
            b = .backupTransferWrite transfer' file' offset' total' digest' bytes' :=
        HostOperationBody.backupTransferWrite.elim b index
          fun transfer file offset total digest bytes =>
            ⟨transfer, file, offset, total, digest, bytes, rfl⟩
      have payload := payload_same same rfl
      simpa [payloadFields, UInt64.toNat_inj, Subtype.ext_iff] using payload
    | backupImportFinalize transfer manifest source destination =>
      obtain ⟨transfer', manifest', source', destination', rfl⟩ :
          ∃ transfer' manifest' source' destination',
            b = .backupImportFinalize transfer' manifest' source' destination' :=
        HostOperationBody.backupImportFinalize.elim b index
          fun transfer manifest source destination => ⟨transfer, manifest, source, destination, rfl⟩
      have payload := payload_same same rfl
      simpa [payloadFields] using payload
    | backupOffHostRecord receipt =>
      obtain ⟨receipt', rfl⟩ : ∃ receipt', b = .backupOffHostRecord receipt' :=
        HostOperationBody.backupOffHostRecord.elim b index fun receipt => ⟨receipt, rfl⟩
      have payload := payload_same same rfl
      simpa [payloadFields, receipt_object named] using payload
    | backupTransferCleanup transfer =>
      obtain ⟨transfer', rfl⟩ : ∃ transfer', b = .backupTransferCleanup transfer' :=
        HostOperationBody.backupTransferCleanup.elim b index fun transfer => ⟨transfer, rfl⟩
      have payload := payload_same same rfl
      simpa [payloadFields] using payload
  · rintro rfl
    rfl

/-! ## Canonical values -/

variable (timeText) in
/-- The body as the canonical value shows it. -/
def canonicalBody : HostOperationBody → Json
  | .adminCreate email _ => objectOf (redactedBody email)
  | body => objectOf (bodyFields timeText body)

def Other (body : HostOperationBody) : Prop := ∀ email password, body ≠ .adminCreate email password

theorem admin_or_other (body : HostOperationBody) :
    (∃ email password, body = .adminCreate email password) ∨ Other body := by
  by_cases admin : ∃ email password, body = .adminCreate email password
  · exact .inl admin
  · exact .inr fun email password same => admin ⟨email, password, same⟩

theorem canonicalBody_other {body : HostOperationBody} (other : Other body) :
    canonicalBody timeText body = objectOf (bodyFields timeText body) := by
  cases body with
  | adminCreate email password => exact absurd rfl (other email password)
  | _ => rfl

theorem canonical_other {operation : HostOperation} (other : Other operation.operation) :
    canonicalOperationValue timeText operation =
      objectOf (operationFields timeText operation) := by
  rw [canonicalOperationValue]
  cases shape : operation.operation with
  | adminCreate email password => exact absurd shape (other email password)
  | _ => rfl

/-- Whichever way a canonical value is built, it has the parts of its operation. -/
theorem canonical_parts (operation : HostOperation) :
    ∃ fields, canonicalOperationValue timeText operation = objectOf fields ∧
      (names fields).Nodup ∧ valueOf fields "schema" = natural operation.schema.toNat ∧
      valueOf fields "operation_id" = text operation.operationId ∧
      valueOf fields "deployment_id" = optionalText operation.deploymentId ∧
      valueOf fields "expected_revision" = operation.expectedRevision.bind revisionNumber ∧
      valueOf fields "operation" = some (canonicalBody timeText operation.operation) := by
  obtain ⟨email, password, admin⟩ | other := admin_or_other operation.operation
  · refine ⟨redactedFields operation email, ?_, by simp [names, redactedFields], ?_⟩
    · rw [canonicalOperationValue, admin]
    · simp [redactedFields, valueOf, admin, canonicalBody]
  · refine ⟨operationFields timeText operation, canonical_other other,
      by simp [names, operationFields], ?_⟩
    simp [operationFields, valueOf, canonicalBody_other other]

@[simp] theorem revision_option {a b : Option UInt64} :
    a.bind revisionNumber = b.bind revisionNumber ↔ a = b :=
  optional_iff (by simp [revisionNumber, natural]) fun _ _ same => by
    simpa [revisionNumber, UInt64.toNat_inj] using same

theorem redacted_distinct (email : String) : (names (redactedBody email)).Nodup := by
  simp [names, redactedBody]

/-- No other body is projected like an administrator's creation. -/
theorem redacted_other {body : HostOperationBody} {email : String} (other : Other body)
    (same : objectOf (redactedBody email) = objectOf (bodyFields timeText body)) : False := by
  have tags := tag_same (redacted_distinct email) (body_distinct body) same
  rw [text_inj] at tags
  have index : body.ctorIdx = 6 := by
    rw [← kind_index, ← tags]
    rfl
  obtain ⟨email', password, shape⟩ : ∃ email' password, body = .adminCreate email' password :=
    HostOperationBody.adminCreate.elim body index fun email' password => ⟨email', password, rfl⟩
  exact other email' password shape

theorem canonicalBody_same (named : Function.Injective timeText) {a b : HostOperationBody}
    (same : canonicalBody timeText a = canonicalBody timeText b) :
    a = b ∨ ∃ email passwordA passwordB, a = .adminCreate email passwordA ∧
      b = .adminCreate email passwordB := by
  obtain ⟨emailA, passwordA, rfl⟩ | otherA := admin_or_other a
  · obtain ⟨emailB, passwordB, rfl⟩ | otherB := admin_or_other b
    · have fields := objectOf_inj same rfl (redacted_distinct emailA)
      have email : emailA = emailB := by simpa [redactedBody] using fields
      subst email
      exact .inr ⟨emailA, passwordA, passwordB, rfl, rfl⟩
    · rw [canonicalBody_other otherB] at same
      exact (redacted_other otherB same).elim
  · obtain ⟨emailB, passwordB, rfl⟩ | otherB := admin_or_other b
    · rw [canonicalBody_other otherA] at same
      exact (redacted_other otherA same.symm).elim
    · rw [canonicalBody_other otherA, canonicalBody_other otherB] at same
      exact .inl ((body_object named).mp same)

/-- The canonical value tells operations apart but for an administrator's password. -/
theorem canonical_value_faithful (named : Function.Injective timeText) (a b : HostOperation) :
    canonicalOperationValue timeText a = canonicalOperationValue timeText b ↔
      a = b ∨ ∃ email passwordA passwordB, a.operation = .adminCreate email passwordA ∧
        b = { a with operation := .adminCreate email passwordB } := by
  constructor
  · intro same
    obtain ⟨fieldsA, valueA, distinctA, schemaA, idA, deploymentA, revisionA, bodyA⟩ :=
      @canonical_parts timeText a
    obtain ⟨fieldsB, valueB, distinctB, schemaB, idB, deploymentB, revisionB, bodyB⟩ :=
      @canonical_parts timeText b
    rw [valueA, valueB] at same
    have parts := valueOf_same distinctA distinctB same
    have schema := parts "schema"
    have id := parts "operation_id"
    have deployment := parts "deployment_id"
    have revision := parts "expected_revision"
    have body := parts "operation"
    rw [schemaA, schemaB, natural_inj, UInt32.toNat_inj] at schema
    rw [idA, idB, text_inj] at id
    rw [deploymentA, deploymentB, optionalText_inj] at deployment
    rw [revisionA, revisionB, revision_option] at revision
    rw [bodyA, bodyB, Option.some.injEq] at body
    obtain ⟨schemaOfA, idOfA, deploymentOfA, revisionOfA, operationOfA⟩ := a
    obtain ⟨schemaOfB, idOfB, deploymentOfB, revisionOfB, operationOfB⟩ := b
    cases schema
    cases id
    cases deployment
    cases revision
    obtain equal | ⟨email, passwordA, passwordB, adminA, adminB⟩ := canonicalBody_same named body
    · cases equal
      exact .inl rfl
    · cases adminB
      exact .inr ⟨email, passwordA, passwordB, adminA, rfl⟩
  · rintro (rfl | ⟨email, passwordA, passwordB, adminA, rfl⟩)
    · rfl
    · rw [canonicalOperationValue, adminA]
      rfl

end Timestamps

/-! ## A replay and a conflict -/

/-- An injective text of instants, with the real text at the epoch. -/
def epochText (time : Timestamp) : String :=
  String.ofList ("1970-01-01T00:00:00".toList ++
    (List.replicate (Equiv.intEquivNat time) '0' ++ ['Z']))

theorem epochText_injective : Function.Injective epochText := by
  intro a b same
  have zeros := List.append_cancel_right (List.append_cancel_left (String.ofList_inj.mp same))
  have length := congrArg List.length zeros
  rw [List.length_replicate, List.length_replicate] at length
  exact Equiv.intEquivNat.injective length

def material (byte : UInt8) : SecretMaterial :=
  ⟨[byte], by simp [InstallAdmission.MAX_CONTROL_CHANGE_SET_BYTES]⟩

def createAdmin (byte : UInt8) : HostOperation where
  schema := 11
  operationId := "0198f2c0-a1b2-7c3d-8e4f-5a6b7c8d9e0f"
  deploymentId := some "deploy-0198f2c0a1b27c3d8e4f5a6b7c8d9e0f"
  expectedRevision := none
  operation := .adminCreate "admin@example.com" (material byte)

def epochReceipt : OffHostCopyReceipt where
  schema := 1
  deploymentId := "deploy-0198f2c0a1b27c3d8e4f5a6b7c8d9e0f"
  snapshotId := "0198f2c0-a1b2-7c3d-8e4f-5a6b7c8d9e10"
  manifestSha256 := "e3b0c44298fc1c149afbf4c8996fb92427ae41e4649b934ca495991b7852b855"
  sourceHostId := "source"
  destinationHostId := "destination"
  verifiedAt := 0

def recordReceipt : HostOperation :=
  { createAdmin 0 with operation := .backupOffHostRecord epochReceipt }

theorem replay_and_conflict :
    canonicalOperationValue epochText (createAdmin 1) =
        canonicalOperationValue epochText (createAdmin 2) ∧
      canonicalOperationValue epochText (createAdmin 1) ≠
        canonicalOperationValue epochText recordReceipt := by
  constructor
  · exact (canonical_value_faithful epochText_injective _ _).mpr
      (.inr ⟨"admin@example.com", material 1, material 2, rfl, rfl⟩)
  · intro same
    obtain equal | ⟨email, passwordA, passwordB, _, other⟩ :=
      (canonical_value_faithful epochText_injective _ _).mp same
    · cases congrArg HostOperation.operation equal
    · cases congrArg HostOperation.operation other

end NazoAuthCtl.ReplayIdentity
