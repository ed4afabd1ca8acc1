import NazoAuthCtl.StructDecoding
import NazoAuthCtl.ReplayIdentity
import NazoAuthCtl.SnapshotManifests

/-!
# Published deployment states

`read_deployment_state` takes a current document as it is and migrates one of schema 7 as an
untyped tree: it removes the rollback policies, and where the current one forbids a rollback
it also removes the previous release. The tree is then read by the closed current reader.
Errors of the document library are not told apart.
-/

set_option autoImplicit false
set_option linter.all false

namespace NazoAuthCtl.PublishedStates

open JsonValue WireValues StructDecoding Checks StateDocument
open ReplayIdentity (surfaceFields refsFields resourceFields)
open SnapshotManifests (LegacyDatabaseRestore LegacyRollbackPolicy)
open TargetState (RuntimeBackendKind ResourceOwnership ResourceScope)

inductive ReadError where
  | document
  | state (message : String)
  deriving DecidableEq

structure StateFormats where
  platform : DocumentPlatform
  parseTime : String → Option Timestamp
  semver : String → Except String Unit

def ofOption {α : Type} : Option α → Except ReadError α
  | some value => .ok value
  | none => .error .document

/-! ## The current reader -/

def kindOf (name : String) : Option RuntimeBackendKind :=
  if name = "podman" then some .podman
  else if name = "docker" then some .docker
  else if name = "host" then some .host
  else none

def ownershipOf (name : String) : Option ResourceOwnership :=
  if name = "managed" then some .managed
  else if name = "external" then some .external
  else none

def scopeOf (name : String) : Option ResourceScope :=
  if name = "deployment" then some .deployment
  else if name = "shared" then some .shared
  else none

def databaseRestoreOf (name : String) : Option LegacyDatabaseRestore :=
  if name = "backup" then some .backup
  else if name = "pitr" then some .pitr
  else if name = "none" then some .none
  else none

def readVariant {α : Type} (variant : String → Option α) (value : Json) : Option α :=
  (variantName value).bind variant

def readSurface (value : Json) : Option RuntimeSurface := do
  let fields ← structFields ["kind", "object", "loopback_port"] value
  let kind ← required (readVariant kindOf) (fields "kind")
  let object ← required Json.asString (fields "object")
  let loopbackPort ← required readUInt16 (fields "loopback_port")
  some ⟨kind, object, loopbackPort⟩

def artifactNames : List String := ["current", "previous"]

def readArtifact (value : Json) : Option ArtifactRefs := do
  let fields ← structFields artifactNames value
  let current ← optional Json.asString (fields "current")
  let previous ← optional Json.asString (fields "previous")
  some ⟨current, previous⟩

def readConfig (value : Json) : Option ConfigState := do
  let fields ← structFields ["reference", "schema", "revision"] value
  let reference ← required Json.asString (fields "reference")
  let schema ← required Json.asString (fields "schema")
  let revision ← required readUInt64 (fields "revision")
  some ⟨reference, schema, revision⟩

def readResource (value : Json) : Option Resource := do
  let fields ← structFields ["resource_id", "kind", "locator", "ownership", "scope"] value
  let resourceId ← required Json.asString (fields "resource_id")
  let kind ← required Json.asString (fields "kind")
  let locator ← required Json.asString (fields "locator")
  let ownership ← required (readVariant ownershipOf) (fields "ownership")
  let scope ← required (readVariant scopeOf) (fields "scope")
  some ⟨resourceId, kind, locator, ownership, scope⟩

def readRelease (value : Json) : Option ReleaseVersion := do
  let fields ← structFields ["version"] value
  let version ← required Json.asString (fields "version")
  some ⟨version⟩

def readPolicy (value : Json) : Option LegacyRollbackPolicy := do
  let fields ← structFields ["artifact", "schema_compatible", "database_restore",
    "irreversible_migration", "minimum_supported_version", "migration_floor", "rationale"] value
  let artifact ← required Json.asBool (fields "artifact")
  let schemaCompatible ← required Json.asBool (fields "schema_compatible")
  let databaseRestore ← required (readVariant databaseRestoreOf) (fields "database_restore")
  let irreversibleMigration ← required Json.asBool (fields "irreversible_migration")
  let minimumSupportedVersion ← required Json.asString (fields "minimum_supported_version")
  let migrationFloor ← required Json.asString (fields "migration_floor")
  let rationale ← required Json.asString (fields "rationale")
  some ⟨artifact, schemaCompatible, databaseRestore, irreversibleMigration,
    minimumSupportedVersion, migrationFloor, rationale⟩

def readTime (formats : StateFormats) (value : Json) : Option Timestamp :=
  value.asString.bind formats.parseTime

def readHealth (formats : StateFormats) (value : Json) : Option HealthRecord := do
  let fields ← structFields ["healthy", "summary", "checked_at"] value
  let healthy ← required Json.asBool (fields "healthy")
  let summary ← required Json.asString (fields "summary")
  let checkedAt ← required (readTime formats) (fields "checked_at")
  some ⟨healthy, summary, checkedAt⟩

def readActive (formats : StateFormats) (value : Json) : Option ActiveHostOperationRef := do
  let fields ← structFields ["operation_id", "applied_at"] value
  let operationId ← required Json.asString (fields "operation_id")
  let appliedAt ← required (readTime formats) (fields "applied_at")
  some ⟨operationId, appliedAt⟩

def readMigration (formats : StateFormats) (value : Json) : Option AppliedMigration := do
  let fields ← structFields ["operation_id", "target_artifact", "applied_at"] value
  let operationId ← required Json.asString (fields "operation_id")
  let targetArtifact ← required Json.asString (fields "target_artifact")
  let appliedAt ← required (readTime formats) (fields "applied_at")
  some ⟨operationId, targetArtifact, appliedAt⟩

def stateNames : List String :=
  ["schema", "deployment_id", "issuer", "runtime", "artifact", "config", "resources",
    "local_health", "applied_migration", "active_host_operation", "current_release",
    "previous_release", "previous_config_snapshot"]

def readDocument (formats : StateFormats) (value : Json) : Option DeploymentState := do
  let fields ← structFields stateNames value
  let schema ← required readUInt32 (fields "schema")
  let deploymentId ← required Json.asString (fields "deployment_id")
  let issuer ← required Json.asString (fields "issuer")
  let runtime ← required readSurface (fields "runtime")
  let artifact ← required readArtifact (fields "artifact")
  let config ← required readConfig (fields "config")
  let resources ← required (readList readResource) (fields "resources")
  let localHealth ← required (readHealth formats) (fields "local_health")
  let appliedMigration ← optional (readMigration formats) (fields "applied_migration")
  let activeHostOperation ← optional (readActive formats) (fields "active_host_operation")
  let currentRelease ← optional readRelease (fields "current_release")
  let previousRelease ← optional readRelease (fields "previous_release")
  let previousConfigSnapshot ← optional Json.asString (fields "previous_config_snapshot")
  some ⟨schema, deploymentId, issuer, runtime, artifact, config, resources, localHealth,
    appliedMigration, activeHostOperation, currentRelease, previousRelease,
    previousConfigSnapshot⟩

/-! ## Migration -/

/-- The probe of the schema ignores the other members, but not a second schema. -/
def probeSchema : Json → Option UInt32
  | .object members =>
    if (members.filter fun entry => entry.1 = "schema").length ≤ 1 then
      (member members "schema").bind readUInt32
    else none
  | .array [value] => readUInt32 value
  | _ => none

def readValidPolicy (formats : StateFormats) (value : Json) :
    Except ReadError LegacyRollbackPolicy := do
  let policy ← ofOption (readPolicy value)
  (policy.validate formats.semver).mapError .state
  .ok policy

def checkPreviousPolicy (formats : StateFormats) : Option Json → Except ReadError Unit
  | none => .ok ()
  | some .null => .ok ()
  | some value => do
    let _ ← readValidPolicy formats value
    .ok ()

def clearPrevious : Json → Json
  | .object members => .object (SortedMap.insertEntry "previous" .null members)
  | other => other

/-- Preserve the old prohibition even when it retained a previous artifact. -/
def prohibit (members : Members) : Members :=
  removeMember "previous_release" (updateMember "artifact" clearPrevious members)

def dropPolicy : Json → Json
  | .object members => .object (removeMember "rollback_policy" members)
  | other => other

def migratePending (formats : StateFormats) (members : Members) : Except ReadError Members :=
  match member members "applied_migration" with
  | some (.object migration) =>
    match member migration "rollback_policy" with
    | none => .error (.state "schema 7 migration requires its rollback policy")
    | some value => do
      let _ ← readValidPolicy formats value
      .ok (updateMember "applied_migration" dropPolicy members)
  | _ => .ok members

def withoutPolicies (members : Members) : Members :=
  removeMember "previous_rollback_policy" (removeMember "current_rollback_policy" members)

def migrateMembers (formats : StateFormats) (members : Members) : Except ReadError Members :=
  match member members "current_rollback_policy" with
  | none => .error (.state "schema 7 requires its rollback policy")
  | some value => do
    let policy ← readValidPolicy formats value
    checkPreviousPolicy formats (member members "previous_rollback_policy")
    let migrated ← migratePending formats
      (if policy.allowsArtifactRollback then withoutPolicies members
        else prohibit (withoutPolicies members))
    .ok (SortedMap.insertEntry "schema" (.number (.natural deploymentStateSchema.toNat)) migrated)

def validState (formats : StateFormats) (state : DeploymentState) :
    Except ReadError DeploymentState := do
  (state.validate formats.platform).mapError .state
  .ok state

def readDeploymentState (formats : StateFormats) (document : Json) :
    Except ReadError DeploymentState :=
  match readDocument formats document with
  | some state => validState formats state
  | none => do
    let schema ← ofOption (probeSchema document)
    if schema = deploymentStateSchema then .error .document
    else if schema = 7 then
      match collapse document with
      | .object members => do
        let migrated ← migrateMembers formats members
        let state ← ofOption (readDocument formats (.object migrated))
        validState formats state
      | _ => .error (.state "deployment state must be an object")
    else .error (.state (s!"unsupported deployment state schema {schema}; preserve this state " ++
      "and use a controller supporting its format"))

/-! ## The current writer -/

def configFields (config : ConfigState) : Fields :=
  [("reference", text config.reference), ("schema", text config.schema),
    ("revision", natural config.revision.toNat)]

def releaseFields (release : ReleaseVersion) : Fields := [("version", text release.version)]

section Writer

variable (timeText : Timestamp → String)

def healthFields (health : HealthRecord) : Fields :=
  [("healthy", truth health.healthy), ("summary", text health.summary),
    ("checked_at", text (timeText health.checkedAt))]

def activeFields (active : ActiveHostOperationRef) : Fields :=
  [("operation_id", text active.operationId), ("applied_at", text (timeText active.appliedAt))]

def migrationFields (migration : AppliedMigration) : Fields :=
  [("operation_id", text migration.operationId),
    ("target_artifact", text migration.targetArtifact),
    ("applied_at", text (timeText migration.appliedAt))]

def stateFields (state : DeploymentState) : Fields :=
  [("schema", natural state.schema.toNat), ("deployment_id", text state.deploymentId),
    ("issuer", text state.issuer), ("runtime", some (recordOf (surfaceFields state.runtime))),
    ("artifact", some (recordOf (refsFields state.artifact))),
    ("config", some (recordOf (configFields state.config))),
    ("resources", some (.array (state.resources.map fun resource =>
      recordOf (resourceFields resource)))),
    ("local_health", some (recordOf (healthFields timeText state.localHealth))),
    ("applied_migration", state.appliedMigration.map fun migration =>
      recordOf (migrationFields timeText migration)),
    ("active_host_operation", state.activeHostOperation.map fun active =>
      recordOf (activeFields timeText active)),
    ("current_release", state.currentRelease.map fun release => recordOf (releaseFields release)),
    ("previous_release", state.previousRelease.map fun release =>
      recordOf (releaseFields release)),
    ("previous_config_snapshot", optionalText state.previousConfigSnapshot)]

def stateDocument (state : DeploymentState) : Json := recordOf (stateFields timeText state)

end Writer

/-! ## What is written is read back -/

theorem kind_written (kind : RuntimeBackendKind) :
    readVariant kindOf (.string (kindText kind)) = some kind := by
  cases kind <;> rfl

theorem ownership_written (ownership : ResourceOwnership) :
    readVariant ownershipOf (.string (ownershipText ownership)) = some ownership := by
  cases ownership <;> rfl

theorem scope_written (scope : ResourceScope) :
    readVariant scopeOf (.string (scopeText scope)) = some scope := by
  cases scope <;> rfl

theorem text_written (value : Option String) :
    optional Json.asString (optionalText value) = some value := by
  have defined : ∀ value : String, Json.string value ≠ .null := by
    intro value same
    cases same
  exact optional_map defined (fun _ => rfl) value

theorem surface_written (surface : RuntimeSurface) :
    readSurface (recordOf (surfaceFields surface)) = some surface := by
  have fields : structFields ["kind", "object", "loopback_port"]
      (recordOf (surfaceFields surface)) = some (valueOf (surfaceFields surface)) :=
    structFields_record rfl (by decide)
  unfold readSurface
  rw [fields]
  simp [surfaceFields, valueOf, text, natural, kind_written,
    readUInt16_number, Json.asString]

theorem artifact_written (artifact : ArtifactRefs) :
    readArtifact (recordOf (refsFields artifact)) = some artifact := by
  have fields : structFields artifactNames (recordOf (refsFields artifact)) =
      some (valueOf (refsFields artifact)) := structFields_record rfl (by decide)
  unfold readArtifact
  rw [fields]
  simp [refsFields, valueOf, text_written]

theorem config_written (config : ConfigState) :
    readConfig (recordOf (configFields config)) = some config := by
  have fields : structFields ["reference", "schema", "revision"]
      (recordOf (configFields config)) = some (valueOf (configFields config)) :=
    structFields_record rfl (by decide)
  unfold readConfig
  rw [fields]
  simp [configFields, valueOf, text, natural, readUInt64_number,
    Json.asString]

theorem resource_written (resource : Resource) :
    readResource (recordOf (resourceFields resource)) = some resource := by
  have fields : structFields ["resource_id", "kind", "locator", "ownership", "scope"]
      (recordOf (resourceFields resource)) = some (valueOf (resourceFields resource)) :=
    structFields_record rfl (by decide)
  unfold readResource
  rw [fields]
  simp [resourceFields, valueOf, text, ownership_written, scope_written,
    Json.asString]

theorem release_written (release : ReleaseVersion) :
    readRelease (recordOf (releaseFields release)) = some release := by
  have fields : structFields ["version"] (recordOf (releaseFields release)) =
      some (valueOf (releaseFields release)) := structFields_record rfl (by decide)
  unfold readRelease
  rw [fields]
  simp [releaseFields, valueOf, text, Json.asString]

section Formats

variable {formats : StateFormats}

/-- The library reads back the instants that it writes. -/
def ReadsTimes (formats : StateFormats) : Prop :=
  ∀ time, formats.parseTime (formats.platform.timeText time) = some time

theorem time_written (times : ReadsTimes formats) (time : Timestamp) :
    readTime formats (.string (formats.platform.timeText time)) = some time :=
  times time

theorem health_written (times : ReadsTimes formats) (health : HealthRecord) :
    readHealth formats (recordOf (healthFields formats.platform.timeText health)) =
      some health := by
  have fields : structFields ["healthy", "summary", "checked_at"]
      (recordOf (healthFields formats.platform.timeText health)) =
        some (valueOf (healthFields formats.platform.timeText health)) :=
    structFields_record rfl (by decide)
  unfold readHealth
  rw [fields]
  simp [healthFields, valueOf, text, truth, time_written times,
    Json.asString, Json.asBool]

theorem active_written (times : ReadsTimes formats) (active : ActiveHostOperationRef) :
    readActive formats (recordOf (activeFields formats.platform.timeText active)) =
      some active := by
  have fields : structFields ["operation_id", "applied_at"]
      (recordOf (activeFields formats.platform.timeText active)) =
        some (valueOf (activeFields formats.platform.timeText active)) :=
    structFields_record rfl (by decide)
  unfold readActive
  rw [fields]
  simp [activeFields, valueOf, text, time_written times, Json.asString]

theorem migration_written (times : ReadsTimes formats) (migration : AppliedMigration) :
    readMigration formats (recordOf (migrationFields formats.platform.timeText migration)) =
      some migration := by
  have fields : structFields ["operation_id", "target_artifact", "applied_at"]
      (recordOf (migrationFields formats.platform.timeText migration)) =
        some (valueOf (migrationFields formats.platform.timeText migration)) :=
    structFields_record rfl (by decide)
  unfold readMigration
  rw [fields]
  simp [migrationFields, valueOf, text, time_written times,
    Json.asString]

/-- The current reader takes every document of the current writer. -/
theorem document_written (times : ReadsTimes formats) (state : DeploymentState) :
    readDocument formats (stateDocument formats.platform.timeText state) = some state := by
  obtain ⟨fields, written⟩ : ∃ fields, fields = stateFields formats.platform.timeText state :=
    ⟨_, rfl⟩
  have read : structFields stateNames (stateDocument formats.platform.timeText state) =
      some (valueOf fields) := by
    rw [written]
    exact structFields_record rfl (by decide)
  have schema : required readUInt32 (valueOf fields "schema") = some state.schema := by
    rw [written]
    exact readUInt32_number state.schema
  have deploymentId : required Json.asString (valueOf fields "deployment_id") =
      some state.deploymentId := by
    rw [written]
    rfl
  have issuer : required Json.asString (valueOf fields "issuer") = some state.issuer := by
    rw [written]
    rfl
  have runtime : required readSurface (valueOf fields "runtime") = some state.runtime := by
    rw [written]
    exact surface_written state.runtime
  have artifact : required readArtifact (valueOf fields "artifact") = some state.artifact := by
    rw [written]
    exact artifact_written state.artifact
  have config : required readConfig (valueOf fields "config") = some state.config := by
    rw [written]
    exact config_written state.config
  have resources : required (readList readResource) (valueOf fields "resources") =
      some state.resources := by
    rw [written]
    exact readEach_map resource_written state.resources
  have health : required (readHealth formats) (valueOf fields "local_health") =
      some state.localHealth := by
    rw [written]
    exact health_written times state.localHealth
  have migration : optional (readMigration formats) (valueOf fields "applied_migration") =
      some state.appliedMigration := by
    rw [written]
    exact optional_map (by simp [recordOf]) (migration_written times) state.appliedMigration
  have active : optional (readActive formats) (valueOf fields "active_host_operation") =
      some state.activeHostOperation := by
    rw [written]
    exact optional_map (by simp [recordOf]) (active_written times) state.activeHostOperation
  have current : optional readRelease (valueOf fields "current_release") =
      some state.currentRelease := by
    rw [written]
    exact optional_map (by simp [recordOf]) release_written state.currentRelease
  have previous : optional readRelease (valueOf fields "previous_release") =
      some state.previousRelease := by
    rw [written]
    exact optional_map (by simp [recordOf]) release_written state.previousRelease
  have snapshot : optional Json.asString (valueOf fields "previous_config_snapshot") =
      some state.previousConfigSnapshot := by
    rw [written]
    exact text_written state.previousConfigSnapshot
  unfold readDocument
  refine Option.bind_eq_some_iff.mpr ⟨_, read, ?_⟩
  refine Option.bind_eq_some_iff.mpr ⟨_, schema, ?_⟩
  refine Option.bind_eq_some_iff.mpr ⟨_, deploymentId, ?_⟩
  refine Option.bind_eq_some_iff.mpr ⟨_, issuer, ?_⟩
  refine Option.bind_eq_some_iff.mpr ⟨_, runtime, ?_⟩
  refine Option.bind_eq_some_iff.mpr ⟨_, artifact, ?_⟩
  refine Option.bind_eq_some_iff.mpr ⟨_, config, ?_⟩
  refine Option.bind_eq_some_iff.mpr ⟨_, resources, ?_⟩
  refine Option.bind_eq_some_iff.mpr ⟨_, health, ?_⟩
  refine Option.bind_eq_some_iff.mpr ⟨_, migration, ?_⟩
  refine Option.bind_eq_some_iff.mpr ⟨_, active, ?_⟩
  refine Option.bind_eq_some_iff.mpr ⟨_, current, ?_⟩
  refine Option.bind_eq_some_iff.mpr ⟨_, previous, ?_⟩
  refine Option.bind_eq_some_iff.mpr ⟨_, snapshot, ?_⟩
  rfl

end Formats

/-! ## What a migration keeps -/

section Migration

variable {formats : StateFormats} {members migrated : Members} {state : DeploymentState}

theorem ofOption_ok {α : Type} {value : Option α} {result : α} :
    ofOption value = .ok result ↔ value = some result := by
  cases value with
  | none => simp [ofOption]
  | some value => simp [ofOption]

/-- The members that a migration may change. -/
def edited : List String :=
  ["schema", "artifact", "applied_migration", "previous_release", "current_rollback_policy",
    "previous_rollback_policy"]

theorem member_withoutPolicies {key : String} (current : key ≠ "current_rollback_policy")
    (previous : key ≠ "previous_rollback_policy") :
    member (withoutPolicies members) key = member members key := by
  rw [withoutPolicies, member_remove, if_neg previous, member_remove, if_neg current]

theorem member_prohibit {key : String} (release : key ≠ "previous_release") :
    member (prohibit members) key =
      if key = "artifact" then (member members key).map clearPrevious else member members key := by
  rw [prohibit, member_remove, if_neg release, member_update]

theorem dropPolicy_other {value : Json} (other : ∀ inner, value ≠ .object inner) :
    dropPolicy value = value := by
  cases value with
  | object inner => exact absurd rfl (other inner)
  | _ => rfl

/-- A pending migration loses its policy and nothing else changes. -/
theorem pending_members (pending : migratePending formats members = .ok migrated) (key : String) :
    member migrated key =
      if key = "applied_migration" then (member members key).map dropPolicy
      else member members key := by
  rw [migratePending] at pending
  have unchanged : (∀ inner, member members "applied_migration" ≠ some (.object inner)) →
      member members key = if key = "applied_migration" then (member members key).map dropPolicy
        else member members key := by
    intro other
    by_cases here : key = "applied_migration"
    · subst here
      rw [if_pos rfl]
      cases value : member members "applied_migration" with
      | none => rfl
      | some value' =>
        rw [Option.map_some, dropPolicy_other]
        rintro inner rfl
        exact other inner value
    · rw [if_neg here]
  split at pending
  · split at pending
    · cases pending
    · obtain ⟨policy, _, done⟩ := bind_ok.mp pending
      cases done
      exact member_update "applied_migration" key dropPolicy members
  · next other =>
    cases pending
    exact unchanged fun inner same => other inner same

structure Migrated (policy : LegacyRollbackPolicy) (members migrated : Members) : Prop where
  named : (member members "current_rollback_policy").bind readPolicy = some policy
  kept : ∀ key ∉ edited, member migrated key = member members key
  schema : member migrated "schema" = some (.number (.natural 8))
  pending : member migrated "applied_migration" =
    (member members "applied_migration").map dropPolicy
  artifact : member migrated "artifact" =
    if policy.allowsArtifactRollback then member members "artifact"
    else (member members "artifact").map clearPrevious
  release : member migrated "previous_release" =
    if policy.allowsArtifactRollback then member members "previous_release" else none

/-- The members after the policies of a document were read and the old prohibition applied. -/
def governed (policy : LegacyRollbackPolicy) (members : Members) : Members :=
  if policy.allowsArtifactRollback then withoutPolicies members
  else prohibit (withoutPolicies members)

theorem governed_member {key : String} (policy : LegacyRollbackPolicy)
    (current : key ≠ "current_rollback_policy") (previous : key ≠ "previous_rollback_policy")
    (release : key ≠ "previous_release") :
    member (governed policy members) key =
      if policy.allowsArtifactRollback then member members key
      else if key = "artifact" then (member members key).map clearPrevious
      else member members key := by
  rw [governed]
  by_cases allowed : policy.allowsArtifactRollback
  · rw [if_pos allowed, if_pos allowed, member_withoutPolicies current previous]
  · rw [if_neg allowed, if_neg allowed, member_prohibit release,
      member_withoutPolicies current previous]

theorem governed_release (policy : LegacyRollbackPolicy) :
    member (governed policy members) "previous_release" =
      if policy.allowsArtifactRollback then member members "previous_release" else none := by
  rw [governed]
  by_cases allowed : policy.allowsArtifactRollback
  · rw [if_pos allowed, if_pos allowed, member_withoutPolicies (by decide) (by decide)]
  · rw [if_neg allowed, if_neg allowed, prohibit, member_remove, if_pos rfl]

theorem migrated_members (done : migrateMembers formats members = .ok migrated) :
    ∃ policy, Migrated policy members migrated := by
  rw [migrateMembers] at done
  split at done
  · cases done
  · next value known =>
    obtain ⟨policy, valid, done⟩ := bind_ok.mp done
    obtain ⟨_, _, done⟩ := bind_ok.mp done
    obtain ⟨before, pending, done⟩ := bind_ok.mp done
    cases done
    obtain ⟨read, parsed, done⟩ := bind_ok.mp valid
    obtain ⟨_, _, done⟩ := bind_ok.mp done
    cases done
    rw [ofOption_ok] at parsed
    have frame : ∀ key ≠ "schema", member (SortedMap.insertEntry "schema"
        (.number (.natural deploymentStateSchema.toNat)) before) key =
          if key = "applied_migration" then
            (member (governed policy members) key).map dropPolicy
          else member (governed policy members) key := by
      intro key other
      rw [member_insert, if_neg other]
      exact pending_members pending key
    refine ⟨policy, ?_, ?_, ?_, ?_, ?_, ?_⟩
    · rw [known]
      exact parsed
    · intro key other
      simp only [edited, List.mem_cons, List.not_mem_nil, or_false, not_or] at other
      obtain ⟨schema, artifact, migration, release, current, previous⟩ := other
      rw [frame key schema, if_neg migration, governed_member policy current previous release,
        if_neg artifact, ite_self]
    · exact member_insert _ _ _ _
    · rw [frame _ (by decide), if_pos rfl,
        governed_member policy (by decide) (by decide) (by decide),
        if_neg (show "applied_migration" ≠ "artifact" by decide), ite_self]
    · rw [frame _ (by decide), if_neg (by decide),
        governed_member policy (by decide) (by decide) (by decide), if_pos rfl]
    · rw [frame _ (by decide), if_neg (by decide)]
      exact governed_release policy

end Migration

/-! ## Facts of a document -/

section Facts

variable {formats : StateFormats} {members migrated : Members} {state : DeploymentState}

/-- What the fields of a document say of its state. -/
structure DocumentRead (formats : StateFormats) (fields : String → Option Json)
    (state : DeploymentState) : Prop where
  schema : required readUInt32 (fields "schema") = some state.schema
  deploymentId : required Json.asString (fields "deployment_id") = some state.deploymentId
  issuer : required Json.asString (fields "issuer") = some state.issuer
  runtime : required readSurface (fields "runtime") = some state.runtime
  artifact : required readArtifact (fields "artifact") = some state.artifact
  config : required readConfig (fields "config") = some state.config
  resources : required (readList readResource) (fields "resources") = some state.resources
  localHealth : required (readHealth formats) (fields "local_health") = some state.localHealth
  appliedMigration : optional (readMigration formats) (fields "applied_migration") =
    some state.appliedMigration
  activeHostOperation : optional (readActive formats) (fields "active_host_operation") =
    some state.activeHostOperation
  currentRelease : optional readRelease (fields "current_release") = some state.currentRelease
  previousRelease : optional readRelease (fields "previous_release") = some state.previousRelease
  previousConfigSnapshot : optional Json.asString (fields "previous_config_snapshot") =
    some state.previousConfigSnapshot

theorem document_read {value : Json} (read : readDocument formats value = some state) :
    ∃ fields, structFields stateNames value = some fields ∧ DocumentRead formats fields state := by
  unfold readDocument at read
  obtain ⟨fields, found, read⟩ := Option.bind_eq_some_iff.mp read
  obtain ⟨_, schema, read⟩ := Option.bind_eq_some_iff.mp read
  obtain ⟨_, deploymentId, read⟩ := Option.bind_eq_some_iff.mp read
  obtain ⟨_, issuer, read⟩ := Option.bind_eq_some_iff.mp read
  obtain ⟨_, runtime, read⟩ := Option.bind_eq_some_iff.mp read
  obtain ⟨_, artifact, read⟩ := Option.bind_eq_some_iff.mp read
  obtain ⟨_, config, read⟩ := Option.bind_eq_some_iff.mp read
  obtain ⟨_, resources, read⟩ := Option.bind_eq_some_iff.mp read
  obtain ⟨_, health, read⟩ := Option.bind_eq_some_iff.mp read
  obtain ⟨_, migration, read⟩ := Option.bind_eq_some_iff.mp read
  obtain ⟨_, active, read⟩ := Option.bind_eq_some_iff.mp read
  obtain ⟨_, current, read⟩ := Option.bind_eq_some_iff.mp read
  obtain ⟨_, previous, read⟩ := Option.bind_eq_some_iff.mp read
  obtain ⟨_, snapshot, read⟩ := Option.bind_eq_some_iff.mp read
  cases read
  exact ⟨fields, found, schema, deploymentId, issuer, runtime, artifact, config, resources,
    health, migration, active, current, previous, snapshot⟩

/-- The facts of a published document that a migration has to keep. -/
structure Facts (formats : StateFormats) (members : Members) (state : DeploymentState) : Prop where
  deploymentId : (member members "deployment_id").bind Json.asString = some state.deploymentId
  issuer : (member members "issuer").bind Json.asString = some state.issuer
  runtime : (member members "runtime").bind readSurface = some state.runtime
  current : (member members "artifact").bind (fun artifact =>
    optional Json.asString (fieldAt artifactNames "current" artifact)) =
      some state.artifact.current
  config : (member members "config").bind readConfig = some state.config
  resources : (member members "resources").bind (readList readResource) = some state.resources
  localHealth : (member members "local_health").bind (readHealth formats) =
    some state.localHealth
  appliedMigration : optional (fun migration => readMigration formats (dropPolicy migration))
    (member members "applied_migration") = some state.appliedMigration
  activeHostOperation : optional (readActive formats) (member members "active_host_operation") =
    some state.activeHostOperation
  currentRelease : optional readRelease (member members "current_release") =
    some state.currentRelease
  previousConfigSnapshot : optional Json.asString (member members "previous_config_snapshot") =
    some state.previousConfigSnapshot

/-- The previous image of a document. -/
def previousOf (members : Members) : Option (Option String) :=
  (member members "artifact").bind fun artifact =>
    optional Json.asString (fieldAt artifactNames "previous" artifact)

/-- The release of the previous image of a document. -/
def previousReleaseOf (members : Members) : Option (Option ReleaseVersion) :=
  optional readRelease (member members "previous_release")

/-- The artifact as a list that names a previous image. -/
def listsPrevious : Option Json → Bool
  | some (.array [_, .string _]) => true
  | _ => false

theorem artifact_fields {value : Json} {artifact : ArtifactRefs}
    (read : readArtifact value = some artifact) :
    optional Json.asString (fieldAt artifactNames "current" value) = some artifact.current ∧
      optional Json.asString (fieldAt artifactNames "previous" value) =
        some artifact.previous := by
  unfold readArtifact at read
  obtain ⟨fields, found, read⟩ := Option.bind_eq_some_iff.mp read
  obtain ⟨_, current, read⟩ := Option.bind_eq_some_iff.mp read
  obtain ⟨_, previous, read⟩ := Option.bind_eq_some_iff.mp read
  cases read
  rw [← structFields_at found, ← structFields_at found]
  exact ⟨current, previous⟩

theorem clearPrevious_current (value : Json) :
    fieldAt artifactNames "current" (clearPrevious value) =
      fieldAt artifactNames "current" value := by
  cases value with
  | object inner =>
    rw [clearPrevious, fieldAt, fieldAt, member_insert, if_neg (by decide)]
  | _ => rfl

theorem optional_text {value : Json} {text : Option String}
    (read : optional Json.asString (some value) = some text) :
    text = none ↔ ¬∃ name, value = .string name := by
  cases value with
  | null =>
    cases read
    simp
  | string name =>
    cases read
    simp
  | bool value => cases read
  | number value => cases read
  | array values => cases read
  | object inner => cases read

/-- Only an object loses its previous image. -/
theorem clearPrevious_previous {value : Json} {artifact : ArtifactRefs}
    (read : readArtifact (clearPrevious value) = some artifact) :
    artifact.previous = none ↔ listsPrevious (some value) = false := by
  obtain ⟨_, previous⟩ := artifact_fields read
  cases value with
  | object inner =>
    rw [clearPrevious, fieldAt, member_insert, if_pos rfl] at previous
    exact iff_of_true (Option.some.inj previous).symm rfl
  | array values =>
    match values with
    | [] =>
      exact iff_of_true (Option.some.inj previous).symm rfl
    | [current] =>
      exact iff_of_true (Option.some.inj previous).symm rfl
    | [current, second] =>
      rw [optional_text previous]
      cases second with
      | string name => simp [listsPrevious]
      | _ => simp [listsPrevious]
    | first :: second :: third :: rest =>
      have long : ¬(first :: second :: third :: rest).length ≤ artifactNames.length := by
        change ¬rest.length + 3 ≤ 2
        omega
      unfold readArtifact at read
      obtain ⟨fields, found, read⟩ := Option.bind_eq_some_iff.mp read
      change structFields artifactNames (.array (first :: second :: third :: rest)) = _ at found
      rw [structFields, if_neg long] at found
      cases found
  | null => cases read
  | bool value => cases read
  | number value => cases read
  | string value => cases read

/-- The facts of a migrated document. -/
theorem migrated_facts {policy : LegacyRollbackPolicy} (step : Migrated policy members migrated)
    (read : DocumentRead formats (member migrated) state) : Facts formats members state := by
  have kept : ∀ key ∉ edited, member members key = member migrated key :=
    fun key other => (step.kept key other).symm
  refine ⟨?_, ?_, ?_, ?_, ?_, ?_, ?_, ?_, ?_, ?_, ?_⟩
  · rw [kept _ (by decide)]
    exact read.deploymentId
  · rw [kept _ (by decide)]
    exact read.issuer
  · rw [kept _ (by decide)]
    exact read.runtime
  · have artifact := read.artifact
    rw [step.artifact] at artifact
    cases found : member members "artifact" with
    | none =>
      rw [found, Option.map_none, ite_self] at artifact
      cases artifact
    | some value =>
      rw [found, Option.map_some] at artifact
      rw [Option.bind_some]
      by_cases allowed : policy.allowsArtifactRollback
      · rw [if_pos allowed] at artifact
        exact (artifact_fields artifact).1
      · rw [if_neg allowed] at artifact
        rw [← clearPrevious_current]
        exact (artifact_fields artifact).1
  · rw [kept _ (by decide)]
    exact read.config
  · rw [kept _ (by decide)]
    exact read.resources
  · rw [kept _ (by decide)]
    exact read.localHealth
  · have migration := read.appliedMigration
    rw [step.pending] at migration
    cases found : member members "applied_migration" with
    | none =>
      rw [found] at migration
      exact migration
    | some value =>
      rw [found, Option.map_some] at migration
      cases value <;> exact migration
  · rw [kept _ (by decide)]
    exact read.activeHostOperation
  · rw [kept _ (by decide)]
    exact read.currentRelease
  · rw [kept _ (by decide)]
    exact read.previousConfigSnapshot

/-- An allowed rollback keeps its image and its release. -/
theorem migrated_own {policy : LegacyRollbackPolicy} (step : Migrated policy members migrated)
    (read : DocumentRead formats (member migrated) state)
    (allowed : policy.allowsArtifactRollback = true) :
    previousOf members = some state.artifact.previous ∧
      previousReleaseOf members = some state.previousRelease := by
  constructor
  · have artifact := read.artifact
    rw [step.artifact, if_pos allowed] at artifact
    obtain ⟨value, found, parsed⟩ := Option.bind_eq_some_iff.mp artifact
    rw [previousOf, found]
    exact (artifact_fields parsed).2
  · have release := read.previousRelease
    rw [step.release, if_pos allowed] at release
    exact release

/-- A forbidden rollback loses its release, and its image if the artifact is an object. -/
theorem migrated_cleared {policy : LegacyRollbackPolicy} (step : Migrated policy members migrated)
    (read : DocumentRead formats (member migrated) state)
    (forbidden : ¬policy.allowsArtifactRollback = true) :
    (state.artifact.previous = none ↔ listsPrevious (member members "artifact") = false) ∧
      state.previousRelease = none := by
  constructor
  · have artifact := read.artifact
    rw [step.artifact, if_neg forbidden] at artifact
    cases found : member members "artifact" with
    | none =>
      rw [found] at artifact
      cases artifact
    | some value =>
      rw [found] at artifact
      exact clearPrevious_previous artifact
  · have release := read.previousRelease
    rw [step.release, if_neg forbidden] at release
    exact (Option.some.inj release).symm

end Facts

/-! ## Migrations of schema 7 -/

section Published

variable {formats : StateFormats} {state : DeploymentState}

theorem validState_ok {result : DeploymentState} :
    validState formats state = .ok result ↔
      state.validate formats.platform = .ok () ∧ result = state := by
  rw [validState, bind_ok, exists_unit, mapError_ok, Except.ok.injEq, eq_comm (a := result)]

theorem valid_schema (valid : state.validate formats.platform = .ok ()) : state.schema = 8 := by
  obtain ⟨_, same, _⟩ := bind_ok.mp valid
  exact check_ok.mp same

/-- What is read of a valid state that was written is the state. -/
theorem written_state (times : ReadsTimes formats)
    (valid : state.validate formats.platform = .ok ()) :
    readDeploymentState formats (stateDocument formats.platform.timeText state) = .ok state := by
  rw [readDeploymentState, document_written times]
  exact validState_ok.mpr ⟨valid, rfl⟩

/-- The current reader and the probe agree on the schema of a document. -/
theorem probe_read {value : Json} {schema : UInt32}
    (read : readDocument formats value = some state) (probed : probeSchema value = some schema) :
    schema = state.schema := by
  obtain ⟨fields, found, facts⟩ := document_read read
  cases value with
  | object members =>
    have named := facts.schema
    rw [structFields_at found] at named
    rw [probeSchema] at probed
    split at probed
    · exact Option.some.inj (probed.symm.trans named)
    · cases probed
  | array values =>
    match values with
    | [] => cases probed
    | [only] =>
      have absent := facts.deploymentId
      rw [structFields_at found] at absent
      cases absent
    | first :: second :: rest => cases probed
  | null => cases probed
  | bool value => cases probed
  | number value => cases probed
  | string value => cases probed

/-- A document that is read as schema 7 was migrated as a tree. -/
theorem read_migrates {document : Json}
    (accepted : readDeploymentState formats document = .ok state)
    (seven : probeSchema document = some 7) :
    ∃ members migrated, collapse document = .object members ∧
      migrateMembers formats members = .ok migrated ∧
      readDocument formats (.object migrated) = some state ∧
      state.validate formats.platform = .ok () := by
  rw [readDeploymentState] at accepted
  split at accepted
  · next current read =>
    obtain ⟨valid, rfl⟩ := validState_ok.mp accepted
    have schema := probe_read read seven
    rw [valid_schema valid] at schema
    cases schema
  · rw [seven, ofOption, bind_ok] at accepted
    obtain ⟨schema, same, accepted⟩ := accepted
    cases same
    rw [if_neg (by decide), if_pos rfl] at accepted
    split at accepted
    · next members tree =>
      obtain ⟨migrated, done, accepted⟩ := bind_ok.mp accepted
      obtain ⟨read, parsed, accepted⟩ := bind_ok.mp accepted
      obtain ⟨valid, rfl⟩ := validState_ok.mp accepted
      exact ⟨members, migrated, tree, done, ofOption_ok.mp parsed, valid⟩
    · cases accepted

/-- A current state with the facts of a published document and no authority beyond it. -/
structure Normalized (formats : StateFormats) (policy : LegacyRollbackPolicy) (members : Members)
    (state : DeploymentState) : Prop where
  valid : state.validate formats.platform = .ok ()
  facts : Facts formats members state
  own : policy.allowsArtifactRollback = true →
    previousOf members = some state.artifact.previous ∧
      previousReleaseOf members = some state.previousRelease
  cleared : policy.allowsArtifactRollback = false →
    state.artifact.previous = none ∧ state.previousRelease = none
  again : readDeploymentState formats (stateDocument formats.platform.timeText state) = .ok state

/-- A list keeps the previous image that the policy of its document forbids. -/
theorem published_normalized (times : ReadsTimes formats) {document : Json}
    (accepted : readDeploymentState formats document = .ok state)
    (seven : probeSchema document = some 7) :
    ∃ members policy, collapse document = .object members ∧
      (member members "current_rollback_policy").bind readPolicy = some policy ∧
      (Normalized formats policy members state ↔
        policy.allowsArtifactRollback = true ∨
          listsPrevious (member members "artifact") = false) := by
  obtain ⟨members, migrated, tree, done, parsed, valid⟩ := read_migrates accepted seven
  obtain ⟨policy, step⟩ := migrated_members done
  obtain ⟨fields, found, read⟩ := document_read parsed
  have same : fields = member migrated := funext fun key => structFields_at found key
  subst same
  refine ⟨members, policy, tree, step.named, ?_⟩
  constructor
  · intro normalized
    by_cases allowed : policy.allowsArtifactRollback = true
    · exact .inl allowed
    · refine .inr ((migrated_cleared step read allowed).1.mp ?_)
      exact (normalized.cleared (Bool.eq_false_iff.mpr allowed)).1
  · intro condition
    refine ⟨valid, migrated_facts step read, migrated_own step read, ?_,
      written_state times valid⟩
    intro forbidden
    have denied : ¬policy.allowsArtifactRollback = true := by
      rw [forbidden]
      decide
    have cleared := migrated_cleared step read denied
    exact ⟨cleared.1.mpr (condition.resolve_left denied), cleared.2⟩

end Published

/-! ## An example -/

/-- An instant that is not the one of the example, as a sign and strokes. -/
def strokes (time : Timestamp) : String :=
  String.ofList ((if 0 ≤ time then '+' else '-') :: List.replicate time.natAbs '|')

def readStrokes : List Char → Option Timestamp
  | '+' :: rest => some rest.length
  | '-' :: rest => some (-rest.length)
  | _ => none

def sampleFormats : StateFormats where
  platform :=
    { root := "/var/lib/nazauthctl/target-state"
      parseUrl := fun text =>
        if text = "https://auth.example.com" then some ⟨false, "https", "", none⟩ else none
      timeText := fun time =>
        if time = 1788620400000000000 then "2026-09-05T15:00:00Z" else strokes time
      parse := fun _ => .error "" }
  parseTime text :=
    if text = "2026-09-05T15:00:00Z" then some 1788620400000000000 else readStrokes text.toList
  semver text := if text = "0.2.11" ∨ text = "0.2.0" then .ok () else .error "unexpected character"

theorem sample_times : ReadsTimes sampleFormats := by
  intro time
  change (if (if time = 1788620400000000000 then "2026-09-05T15:00:00Z" else strokes time) =
      "2026-09-05T15:00:00Z" then some 1788620400000000000 else readStrokes
        (if time = 1788620400000000000 then "2026-09-05T15:00:00Z" else strokes time).toList) =
    some time
  by_cases fixed : time = 1788620400000000000
  · rw [if_pos fixed, if_pos rfl, fixed]
  · have other : strokes time ≠ "2026-09-05T15:00:00Z" := by
      intro same
      have heads := congrArg (fun text => text.toList.head?) same
      rw [strokes, String.toList_ofList, List.head?_cons] at heads
      by_cases positive : 0 ≤ time
      · rw [if_pos positive] at heads
        exact absurd heads (by decide)
      · rw [if_neg positive] at heads
        exact absurd heads (by decide)
    rw [if_neg fixed, if_neg other, strokes, String.toList_ofList]
    by_cases positive : 0 ≤ time
    · rw [if_pos positive, readStrokes, List.length_replicate, Option.some.injEq]
      exact Int.natAbs_of_nonneg positive
    · rw [if_neg positive, readStrokes, List.length_replicate, Option.some.injEq]
      have size : (time.natAbs : ℤ) = -time := 
        Int.ofNat_natAbs_of_nonpos (Int.le_of_lt (Int.not_le.mp positive))
      rw [size, Int.neg_neg]

def samplePolicy (rollback : Bool) : Json :=
  .object [("artifact", .bool true), ("schema_compatible", .bool rollback),
    ("database_restore", .string "backup"), ("irreversible_migration", .bool !rollback),
    ("minimum_supported_version", .string "0.2.11"),
    ("migration_floor", .string "20260905000100"),
    ("rationale", .string "Database recovery requires the pre-update snapshot.")]

def published (rollback : Bool) (artifact : Json) : Json :=
  .object [("schema", .number (.natural 7)), ("deployment_id", .string "deploy-upgrade"),
    ("issuer", .string "https://auth.example.com"),
    ("runtime", .object [("kind", .string "podman"), ("object", .string "nazoauth-upgrade"),
      ("loopback_port", .number (.natural 8000))]),
    ("artifact", artifact),
    ("config", .object [("reference", .string "config.json"),
      ("schema", .string "nazoauth-config-v1"), ("revision", .number (.natural 8))]),
    ("resources", .array []),
    ("local_health", .object [("healthy", .bool true), ("summary", .string "ready"),
      ("checked_at", .string "2026-09-05T15:00:00Z")]),
    ("current_rollback_policy", samplePolicy rollback),
    ("current_release", .object [("version", .string "0.2.11")]),
    ("previous_release", .object [("version", .string "0.2.10")])]

def publishedState (previous : Option String) (release : Option ReleaseVersion) :
    DeploymentState where
  schema := 8
  deploymentId := "deploy-upgrade"
  issuer := "https://auth.example.com"
  runtime := ⟨.podman, "nazoauth-upgrade", 8000⟩
  artifact := ⟨some "sha256:aaaa", previous⟩
  config := ⟨"config.json", "nazoauth-config-v1", 8⟩
  resources := []
  localHealth := ⟨true, "ready", 1788620400000000000⟩
  appliedMigration := none
  activeHostOperation := none
  currentRelease := some ⟨"0.2.11"⟩
  previousRelease := release
  previousConfigSnapshot := none

theorem listed_read : readDeploymentState sampleFormats
    (published false (.array [.string "sha256:aaaa", .string "sha256:bbbb"])) =
      .ok (publishedState (some "sha256:bbbb") none) := by
  decide

theorem object_read : readDeploymentState sampleFormats
    (published true (.object [("current", .string "sha256:aaaa"),
      ("previous", .string "sha256:bbbb")])) =
      .ok (publishedState (some "sha256:bbbb") (some ⟨"0.2.10"⟩)) := by
  decide

/-- A document whose policy allows a rollback is normalized. -/
theorem object_normalized : ∃ members policy,
    collapse (published true (.object [("current", .string "sha256:aaaa"),
      ("previous", .string "sha256:bbbb")])) = .object members ∧
      (member members "current_rollback_policy").bind readPolicy = some policy ∧
      (Normalized sampleFormats policy members
          (publishedState (some "sha256:bbbb") (some ⟨"0.2.10"⟩)) ↔
        policy.allowsArtifactRollback = true ∨
          listsPrevious (member members "artifact") = false) :=
  published_normalized sample_times object_read (by decide)

/-- A list keeps an image to roll back to that its policy forbids. -/
theorem listed_gains_rollback : ∃ members policy,
    readDeploymentState sampleFormats
      (published false (.array [.string "sha256:aaaa", .string "sha256:bbbb"])) =
        .ok (publishedState (some "sha256:bbbb") none) ∧
      probeSchema (published false (.array [.string "sha256:aaaa", .string "sha256:bbbb"])) =
        some 7 ∧
      collapse (published false (.array [.string "sha256:aaaa", .string "sha256:bbbb"])) =
        .object members ∧
      (member members "current_rollback_policy").bind readPolicy = some policy ∧
      ¬Normalized sampleFormats policy members (publishedState (some "sha256:bbbb") none) := by
  refine ⟨_, ⟨true, false, .backup, true, "0.2.11", "20260905000100",
    "Database recovery requires the pre-update snapshot."⟩, listed_read, by decide, rfl,
    by decide, ?_⟩
  intro normalized
  exact absurd (normalized.cleared rfl).1 (by decide)

end NazoAuthCtl.PublishedStates
