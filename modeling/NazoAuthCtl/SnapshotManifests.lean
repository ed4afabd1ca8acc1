import NazoAuthCtl.StateDocument

/-!
# Snapshot manifests

The immutable manifest of a backup, its text, its validation and the check of the two files
of a snapshot against it. The parser, the text of a time, the UUID and version libraries and
the hash are parameters. A directory is given by its entries.
-/

set_option autoImplicit false
set_option linter.all false

namespace NazoAuthCtl.SnapshotManifests

open Checks StateDocument

abbrev Bytes := List UInt8

/-! ## The recovery constraints of version 0.2.27 -/

inductive LegacyDatabaseRestore where
  | backup
  | pitr
  | none
  deriving DecidableEq, Repr

structure LegacyRollbackPolicy where
  artifact : Bool
  schemaCompatible : Bool
  databaseRestore : LegacyDatabaseRestore
  irreversibleMigration : Bool
  minimumSupportedVersion : String
  migrationFloor : String
  rationale : String
  deriving DecidableEq, Repr

def isDigit (c : Char) : Bool := '0' ≤ c && c ≤ '9'

def LegacyRollbackPolicy.validate (semver : String → Except String Unit)
    (policy : LegacyRollbackPolicy) : Except String Unit := do
  semver policy.minimumSupportedVersion
  check (¬(policy.rationale.toList.all isWhitespace ∨ policy.migrationFloor = "" ∨
      ¬policy.migrationFloor.toList.all isDigit ∨
      (policy.irreversibleMigration ∧ policy.schemaCompatible) ∨
      (policy.schemaCompatible ∧ ¬policy.artifact)))
    "invalid historical rollback policy"

def LegacyRollbackPolicy.allowsArtifactRollback (policy : LegacyRollbackPolicy) : Bool :=
  policy.artifact && policy.schemaCompatible && !policy.irreversibleMigration

/-! ## The manifest -/

structure SnapshotFile where
  path : String
  size : ℕ
  sha256 : String
  deriving DecidableEq, Repr

structure SnapshotManifest where
  schema : UInt32
  deploymentId : String
  snapshotId : String
  createdAt : Timestamp
  runtimeArtifact : ArtifactReference
  release : ReleaseVersion
  rollbackPolicy : Option LegacyRollbackPolicy
  configSchema : String
  files : List SnapshotFile
  archiveFiles : List SnapshotFile
  databaseSentinelSha256 : String
  mfaKeySha256 : String
  runtimeInstanceKeyId : String
  oidcSigningKeyIds : List String
  manifestSha256 : String
  deriving DecidableEq, Repr

structure BackupPlatform where
  isUuid : String → Bool
  semver : String → Except String Unit
  /-- `serde_json::from_slice` of a manifest. -/
  decode : Bytes → Except String SnapshotManifest
  /-- RFC 3339, as chrono serialises it. -/
  timeText : Timestamp → String
  /-- The hash of the compact document whose `manifest_sha256` is empty. -/
  computedSha256 : SnapshotManifest → String
  sha256 : Bytes → String

def backupManifestSchema : UInt32 := 5
def maxArchiveFiles : ℕ := 4096
def maxBackupEvidenceBytes : ℕ := 4 * 1024 * 1024
def immutableManifestFile : String := "snapshot-manifest.json"

/-! ## The text -/

def LegacyDatabaseRestore.text : LegacyDatabaseRestore → String
  | .backup => "backup"
  | .pitr => "pitr"
  | .none => "none"

def LegacyRollbackPolicy.printer (policy : LegacyRollbackPolicy) : JsonText.Printer :=
  JsonText.object [("artifact", JsonText.bool policy.artifact),
    ("schema_compatible", JsonText.bool policy.schemaCompatible),
    ("database_restore", JsonText.string policy.databaseRestore.text),
    ("irreversible_migration", JsonText.bool policy.irreversibleMigration),
    ("minimum_supported_version", JsonText.string policy.minimumSupportedVersion),
    ("migration_floor", JsonText.string policy.migrationFloor),
    ("rationale", JsonText.string policy.rationale)]

def artifactPrinter : ArtifactReference → JsonText.Printer
  | .oci imageReference digest => JsonText.object [("kind", JsonText.string "oci"),
      ("image_reference", JsonText.string imageReference), ("digest", JsonText.string digest)]
  | .hostBinary path sha256 => JsonText.object [("kind", JsonText.string "host-binary"),
      ("path", JsonText.string path), ("sha256", JsonText.string sha256)]
  | .unknown => JsonText.object [("kind", JsonText.string "unknown")]

def SnapshotFile.printer (file : SnapshotFile) : JsonText.Printer :=
  JsonText.object [("path", JsonText.string file.path), ("size", JsonText.number file.size),
    ("sha256", JsonText.string file.sha256)]

/-- `serialize_with_hash` with the hash of the manifest. -/
def SnapshotManifest.printer (timeText : Timestamp → String) (manifest : SnapshotManifest) :
    JsonText.Printer :=
  JsonText.object ([("schema", JsonText.number manifest.schema.toNat),
    ("deployment_id", JsonText.string manifest.deploymentId),
    ("snapshot_id", JsonText.string manifest.snapshotId),
    ("created_at", JsonText.string (timeText manifest.createdAt)),
    ("runtime_artifact", artifactPrinter manifest.runtimeArtifact),
    ("release", manifest.release.printer)]
  ++ optionalField "rollback_policy" LegacyRollbackPolicy.printer manifest.rollbackPolicy
  ++ [("config_schema", JsonText.string manifest.configSchema),
    ("files", JsonText.array (manifest.files.map SnapshotFile.printer)),
    ("archive_files", JsonText.array (manifest.archiveFiles.map SnapshotFile.printer)),
    ("database_sentinel_sha256", JsonText.string manifest.databaseSentinelSha256),
    ("mfa_key_sha256", JsonText.string manifest.mfaKeySha256),
    ("runtime_instance_key_id", JsonText.string manifest.runtimeInstanceKeyId),
    ("oidc_signing_key_ids",
      JsonText.array (manifest.oidcSigningKeyIds.map JsonText.string)),
    ("manifest_sha256", JsonText.string manifest.manifestSha256)])

/-- `serde_json::to_vec_pretty`. -/
def BackupPlatform.encode (platform : BackupPlatform) (manifest : SnapshotManifest) : Bytes :=
  (manifest.printer platform.timeText 0).toUTF8.data.toList

/-! ## Validation -/

def validateSha256 (value label : String) : Except String Unit :=
  isSha256 value s!"{label} must be 64 lowercase hexadecimal characters"

def isAsciiGraphic (c : Char) : Bool := 33 ≤ c.toNat && c.toNat ≤ 126

def SnapshotFile.validate (file : SnapshotFile) : Except String Unit := do
  check (file.path ≠ "" ∧ file.path.utf8ByteSize ≤ 512 ∧ file.path.toList.head? ≠ some '/' ∧
      (∀ part ∈ file.path.toList.splitOn '/', part ≠ [] ∧ part ≠ ['.'] ∧ part ≠ ['.', '.']) ∧
      file.path.toList.all fun c => isAsciiGraphic c && c ≠ '\\')
    "backup file path is not a bounded relative path"
  validateSha256 file.sha256 "backup file sha256"

def validateRuntimeArtifact : ArtifactReference → Except String Unit
  | .oci imageReference digest => do
    check (imageReference ≠ "" ∧ imageReference.utf8ByteSize ≤ 512 ∧
        imageReference.toList.all fun c => !isWhitespace c)
      "backup OCI image reference is invalid"
    match sha256Digest digest with
    | none => .error "backup OCI artifact digest must use sha256"
    | some digest => validateSha256 digest "backup OCI artifact digest"
  | .hostBinary path sha256 => do
    check (path.toList.head? = some '/') "backup host artifact path is not absolute"
    validateSha256 sha256 "backup host artifact sha256"
  | .unknown => .error "backup runtime artifact is unknown"

def validateFiles : List SnapshotFile → Except String Unit
  | [] => .ok ()
  | file :: rest => do
    file.validate
    validateFiles rest

def validateArchiveFiles (seen : List String) : List SnapshotFile → Except String Unit
  | [] => .ok ()
  | file :: rest => do
    file.validate
    check (file.path ∉ seen) "backup manifest contains duplicate archive paths"
    validateArchiveFiles (file.path :: seen) rest

def validateKeyIds (previous : Option String) : List String → Except String Unit
  | [] => .ok ()
  | keyId :: rest => do
    validateIdentifier keyId 256 "OIDC signing key id"
    check (∀ value ∈ previous, value < keyId)
      "backup OIDC signing key ids must be unique and sorted"
    validateKeyIds (some keyId) rest

section platform

variable (platform : BackupPlatform)

def SnapshotManifest.validateContents (manifest : SnapshotManifest) : Except String Unit := do
  check (manifest.schema = backupManifestSchema ∨ manifest.schema = 4)
    s!"unsupported backup manifest schema {manifest.schema}"
  match manifest.rollbackPolicy with
  | some policy => do
    check (manifest.schema = 4) "backup manifest rollback policy does not match its schema"
    policy.validate platform.semver
  | none =>
    check (manifest.schema = backupManifestSchema)
      "backup manifest rollback policy does not match its schema"
  validateIdentifier manifest.deploymentId 128 "backup deployment id"
  check (platform.isUuid manifest.snapshotId) "backup snapshot id is not a UUID"
  manifest.release.validate
  validateIdentifier manifest.configSchema 64 "backup config schema"
  validateRuntimeArtifact manifest.runtimeArtifact
  check (manifest.files.length = 2)
    "backup manifest must name exactly the database dump and deployment archive"
  validateFiles manifest.files
  check ((manifest.files.map SnapshotFile.path).Nodup)
    "backup manifest contains duplicate file paths"
  check (1 ≤ manifest.archiveFiles.length ∧ manifest.archiveFiles.length ≤ maxArchiveFiles)
    s!"backup manifest must name 1-{maxArchiveFiles} archived files"
  validateArchiveFiles [] manifest.archiveFiles
  validateSha256 manifest.databaseSentinelSha256 "database sentinel sha256"
  validateSha256 manifest.mfaKeySha256 "MFA key sha256"
  validateIdentifier manifest.runtimeInstanceKeyId 128 "runtime instance key id"
  check (1 ≤ manifest.oidcSigningKeyIds.length ∧ manifest.oidcSigningKeyIds.length ≤ 32)
    "backup manifest must bind 1-32 OIDC signing key ids"
  validateKeyIds none manifest.oidcSigningKeyIds

def SnapshotManifest.validate (manifest : SnapshotManifest) : Except String Unit := do
  manifest.validateContents platform
  check (manifest.manifestSha256 = platform.computedSha256 manifest)
    "backup manifest hash does not bind its contents"

/-! ## Files -/

inductive Entry where
  | file (bytes : Bytes)
  /-- A link, a directory or a special file. -/
  | other
  deriving DecidableEq, Repr

abbrev Directory := String → Option Entry

def readManifest (bytes : Bytes) : Except String SnapshotManifest := do
  check (bytes.length ≤ maxBackupEvidenceBytes)
    s!"backup snapshot manifest exceeds the {maxBackupEvidenceBytes}-byte limit"
  let manifest ← platform.decode bytes
  manifest.validate platform
  pure manifest

/-- Every failure is reported by its outermost context. -/
def loadManifestAt : Option Entry → Except String (Option SnapshotManifest)
  | none => .ok none
  | some .other => .error "failed to read backup snapshot manifest"
  | some (.file bytes) => match readManifest platform bytes with
    | .ok manifest => .ok (some manifest)
    | .error _ => .error "failed to read backup snapshot manifest"

def verifyFile (root : Directory) (expected : SnapshotFile) : Except String Unit :=
  match root expected.path with
  | none => .error "No such file or directory (os error 2)"
  | some .other => .error s!"snapshot file '{expected.path}' does not match its manifest"
  | some (.file bytes) => check (bytes.length = expected.size ∧
      platform.sha256 bytes = expected.sha256)
      s!"snapshot file '{expected.path}' does not match its manifest"

def verifyFiles (root : Directory) : List SnapshotFile → Except String Unit
  | [] => .ok ()
  | file :: rest => do
    verifyFile platform root file
    verifyFiles root rest

def verifySnapshotFiles (root : Directory) (manifest : SnapshotManifest) :
    Except String Unit := do
  check (∀ file ∈ manifest.files, file.path ∈ ["postgresql.dump", "deployment.tar"])
    "snapshot manifest does not contain the required artifact set"
  verifyFiles platform root manifest.files

end platform

end NazoAuthCtl.SnapshotManifests
