import NazoAuthCtl.RecoveryWorld

/-!
# Restoring a snapshot into the formal paths

`backup_exec::recover` in the order of the source: the archive is extracted, the new
database is loaded, the three paths are staged beside the formal ones, and only then
are they switched, by two renames each. Every resource has its own rule for what an
earlier attempt of the operation has left.
-/

set_option autoImplicit false
set_option linter.all false

namespace NazoAuthCtl.BackupRecover

open FaultProgram TargetState TargetWorld UpdateExec RecoveryWorld
open Program (get modify environment require onlyIf ofExcept attempt zoom)

abbrev Restoring := Recovering Restore

def signingKeySecret : String := "signing-key-encryption-key"
def previousSigningKeySecret : String := "signing-key-previous-encryption-key"

/-! ## Reading the snapshot -/

def readRuntime : Restoring RuntimeObject :=
  step .inspect do
    match (← get).runtime with
    | some object => pure object
    | none => Program.throw (refuse "no such runtime object")

/-- The snapshot the operation was accepted for, and the stopped runtime. -/
def admitRecovery (state : DeploymentState) (expectedManifest : Digest) :
    Restoring (Snapshot × RuntimeObject) := do
  let snapshot ← step .loadManifest do
    match (← get).snapshot with
    | some snapshot => pure snapshot
    | none => Program.throw (refuse "no snapshot manifest exists")
  require (snapshot.manifest.deploymentId = state.deploymentId
      ∧ snapshot.manifest.manifestSha256 = expectedManifest)
    (refuse "recovery manifest binding differs from the accepted operation")
  let live ← readRuntime
  require (live.running = false)
    (refuse "recovery requires the deployment runtime to remain stopped")
  step .recoveryDirectory (pure ())
  pure (snapshot, live)

def recoveryFacts (platform : RecoveryPlatform) (manifest : SnapshotManifest)
    (operation : OperationId) : RecoveryFacts where
  operationId := operation
  snapshotId := manifest.snapshotId
  manifestSha256 := manifest.manifestSha256
  restoredDatabase := platform.recoveredDatabase operation
  artifact := manifest.runtimeArtifact
  release := manifest.release
  configSchema := manifest.configSchema

/-- `postgres_connection` on the bytes of a secret. -/
def postgresConnection (platform : RecoveryPlatform) (secret : Option Bytes) :
    Except Failure PostgresConnection :=
  match secret.bind platform.parseUrl, secret.bind platform.urlPassword with
  | none, _ => .error (refuse "database URL is invalid")
  | some _, none => .error (refuse "database URL has no password")
  | some url, some password =>
    if url.scheme ≠ "postgres" ∧ url.scheme ≠ "postgresql" then
      .error (refuse "database URL is not PostgreSQL")
    else if password.toList.any (· ∈ ['\r', '\n', '\x00']) then
      .error (refuse "database password is invalid")
    else .ok ⟨url, password⟩

def lifecycleUrl : String := "database-lifecycle-url"
def runtimeUrl : String := "database-runtime-url"

def secretOf (secrets : Tree) (name : String) : Option Bytes := secrets.lookup [name]

/-- The digest `database_sentinel_with_connection` reads. -/
def databaseSentinel (platform : RecoveryPlatform) (database : Option Database) : Option Digest :=
  (database.bind sentinelFact).map platform.factDigest

def readSentinel (site : SentinelSite) (name : DatabaseName) : Restoring Digest :=
  step (.sentinel site) do
    let attempt ← environment
    match databaseSentinel attempt.platform ((← get).databases name) with
    | some digest => pure digest
    | none => Program.throw (refuse "database has no migration sentinel")

/-- A completion record answers for the whole restore, while the database that the
restored secrets name still has the snapshot's sentinel. -/
def completedRecovery (manifest : SnapshotManifest) (operation : OperationId)
    (facts : RecoveryFacts) : Restoring RecoveryFacts := do
  let attempt ← environment
  require ({ facts with restoredDatabase := attempt.platform.recoveredDatabase operation } =
      recoveryFacts attempt.platform manifest operation)
    (refuse "recovery completion does not bind the accepted operation")
  let connection ← step .readConnection do
    match (← get).secrets.formal with
    | none => Program.throw (refuse "backup resource is not a real directory")
    | some secrets =>
      ofExcept (postgresConnection attempt.platform (secretOf secrets lifecycleUrl))
  require (connection.url.path = databasePath facts.restoredDatabase)
    (refuse "completed recovery database no longer matches its snapshot")
  let digest ← readSentinel .completed facts.restoredDatabase
  require (digest = manifest.databaseSentinelSha256)
    (refuse "completed recovery database no longer matches its snapshot")
  pure facts

/-! ## The extracted archive -/

/-- `extract_deployment_archive` into a fresh partial directory, and its publication. -/
def unpackArchive (snapshot : Snapshot) : Restoring Extracted := do
  let attempt ← environment
  onlyIf (← get).unpacking (step .discardPartial (modify fun r => { r with unpacking := false }))
  modify fun r => { r with unpacking := true }
  step .unpack (pure ())
  require (snapshot.archive.matches attempt.platform.sha256 snapshot.manifest.archiveFiles)
    (refuse "extracted deployment files do not match the manifest")
  step .publishExtraction
    (modify fun r => { r with extracted := some snapshot.archive, unpacking := false })
  pure snapshot.archive

/-- `prepare_recovery_archive`. -/
def prepareRecoveryArchive (snapshot : Snapshot) : Restoring Extracted := do
  let attempt ← environment
  match (← get).extracted with
  | some found =>
    if found.matches attempt.platform.sha256 snapshot.manifest.archiveFiles then pure found
    else do
      step .discardExtraction (modify fun r => { r with extracted := none })
      unpackArchive snapshot
  | none => unpackArchive snapshot

/-- `managed_directory_locator`. -/
def managedDirectoryLocator (state : DeploymentState) (name : String) : Except Failure Path :=
  match state.resources.find? (·.resourceId = name) with
  | none => .error (refuse "deployment lacks required managed backup resource")
  | some resource =>
    if resource.kind ≠ "directory" ∨ resource.ownership ≠ .managed
        ∨ resource.scope ≠ .deployment then
      .error (refuse "backup resource has an invalid ownership contract")
    else .ok resource.locator

/-- `expected_signing_key_path`. -/
def expectedSigningKeyPath (kind : RuntimeBackendKind) (secrets : Path) (name : String) : Path :=
  if kind.isContainer then containerSecretsDir ++ [name] else secrets ++ [name]

/-- One configured key of `validate_recovery_secret_contract`. -/
def validateRecoveredKey (platform : RecoveryPlatform) (files : List SnapshotFile) (secrets : Tree)
    (setting name : String) (expected configured : Path) : Except Failure Unit :=
  if configured ≠ expected then
    .error (refuse (s!"recovery snapshot {setting} does not match the canonical runtime path; " ++
      "recovery refused before path switch"))
  else if files.all (·.path ≠ ["app-secrets", name]) then
    .error (refuse (s!"recovery snapshot declares {setting} but omits {name}; recovery refused " ++
      "before path switch"))
  else if (secretOf secrets name).all (!platform.validSigningKey ·) then
    .error (refuse "recovery refused before path switch: invalid signing-key encryption root")
  else .ok ()

/-- `validate_recovery_secret_contract`. -/
def validateRecoverySecretContract (platform : RecoveryPlatform) (archive : Extracted)
    (files : List SnapshotFile) (expected expectedPrevious : Path) :
    Except Failure SigningKeyEncryptionConfig :=
  if !platform.isUtf8 archive.config then
    .error (refuse "deployment configuration is not UTF-8")
  else match platform.signingKeyConfig archive.config with
  | none => .error (refuse "recovery refused before path switch: invalid signing-root configuration")
  | some configured => do
    validateRecoveredKey platform files archive.secrets "SIGNING_KEY_ENCRYPTION_KEY_FILE"
      signingKeySecret expected configured.file
    match configured.previousFile with
    | none => .ok configured
    | some previous => do
      validateRecoveredKey platform files archive.secrets "SIGNING_KEY_PREVIOUS_ENCRYPTION_KEY_FILE"
        previousSigningKeySecret expectedPrevious previous
      .ok configured

/-- What `recover` requires of the extracted archive before it touches the database. -/
def checkArchive (platform : RecoveryPlatform) (state : DeploymentState) (live : RuntimeObject)
    (manifest : SnapshotManifest) (archive : Extracted) : Except Failure Unit := do
  let secrets ← managedDirectoryLocator state "app-secrets"
  let kind := state.runtime.kind
  let previousPath := expectedSigningKeyPath kind secrets previousSigningKeySecret
  let configured ← validateRecoverySecretContract platform archive manifest.archiveFiles
    (expectedSigningKeyPath kind secrets signingKeySecret) previousPath
  if kind.isContainer ∧ configured.previousFile.isSome
      ∧ live.mounts.all (·.destination ≠ previousPath) then
    .error (refuse ("recovery snapshot configures a previous signing-key root but the stopped " ++
      "runtime has no canonical previous-key mount; recovery refused before path switch"))
  else if (secretOf archive.secrets "mfa-totp-key").map platform.sha256 ≠ some manifest.mfaKeySha256
      ∨ platform.runtimeIdentity archive.data state ≠ some manifest.runtimeInstanceKeyId then
    .error (refuse "recovery key material differs from the snapshot")
  else .ok ()

/-! ## The recovered database -/

/-- The plan file is written once, before the database can exist. -/
def bindDatabasePlan (plan : DatabasePlan) (preexisting : Bool) : Restoring Unit := do
  match (← get).databasePlan with
  | some found => step .readPlan (require (found = plan)
      (refuse "recovery database plan does not bind the accepted operation"))
  | none => do
    require (preexisting = false)
      (refuse "recovery database name was occupied before this operation")
    step .writePlan (modify fun r => { r with databasePlan := some plan })

def setDatabase (name : DatabaseName) (database : Option Database) (r : Restore) : Restore :=
  { r with databases := Function.update r.databases name database }

def dropDatabase (label : RecoveryEffect) (name : DatabaseName) : Restoring Unit :=
  step label (modify (setDatabase name none))

def createDatabase (name : DatabaseName) : Restoring Unit :=
  step .createDatabase do
    require (((← get).databases name).isNone) (refuse "createdb failed")
    modify (setDatabase name (some []))

def loadItems (name : DatabaseName) (items : Database) (r : Restore) : Restore :=
  setDatabase name (some ((r.databases name).getD [] ++ items)) r

/-- `pg_restore --exit-on-error`, which is not one transaction: it loads the items in
order, and what has been loaded stays when it stops. -/
def loadDump (name : DatabaseName) (dump : Database) : Restoring Unit := fun attempt r =>
  match attempt.faults .loadDump with
  | .none => (.ok (), loadItems name dump r)
  | .fail detail => (.error (refuse detail), loadItems name (dump.take attempt.loaded) r)
  | .crash => (.crashed, loadItems name (dump.take attempt.loaded) r)

/-- A failed load is dropped, if it can be. -/
def restoreDump (name : DatabaseName) (dump : Database) : Restoring Unit := do
  match ← attempt (loadDump name dump) with
  | .ok () => pure ()
  | .error failure => do
    let _ ← attempt (dropDatabase .dropFailed name)
    Program.throw failure

/-- A database that exists and shows the snapshot's sentinel counts as restored. -/
def alreadyRestored (manifest : SnapshotManifest) (name : DatabaseName) (preexisting : Bool) :
    Restoring Bool :=
  if preexisting then do
    match ← attempt (readSentinel .found name) with
    | .ok digest => pure (digest = manifest.databaseSentinelSha256)
    | .error _ => pure false
  else pure false

/-- The database is created anew and loaded as a whole. -/
def reloadDatabase (snapshot : Snapshot) (name : DatabaseName) (preexisting : Bool) :
    Restoring Unit := do
  onlyIf preexisting (dropDatabase .dropDatabase name)
  createDatabase name
  restoreDump name snapshot.dump
  let digest ← readSentinel .restored name
  require (digest = snapshot.manifest.databaseSentinelSha256)
    (refuse "restored recovery database has the wrong snapshot sentinel")

def restoreDatabase (snapshot : Snapshot) (operation : OperationId) (archive : Extracted) :
    Restoring PostgresConnection := do
  let platform := (← environment).platform
  let connection ← step .readConnection
    (ofExcept (postgresConnection platform (secretOf archive.secrets lifecycleUrl)))
  let name := platform.recoveredDatabase operation
  let preexisting ← step .databaseExists (do pure ((← get).databases name).isSome)
  bindDatabasePlan ⟨operation, snapshot.manifest.manifestSha256, name⟩ preexisting
  let restored ← alreadyRestored snapshot.manifest name preexisting
  onlyIf (restored = false) (reloadDatabase snapshot name preexisting)
  pure connection

/-! ## Staging and switching the formal paths -/

/-- `str::split_inclusive` at line feeds. -/
def splitInclusive : Bytes → List Bytes
  | [] => []
  | byte :: rest =>
    if byte = 10 then [byte] :: splitInclusive rest
    else match splitInclusive rest with
      | [] => [[byte]]
      | line :: lines => (byte :: line) :: lines

def splitEnding (line : Bytes) : Bytes × Bytes :=
  if [13, 10].isSuffixOf line then (line.dropLast.dropLast, [13, 10])
  else if [10].isSuffixOf line then (line.dropLast, [10])
  else (line, [])

/-- The bytes of an ASCII text. -/
def ascii (text : String) : Bytes := text.toList.map fun c => UInt8.ofNat c.toNat

/-- A line with the value of this setting replaced. -/
def replaceSetting (setting : String) (value line : Bytes) : Bytes :=
  let (content, ending) := splitEnding line
  if (ascii (setting ++ ":")).isPrefixOf content then ascii (setting ++ ": ") ++ value ++ ending
  else line

def settingCount (setting : String) (config : Bytes) : ℕ :=
  (splitInclusive config).countP fun line =>
    (ascii (setting ++ ":")).isPrefixOf (splitEnding line).1

/-- `rewrite_recovery_config`. -/
def rewriteRecoveryConfig (platform : RecoveryPlatform) (config databaseUrl stateEpoch : Bytes) :
    Except Failure Bytes :=
  if !platform.isUtf8 config then
    .error (refuse "restored application configuration is not UTF-8")
  else if settingCount "DATABASE_URL" config = 1 ∧ settingCount "VALKEY_STATE_EPOCH" config = 1 then
    .ok ((splitInclusive config).flatMap fun line =>
      replaceSetting "VALKEY_STATE_EPOCH" (platform.jsonString stateEpoch)
        (replaceSetting "DATABASE_URL" (platform.jsonString databaseUrl) line))
  else .error (refuse ("restored application configuration must contain exactly one DATABASE_URL " ++
    "and VALKEY_STATE_EPOCH"))

section switch

variable {α : Type}

/-- `copy_tree_atomic`: a partial copy of an earlier attempt is discarded first. -/
def copyTreeAtomic (label : RestoredPath) (source : α) : Recovering (Switch α) Unit := do
  onlyIf (← get).copying
    (step (.discardCopy label) (modify fun path => { path with copying := false }))
  modify fun path => { path with copying := true }
  step (.copy label) (pure ())
  step (.publish label) (modify fun path => { path with staged := some source, copying := false })

def stageTree (label : RestoredPath) (source : α) : Recovering (Switch α) Unit := do
  let path ← get
  onlyIf (path.staged = none ∧ path.switched = false) (copyTreeAtomic label source)

/-- The config is staged by one atomic write. -/
def stageFile (label : RestoredPath) (content : α) : Recovering (Switch α) Unit := do
  let path ← get
  onlyIf (path.staged = none ∧ path.switched = false)
    (step (.publish label) (modify fun path => { path with staged := some content }))

/-- `switch_recovery_path`. -/
def switchRecoveryPath (label : RestoredPath) : Recovering (Switch α) Unit := do
  let path ← get
  let promote : Recovering (Switch α) Unit := step (.promote label)
    (modify fun path => { path with formal := path.staged, staged := none })
  match path.formal.isSome, path.staged.isSome, path.rollback.isSome with
  | true, true, false => do
    step (.retire label) (modify fun path => { path with rollback := path.formal, formal := none })
    promote
  | false, true, true => promote
  | true, false, true => pure ()
  | true, true, true =>
    (Program.throw (refuse
      "recovery has both current and staged paths after rollback was established"))
  | _, _, _ => Program.throw (refuse "recovery path state is not forward-resumable")

end switch

def onData : Recovering (Switch Tree) Unit → Restoring Unit :=
  zoom Restore.data fun data r => { r with data }

def onSecrets : Recovering (Switch Tree) Unit → Restoring Unit :=
  zoom Restore.secrets fun secrets r => { r with secrets }

def onConfig : Recovering (Switch Bytes) Unit → Restoring Unit :=
  zoom Restore.config fun config r => { r with config }

/-- `write_secret`. -/
def writeFile (tree : Tree) (name : String) (content : Bytes) : Tree :=
  ([name], content) :: tree.filter fun file => file.1 ≠ [name]

def writeStagedSecret (name : String) (content : Bytes) : Recovering (Switch Tree) Unit :=
  step (.writeUrl name) (modify fun path =>
    { path with staged := path.staged.map (writeFile · name content) })

/-- Both database URLs of the staged secrets, which are written on every attempt. -/
def writeDatabaseUrls (lifecycle runtime : Bytes) : Recovering (Switch Tree) Unit := do
  let path ← get
  onlyIf path.staged.isSome do
    writeStagedSecret lifecycleUrl lifecycle
    writeStagedSecret runtimeUrl runtime

/-- The content the formal config is to have, and the runtime's database URL. -/
def recoveredConfig (platform : RecoveryPlatform) (archive : Extracted) (name : DatabaseName)
    (stateEpoch : Bytes) : Except Failure (Bytes × Bytes) := do
  let connection ← postgresConnection platform (secretOf archive.secrets runtimeUrl)
  let url := platform.renderUrl (connection.withDatabase name)
  let config ← rewriteRecoveryConfig platform archive.config url stateEpoch
  pure (url, config)

def stagePaths (archive : Extracted) (lifecycle runtime config : Bytes) : Restoring Unit := do
  onData (stageTree .data archive.data)
  onSecrets (stageTree .secrets archive.secrets)
  onSecrets (writeDatabaseUrls lifecycle runtime)
  onConfig (stageFile .config config)
  step .ownership (pure ())

def switchPaths : Restoring Unit := do
  step .markSwitching (modify fun r => { r with pathsSwitching := true })
  onData (switchRecoveryPath .data)
  onSecrets (switchRecoveryPath .secrets)
  onConfig (switchRecoveryPath .config)

/-- Everything after the completion check. -/
def restoreSnapshot (state : DeploymentState) (live : RuntimeObject) (snapshot : Snapshot)
    (operation : OperationId) (stateEpoch : Bytes) : Restoring RecoveryFacts := do
  let platform := (← environment).platform
  step .verifySnapshot (require (platform.intact snapshot)
    (refuse "snapshot file does not match its manifest"))
  let archive ← prepareRecoveryArchive snapshot
  step .readContract (ofExcept (checkArchive platform state live snapshot.manifest archive))
  let connection ← restoreDatabase snapshot operation archive
  let name := platform.recoveredDatabase operation
  let (runtime, config) ← step .rewriteConfig
    (ofExcept (recoveredConfig platform archive name stateEpoch))
  let _ ← ofExcept (managedDirectoryLocator state "app-data")
  stagePaths archive (platform.renderUrl (connection.withDatabase name)) runtime config
  switchPaths
  let facts := recoveryFacts platform snapshot.manifest operation
  step .complete (modify fun r => { r with completed := some facts })
  pure facts

/-- `backup_exec::recover`. -/
def recover (state : DeploymentState) (expectedManifest : Digest) (stateEpoch : Bytes)
    (operation : OperationId) : Restoring RecoveryFacts := do
  let (snapshot, live) ← admitRecovery state expectedManifest
  match (← get).completed with
  | some facts => do
    step .readCompletion (pure ())
    completedRecovery snapshot.manifest operation facts
  | none => restoreSnapshot state live snapshot operation stateEpoch

end NazoAuthCtl.BackupRecover
