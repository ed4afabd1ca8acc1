import NazoAuthCtl.UpdateExec

/-!
# What a disaster recovery works on

A recovery reads one verified snapshot and prepares everything under names bound to
its operation: the extracted archive, a new database, staged siblings of the three
formal paths and the trees they replace. PostgreSQL, the URL and JSON libraries and the
checks of runtime identities are parameters. A database is the dump items loaded
into it, in order.
-/

set_option autoImplicit false
set_option linter.all false

namespace NazoAuthCtl.RecoveryWorld

open FaultProgram TargetState TargetWorld

structure SnapshotFile where
  path : Path
  size : ℕ
  sha256 : Digest
  deriving DecidableEq, Repr

structure SnapshotManifest where
  snapshotId : OperationId
  deploymentId : DeploymentId
  manifestSha256 : Digest
  archiveFiles : List SnapshotFile
  mfaKeySha256 : Digest
  runtimeInstanceKeyId : String
  databaseSentinelSha256 : Digest
  runtimeArtifact : ArtifactReference
  release : ReleaseVersion
  configSchema : ConfigSchema
  oidcSigningKeyIds : List String
  deriving DecidableEq, Repr

/-- The content of `deployment.tar`. -/
structure Extracted where
  data : Tree
  secrets : Tree
  config : Bytes
  deriving DecidableEq, Repr

def listTree (sha256 : Bytes → Digest) (name : String) (tree : Tree) : List SnapshotFile :=
  tree.map fun file => ⟨name :: file.1, file.2.length, sha256 file.2⟩

/-- `collect_regular_files` on the extracted archive. -/
def Extracted.files (sha256 : Bytes → Digest) (archive : Extracted) : List SnapshotFile :=
  listTree sha256 "app-data" archive.data ++ listTree sha256 "app-secrets" archive.secrets
    ++ [⟨["config.yaml"], archive.config.length, sha256 archive.config⟩]

/-- Both listings, sorted by path, are equal. -/
def Extracted.matches (sha256 : Bytes → Digest) (archive : Extracted)
    (expected : List SnapshotFile) : Bool :=
  (archive.files sha256).isPerm expected

/-- One item of a custom-format dump: a table, the rows of one, each by its key, or
anything else, such as a constraint, an index or the value of a sequence. -/
inductive DumpItem where
  | table (name : String)
  | rows (table : String) (keys : List ℕ)
  | other (name : String)
  deriving DecidableEq, Repr

abbrev Database := List DumpItem

/-- A verified snapshot on disk. -/
structure Snapshot where
  manifest : SnapshotManifest
  archive : Extracted
  dump : Database
  deriving DecidableEq, Repr

/-! ## The database sentinel -/

def Database.hasTable (database : Database) (name : String) : Bool :=
  database.any fun
    | .table table => table = name
    | _ => false

def Database.rowsOf (database : Database) (name : String) : List ℕ :=
  database.flatMap fun
    | .rows table keys => if table = name then keys else []
    | _ => []

def migrationLedger : String := "__diesel_schema_migrations"

/-- The relations every sentinel locks. -/
def lockedTables : List String :=
  ["controller_recovery_roots", "controller_registry_slots", migrationLedger, "oauth_clients",
    "recovery_invalidations", "tenants", "user_totp_credentials", "users"]

def refreshTables : List String :=
  ["oauth_refresh_contracts", "oauth_refresh_families", "oauth_refresh_spent_tokens"]

def minimalMigrations : List ℕ := [20260926000100, 20261017000400]

def issuanceMigration : ℕ := 20260805000500

/-- The token relations a schema generation counts, if the schema is a known one. -/
def tokenTables (database : Database) : Option (List String) :=
  let versions := database.rowsOf migrationLedger
  let minimalRecorded := versions.any (· ∈ minimalMigrations)
  let legacy := database.hasTable "oauth_tokens"
  let issuances := database.hasTable "oauth_token_issuances"
  if !minimalRecorded && versions.max?.any (· < 20260926000100) && legacy
      && refreshTables.all (!database.hasTable ·) then some ["oauth_tokens"]
  else if minimalRecorded && !legacy && (issuances || issuanceMigration ∉ versions)
      && refreshTables.all database.hasTable then
    if issuances then some ["oauth_token_issuances"] else some refreshTables
  else none

/-- The one fact `database_sentinel.sql` selects. -/
structure SentinelFact where
  counts : List (String × ℕ)
  migrationHead : Option ℕ
  deriving DecidableEq, Repr

/-- `database_sentinel.sql`. A relation to lock that is missing fails it. -/
def sentinelFact (database : Database) : Option SentinelFact :=
  if lockedTables.all database.hasTable
      && (database.hasTable "oauth_tokens" || refreshTables.all database.hasTable) then
    (tokenTables database).map fun tokens => {
      counts := ((lockedTables.filter (· ≠ migrationLedger)) ++ tokens).map fun table =>
        (table, (database.rowsOf table).length)
      migrationHead := (database.rowsOf migrationLedger).max? }
  else none

/-! ## The recovery's own files -/

/-- A name that has passed `validate_identifier(_, 128, _)`. -/
abbrev DatabaseName := {name : String // isIdentifier 128 name}

structure DatabasePlan where
  operationId : OperationId
  manifestSha256 : Digest
  database : DatabaseName
  deriving DecidableEq, Repr

structure RecoveryFacts where
  operationId : OperationId
  snapshotId : OperationId
  manifestSha256 : Digest
  restoredDatabase : DatabaseName
  artifact : ArtifactReference
  release : ReleaseVersion
  configSchema : ConfigSchema
  deriving DecidableEq, Repr

structure RecoveryCandidateFacts where
  operationId : OperationId
  artifact : ArtifactReference
  release : ReleaseVersion
  deriving DecidableEq, Repr

/-- A formal path with the siblings bound to the operation: the staged tree, a partial
copy, and the tree it replaces. -/
structure Switch (α : Type) where
  formal : Option α
  staged : Option α
  copying : Bool
  rollback : Option α
  deriving DecidableEq, Repr

/-- `recovery_path_switched`. -/
def Switch.switched {α : Type} (path : Switch α) : Bool := path.formal.isSome && path.rollback.isSome

/-- What one recovery operation reads and writes. -/
structure Restore where
  runtime : Option RuntimeObject
  snapshot : Option Snapshot
  extracted : Option Extracted
  unpacking : Bool
  databasePlan : Option DatabasePlan
  databases : DatabaseName → Option Database
  pathsSwitching : Bool
  completed : Option RecoveryFacts
  data : Switch Tree
  secrets : Switch Tree
  config : Switch Bytes

structure PostgresConnection where
  url : Url
  password : String
  deriving DecidableEq, Repr

def databasePath (name : DatabaseName) : String := "/" ++ name.val

def PostgresConnection.withDatabase (connection : PostgresConnection) (name : DatabaseName) :
    PostgresConnection :=
  { connection with url := { connection.url with path := databasePath name } }

structure RecoveryPlatform extends Platform where
  /-- The percent-decoded password of a URL, if it has one. -/
  urlPassword : Bytes → Option String
  renderUrl : PostgresConnection → Bytes
  jsonString : Bytes → Bytes
  /-- Whether the files of a snapshot have the sizes and digests of its manifest. -/
  intact : Snapshot → Bool
  /-- The key id of the verified runtime identity in a data tree. -/
  runtimeIdentity : Tree → DeploymentState → Option String
  /-- sha256 over the text of the fact. -/
  factDigest : SentinelFact → Digest
  /-- `nazo_recovered_` and the operation's UUID. -/
  recoveredDatabase : OperationId → DatabaseName

/-- The formal paths a recovery switches. -/
inductive RestoredPath where
  | data
  | secrets
  | config
  deriving DecidableEq, Repr

/-- Where the sentinel of the recovered database is read. -/
inductive SentinelSite where
  | completed
  | found
  | restored
  deriving DecidableEq, Repr

inductive RecoveryEffect where
  | loadState
  | inspectRunning
  | stop
  | inspectStopped
  | readMarker
  | restart
  | commitRecovery
  | loadManifest
  | inspect
  | recoveryDirectory
  | readCompletion
  | verifySnapshot
  | discardExtraction
  | discardPartial
  | unpack
  | publishExtraction
  | readContract
  | readConnection
  | databaseExists
  | readPlan
  | writePlan
  | sentinel (site : SentinelSite)
  | dropDatabase
  | createDatabase
  | loadDump
  | dropFailed
  | rewriteConfig
  | discardCopy (path : RestoredPath)
  | copy (path : RestoredPath)
  | publish (path : RestoredPath)
  | writeUrl (name : String)
  | ownership
  | markSwitching
  | retire (path : RestoredPath)
  | promote (path : RestoredPath)
  | complete
  deriving DecidableEq, Repr

/-- The environment of one attempt. `loaded` is how many items `pg_restore` has applied
when it is cut off or fails. -/
structure RecoveryAttempt where
  platform : RecoveryPlatform
  faults : RecoveryEffect → Fault String
  loaded : ℕ

def RecoveryAttempt.clean (attempt : RecoveryAttempt) : Prop :=
  ∀ effect, attempt.faults effect = .none

variable {σ α : Type}

abbrev Recovering (σ : Type) := Program RecoveryAttempt σ Failure

/-- One effect of a recovery. Whatever fails in it is a failed restore. -/
def step (label : RecoveryEffect) (body : Recovering σ α) : Recovering σ α :=
  Program.effect (fun attempt => attempt.faults label)
    (fun detail => ⟨.restoreTestFailed, detail⟩) body

def refuse (detail : String) : Failure := ⟨.restoreTestFailed, detail⟩

theorem ensures_step {e : RecoveryAttempt} {s : σ} (label : RecoveryEffect)
    (body : Recovering σ α) (Q : Outcome Failure α → σ → Prop) :
    Program.Ensures (step label body) e Q s ↔
      (e.faults label = .none → Program.Ensures body e Q s) ∧
      (∀ d, e.faults label = .fail d → Q (.error ⟨.restoreTestFailed, d⟩) s) ∧
      (e.faults label = .crash → Q .crashed s) :=
  Program.ensures_effect _ _ _ _

theorem step_none {e : RecoveryAttempt} {label : RecoveryEffect} (s : σ) (body : Recovering σ α)
    (fault : e.faults label = .none) : step label body e s = body e s := by
  simp [step, Program.effect, fault]

end NazoAuthCtl.RecoveryWorld
