import NazoAuthCtl.DirectoryTrees
import NazoAuthCtl.InstallAdmission
import NazoAuthCtl.SnapshotManifests

/-!
# The archive of a deployment

A backup keeps the data tree, the secrets, the configuration and the sentinel of a deployment in
one archive, and names every file of it in its manifest. An extraction unpacks one entry after
the other and then compares the files that it finds with those that are named.
-/

set_option autoImplicit false
set_option linter.all false

namespace NazoAuthCtl.DeploymentArchive

open Checks DirectoryTrees
open StateDocument (isWhitespace)
open InstallAdmission (SECRET_PURPOSES MAX_CONFIG_CONTENT_BYTES)
open SnapshotManifests (Bytes SnapshotFile BackupPlatform)

/-! ## Paths -/

/-- A name in a directory. -/
structure FileName where
  text : String
  proper : text ≠ "" ∧ '/' ∉ text.toList ∧ text ≠ "." ∧ text ≠ ".."
  deriving DecidableEq

/-- A component of a path. A normal one may be no UTF-8. -/
inductive Component where
  | normal (name : Option String)
  | other
  deriving DecidableEq, Repr

def componentsOf (path : List FileName) : List Component :=
  path.map fun name => .normal (some name.text)

/-- `relative_archive_path`, component by component. -/
def archivePathParts : List Component → Except String (List String)
  | [] => .ok []
  | .normal (some name) :: rest => do
    let parts ← archivePathParts rest
    .ok (name :: parts)
  | .normal none :: _ => .error "snapshot path is not UTF-8"
  | .other :: _ => .error "snapshot path is not normalized and relative"

def joined (parts : List String) : String :=
  String.ofList (List.intercalate ['/'] (parts.map String.toList))

def relativeArchivePath (path : List Component) : Except String String := do
  let parts ← archivePathParts path
  check (parts ≠ []) "snapshot path is empty"
  .ok (joined parts)

/-! ## The configured signing keys -/

inductive YamlValue where
  | string (text : String)
  | bool (value : Bool)
  | number (text : String)
  | other
  deriving DecidableEq, Repr

structure SigningKeyEncryptionConfig where
  file : String
  id : String
  previousFile : Option String
  previousId : Option String
  deriving DecidableEq, Repr

def trim (text : String) : String :=
  String.ofList ((text.toList.dropWhile isWhitespace).reverse.dropWhile isWhitespace).reverse

def yamlMappingScalar (entries : String → Option YamlValue) (name : String) :
    Except String (Option String) :=
  match entries name with
  | none => .ok none
  | some (.string text) => .ok (some (trim text))
  | some (.bool value) => .ok (some (if value then "true" else "false"))
  | some (.number text) => .ok (some text)
  | some .other => .error s!"server configuration key {name} must be a scalar"

def signingKeyPair (file id : Option String) (fileSetting idSetting : String) :
    Except String (Option (String × String)) :=
  match file, id with
  | none, none => .ok none
  | some file, some id => do
    check (file ≠ "") s!"{fileSetting} must not be empty"
    check (id ≠ "") s!"{idSetting} must not be empty"
    .ok (some (file, id))
  | _, _ => .error s!"{fileSetting} and {idSetting} must be configured together"

def signingKeySetting : String := "SIGNING_KEY_ENCRYPTION_KEY_FILE"
def signingKeyIdSetting : String := "SIGNING_KEY_ENCRYPTION_KEY_ID"
def previousSigningKeySetting : String := "SIGNING_KEY_PREVIOUS_ENCRYPTION_KEY_FILE"
def previousSigningKeyIdSetting : String := "SIGNING_KEY_PREVIOUS_ENCRYPTION_KEY_ID"

structure Packages where
  /-- A document of YAML, `none` if it is no mapping. -/
  yaml : String → Except String (Option (String → Option YamlValue))
  sha256 : Bytes → String

def parseSigningKeyEncryptionConfig (packages : Packages) (config : String) :
    Except String (Option SigningKeyEncryptionConfig) := do
  match ← (packages.yaml config).mapError fun _ => "deployment configuration is not valid YAML" with
  | none => .error "deployment configuration must be a top-level key/value mapping"
  | some entries => do
    let file ← yamlMappingScalar entries signingKeySetting
    let id ← yamlMappingScalar entries signingKeyIdSetting
    let previousFile ← yamlMappingScalar entries previousSigningKeySetting
    let previousId ← yamlMappingScalar entries previousSigningKeyIdSetting
    let current ← signingKeyPair file id signingKeySetting signingKeyIdSetting
    let previous ← signingKeyPair previousFile previousId previousSigningKeySetting
      previousSigningKeyIdSetting
    match current with
    | none => do
      check (previous = none) (s!"{signingKeySetting} and {signingKeyIdSetting} are required " ++
        "when a previous signing key is configured")
      .ok none
    | some (file, id) => .ok (some ⟨file, id, previous.map Prod.fst, previous.map Prod.snd⟩)

/-! ## Writing -/

inductive EntryType where
  | regular
  | directory
  | other
  deriving DecidableEq, Repr

structure ArchiveEntry where
  entryType : EntryType
  path : List Component
  content : Bytes
  deriving DecidableEq

/-- A place on a machine. No directory has two entries of one name. -/
structure Place (α : Type) where
  tree : Tree FileName α
  distinct : Distinct tree

structure SourceFile where
  content : Bytes
  links : ℕ

/-- The tar package: a builder that is finished, the entries of a file, and `unpack_in`. -/
structure TarCrate where
  write : List ArchiveEntry → Except String Bytes
  entries : Bytes → List (Except String ArchiveEntry)
  unpackIn : Place Bytes → ArchiveEntry → Except String Bool × Place Bytes

/-- What an archive is made from. The children of a directory are in the order of their names. -/
structure DeploymentSources where
  data : Place SourceFile
  secretPresent : FileName → Except String Bool
  secret : FileName → Except String Bytes
  config : Except String Bytes
  configPath : String
  /-- The digest of the database sentinel in hexadecimal digits. -/
  sentinel : {bytes : Bytes // bytes.length = 64}

def maxSnapshotFileBytes : ℕ := 64 * 1024 * 1024 * 1024

def appData : FileName := ⟨"app-data", by decide⟩
def appSecrets : FileName := ⟨"app-secrets", by decide⟩
def configFile : FileName := ⟨"config.yaml", by decide⟩
def snapshotSentinelFile : FileName := ⟨"snapshot-sentinel", by decide⟩
def signingKeySecret : FileName := ⟨"signing-key-encryption-key", by decide⟩
def previousSigningKeySecret : FileName := ⟨"signing-key-previous-encryption-key", by decide⟩

theorem purposes_proper : ∀ purpose ∈ SECRET_PURPOSES,
    purpose ≠ "" ∧ '/' ∉ purpose.toList ∧ purpose ≠ "." ∧ purpose ≠ ".." := by
  decide

def secretFiles : List FileName :=
  SECRET_PURPOSES.attach.map fun purpose => ⟨purpose.1, purposes_proper purpose.1 purpose.2⟩

section writing

variable (packages : Packages)

/-- An entry, and the file that the manifest names for it. -/
abbrev Appended := ArchiveEntry × Option SnapshotFile

def appendDirectory (path : List FileName) : Appended := (⟨.directory, componentsOf path, []⟩, none)

def appendBytes (path : List FileName) (bytes : Bytes) : Except String Appended := do
  let relative ← relativeArchivePath (componentsOf path)
  .ok (⟨.regular, componentsOf path, bytes⟩, some ⟨relative, bytes.length, packages.sha256 bytes⟩)

/-- `append_open_regular` of a file that does not change meanwhile. -/
def appendRegular (path : List FileName) (content : Bytes) : Except String Appended := do
  check (content.length ≤ maxSnapshotFileBytes) "snapshot source is not an allowed regular file"
  appendBytes packages path content

/-- `visit_directory_tree` with the visitor of `append_tree`. -/
def appendNode (relative : List FileName) : Node SourceFile → Except String (List Appended)
  | .file file => do
    check (file.links = 1) "data tree contains a special file or hard link"
    let one ← appendRegular packages (appData :: relative) file.content
    .ok [one]
  | .directory => .ok [appendDirectory (appData :: relative)]
  | .special _ => .error "data tree contains a special file or hard link"

def appendTree : Tree FileName SourceFile → Except String (List Appended)
  | .directory children => walk (appendNode packages) [] (.directory children)
  | _ => .error "Not a directory (os error 20)"

def appendSecrets (secret : FileName → Except String Bytes) :
    List FileName → Except String (List Appended)
  | [] => .ok []
  | name :: rest => do
    let content ← secret name
    let one ← appendRegular packages [appSecrets, name] content
    let others ← appendSecrets secret rest
    .ok (one :: others)

def sortByPath (files : List SnapshotFile) : List SnapshotFile :=
  files.mergeSort fun left right => left.path ≤ right.path

/-- The secrets that an archive holds. -/
def archivedSecrets (signingKeyPresent previousConfigured : Bool) : List FileName :=
  secretFiles.filter (fun name => name ≠ signingKeySecret || signingKeyPresent) ++
    if previousConfigured then [previousSigningKeySecret] else []

def configText (bytes : Bytes) : Except String String :=
  match String.fromUTF8? ⟨bytes.toArray⟩ with
  | some text => .ok text
  | none => .error "deployment configuration is not UTF-8"

def createDeploymentArchive (tar : TarCrate) (sources : DeploymentSources) :
    Except String (Bytes × List SnapshotFile) := do
  let configBytes ← sources.config
  check (configBytes.length ≤ MAX_CONFIG_CONTENT_BYTES)
    (s!"deployment configuration exceeds the {MAX_CONFIG_CONTENT_BYTES}-byte limit: " ++
      sources.configPath)
  let text ← configText configBytes
  let signingKey ← parseSigningKeyEncryptionConfig packages text
  let previousConfigured := (signingKey.bind (·.previousFile)).isSome
  let signingKeyPresent ← sources.secretPresent signingKeySecret
  let previousPresent ← sources.secretPresent previousSigningKeySecret
  check (signingKey = none ∨ signingKeyPresent = true) s!"configured {signingKeySetting} is missing"
  check (previousConfigured = false ∨ previousPresent = true)
    s!"configured {previousSigningKeySetting} is missing"
  let tree ← appendTree packages sources.data.tree
  let secrets ← appendSecrets packages sources.secret
    (archivedSecrets signingKeyPresent previousConfigured)
  let config ← appendBytes packages [configFile] configBytes
  let sentinel ← appendBytes packages [snapshotSentinelFile] sources.sentinel.1
  let appended := tree ++ [appendDirectory [appSecrets]] ++ secrets ++ [config, sentinel]
  let archive ← tar.write (appended.map Prod.fst)
  .ok (archive, sortByPath (appended.filterMap Prod.snd))

end writing

/-! ## Reading -/

section reading

variable (packages : Packages)

/-- `snapshot_file` of what is below the root. -/
def snapshotFile (relative : List FileName) (content : Bytes) : Except String SnapshotFile := do
  check (content.length ≤ maxSnapshotFileBytes)
    "snapshot artifact is not an allowed regular file"
  let path ← relativeArchivePath (componentsOf relative)
  .ok ⟨path, content.length, packages.sha256 content⟩

def collectNode (relative : List FileName) : Node Bytes → Except String (List SnapshotFile)
  | .file content => do
    let one ← snapshotFile packages relative content
    .ok [one]
  | .directory => .ok []
  | .special .link => .error "extracted deployment tree contains a symbolic link"
  | .special .other => .error "extracted deployment tree contains a non-regular entry"

def collectRegularFiles : Tree FileName Bytes → Except String (List SnapshotFile)
  | .directory children => walk (collectNode packages) [] (.directory children)
  | _ => .error "Not a directory (os error 20)"

/-- The entries of an archive, one after the other, and what they make of a place. -/
def unpackEntries (tar : TarCrate) :
    List (Except String ArchiveEntry) → Place Bytes → Except String Unit × Place Bytes
  | [], place => (.ok (), place)
  | .error error :: _, place => (.error error, place)
  | .ok entry :: rest, place =>
    if entry.entryType = .other then
      (.error "deployment archive contains a non-file entry", place)
    else match relativeArchivePath entry.path with
      | .error error => (.error error, place)
      | .ok _ => match tar.unpackIn place entry with
        | (.error error, after) => (.error error, after)
        | (.ok false, after) =>
          (.error "deployment archive entry escapes the restore-test directory", after)
        | (.ok true, after) => unpackEntries tar rest after

def compareFiles (place : Place Bytes) (expected : List SnapshotFile) : Except String Unit := do
  let found ← collectRegularFiles packages place.tree
  check (sortByPath found = sortByPath expected)
    "extracted deployment files do not match the manifest"

def extractDeploymentArchive (tar : TarCrate) (archive : Bytes) (destination : Place Bytes)
    (expected : List SnapshotFile) : Except String Unit × Place Bytes :=
  match unpackEntries tar (tar.entries archive) destination with
  | (.error error, after) => (.error error, after)
  | (.ok (), after) => (compareFiles packages after expected, after)

end reading

end NazoAuthCtl.DeploymentArchive
