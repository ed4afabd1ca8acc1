import Mathlib.Data.List.AList
import Mathlib.Data.List.Sort
import NazoAuthCtl.Checks
import NazoAuthCtl.FaultProgram
import NazoAuthCtl.StateDocument

/-!
# The host and instance registry

Two directories of records, one file for each host and one for each instance. Every operation
takes the one lock of the store before it reads anything and holds it to its end, so the
operations of any number of processes come one after the other. A file holds the record it was
written from; the size of its JSON text is a parameter, and so is the URL library.
-/

set_option autoImplicit false
set_option linter.all false

namespace NazoAuthCtl.Registry
open Checks FaultProgram
open FaultProgram.Program hiding pure bind
open StateDocument (validateIdentifier isControl isWhitespace)

abbrev Uuid := BitVec 128

def Uuid.getVersionNum (id : Uuid) : ℕ := (id >>> 76).toNat % 16

/-- Lower-case hexadecimal digits in groups of 8, 4, 4, 4 and 12. -/
def Uuid.display (id : Uuid) : String :=
  let digits := Nat.toDigits 16 id.toNat
  let digits := List.replicate (32 - digits.length) '0' ++ digits
  String.intercalate "-" ([digits.take 8, (digits.drop 8).take 4, (digits.drop 12).take 4,
    (digits.drop 16).take 4, digits.drop 20].map String.ofList)

/-- An identity that a verified Hello has answered. -/
abbrev TargetId := {id : Uuid // Uuid.getVersionNum id = 7}

def registryRecordSchema : ℕ := 3
def localHostAlias : String := "local"
def maxRecordBytes : ℕ := 4 * 1024 * 1024
def maxKeyChars : ℕ := 128

inductive HostTransport where
  | «local»
  | ssh
  deriving DecidableEq, Repr

inductive HostPrivilege where
  | direct
  | sudo
  deriving DecidableEq, Repr

structure ObservationCache where
  observedAt : ℤ
  reachable : Bool
  summary : String
  deriving DecidableEq, Repr

structure HostRecord where
  schema : ℕ
  hostId : Uuid
  hostAlias : String
  transport : HostTransport
  sshProfile : Option String
  privilege : HostPrivilege
  lastObservation : Option ObservationCache
  deriving DecidableEq, Repr

inductive BackupBeforeUpdatePolicy where
  | off
  | warn
  | require (maxAgeSeconds : UInt64)
  deriving DecidableEq, Repr

structure InstanceRecord where
  schema : ℕ
  deploymentId : String
  instanceAlias : String
  hostId : Uuid
  issuer : String
  oidfTenantDomain : Option String
  oidfSuiteOrigin : Option String
  controllerId : Option String
  controllerKeyRef : Option String
  backupBeforeUpdate : BackupBeforeUpdatePolicy
  lastObservation : Option ObservationCache
  deriving DecidableEq, Repr

structure DiscoveryEvidence where
  schema : ℕ
  evidence : String
  hostId : Uuid
  hostAlias : String
  transport : HostTransport
  /-- The identity of the Hello, or why it is not verifiable. -/
  hello : Except String TargetId
  deploymentId : String
  issuer : String

structure ParsedUrl where
  cannotBeABase : Bool
  scheme : String
  host : Option String
  username : String
  password : Option String
  path : String
  query : Option String
  fragment : Option String
  deriving DecidableEq, Repr

inductive ParsedHost where
  | domain (name : String)
  | address
  deriving DecidableEq, Repr

/-- The URL library and the size of a serialised record. -/
structure Platform where
  parseUrl : String → Option ParsedUrl
  parseHost : String → Option ParsedHost
  hostSize : HostRecord → ℕ
  instanceSize : InstanceRecord → ℕ

variable (platform : Platform)

/-! ## Validation -/

def validateKey (value label : String) : Except String Unit :=
  validateIdentifier value maxKeyChars label

def validateReference (value label : String) : Except String Unit :=
  check (value ≠ "" ∧ value.utf8ByteSize ≤ 512 ∧
      ¬ value.toList.any fun c => isWhitespace c || isControl c)
    s!"{label} must be a single-line reference of at most 512 characters"

def validateIssuer (value : String) : Except String Unit :=
  match platform.parseUrl value with
  | none => .error s!"issuer is not a valid URL: {value}"
  | some url => check (url.cannotBeABase = false ∧ url.scheme ∈ ["http", "https"] ∧
      url.username = "" ∧ url.password = none)
      "issuer must be an http(s) origin URL without credentials"

def validateOidfTenantDomain (value : String) : Except String Unit :=
  match platform.parseHost value with
  | none => .error "OIDF tenant domain is not a valid DNS name"
  | some .address => .error "OIDF tenant domain must be a DNS name"
  | some (.domain domain) => check (domain = value ∧ '.' ∈ domain.toList)
      "OIDF tenant domain must be a lowercase DNS suffix such as oidf.example.com"

def validateOidfSuiteOrigin (value : String) : Except String Unit :=
  match platform.parseUrl value with
  | none => .error "OIDF Suite origin is not a valid URL"
  | some url => check (url.scheme = "https" ∧ url.host.isSome ∧ url.username = "" ∧
      url.password = none ∧ url.query = none ∧ url.fragment = none ∧ url.path ∈ ["", "/"])
      "OIDF Suite must be a bare HTTPS origin"

def BackupBeforeUpdatePolicy.validate : BackupBeforeUpdatePolicy → Except String Unit
  | .off | .warn => .ok ()
  | .require maxAgeSeconds => check (maxAgeSeconds ≠ 0 ∧ maxAgeSeconds ≤ 31536000)
      "required backup max age must be 1 second through 365 days"

def reservedAlias : String := "the 'local' alias is reserved for the built-in local host"

def HostRecord.newLocal (hostId : Uuid) : HostRecord :=
  ⟨registryRecordSchema, hostId, localHostAlias, .local, none, .direct, none⟩

def HostRecord.validate (record : HostRecord) : Except String Unit := do
  check (record.schema = registryRecordSchema) s!"unsupported host record schema {record.schema}"
  validateKey record.hostAlias "host alias"
  check (record.hostId.getVersionNum = 7) "host id must be a target-owned UUIDv7"
  match record.transport with
  | .local => do
    check (record.hostAlias = localHostAlias) reservedAlias
    check (record.sshProfile = none) "a local host must not carry an ssh profile"
  | .ssh =>
    match record.sshProfile with
    | none => .error "an ssh host requires an OpenSSH Host alias"
    | some profile => do
      validateKey profile "ssh profile alias"
      check (record.hostAlias ≠ localHostAlias) reservedAlias

def InstanceRecord.validate (record : InstanceRecord) : Except String Unit := do
  check (record.schema = registryRecordSchema)
    s!"unsupported instance record schema {record.schema}"
  validateKey record.deploymentId "deployment id"
  validateKey record.instanceAlias "instance alias"
  validateIssuer platform record.issuer
  checkOptional (validateOidfTenantDomain platform) record.oidfTenantDomain
  checkOptional (validateOidfSuiteOrigin platform) record.oidfSuiteOrigin
  record.backupBeforeUpdate.validate
  checkOptional (validateKey · "controller id") record.controllerId
  checkOptional (validateReference · "controller key ref") record.controllerKeyRef

def InstanceRecord.new (deploymentId instanceAlias : String) (hostId : Uuid) (issuer : String) :
    Except String InstanceRecord := do
  let record : InstanceRecord := ⟨registryRecordSchema, deploymentId, instanceAlias, hostId, issuer,
    none, none, none, none, .off, none⟩
  record.validate platform
  pure record

def DiscoveryEvidence.validate (evidence : DiscoveryEvidence) : Except String Unit := do
  check (evidence.schema = 1)
    s!"unsupported discovery evidence schema {evidence.schema} (expected 1)"
  check (evidence.evidence = "instance-discovery-v1")
    s!"unsupported evidence kind '{evidence.evidence}' (expected 'instance-discovery-v1')"
  validateKey evidence.hostAlias "evidence host alias"
  let targetId ← evidence.hello.mapError (s!"evidence helper identity is not verifiable: {·}")
  check (targetId.val = evidence.hostId)
    (s!"evidence target identity {Uuid.display targetId.val} does not match evidence host " ++
      s!"{Uuid.display evidence.hostId}")
  validateKey evidence.deploymentId "evidence deployment id"
  validateIssuer platform evidence.issuer

/-! ## The store -/

structure Store where
  hosts : AList fun _ : Uuid => HostRecord
  instances : AList fun _ : String => InstanceRecord

inductive Effect where
  | lock
  | hello
  | listHosts
  | listInstances
  | readHost (hostId : Uuid)
  | readInstance (deploymentId : String)
  | writeHost (hostId : Uuid)
  | writeInstance (deploymentId : String)
  | removeHost (hostId : Uuid)
  | removeInstance (deploymentId : String)
  deriving DecidableEq, Repr

/-- What one operation meets: failing calls, and the identity that the local target answers. -/
structure Surroundings where
  fault : Effect → Fault String
  target : Except String TargetId

abbrev Action (α : Type) : Type := Program Surroundings Store String α

def perform {α : Type} (e : Effect) (body : Action α) : Action α :=
  effect (·.fault e) id body

/-- The registry lock. It is free whenever it is asked for: its holder is done or lost. -/
def acquire : Action Unit := perform .lock (pure ())

def stateResetRequired (text : String) : String := s!"STATE_RESET_REQUIRED: {text}"

/-- `read_record` of a file that is there. -/
def readRecord {ρ : Type} (size : ρ → ℕ) (validate : ρ → Except String Unit) (named : ρ → Bool)
    (record : ρ) : Except String ρ := do
  check (size record ≤ maxRecordBytes) (stateResetRequired
    "registry record is missing, unsafe to read, or exceeds the size limit")
  (validate record).mapError fun _ =>
    stateResetRequired "record violates the current schema"
  check (named record) (stateResetRequired
    "record file carries a different internal id; the registry tree is inconsistent")
  pure record

def readHostRecord (hostId : Uuid) (record : HostRecord) : Except String HostRecord :=
  readRecord platform.hostSize HostRecord.validate (·.hostId = hostId) record

def readInstanceRecord (deploymentId : String) (record : InstanceRecord) :
    Except String InstanceRecord :=
  readRecord platform.instanceSize (InstanceRecord.validate platform)
    (·.deploymentId = deploymentId) record

def readAll {κ ρ : Type} (read : κ → ρ → Except String ρ) :
    List (Sigma fun _ : κ => ρ) → Except String (List ρ)
  | [] => .ok []
  | file :: files => do
    let record ← read file.1 file.2
    let records ← readAll read files
    pure (record :: records)

/-- Files are read in the order of their names; the text of a UUID is ordered as its value. -/
def loadHosts : Action (List HostRecord) := do
  let store ← get
  perform .listHosts (ofExcept (readAll (readHostRecord platform)
    (store.hosts.entries.insertionSort fun a b => a.1.toNat ≤ b.1.toNat)))

def loadInstances : Action (List InstanceRecord) := do
  let store ← get
  perform .listInstances (ofExcept (readAll (readInstanceRecord platform)
    (store.instances.entries.insertionSort fun a b => a.1 ++ ".json" ≤ b.1 ++ ".json")))

def readOptional {ρ : Type} (read : ρ → Except String ρ) : Option ρ → Except String (Option ρ)
  | none => .ok none
  | some record => (read record).map some

def findHostById (hostId : Uuid) : Action (Option HostRecord) := do
  let store ← get
  perform (.readHost hostId)
    (ofExcept (readOptional (readHostRecord platform hostId) (store.hosts.lookup hostId)))

def findHostByAlias (hostAlias : String) : Action (Option HostRecord) := do
  let hosts ← loadHosts platform
  pure (hosts.find? (·.hostAlias = hostAlias))

def findInstanceByDeployment (deploymentId : String) : Action (Option InstanceRecord) := do
  ofExcept (validateIdentifier deploymentId 128 "deployment id")
  let store ← get
  perform (.readInstance deploymentId) (ofExcept
    (readOptional (readInstanceRecord platform deploymentId) (store.instances.lookup deploymentId)))

def findInstanceByAlias (instanceAlias : String) : Action (Option InstanceRecord) := do
  let instances ← loadInstances platform
  pure (instances.find? (·.instanceAlias = instanceAlias))

def oversized (label : String) (size : ℕ) : String :=
  (s!"refusing to persist {label}: serialized size {size} bytes exceeds limit of " ++
    s!"{maxRecordBytes} bytes")

def writeHost (record : HostRecord) : Action Unit := do
  require (platform.hostSize record ≤ maxRecordBytes)
    (oversized "host record" (platform.hostSize record))
  perform (.writeHost record.hostId)
    (modify fun store => { store with hosts := store.hosts.insert record.hostId record })

def writeInstance (deploymentId : String) (record : InstanceRecord) : Action Unit := do
  require (platform.instanceSize record ≤ maxRecordBytes)
    (oversized "instance record" (platform.instanceSize record))
  perform (.writeInstance deploymentId)
    (modify fun store => { store with instances := store.instances.insert deploymentId record })

def removeHost (hostId : Uuid) : Action Unit :=
  perform (.removeHost hostId)
    (modify fun store => { store with hosts := store.hosts.erase hostId })

def removeInstance (deploymentId : String) : Action Unit :=
  perform (.removeInstance deploymentId)
    (modify fun store => { store with instances := store.instances.erase deploymentId })

/-- `with_context` on an absent record. -/
def expect {α : Type} (found : Option α) (missing : String) : Action α :=
  match found with
  | some a => pure a
  | none => throw missing

/-! ## The operations -/

def localTargetId : Action TargetId := do
  let surroundings ← environment
  perform .hello (ofExcept surroundings.target)

def ensureLocalHost : Action HostRecord := do
  acquire
  match ← findHostByAlias platform localHostAlias with
  | some existing => pure existing
  | none => do
    let targetId ← localTargetId
    let record := HostRecord.newLocal targetId.val
    writeHost platform record
    pure record

def addHost (record : HostRecord) : Action HostRecord := do
  ofExcept record.validate
  acquire
  let hosts ← loadHosts platform
  require (¬ hosts.any (·.hostAlias = record.hostAlias))
    s!"duplicate host alias '{record.hostAlias}'"
  require (¬ hosts.any (·.hostId = record.hostId))
    s!"duplicate host id {Uuid.display record.hostId}"
  writeHost platform record
  pure record

def renameInstance (oldAlias newAlias : String) : Action InstanceRecord := do
  acquire
  let instances ← loadInstances platform
  let record ← expect (instances.find? (·.instanceAlias = oldAlias))
    s!"unknown instance alias '{oldAlias}'"
  require (newAlias = oldAlias ∨ ¬ instances.any (·.instanceAlias = newAlias))
    s!"duplicate instance alias '{newAlias}'"
  let renamed := { record with instanceAlias := newAlias }
  ofExcept (renamed.validate platform)
  writeInstance platform renamed.deploymentId renamed
  pure renamed

def registerInstance (evidence : DiscoveryEvidence) (instanceAlias : Option String)
    (observation : ObservationCache) : Action InstanceRecord := do
  ofExcept (evidence.validate platform)
  acquire
  let host ← expect (← findHostById platform evidence.hostId)
    s!"evidence names unknown host {Uuid.display evidence.hostId}"
  require (host.hostAlias = evidence.hostAlias ∧ host.transport = evidence.transport)
    (s!"registry host '{host.hostAlias}' drifted from the evidence artifact (alias or " ++
      "transport changed); re-run the discovery step against the current registry")
  let registered ← findInstanceByDeployment platform evidence.deploymentId
  require (registered = none)
    (s!"duplicate deployment id '{evidence.deploymentId}' (one registry entry per real " ++
      "instance). If this instance relocated to another host, verify it there and use " ++
      "`instance relocate --to-host <alias>` instead of registering it a second time")
  let instanceAlias := instanceAlias.getD evidence.deploymentId
  let taken ← findInstanceByAlias platform instanceAlias
  require (taken = none) s!"duplicate instance alias '{instanceAlias}'"
  let record ← ofExcept (InstanceRecord.new platform evidence.deploymentId instanceAlias
    evidence.hostId evidence.issuer)
  let record := { record with lastObservation := some observation }
  writeInstance platform record.deploymentId record
  pure record

def removeInstances : List InstanceRecord → Action Unit
  | [] => pure ()
  | record :: records => do
    removeInstance record.deploymentId
    removeInstances records

def forgetHost (hostAlias : String) (cascade : Bool) :
    Action (HostRecord × List InstanceRecord) := do
  acquire
  let host ← expect (← findHostByAlias platform hostAlias) s!"unknown host alias '{hostAlias}'"
  require (host.transport ≠ .local) "the built-in 'local' host cannot be forgotten"
  let instances ← loadInstances platform
  let referencing := instances.filter (·.hostId = host.hostId)
  let names := String.intercalate ", " (referencing.map (·.instanceAlias))
  require (referencing = [] ∨ cascade = true)
    (s!"host '{hostAlias}' still has {referencing.length} registered instance(s) ({names}); " ++
      "re-run with --cascade to forget those local records as well — remote instances are " ++
      "never uninstalled or unbound by this command")
  removeInstances referencing
  removeHost host.hostId
  pure (host, referencing)

def forgetInstanceByDeployment (deploymentId : String) : Action InstanceRecord := do
  acquire
  let record ← expect (← findInstanceByDeployment platform deploymentId)
    s!"unknown instance deployment id '{deploymentId}'"
  removeInstance deploymentId
  pure record

def setHostObservation (hostId : Uuid) (observation : ObservationCache) : Action Unit := do
  acquire
  let host ← expect (← findHostById platform hostId) s!"unknown host {Uuid.display hostId}"
  writeHost platform { host with lastObservation := some observation }

/-- The setters of one instance: its record is found, changed, checked and written. -/
def editInstance (deploymentId missing : String) (edit : InstanceRecord → Action InstanceRecord) :
    Action InstanceRecord := do
  acquire
  let record ← expect (← findInstanceByDeployment platform deploymentId) missing
  let record ← edit record
  writeInstance platform deploymentId record
  pure record

def setInstanceObservation (deploymentId : String) (observation : ObservationCache) :
    Action Unit := do
  let _ ← editInstance platform deploymentId s!"unknown instance '{deploymentId}'" fun record =>
    pure { record with lastObservation := some observation }

def updateControllerBinding (deploymentId : String) (controllerId keyRef : Option String) :
    Action InstanceRecord :=
  editInstance platform deploymentId s!"unknown instance '{deploymentId}'" fun record => do
    let record := { record with controllerId, controllerKeyRef := keyRef }
    ofExcept (record.validate platform)
    pure record

def setBackupBeforeUpdate (deploymentId : String) (policy : BackupBeforeUpdatePolicy) :
    Action InstanceRecord := do
  ofExcept policy.validate
  editInstance platform deploymentId s!"unknown instance '{deploymentId}'" fun record =>
    pure { record with backupBeforeUpdate := policy }

/-- `trim_end_matches('/')`. -/
def trimSlashes (value : String) : String :=
  String.ofList (value.toList.reverse.dropWhile (· = '/')).reverse

def setOidfConfiguration (deploymentId tenantDomain suiteOrigin : String) :
    Action InstanceRecord := do
  ofExcept (validateOidfTenantDomain platform tenantDomain)
  ofExcept (validateOidfSuiteOrigin platform suiteOrigin)
  editInstance platform deploymentId s!"unknown deployment id '{deploymentId}'" fun record =>
    pure { record with
      oidfTenantDomain := some tenantDomain
      oidfSuiteOrigin := some (trimSlashes suiteOrigin) }

def relocateInstance (deploymentId : String) (newHostId : Uuid) : Action InstanceRecord :=
  editInstance platform deploymentId s!"unknown instance '{deploymentId}'" fun record => do
    require (record.hostId ≠ newHostId)
      s!"instance '{deploymentId}' is already bound to host {Uuid.display newHostId}"
    let _ ← expect (← findHostById platform newHostId)
      s!"cannot relocate to unknown host {Uuid.display newHostId}"
    let record := { record with hostId := newHostId, lastObservation := none }
    ofExcept (record.validate platform)
    pure record

end NazoAuthCtl.Registry
