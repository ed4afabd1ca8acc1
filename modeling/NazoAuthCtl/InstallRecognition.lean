import NazoAuthCtl.InstallAdmission
import NazoAuthCtl.JsonValue
import NazoAuthCtl.SortedMap
import Mathlib.Data.String.Basic

/-!
# The container of a resumed installation

`start_container_runtime` describes the container it wants, the engine creates it
from an argument list, and `inspect` reports it back as a document. A resumed
installation adopts the container if the observation of that document matches the
description. Ports are strings on both sides, and the two sides spell them
differently. The engine's image store is a parameter.
-/

set_option autoImplicit false
set_option linter.all false

namespace NazoAuthCtl.InstallRecognition

open Checks JsonValue
open InstallAdmission (InstallOrder PlannedSecret components)
open StateDocument (ArtifactReference Failure)

abbrev Variables := List (String × String)

structure NeutralMount where
  source : String
  destination : String
  readOnly : Bool
  selinuxRelabel : Bool
  deriving DecidableEq

structure RuntimeReplacement where
  objectReference : String
  artifact : ArtifactReference
  localArtifactId : Option String
  command : List String
  mounts : List NeutralMount
  environment : Variables
  networks : List String
  ipAddress : Option String
  ports : List String
  labels : Variables
  deriving DecidableEq

structure RuntimeObservation where
  displayName : String
  running : Bool
  serverCommandVerified : Bool
  artifact : ArtifactReference
  localArtifactId : Option String
  ports : List String
  networks : List String
  mounts : List NeutralMount
  safeEnvironment : Variables
  labels : Variables
  deriving DecidableEq

/-! ## The container an order describes -/

structure InstallJob where
  deploymentId : String
  object : String
  loopbackPort : UInt16
  configReference : String
  scopeDir : String
  order : InstallOrder

def CONTAINER_CONFIG_FILE : String := "/app/.env.yaml"
def CONTAINER_OPERATOR_CONFIG_REVISION_FILE : String := "/run/nazoauth-operator/config-revision"
def CONTAINER_SECRETS_DIR : String := "/run/secrets"
def CONTAINER_DATA_DIR : String := "/var/lib/nazo_oauth"
def SERVER_CONFIG_FILE_ENV : String := "NAZOAUTH_SERVER_CONFIG_FILE"

def databasePurposes : List String := ["database-runtime-url", "database-lifecycle-url", "valkey-url"]

def mount (source destination : String) (readOnly : Bool) : NeutralMount :=
  ⟨source, destination, readOnly, false⟩

def loopbackPublication (port : UInt16) : String := s!"127.0.0.1:{port.toNat}:8000/tcp"

def publicPublication (ports : UInt16 × UInt16) : String :=
  s!"0.0.0.0:{ports.1.toNat}:{ports.2.toNat}/tcp"

def installedMounts (job : InstallJob) (tlsMount : Option NeutralMount) : List NeutralMount :=
  [mount job.configReference CONTAINER_CONFIG_FILE true,
    mount job.order.dataRoot CONTAINER_DATA_DIR false] ++ tlsMount.toList ++
    ((job.order.secrets.filter fun secret => secret.purpose ∉ databasePurposes).map fun secret =>
      mount secret.path (CONTAINER_SECRETS_DIR ++ "/" ++ secret.purpose) true) ++
    [mount (job.scopeDir ++ "/config-revision") CONTAINER_OPERATOR_CONFIG_REVISION_FILE true]

/-- The variable that names a secret's file. The database and Valkey URLs have none. -/
def secretVariable (purpose : String) : Except Failure (Option String) :=
  if purpose = "mfa-totp-key" then .ok (some "MFA_TOTP_ENCRYPTION_KEY_FILE")
  else if purpose = "signing-key-encryption-key" then .ok (some "SIGNING_KEY_ENCRYPTION_KEY_FILE")
  else if purpose ∈ databasePurposes then .ok none
  else if purpose = "client-secret-pepper" then .ok (some "CLIENT_SECRET_PEPPER_FILE")
  else if purpose = "dynamic-registration-token" then
    .ok (some "DYNAMIC_CLIENT_REGISTRATION_INITIAL_ACCESS_TOKEN_FILE")
  else if purpose = "openid4vc-data-encryption-key" then
    .ok (some "OPENID4VC_DATA_ENCRYPTION_KEY_FILE")
  else if purpose = "openid4vci-management-token" then
    .ok (some "OPENID4VCI_ISSUER_MANAGEMENT_TOKEN_FILE")
  else if purpose = "openid4vp-management-token" then
    .ok (some "OPENID4VP_VERIFIER_MANAGEMENT_TOKEN_FILE")
  else .error ⟨"OPERATION_INVALID",
    s!"unsupported install secret purpose '{ControlDelivery.sanitize purpose}'"⟩

def addSecrets : Variables → List PlannedSecret → Except Failure Variables
  | environment, [] => .ok environment
  | environment, secret :: secrets => do
    match ← secretVariable secret.purpose with
    | none => addSecrets environment secrets
    | some name => addSecrets (SortedMap.insertEntry name
        (CONTAINER_SECRETS_DIR ++ "/" ++ secret.purpose) environment) secrets

def baseEnvironment (deploymentId : String) : Variables :=
  SortedMap.collect [(SERVER_CONFIG_FILE_ENV, CONTAINER_CONFIG_FILE),
    ("DATA_DIR", CONTAINER_DATA_DIR), ("DEPLOYMENT_ID", deploymentId),
    ("NAZOAUTH_OPERATOR_CONFIG_REVISION_FILE", CONTAINER_OPERATOR_CONFIG_REVISION_FILE)]

/-- The description that `start_container_runtime` gives of its container. -/
def installReplacement (job : InstallJob) (artifact : ArtifactReference)
    (tlsMount : Option NeutralMount) (publicPorts : List (UInt16 × UInt16)) :
    Except Failure RuntimeReplacement :=
  match artifact with
  | .oci imageReference digest => do
    let environment ← addSecrets (baseEnvironment job.deploymentId) job.order.secrets
    .ok {
      objectReference := job.object
      artifact := .oci imageReference digest
      localArtifactId := none
      command := ["nazoauth", "server"]
      mounts := installedMounts job tlsMount
      environment := environment
      networks := []
      ipAddress := none
      ports := loopbackPublication job.loopbackPort :: publicPorts.map publicPublication
      labels := [("io.nazoauth.deployment-id", job.deploymentId)] }
  | _ => .error ⟨"RUNTIME_START_FAILED", "container install requires a verified OCI artifact"⟩

/-! ## The observation of a document -/

def context {α : Type} (value : Option α) (error : String) : Except String α :=
  match value with
  | some a => .ok a
  | none => .error error

theorem context_ok {α : Type} {value : Option α} {error : String} {a : α} :
    context value error = .ok a ↔ value = some a := by
  cases value with
  | none => simp [context]
  | some b => simp [context]

def filledString (value : Option Json) : Option String :=
  match value with
  | some (.string text) => if text = "" then none else some text
  | _ => none

/-- `str::rsplit_once`. -/
def rsplitOnce (sign : Char) (text : String) : Option (String × String) :=
  let behind := text.toList.rtakeWhile (· ≠ sign)
  if behind.length = text.toList.length then none
  else some (String.ofList (text.toList.take (text.toList.length - behind.length - 1)),
    String.ofList behind)

/-- `u16::from_str` succeeds. -/
def isU16 (text : String) : Bool :=
  let digits := if text.toList.head? = some '+' then text.toList.tail else text.toList
  digits ≠ [] && digits.all Char.isDigit && Nat.ofDigitChars 10 digits 0 ≤ 65535

def containerPortValid (containerPort : String) : Bool :=
  match rsplitOnce '/' containerPort with
  | none => false
  | some (port, protocol) => isU16 port && ["tcp", "udp", "sctp"].contains protocol.toLower

section engine

-- The name of the engine in its messages.
variable (engine : String)

def parseBinding (containerPort : String) (binding : Json) : Except String String := do
  let fields ← context binding.asObject s!"{engine} inspect returned a non-object port binding"
  let hostIp ← context (filledString (member fields "HostIp"))
    s!"{engine} inspect returned a port binding without a host address"
  let hostPort ← context (filledString (member fields "HostPort"))
    s!"{engine} inspect returned a port binding without a host port"
  check (isU16 hostPort) s!"{engine} inspect returned a non-numeric host port"
  .ok (hostIp ++ ":" ++ hostPort ++ "->" ++ containerPort)

def parseBindings (containerPort : String) : List Json → Except String (List String)
  | [] => .ok []
  | binding :: bindings => do
    let port ← parseBinding engine containerPort binding
    let ports ← parseBindings containerPort bindings
    .ok (port :: ports)

def parsePortMap : Members → Except String (List String)
  | [] => .ok []
  | (containerPort, bindings) :: rest => do
    check (containerPortValid containerPort)
      s!"{engine} inspect returned a malformed container port"
    if bindings.isNull then parsePortMap rest
    else do
      let bindings ← context bindings.asArray s!"{engine} inspect returned invalid port bindings"
      let ports ← parseBindings engine containerPort bindings
      let others ← parsePortMap rest
      .ok (ports ++ others)

def parsePorts (document : Json) : Except String (List String) :=
  match document.pointer ["NetworkSettings", "Ports"] with
  | none => .ok []
  | some raw =>
    if raw.isNull then .ok []
    else do
      let ports ← context raw.asObject s!"{engine} inspect returned an invalid port map"
      parsePortMap engine ports

end engine

/-! ### Mounts, labels and variables -/

def commaParts (mode : String) : List String := (mode.toList.splitOn ',').map String.ofList

/-- A member that is missing or null counts as absent. -/
def present (value : Option Json) : Option Json :=
  match value with
  | some .null => none
  | other => other

def dockerMount (mount : Json) : Except String NeutralMount := do
  let source ← context (filledString (mount.get "Source"))
    "Docker inspect returned a mount without a source"
  let destination ← context (filledString (mount.get "Destination"))
    "Docker inspect returned a mount without a destination"
  let mode ← match present (mount.get "Mode") with
    | none => .ok ""
    | some value => context value.asString "Docker inspect returned an invalid mount mode"
  let readOnly ← match present (mount.get "RW") with
    | none =>
      if mode = "" then .error "Docker inspect returned a mount without read/write metadata"
      else .ok ((commaParts mode).contains "ro")
    | some value => do
      let writable ← context value.asBool
        "Docker inspect returned an invalid mount read/write flag"
      .ok !writable
  .ok ⟨source, destination, readOnly, (commaParts mode).any fun part => part = "z" || part = "Z"⟩

def mountOptions : List Json → Except String (List String)
  | [] => .ok []
  | value :: values => do
    let option ← context (filledString (some value))
      "Podman inspect returned an invalid mount option"
    let options ← mountOptions values
    .ok (option :: options)

def podmanMount (mount : Json) : Except String NeutralMount := do
  let source ← context (filledString (mount.get "Source"))
    "Podman inspect returned a mount without a source"
  let destination ← context (filledString (mount.get "Destination"))
    "Podman inspect returned a mount without a destination"
  let options ← match present (mount.get "Options") with
    | none => .ok []
    | some value => do
      let values ← context value.asArray "Podman inspect returned invalid mount options"
      mountOptions values
  let readOnly ← match present (mount.get "RW") with
    | none =>
      if options = [] then .error "Podman inspect returned a mount without read/write metadata"
      else .ok (options.contains "ro")
    | some value => do
      let writable ← context value.asBool
        "Podman inspect returned an invalid mount read/write flag"
      .ok !writable
  .ok ⟨source, destination, readOnly, options.any fun option => option = "z" || option = "Z"⟩

def parseMountList (parse : Json → Except String NeutralMount) :
    List Json → Except String (List NeutralMount)
  | [] => .ok []
  | value :: values => do
    let mount ← parse value
    let mounts ← parseMountList parse values
    .ok (mount :: mounts)

def parseMounts (engine : String) (parse : Json → Except String NeutralMount) (document : Json) :
    Except String (List NeutralMount) :=
  match present (document.get "Mounts") with
  | none => .ok []
  | some raw => do
    let mounts ← context raw.asArray s!"{engine} inspect returned an invalid mount list"
    parseMountList parse mounts

def allowedVariables : List String :=
  ["ISSUER", "PUBLIC_BASE_URL", "DATA_DIR", "DEPLOYMENT_ID", "RUNTIME_INSTANCE_ID",
    "CONTROL_AUTHORITY", "INSTANCE_IDENTITY_DIR", "VALKEY_STATE_EPOCH",
    "NAZOAUTH_SERVER_CONFIG_FILE", "NAZOAUTH_OPERATOR_CONFIG_REVISION_FILE",
    "MFA_TOTP_ENCRYPTION_KEY_FILE", "SIGNING_KEY_ENCRYPTION_KEY_FILE",
    "SIGNING_KEY_PREVIOUS_ENCRYPTION_KEY_FILE", "CLIENT_SECRET_PEPPER_FILE",
    "DYNAMIC_CLIENT_REGISTRATION_INITIAL_ACCESS_TOKEN_FILE", "OPENID4VC_DATA_ENCRYPTION_KEY_FILE",
    "OPENID4VCI_ISSUER_MANAGEMENT_TOKEN_FILE", "OPENID4VP_VERIFIER_MANAGEMENT_TOKEN_FILE"]

/-- `str::split_once` at the first equals sign. -/
def splitVariable (entry : String) : Option (String × String) :=
  let name := entry.toList.takeWhile (· ≠ '=')
  if name.length = entry.toList.length then none
  else some (String.ofList name, String.ofList (entry.toList.drop (name.length + 1)))

def safeEnvironment (values : List Json) : Variables :=
  SortedMap.collect (((values.filterMap Json.asString).filterMap splitVariable).filter fun entry =>
    entry.1 ∈ allowedVariables)

def stringMember (entry : String × Json) : Option (String × String) :=
  entry.2.asString.map fun value => (entry.1, value)

def labels (value : Option Json) : Variables :=
  match value.bind Json.asObject with
  | none => []
  | some members => SortedMap.collect (members.filterMap stringMember)

/-! ### The document as a whole -/

/-- The word `server` behind the program's name. -/
def serverCommandFrom : ℕ → Option String → List String → Bool
  | _, _, [] => false
  | index, previous, value :: values =>
    (value = "server" && previous.any fun before =>
      before = "nazoauth" || (index = 1 && "nazoauth".toList.isSuffixOf before.toList)) ||
      serverCommandFrom (index + 1) (some value) values

def serverCommandVerified (values : List String) : Bool := serverCommandFrom 0 none values

def stringValue (value : Option Json) : List String := (value.bind Json.asString).toList

def stringValues (value : Option Json) : List String :=
  ((value.bind Json.asArray).getD []).filterMap Json.asString

def dockerServer (document : Json) : Bool :=
  serverCommandVerified (stringValue (document.get "Path") ++ stringValues (document.get "Args"))

def podmanServer (document : Json) : Bool :=
  match document.get "Config" with
  | none => false
  | some config =>
    serverCommandVerified (stringValue (config.get "Entrypoint") ++
      stringValues ((config.get "Command").orElse fun _ => config.get "Cmd"))

def isHexDigest (digest : String) : Bool :=
  digest.utf8ByteSize = 64 && digest.toList.all fun c =>
    c.isDigit || (97 ≤ c.toNat && c.toNat ≤ 102) || (65 ≤ c.toNat && c.toNat ≤ 70)

def stripSha256 (value : String) : Option String :=
  if "sha256:".toList.isPrefixOf value.toList then some (String.ofList (value.toList.drop 7))
  else none

def normalizeLocalImageId (value : String) (allowBareDigest : Bool) : Option String :=
  if allowBareDigest then
    let digest := (stripSha256 value).getD value
    if isHexDigest digest then some ("sha256:" ++ digest.toLower) else none
  else if (stripSha256 value.toLower).any isHexDigest then some value.toLower else none

/-- What the engine's image store says of an image. -/
inductive ImageAnswer where
  | digest (value : String)
  | unresolved
  | unavailable (error : String)

/-- A container engine: how it spells a document, and its image store. -/
structure Engine where
  name : String
  serverDocument : Json → Bool
  imageReference : Json → Json → Option Json
  allowBareDigest : Bool
  parseMount : Json → Except String NeutralMount
  resolveImageDigest : String → Option String → ImageAnswer

def docker (store : String → Option String → ImageAnswer) : Engine where
  name := "Docker"
  serverDocument := dockerServer
  imageReference _ config := config.get "Image"
  allowBareDigest := false
  parseMount := dockerMount
  resolveImageDigest := store

def podman (store : String → Option String → ImageAnswer) : Engine where
  name := "Podman"
  serverDocument := podmanServer
  imageReference document config := (document.get "ImageName").orElse fun _ => config.get "Image"
  allowBareDigest := true
  parseMount := podmanMount
  resolveImageDigest := store

def observedArtifact (imageReference : String) : ImageAnswer → Except String ArtifactReference
  | .digest digest => .ok (.oci imageReference digest)
  | .unresolved => .ok .unknown
  | .unavailable error => .error error

def observationFromDocument (engine : Engine) (document : Json) :
    Except String RuntimeObservation := do
  let config ← context (document.get "Config") s!"{engine.name} inspect omitted Config"
  let imageReference := ((engine.imageReference document config).bind Json.asString).getD ""
  let localArtifactId := ((document.get "Image").bind Json.asString).bind fun value =>
    normalizeLocalImageId value engine.allowBareDigest
  let artifact ← observedArtifact imageReference
    (engine.resolveImageDigest imageReference localArtifactId)
  let ports ← parsePorts engine.name document
  let mounts ← parseMounts engine.name engine.parseMount document
  let id ← context ((document.get "Id").bind Json.asString)
    s!"{engine.name} inspect omitted immutable container ID"
  let name := ((document.get "Name").bind Json.asString).getD id
  .ok {
    displayName := String.ofList (name.toList.dropWhile (· = '/'))
    running := ((document.pointer ["State", "Running"]).bind Json.asBool).getD false
    serverCommandVerified := engine.serverDocument document
    artifact := artifact
    localArtifactId := localArtifactId
    ports := ports
    networks := (((document.pointer ["NetworkSettings", "Networks"]).bind Json.asObject).getD
      []).map (·.1)
    mounts := mounts
    safeEnvironment := safeEnvironment (((config.get "Env").bind Json.asArray).getD [])
    labels := labels (config.get "Labels") }

/-! ## The comparison -/

def sameArtifact : ArtifactReference → ArtifactReference → Bool
  | .oci _ actual, .oci _ expected => actual = expected
  | _, _ => false

/-- Paths are equal by their components. -/
def samePath (path other : String) : Bool :=
  (path.toList.head? = some '/') = (other.toList.head? = some '/') &&
    components path = components other

def sortedPorts (ports : List String) : List String := ports.mergeSort fun port other => port ≤ other

def installObservationMatches (observed : RuntimeObservation) (expected : RuntimeReplacement) :
    Bool :=
  observed.serverCommandVerified && sameArtifact observed.artifact expected.artifact &&
    (expected.labels.all fun entry =>
      SortedMap.get observed.labels entry.1 = some entry.2) &&
    observed.safeEnvironment = expected.environment &&
    sortedPorts observed.ports = sortedPorts expected.ports &&
    observed.mounts.length = expected.mounts.length &&
    expected.mounts.all fun mount => observed.mounts.any fun actual =>
      samePath actual.source mount.source && samePath actual.destination mount.destination &&
        actual.readOnly = mount.readOnly


/-! ## Two spellings of a published port -/

section ports

variable {engine : String}

theorem parseBinding_arrow {containerPort : String} {binding : Json} {port : String}
    (parsed : parseBinding engine containerPort binding = .ok port) : '>' ∈ port.toList := by
  simp only [parseBinding, bind_ok, context_ok, check_ok] at parsed
  obtain ⟨fields, -, hostIp, -, hostPort, -, _, -, spelled⟩ := parsed
  have arrow : '>' ∈ "->".toList := by decide
  rw [← Except.ok.inj spelled]
  simp only [String.toList_append, List.mem_append]
  exact .inl (.inr arrow)

theorem parseBindings_arrow {containerPort : String} {bindings : List Json} {ports : List String}
    (parsed : parseBindings engine containerPort bindings = .ok ports) :
    ∀ port ∈ ports, '>' ∈ port.toList := by
  induction bindings generalizing ports with
  | nil =>
    cases parsed
    simp
  | cons binding bindings ih =>
    simp only [parseBindings, bind_ok] at parsed
    obtain ⟨first, here, others, later, same⟩ := parsed
    rw [← Except.ok.inj same, List.forall_mem_cons]
    exact ⟨parseBinding_arrow here, ih later⟩

theorem parsePortMap_arrow {members : Members} {ports : List String}
    (parsed : parsePortMap engine members = .ok ports) : ∀ port ∈ ports, '>' ∈ port.toList := by
  induction members generalizing ports with
  | nil =>
    cases parsed
    simp
  | cons entry members ih =>
    obtain ⟨containerPort, bindings⟩ := entry
    simp only [parsePortMap, bind_ok, check_ok] at parsed
    obtain ⟨_, -, rest⟩ := parsed
    by_cases unbound : bindings.isNull
    · rw [if_pos unbound] at rest
      exact ih rest
    · rw [if_neg unbound] at rest
      simp only [bind_ok] at rest
      obtain ⟨listed, -, here, parsedHere, others, later, same⟩ := rest
      rw [← Except.ok.inj same, List.forall_mem_append]
      exact ⟨parseBindings_arrow parsedHere, ih later⟩

theorem parsePorts_arrow {document : Json} {ports : List String}
    (parsed : parsePorts engine document = .ok ports) : ∀ port ∈ ports, '>' ∈ port.toList := by
  rw [parsePorts] at parsed
  cases found : document.pointer ["NetworkSettings", "Ports"] with
  | none =>
    rw [found] at parsed
    cases parsed
    simp
  | some raw =>
    rw [found] at parsed
    dsimp only at parsed
    split_ifs at parsed with null
    · cases parsed
      simp
    · rw [bind_ok] at parsed
      obtain ⟨members, -, listed⟩ := parsed
      exact parsePortMap_arrow listed

end ports

theorem digits_plain (n : ℕ) : '>' ∉ (toString n).toList := by
  show '>' ∉ n.repr.toList
  rw [Nat.toList_repr]
  intro listed
  have digit : Char.isDigit '>' = true :=
    Nat.isDigit_of_mem_toDigits (by decide) (by decide) listed
  exact absurd digit (by decide)

theorem loopbackPublication_plain (port : UInt16) : '>' ∉ (loopbackPublication port).toList := by
  have host : '>' ∉ "127.0.0.1:".toList := by decide
  have container : '>' ∉ ":8000/tcp".toList := by decide
  have spelled : loopbackPublication port =
      "127.0.0.1:" ++ toString port.toNat ++ ":8000/tcp" := rfl
  rw [spelled, String.toList_append, String.toList_append, List.mem_append, List.mem_append,
    not_or, not_or]
  exact ⟨⟨host, digits_plain _⟩, container⟩

theorem installReplacement_ports {job : InstallJob} {artifact : ArtifactReference}
    {tlsMount : Option NeutralMount} {publicPorts : List (UInt16 × UInt16)}
    {replacement : RuntimeReplacement}
    (built : installReplacement job artifact tlsMount publicPorts = .ok replacement) :
    loopbackPublication job.loopbackPort ∈ replacement.ports := by
  cases artifact with
  | oci imageReference digest =>
    rw [installReplacement, bind_ok] at built
    obtain ⟨environment, -, same⟩ := built
    rw [← Except.ok.inj same]
    exact List.mem_cons_self
  | hostBinary path sha256 => cases built
  | unknown => cases built

theorem matches_ports {observed : RuntimeObservation} {expected : RuntimeReplacement}
    (accepted : installObservationMatches observed expected = true) :
    ∀ port ∈ expected.ports, port ∈ observed.ports := by
  simp only [installObservationMatches, Bool.and_eq_true, decide_eq_true_eq] at accepted
  have sorted : sortedPorts observed.ports = sortedPorts expected.ports := accepted.1.1.2
  intro port listed
  have there : port ∈ sortedPorts expected.ports := List.mem_mergeSort.mpr listed
  rw [← sorted] at there
  exact List.mem_mergeSort.mp there

theorem observation_ports {engine : Engine} {document : Json} {observed : RuntimeObservation}
    (read : observationFromDocument engine document = .ok observed) :
    parsePorts engine.name document = .ok observed.ports := by
  simp only [observationFromDocument, bind_ok, context_ok] at read
  obtain ⟨config, -, artifact, -, ports, parsed, mounts, -, id, -, same⟩ := read
  rw [parsed, ← Except.ok.inj same]

/-- A port that is spelled without an arrow is none of those that are observed. -/
theorem unrecognised {observed : RuntimeObservation} {expected : RuntimeReplacement}
    (arrows : ∀ port ∈ observed.ports, '>' ∈ port.toList) {port : String}
    (wanted : port ∈ expected.ports) (plain : '>' ∉ port.toList) :
    installObservationMatches observed expected = false := by
  cases accepted : installObservationMatches observed expected with
  | false => rfl
  | true => exact absurd (arrows port (matches_ports accepted port wanted)) plain

/-- No document of a container, running or stopped, shows the ports of the description. -/
theorem installed_container_never_recognised {job : InstallJob} {artifact : ArtifactReference}
    {tlsMount : Option NeutralMount} {publicPorts : List (UInt16 × UInt16)}
    {replacement : RuntimeReplacement}
    (built : installReplacement job artifact tlsMount publicPorts = .ok replacement)
    {engine : Engine} {document : Json} {observed : RuntimeObservation}
    (read : observationFromDocument engine document = .ok observed) :
    installObservationMatches observed replacement = false := by
  have arrows := parsePorts_arrow (observation_ports read)
  exact unrecognised arrows (installReplacement_ports built)
    (loopbackPublication_plain job.loopbackPort)

/-! ### An engine's container -/

section sample

def shownMount (mount : NeutralMount) : Json :=
  .object [("Source", .string mount.source), ("Destination", .string mount.destination),
    ("Mode", .string (if mount.readOnly then "ro" else "rw")), ("RW", .bool !mount.readOnly)]

/-- How the engine reads `--publish` and shows the binding. -/
def shownPort (argument : String) : String × Json :=
  match (argument.toList.splitOn ':').map String.ofList with
  | [host, port, container] =>
    (container, .array [.object [("HostIp", .string host), ("HostPort", .string port)]])
  | _ => ("", .null)

/-- Docker's document of the container as described, whose paths have no colon. A stopped
container has no port bindings. -/
def dockerDocument (replacement : RuntimeReplacement) (image : String) (running : Bool) : Json :=
  .object [("Id", .string "4f5a"), ("Name", .string ("/" ++ replacement.objectReference)),
    ("Path", .string (replacement.command.headD "")),
    ("Args", .array (replacement.command.tail.map .string)),
    ("State", .object [("Running", .bool running)]),
    ("Config", .object [("Image", .string image),
      ("Env", .array (replacement.environment.map fun entry =>
        .string (entry.1 ++ "=" ++ entry.2))),
      ("Labels", .object (replacement.labels.map fun entry => (entry.1, .string entry.2)))]),
    ("Mounts", .array (replacement.mounts.map shownMount)),
    ("NetworkSettings", .object [
      ("Ports", .object (if running then replacement.ports.map shownPort else [])),
      ("Networks", .object [("bridge", .null)])])]

def sampleDigest : String := "sha256:" ++ String.ofList (List.replicate 64 'a')

def sampleStore (_ : String) (_ : Option String) : ImageAnswer := .digest sampleDigest

def sampleJob : InstallJob where
  deploymentId := "deploy-alpha"
  object := "nazoauth-alpha"
  loopbackPort := 18000
  configReference := "/etc/nazoauth/config.yaml"
  scopeDir := "/var/lib/nazoauthctl/deployments/deploy-alpha"
  order := InstallAdmission.sampleOrder

def sampleReplacement : Except Failure RuntimeReplacement :=
  installReplacement sampleJob (.oci "ghcr.io/nazozero/nazoauth" sampleDigest) none []

def sampleDocument (running : Bool) : Json :=
  match sampleReplacement with
  | .error _ => .null
  | .ok replacement => dockerDocument replacement "ghcr.io/nazozero/nazoauth" running

def sampleObservation (running : Bool) : Except String RuntimeObservation :=
  observationFromDocument (docker sampleStore) (sampleDocument running)

theorem isOk_ok {ε α : Type} {value : Except ε α} (succeeds : value.isOk = true) :
    ∃ a, value = .ok a := by
  cases value with
  | error e => cases succeeds
  | ok a => exact ⟨a, rfl⟩

theorem sampleReplacement_built : ∃ replacement, sampleReplacement = .ok replacement :=
  isOk_ok (by decide)

theorem sampleObservation_read (running : Bool) :
    ∃ observed, sampleObservation running = .ok observed := by
  apply isOk_ok
  cases running with
  | false => decide
  | true => decide +kernel

/-- The container that was just created is refused, whether it runs or not. -/
theorem created_container_refused :
    sampleJob.order.validate InstallAdmission.sampleBase64 = .ok () ∧
    ∀ running, ∃ replacement observed, sampleReplacement = .ok replacement ∧
      sampleObservation running = .ok observed ∧
      installObservationMatches observed replacement = false := by
  refine ⟨InstallAdmission.sampleOrder_valid, fun running => ?_⟩
  obtain ⟨replacement, built⟩ := sampleReplacement_built
  obtain ⟨observed, read⟩ := sampleObservation_read running
  refine ⟨replacement, observed, built, read, ?_⟩
  exact unrecognised (parsePorts_arrow (observation_ports read)) (installReplacement_ports built)
    (loopbackPublication_plain sampleJob.loopbackPort)

theorem installed_container_sample :
    ∃ replacement observed, sampleReplacement = .ok replacement ∧
      sampleObservation true = .ok observed ∧
      installObservationMatches observed replacement = false := by
  obtain ⟨replacement, built⟩ := sampleReplacement_built
  obtain ⟨observed, read⟩ := sampleObservation_read true
  exact ⟨replacement, observed, built, read, installed_container_never_recognised built read⟩

end sample

end NazoAuthCtl.InstallRecognition
