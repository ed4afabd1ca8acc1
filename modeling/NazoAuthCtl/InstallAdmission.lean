import NazoAuthCtl.ControlDelivery
import NazoAuthCtl.StateDocument
import Mathlib.Data.List.DropRight

/-!
# Admission of install orders

`InstallOrder::validate` checks the endpoints, the configuration, the paths and the
closed set of secrets before anything runs. Secret material is never empty. Paths
are those of a Unix target. The base64url decoder is a parameter.
-/

set_option autoImplicit false
set_option linter.all false

namespace NazoAuthCtl.InstallAdmission

open Checks
open StateDocument (isControl isWhitespace)

abbrev Bytes := List UInt8

def SECRET_PURPOSES : List String :=
  ["database-runtime-url", "database-lifecycle-url", "valkey-url", "mfa-totp-key",
    "signing-key-encryption-key", "client-secret-pepper", "dynamic-registration-token",
    "openid4vc-data-encryption-key", "openid4vci-management-token",
    "openid4vp-management-token"]

def MAX_CONFIG_CONTENT_BYTES : ℕ := 32 * 1024

def MAX_CONTROL_CHANGE_SET_BYTES : ℕ := 4 * 1024 * 1024

/-- What `SecretMaterial::try_new` admits. -/
abbrev SecretMaterial :=
  {bytes : Bytes // bytes ≠ [] ∧ bytes.length ≤ MAX_CONTROL_CHANGE_SET_BYTES}

structure OfficialArtifactRef where
  repository : String
  version : Option String
  deriving DecidableEq

structure PlannedSecret where
  purpose : String
  path : String
  value : Option SecretMaterial
  deriving DecidableEq

structure ExternalEndpoint where
  host : String
  port : UInt16
  name : String
  user : String
  deriving DecidableEq

structure InstallOrder where
  artifact : OfficialArtifactRef
  configContent : String
  configSha256 : String
  dataRoot : String
  runtimeRoot : Option String
  tlsMaterialRoot : Option String
  secrets : List PlannedSecret
  databaseRuntimeEndpoint : ExternalEndpoint
  databaseLifecycleEndpoint : ExternalEndpoint
  valkeyEndpoint : ExternalEndpoint
  deriving DecidableEq

def trim (text : String) : String :=
  String.ofList ((text.toList.dropWhile isWhitespace).rdropWhile isWhitespace)

/-! ## Paths -/

def splitSlash (path : String) : List String := (path.toList.splitOn '/').map String.ofList

/-- `Path::components` behind the root of an absolute path. -/
def components (path : String) : List String :=
  (splitSlash path).filter fun part => part ≠ "" ∧ part ≠ "."

/-- `Path::parent` of an absolute path. -/
def parent (path : String) : Option (List String) :=
  if components path = [] then none else some (components path).dropLast

def safeAbsoluteInstallPath (value : String) : Bool :=
  value ≠ "" && value.utf8ByteSize ≤ 512 && value.toList.head? = some '/'
    && !value.toList.any isControl && !(components value).contains ".."

def validTlsMaterialRoot (path : String) : Bool :=
  safeAbsoluteInstallPath path && path.toList.getLast? ≠ some '/'
    && !path.toList.any (fun c => c = '\\' || c = ':' || c = ',')
    && !(splitSlash path).tail.any (fun part => part = "" || part = "." || part = "..")

/-! ## Checks -/

def validateHost (label : String) (endpoint : ExternalEndpoint) : Except String Unit :=
  check (endpoint.host ≠ "" ∧ endpoint.host.utf8ByteSize ≤ 253)
    s!"{label} must be 1-253 characters"

/-- PostgreSQL's names: at most 63 letters, digits, underscores and hyphens. -/
def postgresToken (value : String) : Bool :=
  value ≠ "" && value.utf8ByteSize ≤ 63
    && value.toList.all fun c => c.isAlphanum || c = '_' || c = '-'

def validLowerHexSha256 (value : String) : Bool :=
  value.utf8ByteSize = 64
    && value.toList.all fun c => c.isDigit || (97 ≤ c.toNat && c.toNat ≤ 102)

def validateSigningKeyEncryptionKey (decode : String → Option Bytes) (bytes : Bytes) :
    Except String Unit :=
  match String.fromUTF8? (ByteArray.mk bytes.toArray) with
  | none => .error "signing-key-encryption-key must be UTF-8 base64url"
  | some encoded =>
    match decode (trim encoded) with
    | none => .error "signing-key-encryption-key must be unpadded base64url encoding of 32 bytes"
    | some decoded =>
      check (decoded.length = 32) "signing-key-encryption-key must decode to 32 bytes"

def validateSecret (decode : String → Option Bytes) (seen : List PlannedSecret)
    (secret : PlannedSecret) : Except String Unit := do
  check (secret.purpose ∈ SECRET_PURPOSES ∧ secret.purpose ∉ seen.map (·.purpose))
    (s!"install secret purpose '{ControlDelivery.sanitize secret.purpose}' is outside the " ++
      "closed set or duplicated")
  check (safeAbsoluteInstallPath secret.path ∧ (parent secret.path).isSome)
    "install secret path must be a bounded absolute path"
  check (secret.value.isSome = (secret.purpose ≠ "mfa-totp-key"))
    "every secret except the target-minted MFA key must carry material"
  match secret.value with
  | some value =>
    if secret.purpose = "signing-key-encryption-key" then
      validateSigningKeyEncryptionKey decode value.val
    else .ok ()
  | none => .ok ()

def sharesParent : List PlannedSecret → Bool
  | [] => true
  | first :: rest =>
    (parent first.path).isNone || rest.all fun secret => parent secret.path = parent first.path

def InstallOrder.validate (decode : String → Option Bytes) (order : InstallOrder) :
    Except String Unit := do
  validateHost "database runtime endpoint host" order.databaseRuntimeEndpoint
  validateHost "database lifecycle endpoint host" order.databaseLifecycleEndpoint
  validateHost "valkey endpoint host" order.valkeyEndpoint
  check (order.databaseRuntimeEndpoint.port ≠ 0 ∧ order.databaseLifecycleEndpoint.port ≠ 0
      ∧ order.valkeyEndpoint.port ≠ 0)
    "external dependency ports must be non-zero"
  check (postgresToken order.databaseRuntimeEndpoint.name
      ∧ postgresToken order.databaseRuntimeEndpoint.user
      ∧ postgresToken order.databaseLifecycleEndpoint.name
      ∧ postgresToken order.databaseLifecycleEndpoint.user)
    "PostgreSQL database and role names must be bounded alphanumeric tokens"
  check (order.configContent ≠ "" ∧ order.configContent.utf8ByteSize ≤ MAX_CONFIG_CONTENT_BYTES)
    s!"install config content must be 1-{MAX_CONFIG_CONTENT_BYTES} bytes"
  check (validLowerHexSha256 order.configSha256)
    "install config_sha256 must be 64 lowercase hexadecimal characters"
  check (safeAbsoluteInstallPath order.dataRoot)
    "install data_root must be a bounded absolute path"
  check (order.runtimeRoot.all safeAbsoluteInstallPath)
    "install runtime_root must be a bounded absolute path"
  check (order.tlsMaterialRoot.all validTlsMaterialRoot)
    "TLS material root must be a dedicated absolute POSIX directory"
  check (order.databaseRuntimeEndpoint.host = order.databaseLifecycleEndpoint.host
      ∧ order.databaseRuntimeEndpoint.port = order.databaseLifecycleEndpoint.port
      ∧ order.databaseRuntimeEndpoint.name = order.databaseLifecycleEndpoint.name
      ∧ order.databaseRuntimeEndpoint.user ≠ order.databaseLifecycleEndpoint.user)
    "install requires distinct runtime/lifecycle roles for one PostgreSQL database"
  check (order.secrets.length = SECRET_PURPOSES.length)
    "install must declare the complete closed secret purpose set"
  checkEach (validateSecret decode) [] order.secrets
  check (sharesParent order.secrets) "install secret files must live in one shared host directory"

/-! ## Admitted database endpoints -/

/-- What the check of an order says of a PostgreSQL endpoint. -/
structure AdmittedDatabase (endpoint : ExternalEndpoint) : Prop where
  host : endpoint.host ≠ ""
  port : endpoint.port ≠ 0
  name : postgresToken endpoint.name
  user : postgresToken endpoint.user

theorem validate_databases {decode : String → Option Bytes} {order : InstallOrder}
    (valid : order.validate decode = .ok ()) :
    AdmittedDatabase order.databaseRuntimeEndpoint ∧
      AdmittedDatabase order.databaseLifecycleEndpoint := by
  simp only [InstallOrder.validate, validateHost, bind_ok, exists_unit, check_ok] at valid
  obtain ⟨runtime, lifecycle, -, ports, tokens, -⟩ := valid
  exact ⟨⟨runtime.1, ports.1, tokens.1, tokens.2.1⟩,
    ⟨lifecycle.1, ports.2.1, tokens.2.2.1, tokens.2.2.2⟩⟩

/-! ### An admitted order -/

section sample

def sampleKey : Bytes := List.replicate 43 65

def sampleMaterial : SecretMaterial := ⟨sampleKey, by decide, by decide⟩

def sampleSecret (purpose : String) : PlannedSecret where
  purpose := purpose
  path := "/etc/nazoauth/secrets/" ++ purpose
  value := if purpose = "mfa-totp-key" then none else some sampleMaterial

def sampleOrder : InstallOrder where
  artifact := ⟨"nazozero/NazoAuth", none⟩
  configContent := "BIND: \"0.0.0.0:8000\"\n"
  configSha256 := String.ofList (List.replicate 64 'a')
  dataRoot := "/var/lib/nazoauth"
  runtimeRoot := none
  tlsMaterialRoot := some "/etc/nazoauth/tls"
  secrets := SECRET_PURPOSES.map sampleSecret
  databaseRuntimeEndpoint := ⟨"db.example", 5432, "nazoauth", "nazo_runtime"⟩
  databaseLifecycleEndpoint := ⟨"db.example", 5432, "nazoauth", "nazo_lifecycle"⟩
  valkeyEndpoint := ⟨"valkey.example", 6379, "", ""⟩

/-- Knows the encoding of 32 zero bytes. -/
def sampleBase64 (text : String) : Option Bytes :=
  if text = String.ofList (List.replicate 43 'A') then some (List.replicate 32 0) else none

theorem sampleOrder_valid : sampleOrder.validate sampleBase64 = .ok () := by
  decide +kernel

end sample


end NazoAuthCtl.InstallAdmission
