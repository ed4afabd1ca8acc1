import Mathlib.Data.List.Basic
import NazoAuthCtl.Checks
import NazoAuthCtl.JsonText

/-!
# The recovery journal of a conformance run

The journal holds what an ordinary run has to undo: a tenant, its resources, a proxy, the
plans on the Suite and the private Apply material. It is validated as a whole before each
write and after each read. Texts of other packages are parameters: addresses, identifiers
of files, keys, digests and the encoding of control results.
-/

set_option autoImplicit false
set_option linter.all false

namespace NazoAuthCtl.OidfJournal

open Checks
open JsonText (Printer)

def maxRecoveryJournalBytes : ℕ := 128 * 1024
def maxPendingRuns : ℕ := 64
def maxTenantResourceManifestBytes : ℕ := 4 * 1024 * 1024
def maxSuiteRecoveryPlans : ℕ := 128
def maxSuiteRecoveryModules : ℕ := 16 * 1024
def suiteRetentionManifestSchema : ℕ := 2
def maxSuiteRetentionManifestBytes : ℕ := 64 * 1024
def tenantResourceRecoveryJournalSchema : ℕ := 3
def tenantResourceRecoveryKind : String := "tenant-resource"

/-! ## Paths and components -/

structure Path where
  absolute : Bool
  components : List String
  deriving DecidableEq, Repr

def Path.fileName (path : Path) : Option String :=
  match path.components.getLast? with
  | none => none
  | some name => if name = ".." then none else some name

def Path.withFileName (path : Path) (name : String) : Path :=
  { path with components := path.components.dropLast ++ [name] }

def Path.text (path : Path) : String :=
  (if path.absolute then "/" else "") ++ "/".intercalate path.components

/-- `validate_component`. -/
def ValidComponent (value : String) : Prop :=
  value ≠ "" ∧ value.utf8ByteSize ≤ 128 ∧ value.toList.all fun c => c.isAlphanum || c = '-'

instance (value : String) : Decidable (ValidComponent value) :=
  inferInstanceAs (Decidable (_ ∧ _ ∧ _))

def validateComponent (value label : String) : Except String Unit :=
  check (ValidComponent value) (label ++ " is invalid")

def lowerHexDigit (c : Char) : Bool := c.isDigit || (97 ≤ c.toNat && c.toNat ≤ 102)

def LowerHex (value : String) (length : ℕ) : Prop :=
  value.utf8ByteSize = length ∧ value.toList.all lowerHexDigit

instance (value : String) (length : ℕ) : Decidable (LowerHex value length) :=
  inferInstanceAs (Decidable (_ ∧ _))

/-! ## Control operations -/

inductive ControlOutcome where
  | succeeded
  | failed
  | inProgress
  deriving DecidableEq, Repr

inductive TenantResourceKind where
  | user
  | oauthClient
  | mtlsTrustAnchor
  | openid4vcDataset
  | openid4vcTrustPolicy
  deriving DecidableEq, Repr

structure TenantResourceIdentity where
  kind : TenantResourceKind
  resourceId : String
  digest : String
  deriving DecidableEq, Repr

structure TenantResourceMapping where
  kind : TenantResourceKind
  resourceId : String
  publicId : String
  deriving DecidableEq, Repr

inductive ControlResultData where
  | tenantDirectoryDescribe (revision : ℕ) (tenants : List String)
  | tenantDirectoryMutation (action tenantId : String) (revision : ℕ)
  | tenantKeyGenerated (tenantId certificateChainPem : String)
  | tenantResourceEnumerate (revision : ℕ) (resources : List TenantResourceIdentity)
      (resourceManifestSha256 : String)
  | tenantResourceApply (revision : ℕ) (resources : List TenantResourceIdentity)
      (resourceMappings : List TenantResourceMapping) (resourceManifestSha256 : String)
  | tenantResourceRevoke (revision : ℕ) (resources : List TenantResourceIdentity)
      (resourceManifestSha256 : String)
  deriving DecidableEq, Repr

structure ControlResult where
  operationId : String
  requestHash : String
  outcome : ControlOutcome
  error : Option String
  result : Option ControlResultData
  deriving DecidableEq, Repr

structure TenantResourceControlOperation where
  operationId : String
  requestHash : String
  controllerKid : String
  result : ControlResult
  deriving DecidableEq, Repr

structure EphemeralTenant where
  tenantId : String
  realmId : String
  organizationId : String
  issuer : String
  externalHost : String
  slug : String
  deriving DecidableEq, Repr

inductive ControlOperationPayload where
  | tenantDirectoryDescribe
  | tenantDirectoryCreate (expectedRevision : ℕ) (tenant : EphemeralTenant)
  | tenantKeysGenerateLocal (tenantId alg : String) (purposes : List String)
  | tenantDirectoryReload (expectedRevision : ℕ) (tenantId : String)
  | tenantDirectoryDisable (expectedRevision : ℕ) (tenantId : String)
  | tenantDirectoryFinalize (expectedRevision : ℕ) (tenantId : String)
  | tenantResourceEnumerate (tenantId : String) (selectors : List TenantResourceIdentity)
  | tenantResourceApply (tenantId : String) (resources : List TenantResourceIdentity)
  | tenantResourceRevoke (tenantId : String) (resources : List TenantResourceIdentity)
  deriving DecidableEq, Repr

/-! ## The journal -/

structure ConformanceProxyRecovery where
  bundlePath : Path
  reloadExecutable : Path
  deriving DecidableEq, Repr

structure OpenId4VpEvidenceTrustAnchor where
  targetIssuer : String
  deploymentId : String
  runtimeInstanceId : String
  instanceKeyId : String
  instancePublicKeyBase64 : String
  deriving DecidableEq, Repr

structure TenantResourceRecoveryBinding where
  deploymentId : String
  tenantId : String
  tenantDomain : String
  issuerPort : Option ℕ
  realmId : String
  organizationId : String
  runId : String
  tenantCreateExpectedRevision : ℕ
  manifestPath : Option Path
  materialSha256 : Option String
  proxy : Option ConformanceProxyRecovery
  vpEvidenceTrustAnchor : Option OpenId4VpEvidenceTrustAnchor
  resourceIdentities : List TenantResourceIdentity
  deriving DecidableEq, Repr

inductive TenantResourceRecoveryPhase where
  | intent
  | baselineEnumerated
  | applied
  | cleanupEnumerated
  | cleanupRevoked
  deriving DecidableEq, Repr

structure SuiteRecoveryState where
  origin : String
  planIds : List String
  moduleIds : List String
  pendingCreateIntents : List String
  cleanupComplete : Bool
  deriving DecidableEq, Repr

structure SuiteRetentionPlan where
  matrixPlanId : String
  suitePlanId : String
  planName : String
  planAliasSha256 : String
  deriving DecidableEq, Repr

inductive ReviewScreenshotMarker where
  | required
  | optional
  deriving DecidableEq, Repr

structure SuiteRetentionDeferredReview where
  matrixPlanId : String
  suitePlanId : String
  moduleId : String
  testName : String
  variant : List (String × String)
  placeholderPath : String
  marker : ReviewScreenshotMarker
  obligationIndex : ℕ
  deriving DecidableEq, Repr

structure SuiteRetentionScreenshotManifest where
  path : Path
  sha256 : String
  deriving DecidableEq, Repr

structure SuiteRetentionManifest where
  schema : ℕ
  suiteOrigin : String
  artifactDigest : String
  matrixSha256 : String
  deploymentId : String
  tenantId : String
  runId : String
  reviewScreenshotManifest : Option SuiteRetentionScreenshotManifest
  deferredReviewPending : List SuiteRetentionDeferredReview
  plans : List SuiteRetentionPlan
  deriving DecidableEq, Repr

structure SuiteRetentionRecord where
  manifest : SuiteRetentionManifest
  manifestSha256 : String
  manifestPath : Path
  deriving DecidableEq, Repr

inductive SuiteRetentionDisposition where
  | active (requested : Bool)
  | retentionPrepared (record : SuiteRetentionRecord)
  | retained (record : SuiteRetentionRecord)
  | cleaned
  deriving DecidableEq, Repr

structure TenantResourceRecoveryJournal where
  schema : ℕ
  kind : String
  binding : TenantResourceRecoveryBinding
  phase : TenantResourceRecoveryPhase
  tenantCreated : Bool
  tenantKeyGenerated : Bool
  tenantReloadExpectedRevision : Option ℕ
  tenantReloaded : Bool
  tenantDisableExpectedRevision : Option ℕ
  tenantDisabled : Bool
  tenantFinalizeExpectedRevision : Option ℕ
  tenantCleanupComplete : Bool
  tenantAbsenceRevision : Option ℕ
  baselineEnumerate : Option TenantResourceControlOperation
  apply : Option TenantResourceControlOperation
  cleanupEnumerate : Option TenantResourceControlOperation
  cleanupRevoke : Option TenantResourceControlOperation
  terminalFailure : Option TenantResourceControlOperation
  cleanupComplete : Bool
  manifestRemovalIntent : Bool
  manifestCleanupComplete : Bool
  proxyCleanupComplete : Bool
  suite : Option SuiteRecoveryState
  suiteRetention : SuiteRetentionDisposition
  deriving DecidableEq, Repr

/-! ## Texts of other packages -/

structure Url where
  scheme : String
  host : Option String
  username : String
  password : Option String
  query : Option String
  fragment : Option String
  path : String
  origin : String
  text : String
  deriving DecidableEq, Repr

inductive Host where
  | domain (name : String)
  | address
  deriving DecidableEq, Repr

structure Library where
  /-- The canonical text of the UUID that a text stands for. -/
  parseUuid : String → Option String
  parseUrl : String → Option Url
  parseHost : String → Option Host
  validFileIdentifier : String → Except String Unit
  /-- The id of the key that a text encodes. -/
  instanceKeyId : String → Option String
  sha256Hex : String → String
  maxTenantResourceIdentities : ℕ
  /-- The hash of an operation under its id, the key id and the configuration revision. -/
  requestHash : String → String → String → ControlOperationPayload → String
  validateControlResult : ControlResult → Except String Unit
  controlResult : ControlResult → Printer
  identity : TenantResourceIdentity → Printer
  /-- The compact text of a manifest. -/
  retentionManifest : SuiteRetentionManifest → String
  /-- The check of a screenshot manifest on disk against the manifest that names it. -/
  screenshotEvidence : SuiteRetentionManifest → TenantResourceRecoveryBinding →
    SuiteRetentionScreenshotManifest → Except String Unit

def trimmed (text : String) : String :=
  String.ofList
    ((text.toList.dropWhile Char.isWhitespace).reverse.dropWhile Char.isWhitespace).reverse

variable (library : Library)

/-- `Origin::parse_suite`. -/
def parseSuite (value : String) : Option String :=
  match library.parseUrl (trimmed value) with
  | none => none
  | some url =>
    if url.scheme = "https" ∧ url.host ≠ none ∧ url.username = "" ∧ url.password = none ∧
        url.query = none ∧ url.fragment = none ∧ url.path ∈ ["", "/"] then some url.origin
    else none

/-! ## Validation -/

def sameResourceKey (left right : TenantResourceIdentity) : Prop :=
  left.kind = right.kind ∧ left.resourceId = right.resourceId

instance (left right : TenantResourceIdentity) : Decidable (sameResourceKey left right) :=
  inferInstanceAs (Decidable (_ ∧ _))

def validateTenantResourceIdentity (identity : TenantResourceIdentity) : Except String Unit := do
  (library.validFileIdentifier identity.resourceId).mapError ("invalid tenant-resource ID: " ++ ·)
  check (LowerHex identity.digest 64) "tenant-resource identity digest is invalid"

def validateTenantResourceIdentities (identities : List TenantResourceIdentity)
    (requireNonempty : Bool) : Except String Unit := do
  check (identities.length ≤ library.maxTenantResourceIdentities ∧
    ¬(requireNonempty = true ∧ identities = []))
    "tenant-resource identities are out of bounds"
  identities.forM (validateTenantResourceIdentity library)
  check (identities.Pairwise fun left right => ¬sameResourceKey left right)
    "tenant-resource identities must be unique"

def identitySetsEqual (left right : List TenantResourceIdentity) : Prop :=
  left.length = right.length ∧ ∀ identity ∈ left, identity ∈ right

instance (left right : List TenantResourceIdentity) : Decidable (identitySetsEqual left right) :=
  inferInstanceAs (Decidable (_ ∧ _))

def validateVpEvidenceTrustAnchor (anchor : OpenId4VpEvidenceTrustAnchor)
    (binding : TenantResourceRecoveryBinding) : Except String Unit := do
  validateComponent anchor.deploymentId "VP evidence deployment ID"
  validateComponent anchor.runtimeInstanceId "VP evidence runtime instance ID"
  validateComponent anchor.instanceKeyId "VP evidence instance key ID"
  match library.parseUrl anchor.targetIssuer with
  | none => .error "VP evidence target issuer is invalid"
  | some issuer =>
    check (anchor.deploymentId = binding.deploymentId ∧ issuer.scheme = "https" ∧
      issuer.host ≠ none ∧ issuer.username = "" ∧ issuer.password = none ∧
      issuer.query = none ∧ issuer.fragment = none ∧ issuer.path ∈ ["", "/"] ∧
      anchor.targetIssuer = String.ofList
        (issuer.text.toList.reverse.dropWhile (· = '/')).reverse)
      "VP evidence trust anchor conflicts with the recovery binding"
  match library.instanceKeyId anchor.instancePublicKeyBase64 with
  | none => .error "VP evidence instance public key is invalid"
  | some keyId =>
    check (keyId = anchor.instanceKeyId)
      "VP evidence instance key ID conflicts with its public key"

def bindingDomain (binding : TenantResourceRecoveryBinding) : Except String String :=
  match library.parseHost binding.tenantDomain with
  | none => .error "tenant-resource tenant domain is invalid"
  | some .address => .error "tenant-resource tenant domain must be a DNS name"
  | some (.domain domain) => .ok domain

def parseId (value error : String) : Except String String :=
  match library.parseUuid value with
  | none => .error error
  | some id => .ok id

def validateOrdinaryBinding (binding : TenantResourceRecoveryBinding) (deploymentId : String) :
    Except String Unit := do
  validateComponent binding.deploymentId "deployment ID"
  validateComponent binding.runId "run ID"
  let tenantId ← parseId library binding.tenantId "tenant-resource tenant ID is invalid"
  let realmId ← parseId library binding.realmId "tenant-resource realm ID is invalid"
  let organizationId ←
    parseId library binding.organizationId "tenant-resource organization ID is invalid"
  let domain ← bindingDomain library binding
  check (binding.deploymentId = deploymentId ∧ domain = binding.tenantDomain ∧
    binding.issuerPort ≠ some 0 ∧ '.' ∈ domain.toList ∧
    tenantId = binding.tenantId ∧ realmId = binding.realmId ∧
    organizationId = binding.organizationId ∧ tenantId ≠ realmId ∧
    tenantId ≠ organizationId ∧ realmId ≠ organizationId ∧
    binding.manifestPath.isSome = binding.materialSha256.isSome ∧
    (∀ path ∈ binding.manifestPath, path.absolute = true) ∧
    (∀ digest ∈ binding.materialSha256, LowerHex digest 64) ∧
    ∀ proxy ∈ binding.proxy,
      proxy.bundlePath.absolute = true ∧ proxy.reloadExecutable.absolute = true)
    "ordinary recovery binding is invalid"
  validateTenantResourceIdentities library binding.resourceIdentities true
  checkOptional (fun anchor => validateVpEvidenceTrustAnchor library anchor binding)
    binding.vpEvidenceTrustAnchor

def validKid (kid : String) : Prop :=
  kid.utf8ByteSize = 43 ∧ kid.toList.all fun c => c.isAlphanum || c = '-' || c = '_'

instance (kid : String) : Decidable (validKid kid) := inferInstanceAs (Decidable (_ ∧ _))

def validateControlIdentity (operation : TenantResourceControlOperation) :
    Except String Unit := do
  let operationId ← parseId library operation.operationId "control operation ID is invalid"
  check (operationId = operation.operationId ∧ LowerHex operation.requestHash 64 ∧
    validKid operation.controllerKid ∧ operation.result.operationId = operation.operationId ∧
    operation.result.requestHash = operation.requestHash)
    "control operation result is invalid"

def validateControlOperation (operation : TenantResourceControlOperation) :
    Except String Unit := do
  validateControlIdentity library operation
  check (operation.result.outcome = .succeeded ∧ operation.result.error = none ∧
    operation.result.result ≠ none)
    "control operation result is invalid"

def validPublicId (publicId : String) : Prop :=
  publicId ≠ "" ∧ publicId.utf8ByteSize ≤ 512 ∧
    publicId.toList.all fun c => !(c.toNat < 32 || (127 ≤ c.toNat && c.toNat < 160))

instance (publicId : String) : Decidable (validPublicId publicId) :=
  inferInstanceAs (Decidable (_ ∧ _ ∧ _))

def validApplyMappings (mappings : List TenantResourceMapping)
    (resources : List TenantResourceIdentity) : Prop :=
  (∀ mapping ∈ mappings, library.validFileIdentifier mapping.resourceId = .ok () ∧
    validPublicId mapping.publicId ∧ ∃ resource ∈ resources,
      resource.kind = mapping.kind ∧ resource.resourceId = mapping.resourceId) ∧
  mappings.Pairwise fun left right =>
    ¬(left.kind = right.kind ∧ left.resourceId = right.resourceId)

instance (mappings : List TenantResourceMapping) (resources : List TenantResourceIdentity) :
    Decidable (validApplyMappings library mappings resources) :=
  inferInstanceAs (Decidable (_ ∧ _))

def validateApplyOperation (binding : TenantResourceRecoveryBinding)
    (operation : TenantResourceControlOperation) : Except String Unit := do
  validateControlOperation library operation
  match operation.result.result with
  | some (.tenantResourceApply _ resources mappings sha256) =>
    check (identitySetsEqual resources binding.resourceIdentities ∧ LowerHex sha256 64 ∧
      validApplyMappings library mappings resources)
      "ordinary Apply result does not match run resources"
  | _ => .error "ordinary Apply has no typed Apply result"

def validateEnumerateOperation (binding : TenantResourceRecoveryBinding)
    (operation : TenantResourceControlOperation) : Except String Unit := do
  validateControlOperation library operation
  match operation.result.result with
  | some (.tenantResourceEnumerate _ resources sha256) => do
    validateTenantResourceIdentities library resources false
    check (LowerHex sha256 64) "ordinary Enumerate result manifest digest is invalid"
    check (∀ resource ∈ resources, ∀ bound ∈ binding.resourceIdentities,
      ¬(sameResourceKey bound resource ∧ bound.digest ≠ resource.digest))
      "ordinary cleanup resource reappeared with a different digest"
  | _ => .error "ordinary cleanup has no typed Enumerate result"

/-- The resources of the run that an enumeration lists. -/
def presentResources (binding : TenantResourceRecoveryBinding)
    (resources : List TenantResourceIdentity) : List TenantResourceIdentity :=
  resources.filter (· ∈ binding.resourceIdentities)

def maxU64 : ℕ := 18446744073709551615

def validateRevokeOperation (binding : TenantResourceRecoveryBinding)
    (enumerate operation : TenantResourceControlOperation) : Except String Unit := do
  validateControlOperation library operation
  match enumerate.result.result, operation.result.result with
  | some (.tenantResourceEnumerate revision resources _),
    some (.tenantResourceRevoke revokeRevision revoked sha256) => do
    let expected := presentResources binding resources
    check (expected = [] ∨ ¬identitySetsEqual revoked expected ∨ revision < maxU64)
      "cleanup revision overflow"
    check (expected ≠ [] ∧ identitySetsEqual revoked expected ∧
      revokeRevision = revision + 1 ∧ LowerHex sha256 64)
      "ordinary Revoke result does not match persisted cleanup enumeration"
  | some (.tenantResourceEnumerate _ _ _), _ => .error "ordinary cleanup has no typed Revoke result"
  | _, _ => .error "ordinary cleanup enumeration is invalid"

/-- `tenant_resource_obligations_complete`. -/
def tenantResourceObligationsComplete (journal : TenantResourceRecoveryJournal) : Bool :=
  if journal.terminalFailure.isSome then false
  else if journal.tenantAbsenceRevision.isSome then true
  else
    match journal.cleanupEnumerate with
    | none => false
    | some enumerate =>
      if journal.apply = none then false
      else
        match enumerate.result.result with
        | some (.tenantResourceEnumerate _ resources _) =>
          if presentResources journal.binding resources = [] then true
          else journal.cleanupRevoke.isSome
        | _ => false

/-! ### Retention manifests -/

def planAliasSha256 (matrixPlanId : String) : String := library.sha256Hex matrixPlanId

def asciiControl (c : Char) : Bool := c.toNat < 32 || c.toNat = 127

def validRetainedName (name : String) : Prop :=
  name ≠ "" ∧ name.utf8ByteSize ≤ 256 ∧ name.toList.all (!asciiControl ·)

instance (name : String) : Decidable (validRetainedName name) :=
  inferInstanceAs (Decidable (_ ∧ _ ∧ _))

def validateRetentionPlan (before : List SuiteRetentionPlan) (plan : SuiteRetentionPlan) :
    Except String Unit := do
  validateComponent plan.matrixPlanId "retained Matrix plan ID"
  validateComponent plan.suitePlanId "retained Suite plan ID"
  check (validRetainedName plan.planName ∧ LowerHex plan.planAliasSha256 64 ∧
    planAliasSha256 library plan.matrixPlanId = plan.planAliasSha256 ∧
    plan.matrixPlanId ∉ before.map (·.matrixPlanId) ∧
    plan.suitePlanId ∉ before.map (·.suitePlanId))
    "Suite retention plan ownership is invalid"

def deferredIdentity (pending : SuiteRetentionDeferredReview) :
    String × String × String × String × List (String × String) :=
  (pending.matrixPlanId, pending.suitePlanId, pending.moduleId, pending.testName, pending.variant)

def validateDeferredReview (manifest : SuiteRetentionManifest)
    (before : List SuiteRetentionDeferredReview) (pending : SuiteRetentionDeferredReview) :
    Except String Unit := do
  validateComponent pending.matrixPlanId "deferred review Matrix plan ID"
  validateComponent pending.suitePlanId "deferred review Suite plan ID"
  validateComponent pending.moduleId "deferred review Suite module ID"
  check (validRetainedName pending.testName ∧ pending.marker = .required ∧
    pending.obligationIndex = 0 ∧
    pending.placeholderPath = "/test/a/" ++ pending.moduleId ++ "/verification-evidence" ∧
    pending.matrixPlanId ∈ manifest.plans.map (·.matrixPlanId) ∧
    pending.suitePlanId ∈ manifest.plans.map (·.suitePlanId) ∧
    deferredIdentity pending ∉ before.map deferredIdentity)
    "deferred review retention identity is invalid"

/-- The manifest owns exactly the plans of the journal. -/
def validateManifestCover (manifest : SuiteRetentionManifest) (suite : SuiteRecoveryState) :
    Except String Unit := do
  check ((∀ plan ∈ manifest.plans, plan.suitePlanId ∈ suite.planIds) ∧
    ∀ planId ∈ suite.planIds, planId ∈ manifest.plans.map (·.suitePlanId))
    "Suite retention manifest does not cover the journal plan IDs"
  check (suite.origin = manifest.suiteOrigin)
    "Suite retention origin conflicts with the recovery journal"

def validateSuiteRetentionManifest (manifest : SuiteRetentionManifest)
    (binding : TenantResourceRecoveryBinding) (suite : Option SuiteRecoveryState) :
    Except String Unit := do
  check (parseSuite library manifest.suiteOrigin ≠ none) "retained Suite origin is invalid"
  check (manifest.schema = suiteRetentionManifestSchema ∧
    parseSuite library manifest.suiteOrigin = some manifest.suiteOrigin ∧
    manifest.deploymentId = binding.deploymentId ∧ manifest.tenantId = binding.tenantId ∧
    manifest.runId = binding.runId ∧ LowerHex manifest.artifactDigest 64 ∧
    LowerHex manifest.matrixSha256 64 ∧ manifest.plans ≠ [] ∧
    manifest.plans.length ≤ maxSuiteRecoveryPlans)
    "Suite retention manifest is outside policy"
  checkEach (validateRetentionPlan library) [] manifest.plans
  checkEach (validateDeferredReview manifest) [] manifest.deferredReviewPending
  checkOptional (validateManifestCover manifest) suite

def validateSuiteRetentionEvidence (manifest : SuiteRetentionManifest)
    (binding : TenantResourceRecoveryBinding) : Except String Unit :=
  match manifest.reviewScreenshotManifest with
  | some screenshot => library.screenshotEvidence manifest binding screenshot
  | none => check (manifest.deferredReviewPending = [])
      "deferred review retention has no screenshot manifest"

def retainedManifestName (binding : TenantResourceRecoveryBinding) : String :=
  "retained-suite-" ++ binding.runId ++ ".json"

def validateSuiteRetentionRecord (record : SuiteRetentionRecord)
    (binding : TenantResourceRecoveryBinding) (suite : Option SuiteRecoveryState) :
    Except String Unit := do
  validateSuiteRetentionManifest library record.manifest binding suite
  check (library.sha256Hex (library.retentionManifest record.manifest) = record.manifestSha256)
    "Suite retention manifest digest is invalid"
  check (record.manifestPath.absolute = true ∧
    record.manifestPath.fileName = some (retainedManifestName binding) ∧
    ".." ∉ record.manifestPath.components)
    "Suite retention manifest path is outside policy"

/-! ### The whole journal -/

def expectedPhase (journal : TenantResourceRecoveryJournal) : TenantResourceRecoveryPhase :=
  if journal.cleanupRevoke.isSome then .cleanupRevoked
  else if journal.cleanupEnumerate.isSome then .cleanupEnumerated
  else if journal.apply.isSome then .applied
  else if journal.baselineEnumerate.isSome then .baselineEnumerated
  else .intent

def validateTerminalFailure (journal : TenantResourceRecoveryJournal)
    (failure : TenantResourceControlOperation) : Except String Unit := do
  validateControlIdentity library failure
  check (failure.result.outcome = .failed ∧ failure.result.error ≠ none ∧
    failure.result.result = none)
    "terminal control failure is invalid"
  check (journal.cleanupComplete = false ∧ journal.manifestRemovalIntent = false ∧
    journal.manifestCleanupComplete = false)
    "terminal control failure cannot have completed recovery cleanup"

def lifecycleConsistent (journal : TenantResourceRecoveryJournal) : Prop :=
  (journal.tenantKeyGenerated = true → journal.tenantCreated = true) ∧
  (journal.tenantReloadExpectedRevision ≠ none → journal.tenantKeyGenerated = true) ∧
  (journal.tenantReloaded = true → journal.tenantReloadExpectedRevision ≠ none) ∧
  (journal.tenantDisableExpectedRevision ≠ none → journal.tenantCreated = true) ∧
  (journal.tenantDisabled = true → journal.tenantDisableExpectedRevision ≠ none) ∧
  (journal.tenantFinalizeExpectedRevision ≠ none → journal.tenantDisabled = true) ∧
  (journal.tenantCleanupComplete = true → journal.tenantFinalizeExpectedRevision ≠ none)

instance (journal : TenantResourceRecoveryJournal) : Decidable (lifecycleConsistent journal) :=
  inferInstanceAs (Decidable (_ ∧ _ ∧ _ ∧ _ ∧ _ ∧ _ ∧ _))

def validateTenantState (journal : TenantResourceRecoveryJournal) : Except String Unit := do
  check (journal.cleanupComplete = true → tenantResourceObligationsComplete journal = true)
    "tenant-resource cleanup marker is ahead of its obligations"
  check (journal.tenantCleanupComplete = true →
    journal.tenantCreated = true ∨ journal.tenantAbsenceRevision ≠ none)
    "temporary tenant cleanup is ahead of tenant creation"
  check (journal.tenantAbsenceRevision ≠ none →
    journal.tenantCleanupComplete = true ∧ journal.cleanupComplete = true ∧
    journal.tenantDisableExpectedRevision = none ∧ journal.tenantDisabled = false ∧
    journal.tenantFinalizeExpectedRevision = none)
    "temporary tenant absence state is inconsistent"
  check (journal.tenantAbsenceRevision = none → lifecycleConsistent journal)
    "temporary tenant lifecycle state is inconsistent"
  check (journal.manifestRemovalIntent = true →
    journal.cleanupComplete = true ∧ journal.binding.manifestPath ≠ none)
    "tenant-resource manifest removal intent is invalid"
  check (journal.manifestCleanupComplete = true → journal.manifestRemovalIntent = true)
    "tenant-resource manifest cleanup marker has no intent"
  check (journal.binding.proxy = none → journal.proxyCleanupComplete = true)
    "tenant-resource proxy cleanup marker is incomplete without a proxy binding"

def validateUnique (label duplicate : String) (before : List String) (id : String) :
    Except String Unit := do
  validateComponent id label
  check (id ∉ before) duplicate

def validateSuiteState (suite : SuiteRecoveryState) : Except String Unit := do
  check (parseSuite library suite.origin ≠ none) "Suite recovery origin is invalid"
  check (parseSuite library suite.origin = some suite.origin ∧
    suite.planIds.length ≤ maxSuiteRecoveryPlans ∧
    suite.moduleIds.length ≤ maxSuiteRecoveryModules ∧
    suite.pendingCreateIntents.length ≤ maxSuiteRecoveryPlans + maxSuiteRecoveryModules ∧
    (suite.cleanupComplete = true → suite.pendingCreateIntents = []))
    "Suite recovery state is outside policy"
  checkEach (validateUnique "Suite plan ID" "Suite recovery plan identifiers must be unique")
    [] suite.planIds
  checkEach (validateUnique "Suite module ID" "Suite recovery module identifiers must be unique")
    [] suite.moduleIds
  checkEach (validateUnique "Suite create intent ID" "Suite create intent identifiers must be unique")
    [] suite.pendingCreateIntents

def withSuite (journal : TenantResourceRecoveryJournal) (missing : String)
    (validate : SuiteRecoveryState → Except String Unit) : Except String Unit :=
  match journal.suite with
  | none => .error missing
  | some suite => validate suite

def validateDisposition (journal : TenantResourceRecoveryJournal) : Except String Unit :=
  match journal.suiteRetention with
  | .active _ => .ok ()
  | .cleaned => withSuite journal "Suite cleanup disposition has no Suite state" fun suite =>
      check (suite.cleanupComplete = true ∧ suite.pendingCreateIntents = [] ∧
        suite.planIds = [] ∧ suite.moduleIds = [])
        "Suite cleaned disposition is outside policy"
  | .retentionPrepared record =>
    withSuite journal "prepared Suite retention has no Suite state" fun suite => do
      check (suite.cleanupComplete = false ∧ suite.pendingCreateIntents = [])
        "prepared Suite retention has unsettled allocation state"
      validateSuiteRetentionRecord library record journal.binding (some suite)
  | .retained record =>
    withSuite journal "retained Suite disposition has no Suite state" fun suite => do
      check (suite.cleanupComplete = false ∧ suite.pendingCreateIntents = [] ∧
        suite.planIds = [] ∧ suite.moduleIds = [])
        "retained Suite disposition must transfer all allocation IDs"
      validateSuiteRetentionRecord library record journal.binding none

def validateApplyOrder (journal : TenantResourceRecoveryJournal)
    (apply : TenantResourceControlOperation) : Except String Unit := do
  check (journal.baselineEnumerate ≠ none) "ordinary Apply precedes baseline enumeration"
  validateApplyOperation library journal.binding apply

def validateCleanupOrder (journal : TenantResourceRecoveryJournal)
    (enumerate : TenantResourceControlOperation) : Except String Unit := do
  check (journal.apply ≠ none) "ordinary cleanup enumeration precedes Apply"
  validateEnumerateOperation library journal.binding enumerate

def validateRevokeOrder (journal : TenantResourceRecoveryJournal)
    (revoke : TenantResourceControlOperation) : Except String Unit :=
  match journal.cleanupEnumerate with
  | none => .error "ordinary Revoke precedes cleanup enumeration"
  | some enumerate => validateRevokeOperation library journal.binding enumerate revoke

def validateOperations (journal : TenantResourceRecoveryJournal) : Except String Unit := do
  checkOptional (validateEnumerateOperation library journal.binding) journal.baselineEnumerate
  checkOptional (validateApplyOrder library journal) journal.apply
  checkOptional (validateCleanupOrder library journal) journal.cleanupEnumerate
  checkOptional (validateRevokeOrder library journal) journal.cleanupRevoke

def validateTenantResourceJournal (journal : TenantResourceRecoveryJournal)
    (deploymentId : String) : Except String Unit := do
  validateOrdinaryBinding library journal.binding deploymentId
  check (journal.phase = expectedPhase journal)
    "tenant-resource recovery phase does not match durable operations"
  checkOptional (validateTerminalFailure library journal) journal.terminalFailure
  validateTenantState journal
  checkOptional (validateSuiteState library) journal.suite
  validateDisposition library journal
  validateOperations library journal

def validateJournal (journal : TenantResourceRecoveryJournal) (deploymentId runId : String) :
    Except String Unit := do
  check (journal.binding.runId = runId)
    "conformance recovery journal run ID does not match its path"
  check (journal.schema = tenantResourceRecoveryJournalSchema ∧
    journal.kind = tenantResourceRecoveryKind)
    "tenant-resource recovery journal discriminator is invalid"
  validateTenantResourceJournal library journal deploymentId

/-! ## The text of a journal -/

open JsonText (string number bool null optional array object)

def pathText (path : Path) : Printer := string path.text

def proxyText (proxy : ConformanceProxyRecovery) : Printer :=
  object [("bundle_path", pathText proxy.bundlePath),
    ("reload_executable", pathText proxy.reloadExecutable)]

def trustAnchorText (anchor : OpenId4VpEvidenceTrustAnchor) : Printer :=
  object [("target_issuer", string anchor.targetIssuer),
    ("deployment_id", string anchor.deploymentId),
    ("runtime_instance_id", string anchor.runtimeInstanceId),
    ("instance_key_id", string anchor.instanceKeyId),
    ("instance_public_key_base64", string anchor.instancePublicKeyBase64)]

def issuerPortField : Option ℕ → List (String × Printer)
  | none => []
  | some port => [("issuer_port", number port)]

def bindingText (binding : TenantResourceRecoveryBinding) : Printer :=
  object ([("deployment_id", string binding.deploymentId),
      ("tenant_id", string binding.tenantId), ("tenant_domain", string binding.tenantDomain)] ++
    issuerPortField binding.issuerPort ++
    [("realm_id", string binding.realmId), ("organization_id", string binding.organizationId),
      ("run_id", string binding.runId),
      ("tenant_create_expected_revision", number binding.tenantCreateExpectedRevision),
      ("manifest_path", optional pathText binding.manifestPath),
      ("material_sha256", optional string binding.materialSha256),
      ("proxy", optional proxyText binding.proxy),
      ("vp_evidence_trust_anchor", optional trustAnchorText binding.vpEvidenceTrustAnchor),
      ("resource_identities", array (binding.resourceIdentities.map library.identity))])

def phaseText : TenantResourceRecoveryPhase → String
  | .intent => "intent"
  | .baselineEnumerated => "baseline_enumerated"
  | .applied => "applied"
  | .cleanupEnumerated => "cleanup_enumerated"
  | .cleanupRevoked => "cleanup_revoked"

def operationText (operation : TenantResourceControlOperation) : Printer :=
  object [("operation_id", string operation.operationId),
    ("request_hash", string operation.requestHash),
    ("controller_kid", string operation.controllerKid),
    ("result", library.controlResult operation.result)]

def suiteText (suite : SuiteRecoveryState) : Printer :=
  object [("origin", string suite.origin),
    ("plan_ids", array (suite.planIds.map string)),
    ("module_ids", array (suite.moduleIds.map string)),
    ("pending_create_intents", array (suite.pendingCreateIntents.map string)),
    ("cleanup_complete", bool suite.cleanupComplete)]

def screenshotText (screenshot : SuiteRetentionScreenshotManifest) : Printer :=
  object [("path", pathText screenshot.path), ("sha256", string screenshot.sha256)]

def markerText : ReviewScreenshotMarker → String
  | .required => "required"
  | .optional => "optional"

def deferredText (pending : SuiteRetentionDeferredReview) : Printer :=
  object [("matrix_plan_id", string pending.matrixPlanId),
    ("suite_plan_id", string pending.suitePlanId), ("module_id", string pending.moduleId),
    ("test_name", string pending.testName),
    ("variant", object (pending.variant.map fun entry => (entry.1, string entry.2))),
    ("placeholder_path", string pending.placeholderPath),
    ("marker", string (markerText pending.marker)),
    ("obligation_index", number pending.obligationIndex)]

def retentionPlanText (plan : SuiteRetentionPlan) : Printer :=
  object [("matrix_plan_id", string plan.matrixPlanId),
    ("suite_plan_id", string plan.suitePlanId), ("plan_name", string plan.planName),
    ("plan_alias_sha256", string plan.planAliasSha256)]

def retentionManifestText (manifest : SuiteRetentionManifest) : Printer :=
  object [("schema", number manifest.schema), ("suite_origin", string manifest.suiteOrigin),
    ("artifact_digest", string manifest.artifactDigest),
    ("matrix_sha256", string manifest.matrixSha256),
    ("deployment_id", string manifest.deploymentId), ("tenant_id", string manifest.tenantId),
    ("run_id", string manifest.runId),
    ("review_screenshot_manifest", optional screenshotText manifest.reviewScreenshotManifest),
    ("deferred_review_pending", array (manifest.deferredReviewPending.map deferredText)),
    ("plans", array (manifest.plans.map retentionPlanText))]

def recordText (record : SuiteRetentionRecord) : Printer :=
  object [("manifest", retentionManifestText record.manifest),
    ("manifest_sha256", string record.manifestSha256),
    ("manifest_path", pathText record.manifestPath)]

def dispositionText : SuiteRetentionDisposition → Printer
  | .active requested => object [("disposition", string "active"), ("requested", bool requested)]
  | .retentionPrepared record =>
    object [("disposition", string "retention-prepared"), ("record", recordText record)]
  | .retained record => object [("disposition", string "retained"), ("record", recordText record)]
  | .cleaned => object [("disposition", string "cleaned")]

def journalText (journal : TenantResourceRecoveryJournal) : Printer :=
  object [("schema", number journal.schema), ("kind", string journal.kind),
    ("binding", bindingText library journal.binding),
    ("phase", string (phaseText journal.phase)),
    ("tenant_created", bool journal.tenantCreated),
    ("tenant_key_generated", bool journal.tenantKeyGenerated),
    ("tenant_reload_expected_revision", optional number journal.tenantReloadExpectedRevision),
    ("tenant_reloaded", bool journal.tenantReloaded),
    ("tenant_disable_expected_revision", optional number journal.tenantDisableExpectedRevision),
    ("tenant_disabled", bool journal.tenantDisabled),
    ("tenant_finalize_expected_revision", optional number journal.tenantFinalizeExpectedRevision),
    ("tenant_cleanup_complete", bool journal.tenantCleanupComplete),
    ("tenant_absence_revision", optional number journal.tenantAbsenceRevision),
    ("baseline_enumerate", optional (operationText library) journal.baselineEnumerate),
    ("apply", optional (operationText library) journal.apply),
    ("cleanup_enumerate", optional (operationText library) journal.cleanupEnumerate),
    ("cleanup_revoke", optional (operationText library) journal.cleanupRevoke),
    ("terminal_failure", optional (operationText library) journal.terminalFailure),
    ("cleanup_complete", bool journal.cleanupComplete),
    ("manifest_removal_intent", bool journal.manifestRemovalIntent),
    ("manifest_cleanup_complete", bool journal.manifestCleanupComplete),
    ("proxy_cleanup_complete", bool journal.proxyCleanupComplete),
    ("suite", optional suiteText journal.suite),
    ("suite_retention", dispositionText journal.suiteRetention)]

/-- `canonical_journal_bytes`. -/
def canonicalJournalBytes (journal : TenantResourceRecoveryJournal) : Except String String :=
  let bytes := journalText library journal 0
  if maxRecoveryJournalBytes < bytes.utf8ByteSize then
    .error "conformance recovery journal exceeds policy"
  else .ok bytes

end NazoAuthCtl.OidfJournal
