import NazoAuthCtl.JsonValue
import NazoAuthCtl.MatrixReferences
import NazoAuthCtl.PercentCoding

/-!
# Descriptors of a conformance matrix

The validation of a descriptor as `validate_descriptor` orders it, and the clients that it
registers. Maps are lists of entries by increasing key. The libraries for JSON texts, for PEM
blocks, for certificates, for URLs and for digests are parameters; a certificate carries what
its library says of it when it is asked.
-/

set_option autoImplicit false
set_option linter.all false

namespace NazoAuthCtl.MatrixDescriptors

open Checks JsonValue MatrixReferences
open PercentCoding (utf8)
open StateDocument (isControl isWhitespace)

abbrev Bytes := List UInt8

/-! ## Libraries -/

structure Pem where
  label : String
  contents : Bytes
  /-- What follows the block. -/
  remaining : Bytes
  deriving DecidableEq

structure Certificate where
  complete : Bool
  isCa : Bool
  isValid : Bool
  selfIssued : Bool
  selfSigned : Bool
  deriving DecidableEq

structure TargetUrl where
  scheme : String
  username : String
  password : Option String
  host : Option String
  path : String
  query : Option String
  fragment : Option String
  deriving DecidableEq

structure Library where
  encode : Json → Bytes
  decode : String → Option Json
  pem : Bytes → Option Pem
  certificate : Bytes → Option Certificate
  url : String → Option TargetUrl
  /-- Whether a host is a loopback address. -/
  loopback : String → Bool
  digestHex : Bytes → String

/-! ## Data -/

structure DescriptorSource where
  release : String
  digest : String

structure DescriptorVariant where
  id : String
  values : List (String × String)

structure RoleRequirement where
  role : String
  logicalClientId : Option String
  secretRefs : List String
  registrationTemplate : Option Json

structure CryptoPolicy where
  rsaBits : UInt16
  ecCurve : String
  mtlsSignature : String
  deriving DecidableEq

structure DescriptorPlan where
  id : String
  plan : String
  configTemplate : Json
  variant : List (String × String)
  expectedResults : List (String × String)
  requiredRoles : List RoleRequirement
  secretBindings : Bindings
  crypto : CryptoPolicy

structure DescriptorGroup where
  id : String
  profile : String
  variant : DescriptorVariant
  requiredRoles : List RoleRequirement
  plans : List DescriptorPlan

structure MatrixDescriptor where
  schema : UInt32
  source : DescriptorSource
  openid4vcCredentialDatasets : List (String × Json)
  openid4vcSuiteMdocTrustAnchorPem : String
  groups : List DescriptorGroup
  rawSha256 : Option String

structure ClientRegistration where
  policy : CryptoPolicy
  template : Json

def MatrixDescriptor.plans (descriptor : MatrixDescriptor) : List DescriptorPlan :=
  descriptor.groups.flatMap (·.plans)

/-! ## Equality of values -/

mutual

def sameValue : Json → Json → Bool
  | .null, .null => true
  | .bool a, .bool b => a == b
  | .number a, .number b => a == b
  | .string a, .string b => a == b
  | .array a, .array b => sameValues a b
  | .object a, .object b => sameMembers a b
  | _, _ => false

def sameValues : List Json → List Json → Bool
  | [], [] => true
  | a :: as, b :: bs => sameValue a b && sameValues as bs
  | _, _ => false

def sameMembers : Members → Members → Bool
  | [], [] => true
  | (name, a) :: as, (other, b) :: bs => name == other && sameValue a b && sameMembers as bs
  | _, _ => false

end

/-! ## Names and texts -/

def validateName (value field : String) : Except MaterializerError Unit :=
  check (trim value ≠ "" ∧ value.utf8ByteSize ≤ 256 ∧ blankless value) (.invalidField field)

def isLowerHex (c : Char) : Bool := ('0' ≤ c && c ≤ '9') || ('a' ≤ c && c ≤ 'f')

def validateDigest (value field : String) : Except MaterializerError Unit :=
  check (value.utf8ByteSize = 64 ∧ value.toList.all isLowerHex) (.invalidField field)

def upperAscii (c : Char) : Char :=
  if 'a' ≤ c && c ≤ 'z' then Char.ofNat (c.toNat - 32) else c

def lowerAscii (c : Char) : Char :=
  if 'A' ≤ c && c ≤ 'Z' then Char.ofNat (c.toNat + 32) else c

def upperText (text : String) : String := String.ofList (text.toList.map upperAscii)

def lowerText (text : String) : String := String.ofList (text.toList.map lowerAscii)

def isAsciiWhitespace (byte : UInt8) : Bool :=
  byte == 32 || byte == 9 || byte == 10 || byte == 12 || byte == 13

section Validation

variable (library : Library)

/-! ## Trust anchors -/

def isRoot (certificate : Certificate) : Bool :=
  certificate.isCa && certificate.selfIssued && certificate.selfSigned

def validateSingleMdocTrustAnchor (value field : String) : Except MaterializerError Bytes := do
  check (value ≠ "" ∧ value.utf8ByteSize ≤ 16 * 1024 ∧ Char.ofNat 0 ∉ value.toList
      ∧ contains "PRIVATE KEY" (upperText value) = false
      ∧ startsWith "-----BEGIN CERTIFICATE-----\n" value
      ∧ endsWith "-----END CERTIFICATE-----\n" value) (.invalidField field)
  match library.pem (utf8 value.toList) with
  | none => .error (.invalidField field)
  | some pem =>
    check (pem.label = "CERTIFICATE" ∧ pem.remaining.all isAsciiWhitespace) (.invalidField field)
    match library.certificate pem.contents with
    | none => .error (.invalidField field)
    | some certificate =>
      check (certificate.complete ∧ isRoot certificate ∧ certificate.isValid)
        (.invalidField field)
      .ok pem.contents

/-- The loop over the blocks of a bundle, each shorter than what is left. -/
def trustAnchorFrom (field : String) :
    ℕ → Option String → Bytes → Except MaterializerError (Option String)
  | 0, _, _ => .error (.invalidField field)
  | fuel + 1, found, bytes =>
    match bytes.dropWhile isAsciiWhitespace with
    | [] => .ok found
    | source =>
      match library.pem source with
      | none => .error (.invalidField field)
      | some pem => do
        check (pem.label = "CERTIFICATE" ∧ pem.remaining.length < source.length)
          (.invalidField field)
        match library.certificate pem.contents with
        | none => .error (.invalidField field)
        | some certificate => do
          check (certificate.complete) (.invalidField field)
          if isRoot certificate then do
            check (found = none) (.invalidField field)
            match String.fromUTF8?
                ⟨(source.take (source.length - pem.remaining.length)).toArray⟩ with
            | none => .error (.invalidField field)
            | some encoded =>
              trustAnchorFrom field fuel
                (some (String.ofList (encoded.toList.rdropWhile isWhitespace) ++ "\n"))
                pem.remaining
          else trustAnchorFrom field fuel found pem.remaining

def extractSingleMdocTrustAnchorFromBundle (value field : String) :
    Except MaterializerError String := do
  check (value ≠ "" ∧ value.utf8ByteSize ≤ 256 * 1024 ∧ Char.ofNat 0 ∉ value.toList
    ∧ contains "PRIVATE KEY" (upperText value) = false) (.invalidField field)
  let found ← trustAnchorFrom library field ((utf8 value.toList).length + 1) none
    (utf8 value.toList)
  match found with
  | none => .error (.invalidField field)
  | some anchor => .ok anchor

end Validation

/-! ## Datasets -/

def forbiddenDatasetKeys : List String :=
  ["client_secret", "password", "secret", "token", "access_token", "refresh_token",
    "authorization_code", "tx_code", "password_hash", "private_key", "private_jwk",
    "private_jwks", "private_key_pem", "d", "p", "q", "dp", "dq", "qi", "oth", "k"]

def validatePublicDatasetKey (key : String) : Except MaterializerError Unit :=
  check (trim key ≠ "" ∧ key.utf8ByteSize ≤ 255 ∧ blankless key
    ∧ lowerText key ∉ forbiddenDatasetKeys) .embeddedSecret

def validatePublicDatasetString (value : String) : Except MaterializerError Unit := do
  check (value.utf8ByteSize ≤ 4096) .oversize
  check (contains "PRIVATE KEY" value = false ∧ marked value = false) .embeddedSecret

mutual

/-- The check of a value with the number of the nodes before it, and of those up to it. -/
def validatePublicDatasetValue : Json → ℕ → ℕ → Except MaterializerError ℕ
  | value, depth, nodes =>
    if depth > 8 ∨ nodes + 1 > 512 then .error .oversize
    else
      match value with
      | .object members => validatePublicDatasetMembers members (depth + 1) (nodes + 1)
      | .array values => validatePublicDatasetValues values (depth + 1) (nodes + 1)
      | .string text => do
        validatePublicDatasetString text
        .ok (nodes + 1)
      | _ => .ok (nodes + 1)

def validatePublicDatasetValues : List Json → ℕ → ℕ → Except MaterializerError ℕ
  | [], _, nodes => .ok nodes
  | value :: values, depth, nodes => do
    let nodes ← validatePublicDatasetValue value depth nodes
    validatePublicDatasetValues values depth nodes

def validatePublicDatasetMembers : Members → ℕ → ℕ → Except MaterializerError ℕ
  | [], _, nodes => .ok nodes
  | (key, value) :: members, depth, nodes => do
    validatePublicDatasetKey key
    let nodes ← validatePublicDatasetValue value depth nodes
    validatePublicDatasetMembers members depth nodes

end

def validatePublicCredentialDataset (library : Library) (value : Json) :
    Except MaterializerError ℕ := do
  check (value.asObject.any fun members => !members.isEmpty)
    (.invalidField "openid4vc_credential_datasets")
  check ((library.encode value).length ≤ 64 * 1024) .oversize
  let _ ← validatePublicDatasetValue value 0 0
  .ok (library.encode value).length

def checkDatasetBytes (library : Library) :
    ℕ → List (String × Json) → Except MaterializerError Unit
  | _, [] => .ok ()
  | total, (_, dataset) :: rest => do
    let size ← validatePublicCredentialDataset library dataset
    check (total + size ≤ 512 * 1024) .oversize
    checkDatasetBytes library (total + size) rest

def isVci (plan : DescriptorPlan) : Bool := startsWith "oid4vci-" plan.plan

def isVp (plan : DescriptorPlan) : Bool := startsWith "oid4vp-" plan.plan

/-- Which of a configured and a declared value stands, if they do not contradict. -/
def agreed (field : String) :
    Option String → Option String → Except MaterializerError String
  | some configured, some declared =>
    if configured ≠ declared then .error (.invalidField field) else .ok configured
  | some configured, none => .ok configured
  | none, some declared => .ok declared
  | none, none => .error (.invalidField field)

def descriptorVciConfigurationId (plan : DescriptorPlan) : Except MaterializerError String := do
  let value ← agreed "vci.credential_configuration_id"
    ((plan.configTemplate.pointer ["vci", "credential_configuration_id"]).bind Json.asString)
    (SortedMap.get plan.variant "credential_configuration_id")
  check (isPlaceholder value = false) (.invalidField "vci.credential_configuration_id")
  validateName value "vci.credential_configuration_id"
  .ok value

/-- The dataset of a plan, which the plan may repeat. -/
def planDataset (descriptor : MatrixDescriptor) (plan : DescriptorPlan) :
    Except MaterializerError String := do
  let configurationId ← descriptorVciConfigurationId plan
  match SortedMap.get descriptor.openid4vcCredentialDatasets configurationId with
  | none => .error (.invalidField "openid4vc_credential_datasets")
  | some dataset =>
    match plan.configTemplate.pointer ["nazo", "credential_dataset"] with
    | none => .ok configurationId
    | some repeated =>
      if sameValue repeated dataset then .ok configurationId
      else .error (.invalidField "nazo.credential_dataset")

def referencedDatasets (descriptor : MatrixDescriptor) :
    List DescriptorPlan → Except MaterializerError (List String)
  | [] => .ok []
  | plan :: rest => do
    if isVci plan then
      let configurationId ← planDataset descriptor plan
      let others ← referencedDatasets descriptor rest
      .ok (configurationId :: others)
    else referencedDatasets descriptor rest

def validateOpenid4vcCredentialDatasets (library : Library) (descriptor : MatrixDescriptor) :
    Except MaterializerError Unit := do
  check (descriptor.openid4vcCredentialDatasets.length ≤ 16) .oversize
  let referenced ← referencedDatasets descriptor descriptor.plans
  check (descriptor.openid4vcCredentialDatasets.length = referenced.dedup.length)
    (.invalidField "openid4vc_credential_datasets")
  checkDatasetBytes library 0 descriptor.openid4vcCredentialDatasets

/-! ## Templates -/

def sensitiveKeys : List String :=
  ["client_secret", "password", "token", "private_key", "private_key_pem", "secret"]

def isSensitiveKey (key : String) : Bool := lowerText key ∈ sensitiveKeys

/-- A sensitive member may only hold a placeholder, if it holds a text. -/
def checkSensitive (key : String) (value : Json) : Except MaterializerError Unit :=
  check (¬(isSensitiveKey key ∧ value.asString.any fun text => !isPlaceholder text))
    .embeddedSecret

def registrationSecretKeys : List String :=
  ["client_secret", "private_key", "private_key_pem", "mtls_client_key"]

def checkRegistrationKey (key : String) (_ : Json) : Except MaterializerError Unit :=
  check (key ∉ registrationSecretKeys) .embeddedSecret

def checkMarked (text : String) : Except MaterializerError Unit :=
  if marked text then (parsePlaceholder text).map fun _ => () else .ok ()

mutual

/-- The check of each member and of each text of a tree. -/
def checkTree (entry : String → Json → Except MaterializerError Unit)
    (leaf : String → Except MaterializerError Unit) : Json → Except MaterializerError Unit
  | .array values => checkTrees entry leaf values
  | .object members => checkMembers entry leaf members
  | .string text => leaf text
  | _ => .ok ()

def checkTrees (entry : String → Json → Except MaterializerError Unit)
    (leaf : String → Except MaterializerError Unit) : List Json → Except MaterializerError Unit
  | [] => .ok ()
  | value :: values => do
    checkTree entry leaf value
    checkTrees entry leaf values

def checkMembers (entry : String → Json → Except MaterializerError Unit)
    (leaf : String → Except MaterializerError Unit) : Members → Except MaterializerError Unit
  | [] => .ok ()
  | (key, value) :: members => do
    entry key value
    checkTree entry leaf value
    checkMembers entry leaf members

end

def validateValueTemplate (value : Json) : Except MaterializerError Unit :=
  checkTree checkSensitive checkMarked value

def validateRegistrationValue (value : Json) : Except MaterializerError Unit :=
  checkTree checkRegistrationKey checkMarked value

def registrationFields : List String :=
  ["client_name", "client_type", "redirect_uris", "scopes", "allowed_audiences", "grant_types",
    "token_endpoint_auth_method"]

def validateRegistrationTemplate (value : Json) : Except MaterializerError Unit := do
  check (value.asObject.any fun members =>
    registrationFields.all fun field => (member members field).isSome)
    (.invalidField "registration_template")
  validateRegistrationValue value

/-- The check of the reference of a text that is a placeholder. -/
def checkReference (reference : String → Except MaterializerError Unit) (text : String) :
    Except MaterializerError Unit :=
  match parsePlaceholder text with
  | .ok name => reference name
  | .error _ => .ok ()

def validateTemplateReferences (value : Json) (bindings : Bindings) :
    Except MaterializerError Unit :=
  checkTree (fun _ _ => .ok ()) (checkReference (validateBindingReference bindings)) value

def validateTemplateClients (value : Json) (bindings : Bindings) (clients : List String) :
    Except MaterializerError Unit :=
  checkTree (fun _ _ => .ok ()) (checkReference (validateReferenceClient bindings clients)) value

def validateBindings (plan : DescriptorPlan) : List (String × String) →
    Except MaterializerError Unit
  | [] => .ok ()
  | (name, template) :: rest => do
    validateName name "secret binding"
    let reference ← parsePlaceholder template
    validateBindingReference plan.secretBindings reference
    validateBindings plan rest

def validateBindingClients (plan : DescriptorPlan) (clients : List String) :
    List (String × String) → Except MaterializerError Unit
  | [] => .ok ()
  | (_, template) :: rest => do
    let reference ← parsePlaceholder template
    validateReferenceClient plan.secretBindings clients reference
    validateBindingClients plan clients rest

def isHaip (plan : String) (variant : List (String × String)) : Bool :=
  contains "haip" plan || SortedMap.get variant "fapi_profile" == some "vci_haip"

def validateVciDynamicPolicy (plan : DescriptorPlan) : Except MaterializerError Unit :=
  if isVci plan then do
    check ((plan.configTemplate.pointer ["vci", "static_tx_code"]).isNone)
      (.invalidField "vci.static_tx_code")
    check ((plan.configTemplate.pointer ["vci", "key_attestation_jwks"]).isNone)
      (.invalidField "vci.key_attestation_jwks")
    check (¬(isHaip plan.plan plan.variant ∧
        (plan.configTemplate.get "client_attestation").isSome))
      (.invalidField "client_attestation")
  else .ok ()

/-! ## Roles -/

def logicalClientId (role : RoleRequirement) : String := role.logicalClientId.getD role.role

def validateRoleName (before : List RoleRequirement) (role : RoleRequirement) :
    Except MaterializerError Unit := do
  validateName role.role "role"
  check (role.role ∉ before.map (·.role)) (.duplicateRole role.role)
  checkOptional (fun logical => validateName logical "logical_client_id") role.logicalClientId

def validateRoleNames (roles : List RoleRequirement) : Except MaterializerError Unit :=
  checkEach validateRoleName [] roles

def validateSecretRefs (bindings : Bindings) : List String → Except MaterializerError Unit
  | [] => .ok ()
  | reference :: rest => do
    validateBindingReference bindings reference
    validateSecretRefs bindings rest

def validateRoleRef (bindings : Bindings) (before : List RoleRequirement)
    (role : RoleRequirement) : Except MaterializerError Unit := do
  check (logicalClientId role ∉ before.map logicalClientId)
    (.duplicateRole (logicalClientId role))
  validateSecretRefs bindings role.secretRefs
  checkOptional validateRegistrationTemplate role.registrationTemplate

def validateRoleRefs (plan : DescriptorPlan) (groupRoles planRoles : List RoleRequirement) :
    Except MaterializerError Unit :=
  checkEach (validateRoleRef plan.secretBindings) [] (groupRoles ++ planRoles)

def registerClient (clients : List (String × ClientRegistration)) (policy : CryptoPolicy)
    (role : RoleRequirement) : Except MaterializerError (List (String × ClientRegistration)) :=
  match role.registrationTemplate with
  | none => .ok clients
  | some template =>
    match SortedMap.get clients (logicalClientId role) with
    | some previous => do
      check (previous.policy = policy) (.invalidField "client crypto policy")
      check (sameValue previous.template template) (.invalidField "registration_template")
      .ok clients
    | none => .ok (SortedMap.insertEntry (logicalClientId role) ⟨policy, template⟩ clients)

def registerClients (policy : CryptoPolicy) :
    List (String × ClientRegistration) → List RoleRequirement →
      Except MaterializerError (List (String × ClientRegistration))
  | clients, [] => .ok clients
  | clients, role :: rest => do
    let clients ← registerClient clients policy role
    registerClients policy clients rest

/-- Each plan with the roles of its group before its own. -/
def MatrixDescriptor.rolesOfPlans (descriptor : MatrixDescriptor) :
    List (DescriptorPlan × List RoleRequirement) :=
  descriptor.groups.flatMap fun group =>
    group.plans.map fun plan => (plan, group.requiredRoles ++ plan.requiredRoles)

def collectFrom : List (String × ClientRegistration) →
    List (DescriptorPlan × List RoleRequirement) →
      Except MaterializerError (List (String × ClientRegistration))
  | clients, [] => .ok clients
  | clients, (plan, roles) :: rest => do
    let clients ← registerClients plan.crypto clients roles
    collectFrom clients rest

def collectClientRegistrations (descriptor : MatrixDescriptor) :
    Except MaterializerError (List (String × ClientRegistration)) :=
  collectFrom [] descriptor.rolesOfPlans

/-! ## The descriptor -/

def validateCryptoPolicy (policy : CryptoPolicy) : Except MaterializerError Unit :=
  check (policy.rsaBits ∈ [(2048 : UInt16), 3072, 4096] ∧ policy.ecCurve = "P-256"
    ∧ policy.mtlsSignature = "ECDSA-P256-SHA256") .weakAlgorithm

def validateExpectedResult (_ : List (String × String)) (entry : String × String) :
    Except MaterializerError Unit := do
  validateName entry.1 "plan.expected_results.module"
  check (entry.2 = "SKIPPED") (.invalidField "plan.expected_results.result")

def validatePlan (groupRoles : List RoleRequirement) (seen : List String)
    (plan : DescriptorPlan) : Except MaterializerError Unit := do
  validateName plan.id "plan.id"
  validateName plan.plan "plan"
  check plan.configTemplate.asObject.isSome (.invalidField "plan.config_template")
  check (plan.id ∉ seen) (.duplicateId plan.id)
  check (plan.expectedResults.length ≤ 64) (.invalidField "plan.expected_results")
  checkEach validateExpectedResult [] plan.expectedResults
  validateRoleNames plan.requiredRoles
  validateCryptoPolicy plan.crypto
  validateBindings plan plan.secretBindings
  validateValueTemplate plan.configTemplate
  validateVciDynamicPolicy plan
  validateTemplateReferences plan.configTemplate plan.secretBindings
  validateRoleRefs plan groupRoles plan.requiredRoles

/-- The plans of a group with the plan ids that were seen, and those seen after it. -/
def validatePlans (groupRoles : List RoleRequirement) :
    List String → List DescriptorPlan → Except MaterializerError (List String)
  | seen, [] => .ok seen
  | seen, plan :: rest => do
    validatePlan groupRoles seen plan
    validatePlans groupRoles (plan.id :: seen) rest

def validateGroups : List String → List String → List DescriptorGroup →
    Except MaterializerError Unit
  | _, _, [] => .ok ()
  | groups, plans, group :: rest => do
    validateName group.id "group.id"
    validateName group.profile "group.profile"
    validateName group.variant.id "variant.id"
    check (group.id ∉ groups) (.duplicateId group.id)
    validateRoleNames group.requiredRoles
    check (group.plans ≠ []) (.invalidField "group.plans")
    let plans ← validatePlans group.requiredRoles plans group.plans
    validateGroups (group.id :: groups) plans rest

def validatePlanClients (clients : List String) : List DescriptorPlan →
    Except MaterializerError Unit
  | [] => .ok ()
  | plan :: rest => do
    validateTemplateClients plan.configTemplate plan.secretBindings clients
    validateBindingClients plan clients plan.secretBindings
    validatePlanClients clients rest

/-- The trust anchor of the Suite is checked for the plans that use it. -/
def validateSuiteTrustAnchor (library : Library) (descriptor : MatrixDescriptor) :
    Except MaterializerError Unit :=
  if descriptor.plans.any fun plan => isVci plan || isVp plan then
    (validateSingleMdocTrustAnchor library descriptor.openid4vcSuiteMdocTrustAnchorPem
      "openid4vc_suite_mdoc_trust_anchor_pem").map fun _ => ()
  else .ok ()

def validateDescriptor (library : Library) (descriptor : MatrixDescriptor) :
    Except MaterializerError (List (String × ClientRegistration)) := do
  check (descriptor.schema = 1) (.unsupportedSchema descriptor.schema)
  validateName descriptor.source.release "source.release"
  validateDigest descriptor.source.digest "source.digest"
  validateSuiteTrustAnchor library descriptor
  check (descriptor.groups ≠ []) (.invalidField "groups")
  validateGroups [] [] descriptor.groups
  validateOpenid4vcCredentialDatasets library descriptor
  let clients ← collectClientRegistrations descriptor
  validatePlanClients (SortedMap.keys clients) descriptor.plans
  .ok clients

end NazoAuthCtl.MatrixDescriptors
