import Mathlib.Data.List.Sort
import NazoAuthCtl.MatrixTemplates
import NazoAuthCtl.WireValues

/-!
# Materialisation of a conformance matrix

Preparation makes the private material of a run from a valid descriptor, the manifest lists
the resources that the target is to hold for it, and finalisation takes the identifiers that
the target gave to them into the configurations. What the libraries draw and generate for a
run is a parameter, as are the canonical digest of a set of identities and the check of a
trust policy of the operator protocol.
-/

set_option autoImplicit false
set_option linter.all false

namespace NazoAuthCtl.Materializer

open Checks JsonValue MatrixReferences MatrixDescriptors MatrixTemplates
open PercentCoding (utf8)

/-- What is drawn and generated for one run. -/
structure Draws where
  applicantPassword : String
  applicantEmailId : String
  txCode : String
  attestation : String → Option String → Except MaterializerError GeneratedAttestationMaterial
  clientSecret : String → String
  /-- Private and public keys of a client, for a size in bits. -/
  rsaJwks : String → UInt16 → Except MaterializerError (String × String)
  ecJwks : String → Except MaterializerError (String × String)
  /-- The CA and the certificate of a client, its key and the digest of its certificate. -/
  mtls : String → Except MaterializerError (String × String × String × String)

/-! ## Preparation -/

def secretRefNames (reference secretRef : String) : Bool :=
  trim secretRef = reference || (parsePlaceholder secretRef).toOption = some reference

mutual

def valueContainsReference (reference : String) : Json → Bool
  | .array values => valuesContainReference reference values
  | .object members => membersContainReference reference members
  | .string text => (parsePlaceholder text).toOption = some reference
  | _ => false

def valuesContainReference (reference : String) : List Json → Bool
  | [] => false
  | value :: values =>
    valueContainsReference reference value || valuesContainReference reference values

def membersContainReference (reference : String) : Members → Bool
  | [] => false
  | (_, value) :: members =>
    valueContainsReference reference value || membersContainReference reference members

end

def rolesRequire (reference : String) (roles : List RoleRequirement) : Bool :=
  roles.any fun role => role.secretRefs.any (secretRefNames reference)

def planRequires (reference : String) (plan : DescriptorPlan) : Bool :=
  valueContainsReference reference plan.configTemplate
    || plan.secretBindings.any (fun binding =>
      (parsePlaceholder binding.2).toOption = some reference)
    || rolesRequire reference plan.requiredRoles

def descriptorRequiresReference (descriptor : MatrixDescriptor) (reference : String) : Bool :=
  descriptor.groups.any fun group =>
    rolesRequire reference group.requiredRoles || group.plans.any (planRequires reference)

def textField (request : Json) (field : String) : Option String :=
  (request.get field).bind Json.asString

def registrationRequiresMtls (request : Json) : Bool :=
  textField request "token_endpoint_auth_method" = some "tls_client_auth"
    || textField request "token_endpoint_auth_method" = some "self_signed_tls_client_auth"
    || (request.get "require_mtls_bound_tokens").bind Json.asBool = some true
    || ["tls_client_auth_subject_dn", "tls_client_auth_cert_sha256"].any (fun field =>
      (textField request field).any fun value => trim value ≠ "")
    || ["tls_client_auth_san_dns", "tls_client_auth_san_uri", "tls_client_auth_san_ip",
        "tls_client_auth_san_email"].any fun field =>
      ((request.get field).bind Json.asArray).any fun values => !values.isEmpty

def validateMaterializedMtlsRegistration (request : Json) (certificateSha256 : String) :
    Except MaterializerError Unit :=
  if textField request "token_endpoint_auth_method" = some "tls_client_auth" then
    check ((((request.get "tls_client_auth_san_dns").bind Json.asArray).any fun values =>
          values.map Json.asString == [some "nazoauthctl-client"])
        ∧ ((request.get "tls_client_auth_subject_dn").all Json.isNull
          ∧ ["tls_client_auth_san_uri", "tls_client_auth_san_ip",
            "tls_client_auth_san_email"].all fun field =>
              (request.get field).all fun value => value.asArray.any List.isEmpty)
        ∧ textField request "tls_client_auth_cert_sha256" = some certificateSha256)
      (.invalidField "registration_template.mtls_identity")
  else .ok ()

/-- The texts of a list, the first of each. -/
def uniqueTexts : List String → List Json → List Json
  | _, [] => []
  | seen, .string text :: rest =>
    if text ∈ seen then uniqueTexts seen rest
    else .string text :: uniqueTexts (text :: seen) rest
  | seen, _ :: rest => uniqueTexts seen rest

def canonicalizeField (members : Members) (field : String) : Except MaterializerError Members :=
  match member members field with
  | none => .ok members
  | some (.array values) => do
    check (values.all fun value => value.asString.isSome) (.invalidField "registration_template")
    .ok (put field (.array (uniqueTexts [] values)) members)
  | some _ => .error (.invalidField "registration_template")

def canonicalizeRegistrationStringSets :
    Json → Except MaterializerError Json
  | .object members => do
    let members ← canonicalizeField members "scopes"
    let members ← canonicalizeField members "allowed_audiences"
    let members ← canonicalizeField members "grant_types"
    let members ← canonicalizeField members "post_logout_redirect_uris"
    .ok (.object members)
  | _ => .error (.invalidField "registration_template")

/-- Whether a client needs one of the fields: its own plans or its registration name it. -/
def needs (descriptor : MatrixDescriptor) (logicalClientId : String) (template : Json)
    (fields : List String) : Bool :=
  fields.any fun field =>
    ["client." ++ logicalClientId ++ "." ++ field, "generated." ++ field].any (fun reference =>
      descriptorRequiresReference descriptor reference
        || valueContainsReference reference template)
    || valueContainsReference ("client." ++ field) template

def rsaFields : List String := ["rsa.public_jwks", "rsa.private_jwks"]

def ecFields : List String := ["ec.public_jwks", "ec.private_jwks"]

def mtlsFields : List String :=
  ["mtls.ca_cert", "mtls.client_cert", "mtls.client_key", "mtls.cert_sha256"]

/-- Material that is left blank where it is not needed. -/
def whenNeeded {α : Type} (needed : Bool) (blank : α) (generate : Except MaterializerError α) :
    Except MaterializerError α :=
  if needed then generate else .ok blank

def generateClientCrypto (draws : Draws) (logicalClientId : String) (policy : CryptoPolicy)
    (needsRsa needsEc needsMtls : Bool) : Except MaterializerError GeneratedClientCrypto := do
  let rsa ← whenNeeded needsRsa ("", "") (draws.rsaJwks logicalClientId policy.rsaBits)
  let ec ← whenNeeded needsEc ("", "") (draws.ecJwks logicalClientId)
  let mtls ← whenNeeded needsMtls ("", "", "", "") (draws.mtls logicalClientId)
  .ok ⟨draws.clientSecret logicalClientId, rsa.1, rsa.2, ec.1, ec.2, mtls.1, mtls.2.1, mtls.2.2.1,
    mtls.2.2.2⟩

def secretMethods : List String := ["client_secret_basic", "client_secret_post"]

section Source

variable (library : Library)

def PreparedClient.new (draws : Draws) (descriptor : MatrixDescriptor) (logicalClientId : String)
    (registration : ClientRegistration) (targetIssuer suiteOrigin requestJti : String) :
    Except MaterializerError PreparedClient := do
  let generated ← generateClientCrypto draws logicalClientId registration.policy
    (needs descriptor logicalClientId registration.template rsaFields)
    (needs descriptor logicalClientId registration.template ecFields)
    (registrationRequiresMtls registration.template
      || needs descriptor logicalClientId registration.template mtlsFields)
  let request ← materializeRegistrationTemplate library
    ⟨logicalClientId, targetIssuer, suiteOrigin, generated, requestJti⟩ registration.template
  let request ← canonicalizeRegistrationStringSets request
  validateMaterializedMtlsRegistration request generated.mtlsClientCertificateSha256
  match textField request "token_endpoint_auth_method" with
  | none => .error (.invalidField "registration_template.token_endpoint_auth_method")
  | some method =>
    .ok {
      clientSecret := if method ∈ secretMethods then generated.clientSecret else ""
      rsaPrivateJwks := generated.rsaPrivateJwks
      rsaPublicJwks := generated.rsaPublicJwks
      ecPrivateJwks := generated.ecPrivateJwks
      ecPublicJwks := generated.ecPublicJwks
      mtlsCaCertificate := generated.mtlsCaCertificate
      mtlsClientCertificate := generated.mtlsClientCertificate
      mtlsClientKey := generated.mtlsClientKey
      mtlsClientCertificateSha256 := generated.mtlsClientCertificateSha256
      request := request }

/-- The clients in the order of their registrations, which are by increasing id. -/
def prepareClients (draws : Draws) (descriptor : MatrixDescriptor)
    (targetIssuer suiteOrigin requestJti : String) :
    List (String × ClientRegistration) → Except MaterializerError (List (String × PreparedClient))
  | [] => .ok []
  | (logicalClientId, registration) :: rest => do
    let client ← PreparedClient.new library draws descriptor logicalClientId registration
      targetIssuer suiteOrigin requestJti
    let clients ← prepareClients draws descriptor targetIssuer suiteOrigin requestJti rest
    .ok ((logicalClientId, client) :: clients)

def trimBrackets (host : String) : String :=
  String.ofList ((host.toList.dropWhile fun c => c = '[' || c = ']').rdropWhile
    fun c => c = '[' || c = ']')

def validateTargetIssuer (value : String) : Except MaterializerError Unit :=
  match library.url (trim value) with
  | none => .error .unsafeIssuer
  | some parsed => do
    check (parsed.username = "" ∧ parsed.password = none ∧ parsed.query = none
      ∧ parsed.fragment = none ∧ parsed.host ≠ none ∧ contains "//" parsed.path = false
      ∧ ".." ∉ splitOn '/' parsed.path) .unsafeIssuer
    check (parsed.scheme = "https" ∨ (parsed.scheme = "http" ∧ parsed.host.any fun host =>
      trimBrackets host = "localhost" || trimBrackets host = "localhost.localdomain"
        || library.loopback (trimBrackets host))) .unsafeIssuer

def validateRequestJti (value : String) : Except MaterializerError Unit :=
  check ((stripPrefix "request-" value).any fun suffix =>
    suffix.utf8ByteSize = 32 && suffix.toList.all isLowerHex) (.invalidField "request_jti")

def mdl : String := "org.iso.18013.5.1.mDL"

def requiresPreAuthorizedVci (descriptor : MatrixDescriptor) : Bool :=
  descriptor.plans.any fun plan =>
    isVci plan && SortedMap.get plan.variant "vci_grant_type" = some "pre_authorization_code"

def accessToken : String := "generated.dynamic_registration_initial_access_token"

def prepareMaterialization (draws : Draws) (descriptor : MatrixDescriptor)
    (targetIssuer suiteOrigin requestJti : String)
    (dynamicToken mdocIssuingCountry : Option String) :
    Except MaterializerError PreparedMaterialization := do
  validateTargetIssuer library targetIssuer
  validateRequestJti requestJti
  match descriptor.rawSha256 with
  | none => .error (.invalidField "matrix_sha256")
  | some matrixSha256 => do
    let registrations ← validateDescriptor library { descriptor with rawSha256 := none }
    let dataset := SortedMap.get descriptor.openid4vcCredentialDatasets mdl
    let issuingCountry := (dataset.bind fun dataset =>
      (dataset.pointer ["org.iso.18013.5.1", "issuing_country"]).bind Json.asString) <|>
        mdocIssuingCountry
    check (¬(dataset.isSome ∧ issuingCountry = none))
      (.invalidField "openid4vc_credential_datasets.org.iso.18013.5.1.mDL.issuing_country")
    let attestation ← whenNeeded (descriptor.plans.any fun plan => isVci plan || isVp plan) none
      ((draws.attestation suiteOrigin issuingCountry).map some)
    let clients ← prepareClients library draws { descriptor with rawSha256 := none } targetIssuer
      suiteOrigin requestJti registrations
    check (¬(descriptorRequiresReference descriptor accessToken ∧ dynamicToken = none))
      (.invalidField "dynamic_registration_initial_access_token")
    .ok {
      descriptor := { descriptor with rawSha256 := none }
      targetIssuer := targetIssuer
      suiteBaseUrl := suiteOrigin
      requestJti := requestJti
      matrixSha256 := matrixSha256
      applicantEmail := "oidf-" ++ draws.applicantEmailId ++ "@example.invalid"
      applicantPassword := draws.applicantPassword
      txCode := if requiresPreAuthorizedVci descriptor then some draws.txCode else none
      attestation := attestation
      dynamicRegistrationInitialAccessToken :=
        if descriptorRequiresReference descriptor accessToken then dynamicToken else none
      clients := clients }

end Source

/-! ## Resources -/

inductive TenantResourceKind where
  | user
  | oauthClient
  | mtlsTrustAnchor
  | openid4vcDataset
  | openid4vcTrustPolicy
  deriving DecidableEq, Repr

structure TenantResourceIdentity where
  kind : TenantResourceKind
  resourceId : String
  digest : String
  deriving DecidableEq

structure TenantResourceMapping where
  kind : TenantResourceKind
  resourceId : String
  publicId : String
  deriving DecidableEq

structure Openid4vcTrustPolicy where
  schema : ℕ
  clientAttestationIssuer : String
  clientAttestationJwks : Json
  keyAttestationJwks : Json
  walletAuthorizationOrigins : List String
  credentialTrustAnchorPem : String

/-- What the operator protocol and the identifier library say of resources. -/
structure Protocol where
  kindName : TenantResourceKind → String
  kindRank : TenantResourceKind → ℕ
  canonicalManifestSha256 : List TenantResourceIdentity → Option String
  validTrustPolicy : Openid4vcTrustPolicy → Bool
  trustPolicyValue : Openid4vcTrustPolicy → Json
  /-- The canonical text of an identifier. -/
  uuid : String → Option String

structure TenantResourceManifestResource where
  kind : TenantResourceKind
  resourceId : String
  payloadBase64Url : String
  digest : String
  deriving DecidableEq

structure TenantResourceManifest where
  resources : List TenantResourceManifestResource
  bytes : Bytes
  rawSha256 : String
  identities : List TenantResourceIdentity
  resourceManifestSha256 : String
  deriving DecidableEq

def isIdChar (c : Char) : Bool :=
  isAsciiAlphanumeric c || c = '.' || c = ':' || c = '+' || c = '-'

def validateResourceId (value : String) : Except MaterializerError Unit :=
  check (value ≠ "" ∧ value.utf8ByteSize ≤ 128 ∧ value.toList.all isIdChar)
    (.invalidField "tenant_resource_manifest.resource_id")

def validateBoundedText (value : String) (maxBytes : ℕ) (field : String) :
    Except MaterializerError Unit :=
  check (trim value ≠ "" ∧ value.utf8ByteSize ≤ maxBytes
    ∧ value.toList.all (!StateDocument.isControl ·)) (.invalidField field)

def validatePublicId (value field : String) (max : ℕ) : Except MaterializerError Unit :=
  check (trim value ≠ "" ∧ value.utf8ByteSize ≤ max ∧ blankless value) (.invalidField field)

/-- How often a text occurs in another, without overlaps. -/
def occurrences (part : String) : ℕ → List Char → ℕ
  | 0, _ => 0
  | _, [] => 0
  | fuel + 1, c :: rest =>
    if part.toList.isPrefixOf (c :: rest) then
      occurrences part fuel ((c :: rest).drop part.toList.length) + 1
    else occurrences part fuel rest

def validateManifestCertificatePem (value field : String) : Except MaterializerError Unit :=
  check (value ≠ "" ∧ value.utf8ByteSize ≤ 256 * 1024
      ∧ (value.toList.all fun c => c.toNat < 128) ∧ Char.ofNat 0 ∉ value.toList
      ∧ contains "PRIVATE KEY" value = false
      ∧ occurrences "-----BEGIN CERTIFICATE-----" value.toList.length value.toList = 1
      ∧ occurrences "-----END CERTIFICATE-----" value.toList.length value.toList = 1
      ∧ value.toList.all fun c => !StateDocument.isControl c || c = '\r' || c = '\n')
    (.invalidField field)

def manifestSecretKeys : List String :=
  ["private_key", "private_key_pem", "private_jwk", "private_jwks", "client_key",
    "mtls_client_key", "d", "p", "q", "dp", "dq", "qi", "oth", "k", "token", "access_token",
    "refresh_token", "tx_code"]

def checkManifestKey (key : String) (_ : Json) : Except MaterializerError Unit := do
  check (lowerText key ∉ ["conformance_lease_id", "conformance_task_jti"])
    (.invalidField "tenant_resource_manifest.forbidden_field")
  check (lowerText key ∉ ["plan", "module", "suite", "origin"])
    (.invalidField "tenant_resource_manifest.suite_metadata")
  check (lowerText key ∉ manifestSecretKeys) .embeddedSecret

def checkManifestText (text : String) : Except MaterializerError Unit :=
  check (contains "PRIVATE KEY" text = false) .embeddedSecret

def rejectManifestPrivateOrSuiteValue (value : Json) : Except MaterializerError Unit :=
  checkTree checkManifestKey checkManifestText value

/-! ## Identifiers -/

section Identifiers

variable (library : Library)

def runNamespaceSuffix (runNamespace : String) : String :=
  String.ofList ((library.digestHex (utf8 runNamespace.toList)).toList.take 32)

def normalizedId (value : String) : String :=
  String.ofList (value.toList.map fun c => if isIdChar c then c else '-')

def trimmedId (value : String) : String :=
  String.ofList (((normalizedId value).toList.dropWhile (· = '-')).rdropWhile (· = '-'))

def digestStart (length : ℕ) (value : String) : String :=
  String.ofList ((library.digestHex (utf8 value.toList)).toList.take length)

def runScopedResourceId (kind value runSuffix : String) : String :=
  if kind.utf8ByteSize + 1 + (trimmedId value).utf8ByteSize +
      (if normalizedId value ≠ value then 17 else 0) > 128 - 5 - runSuffix.utf8ByteSize then
    kind ++ "-" ++ digestStart library 32 value ++ "-run-" ++ runSuffix
  else if normalizedId value ≠ value then
    kind ++ "-" ++ trimmedId value ++ "-" ++ digestStart library 16 value ++ "-run-" ++ runSuffix
  else kind ++ "-" ++ trimmedId value ++ "-run-" ++ runSuffix

end Identifiers

/-! ## The manifest -/

def base64Url (bytes : Bytes) : String :=
  String.ofList (((WireValues.base64 bytes).filter (· ≠ '=')).map fun c =>
    if c = '+' then '-' else if c = '/' then '_' else c)

section Manifest

variable (library : Library) (protocol : Protocol)

/-- A resource that the manifest is to list: its payload may fail before it is pushed. -/
structure ManifestEntry where
  kind : TenantResourceKind
  resourceId : String
  payload : Except MaterializerError Json

def pushManifestResource (total : ℕ) (entry : ManifestEntry) :
    Except MaterializerError (TenantResourceManifestResource × ℕ) := do
  let payload ← entry.payload
  validateResourceId entry.resourceId
  rejectManifestPrivateOrSuiteValue payload
  check ((library.encode payload).length ≤ 512 * 1024) .oversize
  check (total + (library.encode payload).length ≤ 4 * 1024 * 1024) .oversize
  .ok (⟨entry.kind, entry.resourceId, base64Url (library.encode payload),
    library.digestHex (library.encode payload)⟩, total + (library.encode payload).length)

def pushManifestResources :
    ℕ → List ManifestEntry → Except MaterializerError (List TenantResourceManifestResource)
  | _, [] => .ok []
  | total, entry :: rest => do
    let (resource, total) ← pushManifestResource library total entry
    let resources ← pushManifestResources total rest
    .ok (resource :: resources)

def resourceValue (resource : TenantResourceManifestResource) : Json :=
  .object [("kind", .string (protocol.kindName resource.kind)),
    ("resource_id", .string resource.resourceId),
    ("payload_base64url", .string resource.payloadBase64Url)]

def resourceBefore (a b : TenantResourceManifestResource) : Bool :=
  protocol.kindRank a.kind < protocol.kindRank b.kind
    || (protocol.kindRank a.kind == protocol.kindRank b.kind && a.resourceId ≤ b.resourceId)

def identityOf (resource : TenantResourceManifestResource) : TenantResourceIdentity :=
  ⟨resource.kind, resource.resourceId, resource.digest⟩

def manifestDocument (resources : List TenantResourceManifestResource) : Json :=
  .object [("schema", .number (.natural 1)),
    ("resources", .array (resources.map (resourceValue protocol)))]

def TenantResourceManifest.fromResources (listed : List TenantResourceManifestResource) :
    Except MaterializerError TenantResourceManifest := do
  let resources := listed.insertionSort fun a b => resourceBefore protocol a b
  let bytes := library.encode (manifestDocument protocol resources)
  check (bytes.length ≤ 4 * 1024 * 1024) .oversize
  match protocol.canonicalManifestSha256 (resources.map identityOf) with
  | none => .error (.invalidField "tenant_resource_manifest.resources")
  | some sha256 =>
    .ok ⟨resources, bytes, library.digestHex bytes, resources.map identityOf, sha256⟩

def text (value : String) : Json := .string value

/-- The profile of the applicant, by increasing key. -/
def applicantProfile (origin : String) : Json :=
  .object [("address_country", text "US"),
    ("address_formatted", text "123 Conformance Way, Test City, CA 94105, US"),
    ("address_locality", text "Test City"), ("address_postal_code", text "94105"),
    ("address_region", text "CA"), ("address_street_address", text "123 Conformance Way"),
    ("avatar_url", text (origin ++ "/oidf/avatar.png")), ("birthdate", text "1980-01-01"),
    ("display_name", text "OIDF Conformance User"), ("family_name", text "Conformance"),
    ("gender", text "unspecified"), ("given_name", text "OIDF"), ("locale", text "en-US"),
    ("middle_name", text "Test"), ("nickname", text "oidf-user"),
    ("phone_number", text "+12025550100"), ("phone_number_verified", .bool true),
    ("profile_url", text (origin ++ "/oidf/profile")), ("website_url", text (origin ++ "/")),
    ("zoneinfo", text "UTC")]

def userPayload (prepared : PreparedMaterialization) (username : String) : Json :=
  .object [("email", text prepared.applicantEmail), ("email_verified", .bool true),
    ("password", text prepared.applicantPassword),
    ("profile", applicantProfile (trimEndMatches '/' prepared.targetIssuer)),
    ("username", text username)]

def optionalValue : Option String → Json
  | none => .null
  | some value => text value

def clientEntries (suffix : String) (trustPolicyResourceId : Option String)
    (entry : String × PreparedClient) : List ManifestEntry :=
  ⟨.oauthClient, runScopedResourceId library "oauth-client" entry.1 suffix,
      .ok (.object [("request", entry.2.request),
        ("supplied_secret", if entry.2.clientSecret = "" then .null
          else text entry.2.clientSecret),
        ("trust_policy_resource_id", optionalValue trustPolicyResourceId)])⟩ ::
    if registrationRequiresMtls entry.2.request then
      [⟨.mtlsTrustAnchor, runScopedResourceId library "mtls-trust-anchor" entry.1 suffix, do
        validateManifestCertificatePem entry.2.mtlsCaCertificate "generated.mtls.ca_cert"
        .ok (.object [("certificate_pem", text entry.2.mtlsCaCertificate),
          ("client_resource_id",
            text (runScopedResourceId library "oauth-client" entry.1 suffix))])⟩]
    else []

def encodeElement (name : String) (members : Members) : Members :=
  match member members name with
  | some (.string value) => put name (text (base64Url (utf8 value.toList))) members
  | _ => members

def materializeOpenid4vcDatasetClaims (configurationId : String) (claims : Json) : Json :=
  if configurationId = mdl then
    match claims with
    | .object members =>
      match member members "org.iso.18013.5.1" with
      | some (.object elements) =>
        .object (put "org.iso.18013.5.1"
          (.object (encodeElement "signature_usual_mark" (encodeElement "portrait" elements)))
          members)
      | _ => claims
    | _ => claims
  else claims

def datasetEntry (suffix userResourceId : String) (entry : String × Json) : ManifestEntry :=
  ⟨.openid4vcDataset, runScopedResourceId library "openid4vc-dataset" entry.1 suffix, do
    validateBoundedText entry.1 255 "openid4vc_credential_datasets"
    .ok (.object [("claims", materializeOpenid4vcDatasetClaims entry.1 entry.2),
      ("configuration_id", text entry.1), ("user_resource_id", text userResourceId)])⟩

def trimEnd (value : String) : String :=
  String.ofList (value.toList.rdropWhile StateDocument.isWhitespace)

def combineTrustAnchors (runAnchorPem suiteAnchorPem : String) :
    Except MaterializerError String := do
  let run ← validateSingleMdocTrustAnchor library runAnchorPem "credential_trust_anchor_pem"
  let suite ← validateSingleMdocTrustAnchor library suiteAnchorPem
    "openid4vc_suite_mdoc_trust_anchor_pem"
  check (run ≠ suite) (.invalidField "credential_trust_anchor_pem")
  .ok (trimEnd runAnchorPem ++ "\n" ++ trimEnd suiteAnchorPem ++ "\n")

def trustPolicyPayload (prepared : PreparedMaterialization)
    (attestation : GeneratedAttestationMaterial) : Except MaterializerError Json := do
  let anchors ← combineTrustAnchors library attestation.trustAnchorPem
    prepared.descriptor.openid4vcSuiteMdocTrustAnchorPem
  let policy : Openid4vcTrustPolicy :=
    ⟨1, trimEndMatches '/' prepared.suiteBaseUrl ++ "/", attestation.attesterPublicJwks,
      attestation.keyAttestationPublicJwks, [prepared.suiteBaseUrl], anchors⟩
  check (protocol.validTrustPolicy policy)
    (.invalidField "tenant_resource_manifest.openid4vc_trust_policy")
  .ok (protocol.trustPolicyValue policy)

def trustPolicyEntries (prepared : PreparedMaterialization) (suffix : String) :
    List ManifestEntry :=
  match prepared.attestation with
  | none => []
  | some attestation =>
    [⟨.openid4vcTrustPolicy, runScopedResourceId library "openid4vc-trust-policy" "provider" suffix,
      trustPolicyPayload library protocol prepared attestation⟩]

def trustPolicyResourceId (prepared : PreparedMaterialization) (suffix : String) :
    Option String :=
  prepared.attestation.map fun _ =>
    runScopedResourceId library "openid4vc-trust-policy" "provider" suffix

def manifestEntries (prepared : PreparedMaterialization) (suffix username : String) :
    List ManifestEntry :=
  ⟨.user, runScopedResourceId library "user" "applicant" suffix,
      .ok (userPayload prepared username)⟩ ::
    (prepared.clients.flatMap
        (clientEntries library suffix (trustPolicyResourceId library prepared suffix)) ++
      prepared.descriptor.openid4vcCredentialDatasets.map
        (datasetEntry library suffix (runScopedResourceId library "user" "applicant" suffix)) ++
      trustPolicyEntries library protocol prepared suffix)

def tenantResourceManifest (prepared : PreparedMaterialization) (runNamespace : String) :
    Except MaterializerError TenantResourceManifest := do
  check (runNamespace = prepared.requestJti) .requestMismatch
  match splitOnce '@' prepared.applicantEmail with
  | none => .error (.invalidField "generated.applicant_email")
  | some (username, _) => do
    let resources ← pushManifestResources library 0
      (manifestEntries library protocol prepared (runNamespaceSuffix library runNamespace)
        username)
    TenantResourceManifest.fromResources library protocol resources

end Manifest

/-! ## The result of Apply -/

inductive ControlOutcome where
  | succeeded
  | failed
  deriving DecidableEq, Repr

structure ApplyData where
  revision : UInt64
  resources : List TenantResourceIdentity
  resourceMappings : List TenantResourceMapping
  resourceManifestSha256 : String

/-- A control result with the data of an Apply, if it has them. -/
structure ControlResult where
  operationId : String
  requestHash : String
  outcome : ControlOutcome
  apply : Option ApplyData

structure TenantResourceApplyOutput where
  operationId : String
  requestHash : String
  controllerKid : String
  revision : UInt64
  resourceManifestSha256 : String
  resourceMappings : List TenantResourceMapping
  deltaResources : List TenantResourceIdentity
  finalActiveResources : List TenantResourceIdentity

def mismatch (what : String) : MaterializerError := .tenantResourceResultMismatch what

def checkIdentity (before : List TenantResourceIdentity) (resource : TenantResourceIdentity) :
    Except MaterializerError Unit := do
  validateResourceId resource.resourceId
  validateDigest resource.digest "tenant_resource_identity.digest"
  check (resource.resourceId ∉ before.map (·.resourceId)) (mismatch "duplicate resource identity")

/-- The map of identities is the list of them, whose ids are then distinct. -/
def collectIdentityMap (resources : List TenantResourceIdentity) :
    Except MaterializerError (List TenantResourceIdentity) := do
  checkEach checkIdentity [] resources
  .ok resources

/-- Whether two maps of identities have the same entries. -/
def sameIdentities (a b : List TenantResourceIdentity) : Bool :=
  a.all b.contains && b.all a.contains

section Results

variable (protocol : Protocol)

def mappingKey (mapping : TenantResourceMapping) : TenantResourceKind × String :=
  (mapping.kind, mapping.resourceId)

def checkMapping (before : List TenantResourceMapping) (mapping : TenantResourceMapping) :
    Except MaterializerError Unit := do
  validateResourceId mapping.resourceId
  check (mappingKey mapping ∉ before.map mappingKey) (mismatch "duplicate mapping")
  match mapping.kind with
  | .user =>
    check (protocol.uuid mapping.publicId = some mapping.publicId) (mismatch "applicant mapping")
  | .oauthClient => do
    validatePublicId mapping.publicId "OAuth client mapping" 512
    check (mapping.publicId ∉ (before.filter fun other =>
      other.kind = .oauthClient).map (·.publicId)) .duplicateClientMapping
  | _ => .error (mismatch "mapping kind")

def mapped (delta : List TenantResourceIdentity) : List (TenantResourceKind × String) :=
  (delta.filter fun resource => resource.kind = .user || resource.kind = .oauthClient).map
    fun resource => (resource.kind, resource.resourceId)

def validateApplyMappings (mappings : List TenantResourceMapping)
    (delta : List TenantResourceIdentity) : Except MaterializerError Unit := do
  checkEach (checkMapping protocol) [] mappings
  check ((∀ key ∈ mapped delta, key ∈ mappings.map mappingKey)
    ∧ ∀ key ∈ mappings.map mappingKey, key ∈ mapped delta) (mismatch "mapping coverage")

def TenantResourceApplyOutput.fromControlResult (result : ControlResult)
    (expectedOperationId expectedRequestHash controllerKid : String)
    (manifest : TenantResourceManifest) (finalActiveResources : List TenantResourceIdentity) :
    Except MaterializerError TenantResourceApplyOutput := do
  validatePublicId expectedOperationId "control operation ID" 256
  validateDigest expectedRequestHash "control operation request hash"
  validatePublicId controllerKid "controller key ID" 256
  check (result.operationId = expectedOperationId ∧ result.requestHash = expectedRequestHash
    ∧ result.outcome = .succeeded) (mismatch "apply binding")
  match result.apply with
  | none => .error (mismatch "typed apply result")
  | some data => do
    let delta ← collectIdentityMap manifest.identities
    let resultDelta ← collectIdentityMap data.resources
    check (sameIdentities resultDelta delta) (mismatch "delta resources")
    let finalActive ← collectIdentityMap finalActiveResources
    check (delta.all finalActive.contains) (mismatch "final active resources")
    match protocol.canonicalManifestSha256 finalActiveResources with
    | none => .error (mismatch "final active resources")
    | some finalManifestSha256 => do
      check (data.resourceManifestSha256 = finalManifestSha256) (mismatch "final manifest digest")
      validateApplyMappings protocol data.resourceMappings delta
      .ok ⟨expectedOperationId, expectedRequestHash, controllerKid, data.revision,
        data.resourceManifestSha256, data.resourceMappings, manifest.identities,
        finalActiveResources⟩

end Results

/-! ## Finalisation -/

structure MatrixPlan where
  id : String
  plan : String
  config : Json
  variant : List (String × String)
  expectedResults : List (String × String)

structure MatrixGroup where
  id : String
  profile : String
  variant : DescriptorVariant
  plans : List MatrixPlan

structure MatrixDocument where
  name : String
  groups : List MatrixGroup

structure TenantResourceMaterializedMatrix where
  matrix : MatrixDocument
  matrixSha256 : String
  operationId : String
  requestHash : String
  controllerKid : String
  appliedRevision : UInt64
  resourceManifestSha256 : String
  applicantId : String
  clients : List (String × String)
  trustPolicyIdentity : Option TenantResourceIdentity

/-- The public id that a result gives to a resource. The keys of its mappings are distinct. -/
def publicId (output : TenantResourceApplyOutput) (kind : TenantResourceKind)
    (resourceId : String) : Option String :=
  (output.resourceMappings.find? fun mapping => mappingKey mapping = (kind, resourceId)).map
    (·.publicId)

section Finalisation

variable (library : Library) (protocol : Protocol)

def bindClients (output : TenantResourceApplyOutput) (runSuffix : String) :
    List (String × PreparedClient) → Except MaterializerError (List (String × String))
  | [] => .ok []
  | (logicalClientId, _) :: rest =>
    match publicId output .oauthClient
        (runScopedResourceId library "oauth-client" logicalClientId runSuffix) with
    | none => .error .missingClientMapping
    | some id => do
      let clients ← bindClients output runSuffix rest
      .ok ((logicalClientId, id) :: clients)

def materializePlan (prepared : PreparedMaterialization) (bindings : MaterializationBindings)
    (plan : DescriptorPlan) : Option (Except MaterializerError MatrixPlan) :=
  (materializeValue library plan.configTemplate plan.secretBindings prepared bindings).map
    fun config => do
      let config ← config
      let config ← materializeVciConfig library plan config prepared
        bindings.openid4vcCredentialTrustAnchorPem
      let config ← materializeVpConfig library plan config prepared
        bindings.openid4vcRequestObjectTrustAnchorPem
      .ok ⟨plan.id, plan.plan, config, plan.variant, plan.expectedResults⟩

/-- The values of a list one after the other, up to the first that has none. -/
def each {α β : Type} (step : α → Option (Except MaterializerError β)) :
    List α → Option (Except MaterializerError (List β))
  | [] => some (.ok [])
  | value :: rest => both (· :: ·) (step value) (each step rest)

def materializeGroup (prepared : PreparedMaterialization) (bindings : MaterializationBindings)
    (group : DescriptorGroup) : Option (Except MaterializerError MatrixGroup) :=
  (each (materializePlan library prepared bindings) group.plans).map fun plans =>
    plans.map fun plans => ⟨group.id, group.profile, group.variant, plans⟩

def materializeMatrixDocument (prepared : PreparedMaterialization)
    (bindings : MaterializationBindings) : Option (Except MaterializerError MatrixDocument) :=
  (each (materializeGroup library prepared bindings) prepared.descriptor.groups).map fun groups =>
    groups.map fun groups => ⟨"nazoauth-" ++ prepared.descriptor.source.release, groups⟩

/-- The trust anchor of the tenant, which has to differ from the one of the Suite. -/
def tenantTrustAnchor (prepared : PreparedMaterialization) (chainPem : String) :
    Except MaterializerError String :=
  match prepared.attestation with
  | none => .ok ""
  | some _ => do
    let anchor ← extractSingleMdocTrustAnchorFromBundle library chainPem
      "openid4vc_request_object_trust_anchor_pem"
    let deployment ← validateSingleMdocTrustAnchor library anchor "credential_trust_anchor_pem"
    let suite ← validateSingleMdocTrustAnchor library
      prepared.descriptor.openid4vcSuiteMdocTrustAnchorPem "openid4vc_suite_mdoc_trust_anchor_pem"
    check (deployment ≠ suite) (.invalidField "credential_trust_anchor_pem")
    .ok anchor

/-- The identifiers that a result gives to the applicant and the clients of a run. -/
def bindResources (prepared : PreparedMaterialization) (output : TenantResourceApplyOutput)
    (anchor : String) : Except MaterializerError MaterializationBindings := do
  let expected ← tenantResourceManifest library protocol prepared prepared.requestJti
  check (expected.identities = output.deltaResources) (mismatch "prepared manifest")
  match publicId output .user (runScopedResourceId library "user" "applicant"
      (runNamespaceSuffix library prepared.requestJti)) with
  | none => .error .missingClientMapping
  | some applicantId => do
    check (protocol.uuid applicantId).isSome (mismatch "applicant mapping")
    let clients ← bindClients library output (runNamespaceSuffix library prepared.requestJti)
      prepared.clients
    .ok ⟨applicantId, anchor, anchor, clients⟩

def bindOutput (prepared : PreparedMaterialization) (output : TenantResourceApplyOutput)
    (chainPem : String) : Except MaterializerError MaterializationBindings := do
  let anchor ← tenantTrustAnchor library prepared chainPem
  bindResources library protocol prepared output anchor

def finalizeTenantResources (prepared : PreparedMaterialization)
    (output : TenantResourceApplyOutput) (chainPem : String) :
    Option (Except MaterializerError TenantResourceMaterializedMatrix) :=
  match bindOutput library protocol prepared output chainPem with
  | .error error => some (.error error)
  | .ok bindings =>
    (materializeMatrixDocument library prepared bindings).map fun matrix =>
      matrix.map fun matrix =>
        ⟨matrix, prepared.matrixSha256, output.operationId, output.requestHash,
          output.controllerKid, output.revision, output.resourceManifestSha256,
          bindings.applicantId, bindings.clients,
          output.deltaResources.find? fun resource =>
            resource.kind = .openid4vcTrustPolicy && resource.resourceId =
              runScopedResourceId library "openid4vc-trust-policy" "provider"
                (runNamespaceSuffix library prepared.requestJti)⟩

end Finalisation

end NazoAuthCtl.Materializer
