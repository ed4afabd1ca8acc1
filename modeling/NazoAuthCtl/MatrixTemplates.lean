import NazoAuthCtl.MatrixDescriptors
import NazoAuthCtl.StructDecoding

/-!
# Templates of a conformance matrix

The values of references, and the configurations that a plan gets from its template: the
placeholders are replaced, and an issuer or a verifier plan gets the fields of its run. An
object is the list of its members by increasing key.
-/

set_option autoImplicit false
set_option linter.all false

namespace NazoAuthCtl.MatrixTemplates

open Checks JsonValue MatrixReferences MatrixDescriptors
open StructDecoding (removeMember)

structure PreparedClient where
  clientSecret : String
  rsaPrivateJwks : String
  rsaPublicJwks : String
  ecPrivateJwks : String
  ecPublicJwks : String
  mtlsCaCertificate : String
  mtlsClientCertificate : String
  mtlsClientKey : String
  mtlsClientCertificateSha256 : String
  request : Json

structure GeneratedAttestationMaterial where
  trustAnchorPem : String
  attesterPrivateJwks : String
  attesterPublicJwks : Json
  keyAttestationPrivateJwks : String
  keyAttestationPublicJwks : Json
  credentialSigningPrivateJwk : String

structure PreparedMaterialization where
  descriptor : MatrixDescriptor
  targetIssuer : String
  suiteBaseUrl : String
  requestJti : String
  matrixSha256 : String
  applicantEmail : String
  applicantPassword : String
  txCode : Option String
  attestation : Option GeneratedAttestationMaterial
  dynamicRegistrationInitialAccessToken : Option String
  clients : List (String × PreparedClient)

structure MaterializationBindings where
  applicantId : String
  openid4vcCredentialTrustAnchorPem : String
  openid4vcRequestObjectTrustAnchorPem : String
  clients : List (String × String)

/-! ## URLs -/

def trimEndMatches (mark : Char) (text : String) : String :=
  String.ofList (text.toList.rdropWhile (· = mark))

/-- `str::trim_start_matches` of a text that is not empty. -/
def trimStartMatches (part : String) (text : String) : String :=
  String.ofList (strip text.toList.length text.toList)
where
  strip : ℕ → List Char → List Char
    | 0, rest => rest
    | fuel + 1, rest =>
      if part.toList.isPrefixOf rest then strip fuel (rest.drop part.toList.length) else rest

def splitOn (mark : Char) (text : String) : List String :=
  (text.toList.splitOn mark).map String.ofList

/-- The path of an address and whether it ends in a wildcard. -/
def addressPath (suffix : String) (allowTrailingWildcard : Bool) : String × Bool :=
  if allowTrailingWildcard && endsWith "*" suffix then
    (String.ofList suffix.toList.dropLast, true)
  else (suffix, false)

def plainPath (suffix : String) (allowTrailingWildcard : Bool) (path : String) : Bool :=
  startsWith "/" path && path.utf8ByteSize ≤ 512
    && !path.toList.any (fun c => c = '?' || c = '#' || c = '\\' || c = '\x7b' || c = '\x7d')
    && !contains "//" path && !(splitOn '/' path).contains ".."
    && (if allowTrailingWildcard then !(trimEndMatches '*' suffix).toList.contains '*'
      else !suffix.toList.contains '*')

def isAsciiAlphanumeric (c : Char) : Bool :=
  ('0' ≤ c && c ≤ '9') || ('A' ≤ c && c ≤ 'Z') || ('a' ≤ c && c ≤ 'z')

def validateUrlSegment (value : String) : Except MaterializerError Unit :=
  check (value ≠ "" ∧ value.utf8ByteSize ≤ 128
    ∧ value.toList.all fun c => isAsciiAlphanumeric c || c = '-' || c = '_')
    .invalidPlaceholder

/-- The preparation has validated the request. -/
def resolveRunAlias (requestJti aliasKey : String) : Except MaterializerError String := do
  validateUrlSegment aliasKey
  match stripPrefix "request-" requestJti with
  | none => .error (.invalidField "request_jti")
  | some suffix => .ok ("nazo-" ++ suffix ++ "-" ++ aliasKey)

def resolveSuiteTestUrl (suiteOrigin requestJti reference : String) :
    Except MaterializerError String :=
  match splitOnce '.' reference with
  | none => .error .invalidPlaceholder
  | some (aliasKey, endpoint) => do
    validateUrlSegment endpoint
    let runAlias ← resolveRunAlias requestJti aliasKey
    .ok (trimEndMatches '/' suiteOrigin ++ "/test/a/" ++ runAlias ++ "/" ++ endpoint)

def suiteTestQuery (address : String) : String := address ++ "?dummy1=lorem&dummy2=ipsum"

/-! ## Names -/

/-- What the name at the end of a chain stands for. -/
inductive Reference where
  | targetIssuer
  | suite
  | targetHost
  | targetUrl (path : String)
  | targetPattern (path : String)
  | suitePattern (endpoint : String)
  | runAlias (aliasKey : String)
  | suiteTest (reference : String)
  | suiteTestQuery (reference : String)
  | applicantEmail
  | applicantPassword
  | credentialHolderEmail
  | applicantId
  | requestObjectTrustAnchor
  | initialAccessToken
  | onlyClient (field : String)
  | client (reference : String)
  | generated (field : String)
  | unknown
  deriving DecidableEq, Repr

/-- The cases of the resolver in its order. -/
def readReference (name : String) : Reference :=
  if name = "target.issuer" then .targetIssuer
  else if name = "target.suite" ∨ name = "suite.origin" then .suite
  else if name = "target.host" then .targetHost
  else if let some path := stripPrefix "target.url." name then .targetUrl path
  else if let some path := stripPrefix "target.pattern." name then .targetPattern path
  else if let some endpoint := stripPrefix "suite.pattern." name then .suitePattern endpoint
  else if let some aliasKey := stripPrefix "run.alias." name then .runAlias aliasKey
  else if let some reference := stripPrefix "suite.test." name then .suiteTest reference
  else if let some reference := stripPrefix "suite.test_query." name then
    .suiteTestQuery reference
  else if name = "generated.applicant_email" then .applicantEmail
  else if name = "generated.applicant_password" then .applicantPassword
  else if name = "generated.credential_holder_email_sha256" then .credentialHolderEmail
  else if name = "onboarding.applicant_id" then .applicantId
  else if name = "onboarding.openid4vc_request_object_trust_anchor_pem" then
    .requestObjectTrustAnchor
  else if name = "generated.dynamic_registration_initial_access_token" then .initialAccessToken
  else if name = "onboarding.client_id" then .onlyClient "id"
  else if name = "onboarding.client_secret" then .onlyClient "client_secret"
  else if let some reference := stripPrefix "client." name then .client reference
  else if let some field := stripPrefix "generated." name then .generated field
  else .unknown

section Resolution

variable (library : Library)

def targetHost (targetIssuer : String) : Except MaterializerError String :=
  match (library.url targetIssuer).bind (·.host) with
  | none => .error .unsafeIssuer
  | some host => .ok host

def resolveTargetUrl (targetIssuer suffix : String) (allowTrailingWildcard : Bool) :
    Except MaterializerError String := do
  check (plainPath suffix allowTrailingWildcard (addressPath suffix allowTrailingWildcard).1)
    .invalidPlaceholder
  check (library.url (trimEndMatches '/' targetIssuer ++
    (addressPath suffix allowTrailingWildcard).1)).isSome .unsafeIssuer
  .ok (trimEndMatches '/' targetIssuer ++ (addressPath suffix allowTrailingWildcard).1 ++
    if (addressPath suffix allowTrailingWildcard).2 then "*" else "")

def jsonValue (text : String) : Except MaterializerError Json :=
  match library.decode text with
  | none => .error .encoding
  | some value => .ok value

/-! ## References -/

def resolveClientReference (logical field : String) (prepared : PreparedMaterialization)
    (actualClients : List (String × String)) : Except MaterializerError Json :=
  match SortedMap.get prepared.clients logical with
  | none => .error (.unknownClientReference logical)
  | some client =>
    if field = "id" then
      match SortedMap.get actualClients logical with
      | none => .error .missingClientMapping
      | some id => .ok (.string id)
    else if field = "client_secret" then .ok (.string client.clientSecret)
    else if field = "rsa.private_jwks" then jsonValue library client.rsaPrivateJwks
    else if field = "rsa.public_jwks" then jsonValue library client.rsaPublicJwks
    else if field = "ec.private_jwks" then jsonValue library client.ecPrivateJwks
    else if field = "ec.public_jwks" then jsonValue library client.ecPublicJwks
    else if field = "mtls.ca_cert" then .ok (.string client.mtlsCaCertificate)
    else if field = "mtls.client_cert" then .ok (.string client.mtlsClientCertificate)
    else if field = "mtls.client_key" then .ok (.string client.mtlsClientKey)
    else if field = "mtls.cert_sha256" then .ok (.string client.mtlsClientCertificateSha256)
    else .error (.unknownSecretReference field)

/-- A reference to the only client of a run. -/
def resolveOnlyClient (field : String) (prepared : PreparedMaterialization)
    (onboarding : MaterializationBindings) : Except MaterializerError Json :=
  match prepared.clients with
  | [(logical, _)] => resolveClientReference library logical field prepared onboarding.clients
  | _ => .error .ambiguousClientReference

def resolveName (prepared : PreparedMaterialization) (onboarding : MaterializationBindings)
    (name : String) : Except MaterializerError Json :=
  match readReference name with
  | .targetIssuer => .ok (.string prepared.targetIssuer)
  | .suite => .ok (.string prepared.suiteBaseUrl)
  | .targetHost => (targetHost library prepared.targetIssuer).map Json.string
  | .targetUrl path => (resolveTargetUrl library prepared.targetIssuer path false).map Json.string
  | .targetPattern path =>
    (resolveTargetUrl library prepared.targetIssuer path true).map Json.string
  | .suitePattern endpoint => do
    validateUrlSegment endpoint
    .ok (.string ("*/test/*/" ++ endpoint ++ "*"))
  | .runAlias aliasKey => (resolveRunAlias prepared.requestJti aliasKey).map Json.string
  | .suiteTest reference =>
    (resolveSuiteTestUrl prepared.suiteBaseUrl prepared.requestJti reference).map Json.string
  | .suiteTestQuery reference =>
    (resolveSuiteTestUrl prepared.suiteBaseUrl prepared.requestJti reference).map fun address =>
      Json.string (suiteTestQuery address)
  | .applicantEmail => .ok (.string prepared.applicantEmail)
  | .applicantPassword => .ok (.string prepared.applicantPassword)
  | .credentialHolderEmail =>
    .ok (.string (library.digestHex (PercentCoding.utf8 prepared.applicantEmail.toList)))
  | .applicantId => .ok (.string onboarding.applicantId)
  | .requestObjectTrustAnchor =>
    .ok (.string onboarding.openid4vcRequestObjectTrustAnchorPem)
  | .initialAccessToken =>
    match prepared.dynamicRegistrationInitialAccessToken with
    | some token => .ok (.string token)
    | none => .error (.unknownSecretReference name)
  | .onlyClient field => resolveOnlyClient library field prepared onboarding
  | .client reference =>
    match splitOnce '.' reference with
    | none => .error (.unknownClientReference reference)
    | some (logical, field) =>
      resolveClientReference library logical field prepared onboarding.clients
  | .generated field => resolveOnlyClient library field prepared onboarding
  | .unknown => .error (.unknownSecretReference name)

/-- The answer of the resolver, if its loop ends. -/
def resolveReference (bindings : Bindings) (prepared : PreparedMaterialization)
    (onboarding : MaterializationBindings) (name : String) :
    Option (Except MaterializerError Json) :=
  (endOfChain bindings name).map fun last => last >>= resolveName library prepared onboarding

end Resolution

/-! ## Configurations -/

/-- What a text of a template becomes, if the resolver answers. -/
def materializeText (resolve : String → Option (Except MaterializerError Json)) (text : String) :
    Option (Except MaterializerError Json) :=
  if marked text then
    match parsePlaceholder text with
    | .error error => some (.error error)
    | .ok name => resolve name
  else some (.ok (.string text))

/-- Values one after the other, up to the first that has no value. -/
def both {α β γ : Type} (join : α → β → γ) :
    Option (Except MaterializerError α) → Option (Except MaterializerError β) →
      Option (Except MaterializerError γ)
  | none, _ => none
  | some (.error error), _ => some (.error error)
  | some (.ok _), none => none
  | some (.ok _), some (.error error) => some (.error error)
  | some (.ok a), some (.ok b) => some (.ok (join a b))

mutual

def materializeTree (resolve : String → Option (Except MaterializerError Json)) :
    Json → Option (Except MaterializerError Json)
  | .array values => (materializeTrees resolve values).map (Except.map Json.array)
  | .object members => (materializeMembers resolve members).map (Except.map Json.object)
  | .string text => materializeText resolve text
  | .null => some (.ok .null)
  | .bool value => some (.ok (.bool value))
  | .number value => some (.ok (.number value))

def materializeTrees (resolve : String → Option (Except MaterializerError Json)) :
    List Json → Option (Except MaterializerError (List Json))
  | [] => some (.ok [])
  | value :: values =>
    both (· :: ·) (materializeTree resolve value) (materializeTrees resolve values)

def materializeMembers (resolve : String → Option (Except MaterializerError Json)) :
    Members → Option (Except MaterializerError Members)
  | [] => some (.ok [])
  | (key, value) :: members =>
    both (fun value members => (key, value) :: members) (materializeTree resolve value)
      (materializeMembers resolve members)

end

section Configurations

variable (library : Library)

def materializeValue (value : Json) (bindings : Bindings) (prepared : PreparedMaterialization)
    (onboarding : MaterializationBindings) : Option (Except MaterializerError Json) :=
  materializeTree (resolveReference library bindings prepared onboarding) value

/-! ## Registrations -/

structure GeneratedClientCrypto where
  clientSecret : String
  rsaPrivateJwks : String
  rsaPublicJwks : String
  ecPrivateJwks : String
  ecPublicJwks : String
  mtlsCaCertificate : String
  mtlsClientCertificate : String
  mtlsClientKey : String
  mtlsClientCertificateSha256 : String

/-- What the registration of a client is made with. -/
structure Registrar where
  logicalClientId : String
  targetIssuer : String
  suiteOrigin : String
  generated : GeneratedClientCrypto
  requestJti : String

/-- The public values that a registration may name, by field. -/
def publicField (registrar : Registrar) (field : String) :
    Option (Except MaterializerError Json) :=
  if field = "rsa.public_jwks" then some (jsonValue library registrar.generated.rsaPublicJwks)
  else if field = "ec.public_jwks" then some (jsonValue library registrar.generated.ecPublicJwks)
  else if field = "mtls.ca_cert" then
    some (.ok (.string registrar.generated.mtlsCaCertificate))
  else if field = "mtls.client_cert" then
    some (.ok (.string registrar.generated.mtlsClientCertificate))
  else if field = "mtls.cert_sha256" then
    some (.ok (.string registrar.generated.mtlsClientCertificateSha256))
  else none

def registrationReference (registrar : Registrar) (name : String) :
    Except MaterializerError Json :=
  if name = "target.issuer" then .ok (.string registrar.targetIssuer)
  else if name = "target.suite" ∨ name = "suite.origin" then .ok (.string registrar.suiteOrigin)
  else if name = "target.host" then (targetHost library registrar.targetIssuer).map Json.string
  else if startsWith "target.url." name then
    (resolveTargetUrl library registrar.targetIssuer (trimStartMatches "target.url." name)
      false).map Json.string
  else if startsWith "target.pattern." name then
    (resolveTargetUrl library registrar.targetIssuer (trimStartMatches "target.pattern." name)
      true).map Json.string
  else if startsWith "run.alias." name then
    (resolveRunAlias registrar.requestJti (trimStartMatches "run.alias." name)).map Json.string
  else if startsWith "suite.test." name then
    (resolveSuiteTestUrl registrar.suiteOrigin registrar.requestJti
      (trimStartMatches "suite.test." name)).map Json.string
  else if startsWith "suite.test_query." name then
    (resolveSuiteTestUrl registrar.suiteOrigin registrar.requestJti
      (trimStartMatches "suite.test_query." name)).map fun address =>
        Json.string (suiteTestQuery address)
  else if name = "client.id" ∨ name = "onboarding.client_id" then
    .error (.invalidField "registration_template.client_id")
  else if let some value := (stripPrefix "client." name).bind (publicField library registrar) then
    value
  else if let some value :=
      (stripPrefix "generated." name).bind (publicField library registrar) then value
  else if startsWith "client." name then
    match stripPrefix ("client." ++ registrar.logicalClientId ++ ".") name with
    | none => .error (.unknownClientReference name)
    | some field => (publicField library registrar field).getD
        (.error (.unknownSecretReference name))
  else .error (.unknownSecretReference name)

/-- A registration is made as a configuration is, by a resolver that always answers. -/
def materializeRegistrationTemplate (registrar : Registrar) (value : Json) :
    Except MaterializerError Json :=
  (materializeTree (fun name => some (registrationReference library registrar name)) value).getD
    (.error .encoding)

/-! ## Fields of an issuer plan -/

def userRejectModules : List String :=
  ["fapi2-security-profile-final-user-rejects-authentication",
    "fapi2-security-profile-id2-user-rejects-authentication"]

def parReuseBeforeAuthModules : List String :=
  ["fapi2-security-profile-final-par-ensure-reused-request-uri-prior-to-auth-completion-succeeds",
    "fapi2-security-profile-id2-par-ensure-reused-request-uri-prior-to-auth-completion-succeeds"]

def validateVciString (value field : String) : Except MaterializerError Unit :=
  check (trim value ≠ "" ∧ value.utf8ByteSize ≤ 512 ∧ blankless value) (.invalidField field)

def validateTxCode (value : String) : Except MaterializerError Unit :=
  check (value.utf8ByteSize = 6 ∧ value.toList.all fun c => '0' ≤ c && c ≤ '9')
    (.invalidField "generated.tx_code")

/-- The object under a key, an empty one if there is none. -/
def objectUnder (members : Members) (key : String) : Except MaterializerError Members :=
  match member members key with
  | none => .ok []
  | some (.object found) => .ok found
  | some _ => .error (.invalidField key)

def textUnder (members : Members) (key : String) : Option String :=
  (member members key).bind Json.asString

/-- A member that may be there already, and then as it is expected. -/
def agreeing (members : Members) (key : String) (expected : Json) : Bool :=
  (member members key).all fun existing => sameValue existing expected

def put (key : String) (value : Json) (members : Members) : Members :=
  SortedMap.insertEntry key value members

def ensureVciField (members : Members) (field expected : String) :
    Except MaterializerError Members :=
  match member members field with
  | none => .ok (put field (.string expected) members)
  | some value =>
    if value.asString = some expected then .ok members else .error (.invalidField "nazo")

/-- A command with the control for consent turned into the one for denial, and whether it is
one for denial now. -/
def denyCommand : Json → Except MaterializerError (Json × ℕ)
  | .array (first :: .string "id" :: .string control :: rest) =>
    if control = "nazo-consent-approve" then
      .ok (.array (first :: .string "id" :: .string "nazo-consent-deny" :: rest), 1)
    else if control = "nazo-consent-deny" then
      .ok (.array (first :: .string "id" :: .string control :: rest), 1)
    else .ok (.array (first :: .string "id" :: .string control :: rest), 0)
  | .array values => .ok (.array values, 0)
  | _ => .error (.invalidField "browser.command")

def denyEach (deny : Json → Except MaterializerError (Json × ℕ)) :
    List Json → Except MaterializerError (List Json × ℕ)
  | [] => .ok ([], 0)
  | value :: values => do
    let (value, count) ← deny value
    let (values, counts) ← denyEach deny values
    .ok (value :: values, count + counts)

/-- The change of the list under a key of an object. -/
def denyUnder (key field : String) (deny : Json → Except MaterializerError (Json × ℕ)) :
    Json → Except MaterializerError (Json × ℕ)
  | .object members =>
    match member members key with
    | some (.array values) => do
      let (values, count) ← denyEach deny values
      .ok (.object (put key (.array values) members), count)
    | _ => .error (.invalidField field)
  | _ => .error (.invalidField field)

def denyTask (task : Json) : Except MaterializerError (Json × ℕ) :=
  denyUnder "commands" "browser.commands" denyCommand task

def replaceConsentApprovalWithDenial (entry : Json) : Except MaterializerError (Json × ℕ) :=
  denyUnder "tasks" "browser.tasks" denyTask entry

def insertExactBrowserOverride (browser : Json) (overrides : Members) (module : String) :
    Except MaterializerError Members :=
  match member overrides module with
  | none => .ok (put module (.object [("browser", browser)]) overrides)
  | some existing =>
    if sameValue existing (.object [("browser", browser)]) then .ok overrides
    else .error (.invalidField "override.browser")

def insertOverrides (browser : Json) : Members → List String → Except MaterializerError Members
  | overrides, [] => .ok overrides
  | overrides, module :: modules => do
    let overrides ← insertExactBrowserOverride browser overrides module
    insertOverrides browser overrides modules

/-- The first visit of the authorization endpoint, which stops at the login page. -/
def firstAuthorization (authorizationMatch loginMatch : String) : Json :=
  .object [("comment", .string ("This module requires the first authorization endpoint visit " ++
      "to stop at the login page without authenticating.")),
    ("match", .string authorizationMatch), ("match-limit", .number (.natural 1)),
    ("tasks", .array [.object [
      ("commands", .array [.array [.string "wait", .string "id", .string "nazo-login-email",
        .number (.natural 30), .string ".*", .string "update-image-placeholder-optional"]]),
      ("match", .string loginMatch),
      ("task", .string "Observe first login page without authentication")]])]

def materializeVciBrowserOverrides (root : Members) (targetIssuer : String) :
    Except MaterializerError Members :=
  match member root "browser" with
  | none => .ok root
  | some (.array browser) =>
    match browser.filter fun entry => (entry.get "match").bind Json.asString =
        some (trimEndMatches '/' targetIssuer ++ "/authorize*") with
    | [entry] => do
      let (rejection, denials) ← replaceConsentApprovalWithDenial entry
      check (2 ≤ denials) (.invalidField "browser.consent_deny")
      match entry with
      | .object members => do
        let overrides ← objectUnder root "override"
        let overrides ← insertOverrides (.array [rejection]) overrides userRejectModules
        let overrides ← insertOverrides
          (.array [firstAuthorization (trimEndMatches '/' targetIssuer ++ "/authorize*")
            (trimEndMatches '/' targetIssuer ++ "/ui/auth*"),
            .object (removeMember "match-limit" members)])
          overrides parReuseBeforeAuthModules
        .ok (put "override" (.object overrides) root)
      | _ => .error (.invalidField "browser.authorize")
    | _ => .error (.invalidField "browser.authorize")
  | some _ => .error (.invalidField "browser")

/-! ## Issuer plans -/

/-- The transaction code of a pre-authorized plan. -/
def placeTxCode (variant : List (String × String)) (txCode : Option String) (vci : Members) :
    Except MaterializerError Members :=
  if SortedMap.get variant "vci_grant_type" = some "pre_authorization_code" then
    match txCode with
    | none => .error (.invalidField "generated.tx_code")
    | some code => do
      check (member vci "static_tx_code").isNone (.invalidField "vci.static_tx_code")
      validateTxCode code
      .ok (put "static_tx_code" (.string code) vci)
  else do
    check (member vci "static_tx_code").isNone (.invalidField "vci.static_tx_code")
    .ok vci

def placeConfiguration (variant : List (String × String)) (targetIssuer : String)
    (vci : Members) : Except MaterializerError Members := do
  let id ← agreed "vci.credential_configuration_id" (textUnder vci "credential_configuration_id")
    (SortedMap.get variant "credential_configuration_id")
  validateVciString id "vci.credential_configuration_id"
  check ((member vci "credential_issuer_url").all fun existing =>
    existing.asString = some targetIssuer) (.invalidField "vci.credential_issuer_url")
  .ok (put "credential_issuer_url" (.string targetIssuer)
    (put "credential_configuration_id" (.string id) vci))

def placeClientAttestation (haip : Bool) (suiteOrigin : String)
    (attestation : GeneratedAttestationMaterial) (keyAttestationJwks : Json) (root : Members) :
    Except MaterializerError Members :=
  if haip then do
    check (member root "client_attestation").isNone (.invalidField "client_attestation")
    let attesterJwks ← jsonValue library attestation.attesterPrivateJwks
    .ok (put "client_attestation" (.object
      [("attester_jwks", attesterJwks),
        ("issuer", .string (trimEndMatches '/' suiteOrigin ++ "/")),
        ("key_attestation_jwks", keyAttestationJwks),
        ("key_attestation_trust_anchor_pem", .string attestation.trustAnchorPem),
        ("trust_anchor", .string attestation.trustAnchorPem)]) root)
  else .ok root

def placeTrustAnchor (anchor field : String) (credential : Members) :
    Except MaterializerError Members := do
  check ((member credential field).all fun existing => existing.asString = some anchor)
    (.invalidField "credential.trust_anchor")
  .ok (put field (.string anchor) credential)

def placeTrustAnchors (anchor : String) (credential : Members) :
    Except MaterializerError Members := do
  let credential ← placeTrustAnchor anchor "trust_anchor_pem" credential
  placeTrustAnchor anchor "status_list_trust_anchor_pem" credential

def placeClientAuth (variant : List (String × String)) (nazo : Members) :
    Except MaterializerError Members :=
  match SortedMap.get variant "client_auth_type" with
  | none => .ok nazo
  | some clientAuthType => do
    validateVciString clientAuthType "variant.client_auth_type"
    ensureVciField nazo "client_auth_type" clientAuthType

def placeProfile (variant : List (String × String)) (nazo : Members) :
    Except MaterializerError Members := do
  let nazo ← ensureVciField nazo "openid4vc_role" "issuer"
  let nazo ← placeClientAuth variant nazo
  let format ← agreed "nazo.credential_format" (textUnder nazo "credential_format")
    (SortedMap.get variant "credential_format")
  validateVciString format "nazo.credential_format"
  .ok (put "credential_format" (.string format) nazo)

def materializeVciConfig (plan : DescriptorPlan) (config : Json)
    (prepared : PreparedMaterialization) (credentialTrustAnchorPem : String) :
    Except MaterializerError Json :=
  if isVci plan then
    match config with
    | .object root => do
      match textUnder root "alias" with
      | none => .error (.invalidField "plan.config_template.alias")
      | some aliasText => do
        validateVciString aliasText "plan.config_template.alias"
        let vci ← objectUnder root "vci"
        let vci ← placeTxCode plan.variant prepared.txCode vci
        let vci ← placeConfiguration plan.variant prepared.targetIssuer vci
        match prepared.attestation with
        | none => .error (.invalidField "generated.vci_key_attestation")
        | some attestation => do
          let jwks ← jsonValue library attestation.keyAttestationPrivateJwks
          check (agreeing vci "key_attestation_jwks" jwks)
            (.invalidField "vci.key_attestation_jwks")
          let root ← placeClientAttestation library (isHaip plan.plan plan.variant)
            prepared.suiteBaseUrl attestation jwks root
          let credential ← objectUnder root "credential"
          let credential ← placeTrustAnchors credentialTrustAnchorPem credential
          let nazo ← objectUnder root "nazo"
          let nazo ← placeProfile plan.variant nazo
          let root ← materializeVciBrowserOverrides
            (put "nazo" (.object nazo) (put "vci" (.object (put "key_attestation_jwks" jwks vci))
              (put "credential" (.object credential) root))) prepared.targetIssuer
          .ok (.object root)
    | _ => .error (.invalidField "plan.config_template")
  else .ok config

/-! ## Verifier plans -/

def evidenceBrowser (suiteBaseUrl : String) : Json :=
  .array [.object [
    ("comment", .string ("Suite scripted browser records deferred verification evidence; " ++
      "ctl independently checks the target transaction completion")),
    ("match", .string (trimEndMatches '/' suiteBaseUrl ++ "/test/a/*/verification-evidence")),
    ("tasks", .array [.object [
      ("commands", .array [.array [.string "wait", .string "xpath", .string "//*",
        .number (.natural 10), .string ".*Deferred verification evidence.*",
        .string "update-image-placeholder"]]),
      ("match", .string (trimEndMatches '/' suiteBaseUrl ++ "/test/a/*/verification-evidence")),
      ("task", .string "Capture verification evidence")]])]]

def materializeVpVerificationEvidenceBrowser (root : Members) (suiteBaseUrl : String) :
    Except MaterializerError Members :=
  match member root "browser" with
  | none => .ok (put "browser" (evidenceBrowser suiteBaseUrl) root)
  | some existing =>
    if sameValue existing (evidenceBrowser suiteBaseUrl) then .ok root
    else .error (.invalidField "browser")

/-- The official verifier HAIP plan is signed by request URI even though its variant does not
repeat the transport. -/
def requestUriSigned (plan : DescriptorPlan) : Bool :=
  plan.plan == "oid4vp-1final-verifier-haip-test-plan"
    || (SortedMap.get plan.variant "request_method").any (startsWith "request_uri_signed")

def placeRequestObjectAnchor (plan : DescriptorPlan) (anchor : String) (root : Members) :
    Except MaterializerError Members :=
  match member root "client" with
  | none => do
    check (requestUriSigned plan = false) (.invalidField "client")
    .ok root
  | some (.object client) =>
    if requestUriSigned plan then do
      check ((member client "request_object_trust_anchor_pem").all fun existing =>
        existing.asString = some anchor) (.invalidField "client.request_object_trust_anchor_pem")
      .ok (put "client"
        (.object (put "request_object_trust_anchor_pem" (.string anchor) client)) root)
    else do
      check (¬(SortedMap.get plan.variant "request_method" = some "url_query" ∧
          (member client "request_object_trust_anchor_pem").isSome))
        (.invalidField "client.request_object_trust_anchor_pem")
      .ok root
  | some _ => .error (.invalidField "client")

def materializeVpConfig (plan : DescriptorPlan) (config : Json)
    (prepared : PreparedMaterialization) (requestObjectTrustAnchorPem : String) :
    Except MaterializerError Json :=
  if isVp plan then
    match config with
    | .object root =>
      match prepared.attestation with
      | none => .error (.invalidField "generated.vp_credential_signer")
      | some attestation => do
        let signingJwk ← jsonValue library attestation.credentialSigningPrivateJwk
        let credential ← objectUnder root "credential"
        check (agreeing credential "signing_jwk" signingJwk)
          (.invalidField "credential.signing_jwk")
        let credential ← placeTrustAnchors attestation.trustAnchorPem
          (put "signing_jwk" signingJwk credential)
        let root ← materializeVpVerificationEvidenceBrowser
          (put "credential" (.object credential) root) prepared.suiteBaseUrl
        let root ← placeRequestObjectAnchor plan requestObjectTrustAnchorPem root
        .ok (.object root)
    | _ => .error (.invalidField "plan.config_template")
  else .ok config

end Configurations

end NazoAuthCtl.MatrixTemplates
