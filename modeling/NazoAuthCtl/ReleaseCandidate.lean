import NazoAuthCtl.Checks
import NazoAuthCtl.FaultProgram
import NazoAuthCtl.StateDocument

/-!
# Verifying one release artifact

The bytes of an artifact come from the persistent cache or from a download. Either way they
are digested in a private workspace, GitHub is asked for the attestations of that digest, and
each attestation that concerns the release is checked against the pinned identity and the
bytes. What other programs and libraries answer is a parameter: curl, cosign, the JSON and
Base64 readers and the digest. The files of the workspace are always written as asked, those
of the cache may refuse to be read, removed or stored.
-/

set_option autoImplicit false
set_option linter.all false

namespace NazoAuthCtl.ReleaseCandidate
open Checks FaultProgram
open FaultProgram.Program hiding pure bind
open TargetState (Bytes RuntimeBackendKind)
open StateDocument (isLowerHex sha256Digest isWhitespace)

def releasePredicate : String := "https://nazo.run/attestations/release-manifest/v1"
def sigstoreBundleMediaType : String := "application/vnd.dev.sigstore.bundle.v0.3+json"
def inTotoStatementV1 : String := "https://in-toto.io/Statement/v1"
def artifactUnverified : String := "ARTIFACT_UNVERIFIED"
def releaseNotFound : String := "RELEASE_NOT_FOUND"
def releaseDownloadFailed : String := "RELEASE_DOWNLOAD_FAILED"
def maxAttestations : ℕ := 20

/-! ## Documents -/

inductive Value where
  | null
  | bool (value : Bool)
  | number (text : String)
  | string (text : String)
  | array (items : List Value)
  | object (fields : List (String × Value))

def Value.get (key : String) : Value → Option Value
  | object fields => fields.lookup key
  | _ => none

def Value.asStr : Value → Option String
  | string text => some text
  | _ => none

structure Attestation where
  initiator : String
  repositoryId : UInt64
  bundle : Value

structure InTotoSubject where
  name : String
  digest : List (String × String)

structure InTotoStatement where
  kind : String
  subject : List InTotoSubject
  predicateType : String
  predicate : Value

structure Artifact where
  repository : String
  name : String
  sha256 : String
  size : UInt64
  deriving DecidableEq, Repr

structure OciRelease where
  repository : String
  indexDigest : String
  /-- In the order of the platforms, like every map here. -/
  platformManifests : List (String × String)
  deriving DecidableEq, Repr

structure ReleaseManifest where
  schema : UInt32
  version : String
  target : String
  releaseIdentity : String
  operatorProtocol : UInt32
  artifacts : List (String × Artifact)
  oci : OciRelease
  deriving DecidableEq, Repr

/-! ## Surroundings -/

structure Platform where
  arch : String
  os : String
  targetEnv : String
  protocolVersion : UInt32
  sha256 : Bytes → String
  parseResponse : String → Except String (List Attestation)
  jsonBytes : Value → Bytes
  decodeBase64 : String → Except String Bytes
  parseStatement : Bytes → Except String InTotoStatement
  parseManifest : Value → Except String ReleaseManifest
  commandExists : String → Bool
  /-- The verdict on a bundle for a predicate type, an identity and the bytes of a blob. -/
  cosign : Bytes → String → String → Bytes → Except String Unit
  containerCosign : RuntimeBackendKind → Bytes → String → String → Bytes → Except String Unit
  /-- The asset that a repository, a version and a name stand for. -/
  asset : String → String → String → Bytes
  /-- What GitHub answers for a repository, a digest and a predicate type, or how curl
  failed. No text is an answer that is not UTF-8. -/
  attestations : String → String → String → Except String (Option String)
  readable : String → Bool
  removable : String → Bool
  storable : String → Bool

structure Disk where
  work : String → Option Bytes
  cache : String → Option Bytes

abbrev Step (α : Type) : Type := Program Platform Disk String α

/-- An error with its context in front, as `{:#}` prints it. -/
def context {α : Type} (text : String) : Except String α → Except String α :=
  Except.mapError fun error => s!"{text}: {error}"

def fromOption {α : Type} (text : String) : Option α → Except String α
  | some value => .ok value
  | none => .error text

/-! ## The manifest -/

def releaseTargetFor (arch os targetEnv : String) : Option String :=
  if arch = "x86_64" ∧ os = "linux" ∧ targetEnv = "musl" then some "x86_64-unknown-linux-musl"
  else if arch = "aarch64" ∧ os = "linux" ∧ targetEnv = "musl" then
    some "aarch64-unknown-linux-musl"
  else if arch = "x86_64" ∧ os = "linux" then some "x86_64-unknown-linux-gnu"
  else if arch = "aarch64" ∧ os = "linux" then some "aarch64-unknown-linux-gnu"
  else if arch = "x86_64" ∧ os = "windows" then some "x86_64-pc-windows-msvc"
  else if arch = "aarch64" ∧ os = "windows" then some "aarch64-pc-windows-msvc"
  else if arch = "x86_64" ∧ os = "macos" then some "x86_64-apple-darwin"
  else if arch = "aarch64" ∧ os = "macos" then some "aarch64-apple-darwin"
  else none

def Platform.releaseTarget (p : Platform) : Option String :=
  releaseTargetFor p.arch p.os p.targetEnv

/-- `str::contains`. -/
def contains (text part : String) : Bool :=
  text.toList.tails.any part.toList.isPrefixOf

def executableSuffix (target : String) : String :=
  if contains target "windows" then ".exe" else ""

def isLowerHexOf (length : ℕ) (value : String) : Bool :=
  value.utf8ByteSize == length && value.toList.all isLowerHex

def ociDigest (value : String) : Bool :=
  (sha256Digest value).any (isLowerHexOf 64)

def OciRelease.validate (oci : OciRelease) : Except String Unit :=
  check (oci.repository = "ghcr.io/nazozero/nazoauth" ∧ ociDigest oci.indexDigest
      ∧ oci.platformManifests.map (·.1) = ["linux/amd64", "linux/arm64"]
      ∧ oci.platformManifests.all fun entry => ociDigest entry.2)
    "signed release manifest contains an invalid OCI index"

def expectedBinary (target : String) : String := "nazoauth-" ++ (target ++ executableSuffix target)

/-- The only artifact of a manifest that declares just the binary. -/
def binaryOnly (artifacts : List (String × Artifact)) : Except String Artifact :=
  fromOption "signed release manifest has an unexpected artifact set"
    (if artifacts.length = 1 then artifacts.lookup "binary" else none)

def ReleaseManifest.validate (manifest : ReleaseManifest) (p : Platform)
    (version expectedIdentity : String) : Except String Unit := do
  let target ← fromOption "this platform has no official Release target" p.releaseTarget
  check (manifest.schema = 7 ∧ manifest.version = version ∧ manifest.target = target
      ∧ manifest.releaseIdentity = expectedIdentity)
    "signed release manifest failed policy validation"
  check (manifest.operatorProtocol = p.protocolVersion)
    "signed release manifest has an invalid operator protocol contract"
  let artifact ← binaryOnly manifest.artifacts
  check (artifact.name = expectedBinary manifest.target)
    "signed release manifest artifact does not match its target"
  check (artifact.size ≠ 0 ∧ artifact.repository = "nazozero/NazoAuth"
      ∧ isLowerHexOf 64 artifact.sha256)
    "signed release manifest contains an invalid artifact"
  manifest.oci.validate

/-! ## One attestation -/

def checkAttestationEnvelope (kindLabel : String) (attestation : Attestation) :
    Except String Unit := do
  check (attestation.repositoryId ≠ 0 ∧ ¬attestation.initiator.toList.all isWhitespace)
    s!"{artifactUnverified}: GitHub returned invalid {kindLabel} attestation metadata"
  check (((attestation.bundle.get "mediaType").bind Value.asStr) = some sigstoreBundleMediaType)
    s!"{artifactUnverified}: GitHub returned an unsupported {kindLabel} Sigstore bundle"

def statementFromBundle (p : Platform) (bundle : Value) : Except String InTotoStatement := do
  let payload ← fromOption s!"{artifactUnverified}: Release attestation has no DSSE payload"
    (((bundle.get "dsseEnvelope").bind fun envelope => envelope.get "payload").bind Value.asStr)
  let bytes ← context s!"{artifactUnverified}: Release attestation payload is not base64"
    (p.decodeBase64 payload)
  context s!"{artifactUnverified}: Release attestation statement is invalid"
    (p.parseStatement bytes)

def requireSubjectBinding (statement : InTotoStatement) (blob digest label : String) :
    Except String Unit :=
  check (statement.subject.any fun subject =>
      subject.name == blob && subject.digest.lookup "sha256" == some digest)
    s!"{artifactUnverified}: {label} does not bind the downloaded artifact bytes"

def manifestFromBundle (p : Platform) (bundle : Value) (blob digest : String) :
    Except String (Option ReleaseManifest) := do
  let statement ← statementFromBundle p bundle
  if statement.kind = inTotoStatementV1 ∧ statement.predicateType = releasePredicate then
    requireSubjectBinding statement blob digest "Release attestation subject"
    let manifest ← context
      s!"{artifactUnverified}: Release attestation predicate is not a closed manifest"
      (p.parseManifest statement.predicate)
    pure (some manifest)
  else pure none

def Platform.verifyBlobAttestation (p : Platform) (bundle : Bytes) (blob : Bytes)
    (identity predicate : String) : Except String Unit :=
  if p.commandExists "cosign" then p.cosign bundle predicate identity blob
  else if p.commandExists "podman" then p.containerCosign .podman bundle predicate identity blob
  else if p.commandExists "docker" then p.containerCosign .docker bundle predicate identity blob
  else .error "Cosign verification requires cosign, Podman, or Docker"

def acceptVerifiedManifest (candidate : ReleaseManifest) :
    Option ReleaseManifest → Except String (Option ReleaseManifest)
  | none => .ok (some candidate)
  | some existing =>
    if existing = candidate then .ok (some existing)
    else .error (s!"{artifactUnverified}: " ++
      "matching Release attestations contain conflicting predicates")

/-- What a bundle's own bytes say once its signature holds. -/
def requireArtifact (p : Platform) (version identity blob digest : String) (size : ℕ)
    (candidate : ReleaseManifest) : Except String Unit := do
  context s!"{artifactUnverified}: Release manifest policy validation failed"
    (candidate.validate p version identity)
  let subject ← fromOption
    s!"{artifactUnverified}: Release attestation subject is not a declared server artifact"
    ((candidate.artifacts.map (·.2)).find? fun artifact => artifact.name == blob)
  check (subject.sha256 = digest ∧ subject.size.toNat = size) (s!"{artifactUnverified}: " ++
    "Release attestation does not bind the downloaded server artifact")

/-! ## Files of the workspace -/

def readWork (name : String) : Step Bytes := do
  let disk ← get
  ofExcept (fromOption s!"failed to open {name}" (disk.work name))

def writeWork (name : String) (content : Bytes) : Step Unit :=
  modify fun disk =>
    { disk with work := fun file => if file = name then some content else disk.work file }

def bundleName (index : ℕ) : String := "release-attestation-" ++ (toString index ++ ".json")

/-! ## The attestations of a digest -/

def releaseDownloadError (rendered subject : String) : String :=
  let code := if contains rendered "error: 404" || contains rendered "HTTP 404"
    then releaseNotFound else releaseDownloadFailed
  s!"{code}: failed to fetch {subject}: {rendered}"

def fetchGithubAttestationResponse (repository digest predicateType : String) :
    Step String := do
  let p ← environment
  let output ← ofExcept ((p.attestations repository digest predicateType).mapError
    (releaseDownloadError · "GitHub attestation metadata"))
  ofExcept (fromOption "GitHub returned non-UTF-8 release metadata" output)

def considerCandidate (version blob digest identity : String) (index : ℕ)
    (verified : Option ReleaseManifest) :
    Option ReleaseManifest → Step (Option ReleaseManifest)
  | none => pure verified
  | some candidate =>
    if candidate.version = version ∧ candidate.releaseIdentity = identity then do
      let p ← environment
      let bundle ← readWork (bundleName index)
      let content ← readWork blob
      ofExcept (context s!"{artifactUnverified}: Release provenance verification failed"
        (p.verifyBlobAttestation bundle content identity releasePredicate))
      ofExcept (requireArtifact p version identity blob digest content.length candidate)
      ofExcept (acceptVerifiedManifest candidate verified)
    else pure verified

/-- One turn of the loop over the attestations of a response. -/
def considerAttestation (version blob digest identity : String) (index : ℕ)
    (verified : Option ReleaseManifest) (attestation : Attestation) :
    Step (Option ReleaseManifest) := do
  let p ← environment
  ofExcept (checkAttestationEnvelope "Release" attestation)
  writeWork (bundleName index) (p.jsonBytes attestation.bundle)
  let candidate ← ofExcept (manifestFromBundle p attestation.bundle blob digest)
  considerCandidate version blob digest identity index verified candidate

def considerAttestations (version blob digest identity : String) :
    ℕ → Option ReleaseManifest → List Attestation → Step (Option ReleaseManifest)
  | _, verified, [] => pure verified
  | index, verified, attestation :: rest => do
    let verified ← considerAttestation version blob digest identity index verified attestation
    considerAttestations version blob digest identity (index + 1) verified rest

def verifiedManifestFromAttestations (response version blob digest identity : String) :
    Step ReleaseManifest := do
  let p ← environment
  let attestations ← ofExcept (context
    s!"{artifactUnverified}: GitHub attestation response is invalid" (p.parseResponse response))
  require (attestations ≠ [] ∧ attestations.length ≤ maxAttestations)
    s!"{artifactUnverified}: GitHub returned no bounded Release attestation set"
  let verified ← considerAttestations version blob digest identity 0 none attestations
  ofExcept (fromOption
    s!"{artifactUnverified}: no verified Release attestation matched the requested target"
    verified)

/-! ## The candidate -/

def entryPath (root repository version blob : String) : String :=
  s!"{root}/{repository}/{version}/{blob}"

def download (repository version blob : String) : Step Unit := do
  let p ← environment
  writeWork blob (p.asset repository version blob)

def digestOf (blob : String) : Step String := do
  let p ← environment
  let content ← readWork blob
  pure (p.sha256 content)

/-- What a copy from a path of the cache can read. -/
def Disk.readCache (disk : Disk) (p : Platform) (path : String) : Option Bytes :=
  if p.readable path then disk.cache path else none

def keepCopy (blob source : String) : Option Bytes → Step (Option String)
  | none => pure none
  | some content => do
    writeWork blob content
    pure (some source)

/-- The cache entry that now lies in the workspace too. A copy that fails in any way is no
hit. -/
def copyFromCache (repository version blob : String) : Option String → Step (Option String)
  | none => pure none
  | some root => do
    let p ← environment
    let disk ← get
    let source := entryPath root repository version blob
    keepCopy blob source (disk.readCache p source)

def removeFailedCachedRelease (path : String) : Step Unit := do
  let p ← environment
  require (p.removable path)
    s!"cached Release artifact failed verification but could not be removed: {path}"
  modify fun disk =>
    { disk with cache := fun file => if file = path then none else disk.cache file }

/-- A failed write of the cache is a warning. -/
def storeInCache (destination blob : String) : Step Unit := do
  let p ← environment
  onlyIf (p.storable destination) do
    let content ← readWork blob
    modify fun disk =>
      { disk with
          cache := fun file => if file = destination then some content else disk.cache file }

/-- `with_context`. -/
def inContext {α : Type} (text : String) (step : Step α) : Step α := do
  match ← attempt step with
  | .ok a => pure a
  | .error error => throw s!"{text}: {error}"

def freshContext (cachedError : String) : String :=
  "fresh Release artifact failed verification after the cached item was rejected " ++
    s!"({cachedError})"

/-- The single fresh download after a cached item was rejected. -/
def verifyFresh (repository version blob identity cachedError : String) :
    Step ReleaseManifest := do
  download repository version blob
  let freshDigest ← digestOf blob
  let freshResponse ← fetchGithubAttestationResponse repository freshDigest releasePredicate
  inContext (freshContext cachedError)
    (verifiedManifestFromAttestations freshResponse version blob freshDigest identity)

/-- Whether the first verification settles the matter, and the cache entry that still stands
for the bytes of the workspace. -/
def settle (repository version blob identity : String) (cached : Option String) :
    Except String ReleaseManifest → Step (ReleaseManifest × Option String)
  | .ok manifest => pure (manifest, cached)
  | .error cachedError =>
    match cached with
    | none => throw cachedError
    | some cachedSource => do
      removeFailedCachedRelease cachedSource
      let manifest ← verifyFresh repository version blob identity cachedError
      pure (manifest, none)

/-- Only bytes that did not come from the cache are put there. -/
def conclude (repository version blob : String) :
    Option String → ReleaseManifest × Option String → Step ReleaseManifest
  | none, (manifest, _) => pure manifest
  | some root, (manifest, cached) => do
    onlyIf (cached = none) (storeInCache (entryPath root repository version blob) blob)
    pure manifest

def verifiedReleaseCandidate (repository version blob identity : String)
    (cache : Option String) : Step ReleaseManifest := do
  let cached ← copyFromCache repository version blob cache
  onlyIf (cached = none) (download repository version blob)
  let digest ← digestOf blob
  -- an error here returns with the cache entry still in place
  let response ← fetchGithubAttestationResponse repository digest releasePredicate
  let first ← attempt (verifiedManifestFromAttestations response version blob digest identity)
  let settled ← settle repository version blob identity cached first
  conclude repository version blob cache settled

end NazoAuthCtl.ReleaseCandidate
