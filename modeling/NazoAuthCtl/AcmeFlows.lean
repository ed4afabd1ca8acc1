import Mathlib.Data.Int.Notation
import NazoAuthCtl.CallFlow
import NazoAuthCtl.Checks

/-!
# The issuance of a certificate over ACME

One transaction of a binding is driven from its account to its receipt. The journal of the
transaction is written whole, under the same name for every transaction of the binding. A
failure in between is written to the journal and leaves it pending; a recovery goes on from
there.
-/

set_option autoImplicit false
set_option linter.all false

namespace NazoAuthCtl.AcmeFlows

open CallFlow
open Checks (check checkOptional)

abbrev Failure := String

/-! ## The records -/

inductive Phase where
  | prepared
  | accountReady
  | orderCreated
  | challengePublished
  | challengeReady
  | csrReady
  | finalized
  | issued
  deriving DecidableEq, Repr

/-- What a transaction and its receipt say of the configuration. -/
structure AcmeAuthority where
  deploymentId : String
  declarationRevision : ℕ
  tenant : String
  hostname : String
  acmeConfigSha256 : String
  providerConfigSha256 : String
  trustAnchorsSha256 : String
  directoryTrustAnchorSha256 : Option String
  directoryUrl : String
  allowedOrigins : List String
  termsOfServiceUrl : String
  deriving DecidableEq, Repr

structure AcmeTransaction where
  jti : String
  authority : AcmeAuthority
  expectedRevision : ℕ
  targetRevision : ℕ
  orderUrl : Option String
  challengePath : Option String
  challengeSha256 : Option String
  accountKeySha256 : Option String
  privateKeySha256 : Option String
  csrSha256 : Option String
  certificateSha256 : Option String
  createdAt : ℤ
  expiresAt : ℤ
  phase : Phase
  lastError : Option String
  deriving DecidableEq, Repr

structure AcmeReceipt where
  jti : String
  authority : AcmeAuthority
  revision : ℕ
  accountId : String
  accountKeySha256 : String
  orderUrl : String
  certificateSha256 : String
  privateKeySha256 : String
  leafCertificateSha256 : String
  materialSha256 : String
  certificateNotAfter : ℤ
  transactionCreatedAt : ℤ
  transactionExpiresAt : ℤ
  issuedAt : ℤ
  deriving DecidableEq, Repr

/-- A certificate request with the private key whose public half it carries. -/
structure CertificateRequest where
  der : String
  key : String
  deriving DecidableEq, Repr

inductive OrderStatus where
  | pending
  | ready
  | processing
  | valid
  | invalid
  deriving DecidableEq, Repr

structure Challenge where
  path : String
  response : String
  deriving DecidableEq, Repr

structure Material where
  leafSha256 : String
  materialSha256 : String
  notAfter : ℤ
  deriving DecidableEq, Repr

/-- What an issue is given: the authority of its configurations, and their challenge
directory, account contacts apart. -/
structure AcmeInput where
  authority : AcmeAuthority
  webroot : String
  ttlSeconds : ℤ
  deriving DecidableEq, Repr

/-! ## Calls -/

inductive Call where
  | lockDeployment
  | lockWebroot (webroot : String)
  | lockAccount (directoryUrl : String)
  | unlockAccount
  | now
  | newJti
  | loadPending
  | loadReceipt
  | loadArchivedReceipt (revision : ℕ)
  /-- The configuration snapshots of a transaction, with the challenge directory in them. -/
  | writeSnapshots (jti : String) (input : AcmeInput)
  | loadSnapshots (jti : String)
  | persistPending (transaction : AcmeTransaction)
  | loadAccount
  | loadOrCreateAccountKey
  | openAccount (accountKeySha256 : String)
  | resumeOrder (url : String)
  | newOrder (hostname : String)
  | validateOrder
  | orderStatus
  | authorization
  | publishChallenge (challenge : Challenge)
  | setReady
  | pollReady
  | cleanupChallenge (path sha256 : String)
  | readKey (jti : String)
  | readCsr (jti : String)
  | generateKey (hostname : String)
  | writeKey (jti key : String)
  | writeCsr (jti : String) (csr : CertificateRequest)
  | finalizeCsr (jti : String) (csr : CertificateRequest)
  | certificate
  | writeCertificate (jti certificate : String)
  | validateMaterial (jti : String)
  | validateReceiptArtifacts (receipt : AcmeReceipt)
  | archiveReceipt (receipt : AcmeReceipt)
  | writeReceipt (receipt : AcmeReceipt)
  | writeAborted (transaction : AcmeTransaction)
  | archiveTransaction (transaction : AcmeTransaction)
  | removePending (jti : String)
  deriving DecidableEq, Repr

abbrev Reply : Call → Type
  | .now => ℤ
  | .newJti => String
  | .loadPending => Option AcmeTransaction
  | .loadReceipt | .loadArchivedReceipt _ => Option AcmeReceipt
  | .loadSnapshots _ => AcmeInput
  | .loadAccount => Option String
  | .loadOrCreateAccountKey | .newOrder _ | .certificate | .readKey _ => String
  | .openAccount _ => String
  | .orderStatus | .pollReady => OrderStatus
  | .authorization => Option Challenge
  | .readCsr _ | .generateKey _ => CertificateRequest
  | .validateMaterial _ => Material
  | _ => Unit

abbrev Flow : Type → Type := CallFlow.Flow Call Reply Failure

def perform (c : Call) : Flow (Reply c) := CallFlow.Flow.perform c

def tried (c : Call) : Flow (Except Failure (Reply c)) := CallFlow.Flow.attempt c

/-! ## Steps on a transaction -/

/-- A step that changes its transaction, also where it fails. -/
def Driving (α : Type) : Type :=
  AcmeTransaction → Flow (Except Failure α × AcmeTransaction)

namespace Driving

variable {α β : Type}

def pure (a : α) : Driving α := fun t => CallFlow.Flow.pure (.ok a, t)

def bind (d : Driving α) (f : α → Driving β) : Driving β := fun t => do
  let r ← d t
  match r.1 with
  | .ok a => f a r.2
  | .error e => CallFlow.Flow.pure (.error e, r.2)

instance : Monad Driving where
  pure := Driving.pure
  bind := Driving.bind

def fail (e : Failure) : Driving α := fun t => CallFlow.Flow.pure (.error e, t)

def ofExcept (x : Except Failure α) : Driving α := fun t => CallFlow.Flow.pure (x, t)

def require (p : Prop) [Decidable p] (e : Failure) : Driving Unit :=
  if p then Driving.pure () else fail e

def transaction : Driving AcmeTransaction := fun t => CallFlow.Flow.pure (.ok t, t)

def update (f : AcmeTransaction → AcmeTransaction) : Driving Unit := fun t =>
  CallFlow.Flow.pure (.ok (), f t)

def ask (c : Call) : Driving (Reply c) := fun t => do
  let r ← tried c
  CallFlow.Flow.pure (r, t)

/-- `persist_pending`. -/
def persistPending : Driving Unit := fun t => do
  let r ← tried (.persistPending t)
  CallFlow.Flow.pure (r, t)

/-- A step under a lock that is given back whatever comes of the step. -/
def underAccountLock (directoryUrl : String) (d : Driving α) : Driving α := fun t => do
  let locked ← tried (.lockAccount directoryUrl)
  match locked with
  | .error e => CallFlow.Flow.pure (.error e, t)
  | .ok _ => do
    let r ← d t
    let _ ← tried .unlockAccount
    CallFlow.Flow.pure r

end Driving

open Driving (ask persistPending update underAccountLock)

/-! ## Validation -/

/-- The forms of the texts of a journal, and the digest. -/
structure AcmeRules where
  sha256 : String → String
  /-- Digests, addresses, paths and the id of a journal are well formed. -/
  wellFormed : AcmeTransaction → Except Failure Unit
  challengeInside : AcmeInput → String → Bool

variable (rules : AcmeRules)

def validateTransactionBinding (authority : AcmeAuthority) (transaction : AcmeTransaction) :
    Except Failure Unit := do
  check (transaction.authority.deploymentId = authority.deploymentId ∧
    transaction.authority.declarationRevision ≤ authority.declarationRevision ∧
    transaction.authority.tenant = authority.tenant ∧
    transaction.authority.hostname = authority.hostname ∧
    transaction.targetRevision = transaction.expectedRevision + 1 ∧
    transaction.createdAt ≤ transaction.expiresAt)
    "ACME transaction does not match the selected deployment binding"
  rules.wellFormed transaction
  check (transaction.challengePath.isSome = transaction.challengeSha256.isSome ∧
    transaction.privateKeySha256.isSome = transaction.csrSha256.isSome)
    "ACME transaction journal contains a partial artifact binding"

/-- What the phase of a journal says that it holds. -/
def phaseBound (transaction : AcmeTransaction) : Except Failure Unit := do
  check (transaction.phase ∉ [.prepared, .accountReady] → transaction.orderUrl ≠ none)
    "ACME transaction phase requires a bound order URL"
  check (transaction.phase ≠ .prepared → transaction.accountKeySha256 ≠ none)
    "ACME transaction phase requires a bound account private key"
  check (transaction.phase ∈ [.challengePublished, .challengeReady] →
    transaction.challengePath ≠ none)
    "ACME challenge phase has no bound challenge artifact"
  check (transaction.phase ∈ [.csrReady, .finalized, .issued] →
    transaction.privateKeySha256 ≠ none)
    "ACME finalization phase has no bound private key and CSR"
  check (transaction.phase = .issued → transaction.certificateSha256 ≠ none)
    "issued ACME transaction has no bound certificate"

def validateTransactionConfig (input : AcmeInput) (transaction : AcmeTransaction) :
    Except Failure Unit := do
  check (transaction.authority.acmeConfigSha256 = input.authority.acmeConfigSha256 ∧
    transaction.authority.providerConfigSha256 = input.authority.providerConfigSha256 ∧
    transaction.authority.trustAnchorsSha256 = input.authority.trustAnchorsSha256 ∧
    transaction.authority.directoryTrustAnchorSha256 =
      input.authority.directoryTrustAnchorSha256 ∧
    transaction.authority.directoryUrl = input.authority.directoryUrl ∧
    transaction.authority.allowedOrigins = input.authority.allowedOrigins ∧
    transaction.authority.termsOfServiceUrl = input.authority.termsOfServiceUrl ∧
    transaction.authority.tenant = input.authority.tenant ∧
    transaction.authority.hostname = input.authority.hostname)
    "ACME transaction differs from its configuration and trust bindings"
  check (0 < transaction.expiresAt - transaction.createdAt ∧
    transaction.expiresAt - transaction.createdAt ≤ input.ttlSeconds)
    "ACME transaction expiry exceeds its configured bound"
  checkOptional (fun path => check (rules.challengeInside input path = true)
    "ACME HTTP-01 challenge escaped its configured webroot") transaction.challengePath
  phaseBound transaction

def validateReceiptTransaction (receipt : AcmeReceipt) (transaction : AcmeTransaction) :
    Except Failure Unit :=
  check (receipt.jti = transaction.jti ∧ receipt.authority = transaction.authority ∧
    receipt.revision = transaction.targetRevision ∧
    receipt.accountKeySha256 = transaction.accountKeySha256.getD "" ∧
    receipt.orderUrl = transaction.orderUrl.getD "" ∧
    receipt.certificateSha256 = transaction.certificateSha256.getD "" ∧
    receipt.privateKeySha256 = transaction.privateKeySha256.getD "" ∧
    receipt.transactionCreatedAt = transaction.createdAt ∧
    receipt.transactionExpiresAt = transaction.expiresAt)
    "ACME issuance receipt differs from the pending transaction"

def validatePreviousReceipt (transaction : AcmeTransaction) :
    Option AcmeReceipt → Except Failure Unit
  | none => check (transaction.expectedRevision = 0)
      "previous ACME issuance receipt changed after transaction preparation"
  | some receipt => check (0 < transaction.expectedRevision ∧
      receipt.revision = transaction.expectedRevision ∧
      receipt.authority.deploymentId = transaction.authority.deploymentId ∧
      receipt.authority.tenant = transaction.authority.tenant ∧
      receipt.authority.hostname = transaction.authority.hostname)
      "previous ACME issuance receipt changed after transaction preparation"

/-! ## The drive -/

def ensureTransactionFresh : Driving Unit := do
  let now ← ask .now
  let t ← Driving.transaction
  Driving.require (now ≤ t.expiresAt) "ACME transaction expired"

def cleanupChallenge : Driving Unit := do
  let t ← Driving.transaction
  match t.challengePath, t.challengeSha256 with
  | none, _ => pure ()
  | some _, none => Driving.fail "ACME journal has a challenge path without a digest"
  | some path, some sha256 => ask (.cleanupChallenge path sha256)

def bindAccountKeyDigest (digest : String) : Driving Unit := do
  let t ← Driving.transaction
  match t.accountKeySha256 with
  | some expected =>
    Driving.require (expected = digest) "ACME account private key differs from the journal binding"
  | none => do
    update fun t => { t with accountKeySha256 := some digest }
    persistPending

/-- The key of an account record is the one that the journal binds. -/
def requireBoundKey (digest : String) : Driving Unit := do
  let t ← Driving.transaction
  Driving.require (∀ expected ∈ t.accountKeySha256, expected = digest)
    "ACME account credentials do not match the deployment and configuration binding"

/-- `load_or_create_account`, with the id of the account. -/
def boundAccount : Driving String := do
  let account ← ask .loadAccount
  match account with
  | some digest => do
    requireBoundKey digest
    bindAccountKeyDigest digest
    ask (.openAccount digest)
  | none => do
    let digest ← ask .loadOrCreateAccountKey
    bindAccountKeyDigest digest
    ask (.openAccount digest)

def loadOrCreateAccount : Driving String := fun t =>
  underAccountLock t.authority.directoryUrl boundAccount t

def accountReady : Driving Unit := do
  let t ← Driving.transaction
  if t.phase = .prepared then do
    update fun t => { t with phase := .accountReady, lastError := none }
    persistPending
  else pure ()

def openOrder : Driving String := do
  let t ← Driving.transaction
  match t.orderUrl with
  | some url => do
    ask (.resumeOrder url)
    pure url
  | none => do
    let url ← ask (.newOrder t.authority.hostname)
    update fun t => { t with orderUrl := some url, phase := .orderCreated }
    persistPending
    pure url

def satisfyAuthorization : Driving Unit := do
  let challenge ← ask .authorization
  match challenge with
  | none => pure ()
  | some challenge => do
    update fun t =>
      { t with
        challengePath := some challenge.path
        challengeSha256 := some (rules.sha256 challenge.response) }
    persistPending
    ask (.publishChallenge challenge)
    update fun t => { t with phase := .challengePublished }
    persistPending
    ensureTransactionFresh
    ask .setReady
    update fun t => { t with phase := .challengeReady }
    persistPending

/-- The status of an order that can be finalized. -/
def readyOrder : Driving OrderStatus := do
  let status ← ask .orderStatus
  match status with
  | .pending => do
    satisfyAuthorization rules
    let status ← ask .pollReady
    Driving.require (status = .ready) "ACME order became invalid during authorization"
    pure .ready
  | .ready | .processing | .valid => pure status
  | .invalid => Driving.fail "ACME order is invalid"

def boundCsr (keySha256 csrSha256 : String) : Driving CertificateRequest := do
  let t ← Driving.transaction
  let key ← ask (.readKey t.jti)
  let csr ← ask (.readCsr t.jti)
  Driving.require (rules.sha256 key = keySha256 ∧ rules.sha256 csr.der = csrSha256)
    "ACME private key or CSR differs from the journal binding"
  pure csr

def createCsr : Driving CertificateRequest := do
  let t ← Driving.transaction
  let csr ← ask (.generateKey t.authority.hostname)
  ask (.writeKey t.jti csr.key)
  ask (.writeCsr t.jti csr)
  update fun t =>
    { t with
      privateKeySha256 := some (rules.sha256 csr.key)
      csrSha256 := some (rules.sha256 csr.der)
      phase := .csrReady }
  persistPending
  pure csr

def loadOrCreateCsr : Driving CertificateRequest := do
  let t ← Driving.transaction
  match t.privateKeySha256, t.csrSha256 with
  | some keySha256, some csrSha256 => boundCsr rules keySha256 csrSha256
  | none, none => createCsr rules
  | _, _ => Driving.fail "ACME journal has a partial private-key/CSR binding"

def finalizeOrder (status : OrderStatus) (csr : CertificateRequest) : Driving Unit :=
  if status = .ready then do
    let t ← Driving.transaction
    ask (.finalizeCsr t.jti csr)
    update fun t => { t with phase := .finalized }
    persistPending
  else pure ()

def requireText (text : Option String) (missing : Failure) : Driving String :=
  match text with
  | none => Driving.fail missing
  | some text => pure text

def buildReceipt (accountId orderUrl certificateSha256 : String) (material : Material) :
    Driving AcmeReceipt := do
  let t ← Driving.transaction
  let accountKeySha256 ← requireText t.accountKeySha256 "ACME journal has no account-key digest"
  let privateKeySha256 ← requireText t.privateKeySha256 "ACME journal has no private-key digest"
  let issuedAt ← ask .now
  pure
    { jti := t.jti
      authority := t.authority
      revision := t.targetRevision
      accountId
      accountKeySha256
      orderUrl
      certificateSha256
      privateKeySha256
      leafCertificateSha256 := material.leafSha256
      materialSha256 := material.materialSha256
      certificateNotAfter := material.notAfter
      transactionCreatedAt := t.createdAt
      transactionExpiresAt := t.expiresAt
      issuedAt }

/-- `persist_receipt`. -/
def persistReceipt (receipt : AcmeReceipt) : Driving Unit := do
  let existing ← ask (.loadArchivedReceipt receipt.revision)
  match existing with
  | some archived =>
    Driving.require (archived = receipt)
      "ACME issuance receipt revision archive contains conflicting evidence"
  | none => ask (.archiveReceipt receipt)
  ask (.writeReceipt receipt)

def archiveTransaction : Driving Unit := do
  let t ← Driving.transaction
  ask (.archiveTransaction t)
  ask (.removePending t.jti)

def commitIssuedMaterial (accountId orderUrl certificate : String) : Driving AcmeReceipt := do
  let t ← Driving.transaction
  ask (.writeCertificate t.jti certificate)
  update fun t => { t with certificateSha256 := some (rules.sha256 certificate) }
  persistPending
  let material ← ask (.validateMaterial t.jti)
  let receipt ← buildReceipt accountId orderUrl (rules.sha256 certificate) material
  let current ← ask .loadReceipt
  Driving.ofExcept (validatePreviousReceipt t current)
  persistReceipt receipt
  update fun t => { t with phase := .issued, lastError := none }
  persistPending
  cleanupChallenge
  archiveTransaction
  pure receipt

def driveAsync : Driving AcmeReceipt := do
  let accountId ← loadOrCreateAccount
  accountReady
  ensureTransactionFresh
  let orderUrl ← openOrder
  ask .validateOrder
  ensureTransactionFresh
  let status ← readyOrder rules
  cleanupChallenge
  ensureTransactionFresh
  let csr ← loadOrCreateCsr rules
  finalizeOrder status csr
  let certificate ← ask .certificate
  ensureTransactionFresh
  commitIssuedMaterial rules accountId orderUrl certificate

def AcmeTransaction.failed (t : AcmeTransaction) (error : Failure) : AcmeTransaction :=
  { t with lastError := some error }

/-- A failed drive leaves its error in the journal. -/
def leavePending (error : Failure) (t : AcmeTransaction) : Flow AcmeReceipt := do
  perform (.persistPending (t.failed error))
  let _ ← cleanupChallenge t
  CallFlow.Flow.fail error

def driveTransaction (t : AcmeTransaction) : Flow AcmeReceipt := do
  let now ← perform .now
  CallFlow.Flow.require (now < t.expiresAt) "ACME transaction expired"
  let result ← driveAsync rules t
  match result.1 with
  | .ok receipt => CallFlow.Flow.pure receipt
  | .error error => leavePending error result.2

/-! ## The commands -/

def plannedTransaction (input : AcmeInput) (jti : String) (now : ℤ) (currentRevision : ℕ) :
    AcmeTransaction where
  jti
  authority := input.authority
  expectedRevision := currentRevision
  targetRevision := currentRevision + 1
  orderUrl := none
  challengePath := none
  challengeSha256 := none
  accountKeySha256 := none
  privateKeySha256 := none
  csrSha256 := none
  certificateSha256 := none
  createdAt := now
  expiresAt := now + input.ttlSeconds
  phase := .prepared
  lastError := none

def issue (input : AcmeInput) : Flow AcmeReceipt := do
  perform .lockDeployment
  perform (.lockWebroot input.webroot)
  let pending ← perform .loadPending
  CallFlow.Flow.require (pending = none)
    "an ACME issuance is pending for this binding; run tls acme recover"
  let current ← perform .loadReceipt
  let jti ← perform .newJti
  let now ← perform .now
  let t := plannedTransaction input jti now ((current.map (·.revision)).getD 0)
  perform (.writeSnapshots jti input)
  perform (.persistPending t)
  driveTransaction rules t

/-- The end of a transaction whose receipt is there. -/
def retire (t : AcmeTransaction) (receipt : AcmeReceipt) : Flow AcmeReceipt := do
  let cleaned ← cleanupChallenge t
  CallFlow.Flow.ofExcept cleaned.1
  perform (.archiveTransaction t)
  perform (.removePending t.jti)
  CallFlow.Flow.pure receipt

def abortTransaction (t : AcmeTransaction) : Flow Unit := do
  let cleaned ← cleanupChallenge t
  CallFlow.Flow.ofExcept cleaned.1
  let aborted := t.failed "transaction-expired"
  perform (.persistPending aborted)
  perform (.writeAborted aborted)
  perform (.archiveTransaction aborted)
  perform (.removePending t.jti)

def resume (t : AcmeTransaction) : Flow AcmeReceipt := do
  let now ← perform .now
  if t.expiresAt < now then do
    abortTransaction t
    CallFlow.Flow.fail "ACME issuance expired; challenge and pending journal were safely retired"
  else driveTransaction rules t

/-- `restore_archived_receipt`, then the drive. -/
def recoverUncommitted (t : AcmeTransaction) (current : Option AcmeReceipt) :
    Flow AcmeReceipt := do
  CallFlow.Flow.ofExcept (validatePreviousReceipt t current)
  let archived ← perform (.loadArchivedReceipt t.targetRevision)
  match archived with
  | some receipt => do
    CallFlow.Flow.ofExcept (validateReceiptTransaction receipt t)
    perform (.validateReceiptArtifacts receipt)
    perform (.writeReceipt receipt)
    retire t receipt
  | none => resume rules t

def settle (t : AcmeTransaction) (current : Option AcmeReceipt) : Flow AcmeReceipt :=
  match current.filter (·.jti = t.jti) with
  | some receipt => do
    CallFlow.Flow.ofExcept (validateReceiptTransaction receipt t)
    perform (.validateReceiptArtifacts receipt)
    retire t receipt
  | none => recoverUncommitted rules t current

def requirePending (pending : Option AcmeTransaction) : Flow AcmeTransaction :=
  match pending with
  | none => CallFlow.Flow.fail "no pending ACME issuance exists for this binding"
  | some t => CallFlow.Flow.pure t

def recover (authority : AcmeAuthority) : Flow AcmeReceipt := do
  let pending ← perform .loadPending
  let t ← requirePending pending
  perform .lockDeployment
  CallFlow.Flow.ofExcept (validateTransactionBinding rules authority t)
  let input ← perform (.loadSnapshots t.jti)
  CallFlow.Flow.ofExcept (validateTransactionConfig rules input t)
  perform (.lockWebroot input.webroot)
  let current ← perform .loadReceipt
  settle rules t current

end NazoAuthCtl.AcmeFlows
