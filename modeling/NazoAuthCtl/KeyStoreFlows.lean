import NazoAuthCtl.CallFlow
import NazoAuthCtl.StateDocument

/-!
# The operations of the controller key store

One instance has a record file for each key and a pointer file that names the active one.
Six operations are given as the file operations they make, each under the lock of the
instance. A file holds the document that was written to it. The text encoding, the key pair
of a seed and the key id of a public key are parameters.
-/

set_option autoImplicit false
set_option linter.all false

namespace NazoAuthCtl.KeyStoreFlows

open Checks DeploymentPaths
open TargetState (DeploymentId)
open StateDocument (Timestamp)

abbrev Kid := String
abbrev Bytes := List UInt8

structure KeyPlatform where
  /-- The store root. -/
  root : String
  /-- `URL_SAFE_NO_PAD`. -/
  encode : Bytes → String
  decode : String → Option Bytes
  /-- The raw public key of a seed. -/
  verifyingKey : Bytes → Bytes
  controllerKeyId : Bytes → Kid

def controllerKeyStoreSchema : UInt32 := 1
def kidLength : ℕ := 43

structure KeyRecord where
  schema : UInt32
  kid : Kid
  publicKey : String
  privateKey : String
  createdAt : Timestamp
  deriving DecidableEq, Repr

structure ActivePointer where
  schema : UInt32
  activeKid : Kid
  deriving DecidableEq, Repr

structure LoadedControllerKey where
  kid : Kid
  signingKey : Bytes
  deriving DecidableEq, Repr

structure ValidatedKeyRecord where
  loaded : LoadedControllerKey
  publicKey : String
  createdAt : Timestamp
  deriving DecidableEq, Repr

structure ControllerKeySummary where
  kid : Kid
  publicKey : String
  createdAt : Timestamp
  active : Bool
  deriving DecidableEq, Repr

def ValidatedKeyRecord.intoSummary (record : ValidatedKeyRecord) (active : Bool) :
    ControllerKeySummary :=
  ⟨record.loaded.kid, record.publicKey, record.createdAt, active⟩

def kidShaped (kid : Kid) : Bool :=
  kid.utf8ByteSize = kidLength && kid.toList.all fun c => c.isAlphanum || c = '-' || c = '_'

/-! ## Records and pointers -/

section validation

variable (platform : KeyPlatform) (deploymentId : DeploymentId)

def instanceDir : String := s!"{platform.root}/{deploymentId}"

def keyPath (kid : Kid) : String := s!"{instanceDir platform deploymentId}/keys/{kid}.json"

def activePath : String := s!"{instanceDir platform deploymentId}/active.json"

/-- `decode_slice` into 32 bytes that it has to fill. -/
def decodeKey (text : String) : Option Bytes :=
  (platform.decode text).filter fun bytes => bytes.length = 32

/-- The checks of `read_key_record` on the document that it has read. -/
def validateRecord (kid : Kid) (record : KeyRecord) : Except String ValidatedKeyRecord := do
  let path := keyPath platform deploymentId kid
  check (record.schema = controllerKeyStoreSchema)
    s!"STATE_RESET_REQUIRED: unsupported controller key record schema {record.schema} ({path})"
  check (record.kid = kid)
    (s!"STATE_RESET_REQUIRED: controller key record kid '{record.kid}' does not match its " ++
      s!"filename '{kid}'")
  match decodeKey platform record.privateKey with
  | none => .error (s!"STATE_RESET_REQUIRED: controller key record private material is not " ++
      s!"32 base64url bytes ({path})")
  | some seed =>
    match decodeKey platform record.publicKey with
    | none => .error (s!"STATE_RESET_REQUIRED: controller key record public material is not " ++
        s!"32 base64url bytes ({path})")
    | some publicKey =>
      check (platform.controllerKeyId (platform.verifyingKey seed) = record.kid)
        (s!"STATE_RESET_REQUIRED: stored private key derives kid " ++
          s!"'{platform.controllerKeyId (platform.verifyingKey seed)}' but the record claims " ++
          s!"'{record.kid}'; refusing to sign with mismatched material ({path})")
      check (platform.verifyingKey seed = publicKey)
        s!"STATE_RESET_REQUIRED: stored public key does not match the private key ({path})"
      pure ⟨⟨record.kid, seed⟩, record.publicKey, record.createdAt⟩

/-- The checks of `read_active_pointer` on the document that it has read. -/
def validatePointer : Option ActivePointer → Except String (Option ActivePointer)
  | none => .ok none
  | some pointer => do
    check (pointer.schema = controllerKeyStoreSchema)
      (s!"STATE_RESET_REQUIRED: unsupported active pointer schema {pointer.schema} " ++
        s!"({activePath platform deploymentId})")
    check (kidShaped pointer.activeKid)
      ("STATE_RESET_REQUIRED: active pointer names an invalid kid " ++
        s!"({activePath platform deploymentId})")
    pure (some pointer)

end validation

/-! ## File operations -/

/-- What the encoding and the key id are relied on for. -/
structure Encodable (platform : KeyPlatform) (seed : Bytes) : Prop where
  seedText : decodeKey platform (platform.encode seed) = some seed
  publicText : decodeKey platform (platform.encode (platform.verifyingKey seed)) =
    some (platform.verifyingKey seed)
  shaped : kidShaped (platform.controllerKeyId (platform.verifyingKey seed))

/-- A seed of 32 random bytes and the time it was drawn at. -/
structure Drawn (platform : KeyPlatform) where
  seed : Bytes
  createdAt : Timestamp
  encodable : Encodable platform seed

inductive Call where
  | ensureDirectory
  | ensureKeysDirectory
  | lock
  | draw
  | readPointer
  | readRecord (kid : Kid)
  | probeRecord (kid : Kid)
  | writeRecord (kid : Kid) (record : KeyRecord)
  | writePointer (pointer : ActivePointer)
  | removePointer
  | removeRecord (kid : Kid)
  deriving DecidableEq, Repr

abbrev Reply (platform : KeyPlatform) : Call → Type
  | .draw => Drawn platform
  | .readPointer => Option ActivePointer
  | .readRecord _ => KeyRecord
  | .probeRecord _ => Bool
  | _ => Unit

abbrev Flow (platform : KeyPlatform) := CallFlow.Flow Call (Reply platform) String

/-! ## Operations -/

inductive Answer where
  | done
  | key (loaded : LoadedControllerKey)
  | active (loaded : Option LoadedControllerKey)
  | summary (summary : ControllerKeySummary)
  deriving DecidableEq, Repr

section flows

open CallFlow.Flow (ofExcept require)

variable (platform : KeyPlatform) (deploymentId : DeploymentId)

def perform (c : Call) : Flow platform (Reply platform c) := CallFlow.Flow.perform c

/-- A file operation whose failure is reported in other words. -/
def reported (context : String) (c : Call) : Flow platform (Reply platform c) :=
  .call c fun reply => .done (reply.mapError fun _ => context)

def readKeyRecord (kid : Kid) : Flow platform ValidatedKeyRecord := do
  require (kidShaped kid = true)
    "kid must be unpadded base64url SHA-256 of the raw public key"
  let record ← reported platform ("STATE_RESET_REQUIRED: controller key record is corrupt, " ++
    s!"unsafe to read, or does not conform ({keyPath platform deploymentId kid})")
    (.readRecord kid)
  ofExcept (validateRecord platform deploymentId kid record)

def readActivePointer : Flow platform (Option ActivePointer) := do
  let pointer ← reported platform ("STATE_RESET_REQUIRED: active controller key pointer is " ++
    "unreadable, unsafe, or exceeds the size limit " ++
    s!"({activePath platform deploymentId})") .readPointer
  ofExcept (validatePointer platform deploymentId pointer)

def newRecord (drawn : Drawn platform) : KeyRecord where
  schema := controllerKeyStoreSchema
  kid := platform.controllerKeyId (platform.verifyingKey drawn.seed)
  publicKey := platform.encode (platform.verifyingKey drawn.seed)
  privateKey := platform.encode drawn.seed
  createdAt := drawn.createdAt

def generateCandidateLocked : Flow platform ValidatedKeyRecord := do
  let drawn ← perform platform .draw
  let record := newRecord platform drawn
  let present ← perform platform (.probeRecord record.kid)
  require (present = false)
    ("controller key record already exists; refusing to overwrite " ++
      s!"({keyPath platform deploymentId record.kid})")
  reported platform
    s!"failed to persist controller key {keyPath platform deploymentId record.kid}"
    (.writeRecord record.kid record)
  pure ⟨⟨record.kid, drawn.seed⟩, record.publicKey, record.createdAt⟩

def writeActivePointer (kid : Kid) : Flow platform Unit :=
  reported platform "failed to persist active controller key pointer"
    (.writePointer ⟨controllerKeyStoreSchema, kid⟩)

def validateInstanceIdentifier : Flow platform Unit :=
  require (isDeploymentScope deploymentId = true)
    ("deployment identifier must be 1-128 characters from [A-Za-z0-9.:_+-] without " ++
      "path separators")

def generateCandidate : Flow platform Answer := do
  validateInstanceIdentifier platform deploymentId
  perform platform .ensureDirectory
  perform platform .ensureKeysDirectory
  perform platform .lock
  let record ← generateCandidateLocked platform deploymentId
  pure (.summary (record.intoSummary false))

def setActiveKid (kid : Kid) : Flow platform Answer := do
  validateInstanceIdentifier platform deploymentId
  perform platform .lock
  let key ← readKeyRecord platform deploymentId kid
  writeActivePointer platform key.loaded.kid
  pure .done

def loadPointed : Option ActivePointer → Flow platform Answer
  | some pointer => do
    let key ← readKeyRecord platform deploymentId pointer.activeKid
    pure (.active (some key.loaded))
  | none => pure (.active none)

def loadActive : Flow platform Answer := do
  validateInstanceIdentifier platform deploymentId
  perform platform .lock
  let pointer ← readActivePointer platform deploymentId
  loadPointed platform deploymentId pointer

def createPointed : Option ActivePointer → Flow platform Answer
  | some pointer => do
    let key ← readKeyRecord platform deploymentId pointer.activeKid
    pure (.key key.loaded)
  | none => do
    perform platform .ensureDirectory
    perform platform .ensureKeysDirectory
    let candidate ← generateCandidateLocked platform deploymentId
    writeActivePointer platform candidate.loaded.kid
    pure (.key candidate.loaded)

def getOrCreateActive : Flow platform Answer := do
  validateInstanceIdentifier platform deploymentId
  perform platform .lock
  let pointer ← readActivePointer platform deploymentId
  createPointed platform deploymentId pointer

def clearActive : Flow platform Answer := do
  validateInstanceIdentifier platform deploymentId
  perform platform .lock
  reported platform s!"failed to clear {activePath platform deploymentId}" .removePointer
  pure .done

def retireKid (kid : Kid) : Flow platform Answer := do
  validateInstanceIdentifier platform deploymentId
  perform platform .lock
  let pointer ← readActivePointer platform deploymentId
  require (∀ active ∈ pointer, active.activeKid ≠ kid)
    (s!"refusing to retire controller key '{kid}' while it is still the active identity; " ++
      "switch the active pointer first")
  let _ ← readKeyRecord platform deploymentId kid
  reported platform s!"failed to retire controller key {keyPath platform deploymentId kid}"
    (.removeRecord kid)
  pure .done

inductive Command where
  | generateCandidate
  | setActiveKid (kid : Kid)
  | loadActive
  | getOrCreateActive
  | clearActive
  | retireKid (kid : Kid)
  deriving DecidableEq, Repr

def Command.flow : Command → Flow platform Answer
  | .generateCandidate => KeyStoreFlows.generateCandidate platform deploymentId
  | .setActiveKid kid => KeyStoreFlows.setActiveKid platform deploymentId kid
  | .loadActive => KeyStoreFlows.loadActive platform deploymentId
  | .getOrCreateActive => KeyStoreFlows.getOrCreateActive platform deploymentId
  | .clearActive => KeyStoreFlows.clearActive platform deploymentId
  | .retireKid kid => KeyStoreFlows.retireKid platform deploymentId kid

end flows

end NazoAuthCtl.KeyStoreFlows
