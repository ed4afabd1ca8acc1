import NazoAuthCtl.CallFlow

/-!
# One instance's controller identity

A control machine keeps, for one instance, a set of key records with a pointer to the active
one, the binding fields of the registry record, and a file for each unfinished enrollment.
The server keeps the slots. What it decides about a submission is not under this
repository: here it takes any submission or refuses it, at once or after the client gave up.
-/

set_option autoImplicit false
set_option linter.all false

namespace NazoAuthCtl.ControllerStore
open CallFlow

abbrev Kid := String
abbrev ControllerId := String
abbrev DeploymentId := String

/-! ## What the server shows -/

inductive SlotStatus where
  | active
  | revoked
  deriving DecidableEq, Repr

structure ControllerSlotView where
  deploymentId : DeploymentId
  controllerId : ControllerId
  label : String
  kid : Kid
  slotIndex : ℕ
  status : SlotStatus
  deriving DecidableEq, Repr

structure SlotsSnapshot where
  deploymentId : DeploymentId
  maxActiveSlots : ℕ
  items : List ControllerSlotView
  deriving DecidableEq, Repr

def SlotsSnapshot.activeSlots (snapshot : SlotsSnapshot) : List ControllerSlotView :=
  snapshot.items.filter (·.status = .active)

/-- Which failures are an answer of the server and which leave its decision open. -/
inductive AdminApiError where
  | slotLimit
  | rejected (status : ℕ) (error description : String)
  | malformedResponse (error : String)
  | outcomeUnknown (status : ℕ)
  | transport (error : String)
  deriving DecidableEq, Repr

/-- The failures after which a recovery keeps its submission. -/
def AdminApiError.unanswered : AdminApiError → Bool
  | .transport _ | .malformedResponse _ | .outcomeUnknown _ => true
  | .slotLimit | .rejected .. => false

inductive Failure where
  | text (message : String)
  | api (error : AdminApiError)
  deriving DecidableEq, Repr

/-! ## What the client sends -/

structure ProposalPresentation where
  action : String
  deploymentId : DeploymentId
  issuer : String
  label : String
  controllerId : Option ControllerId
  kid : Kid
  publicKey : String
  recoveryKid : Option String
  recoveryPublicKey : Option String
  deriving DecidableEq, Repr

structure SlotCommitBody where
  approvalToken : String
  action : String
  deploymentId : DeploymentId
  label : String
  publicKey : String
  kid : Kid
  recoveryPublicKey : Option String
  recoveryKid : Option String
  deriving DecidableEq, Repr

structure RotateCommitBody where
  approvalToken : String
  deploymentId : DeploymentId
  controllerId : ControllerId
  label : String
  publicKey : String
  kid : Kid
  deriving DecidableEq, Repr

structure RevokeCommitBody where
  approvalToken : String
  deploymentId : DeploymentId
  controllerId : ControllerId
  deriving DecidableEq, Repr

structure RecoveryChallengeBody where
  deploymentId : DeploymentId
  label : String
  controllerPublicKey : String
  kid : Kid
  recoveryPublicKey : String
  recoveryKid : String
  allocationNonce : String
  allocationSignature : String
  deriving DecidableEq, Repr

structure IssuedRecoveryChallenge where
  challengeId : String
  nonce : String
  deriving DecidableEq, Repr

structure RecoveryAnswerBody where
  deploymentId : DeploymentId
  challengeId : String
  nonce : String
  signature : String
  deriving DecidableEq, Repr

structure RecoveryCommitView where
  slot : ControllerSlotView
  recoveryGeneration : ℕ
  deriving DecidableEq, Repr

/-! ## What the control machine keeps -/

structure KeyRecord where
  kid : Kid
  publicKey : String
  deriving DecidableEq, Repr

structure ControllerKeySummary where
  kid : Kid
  publicKey : String
  active : Bool
  deriving DecidableEq, Repr

structure PendingAdd where
  deploymentId : DeploymentId
  kid : Kid
  label : String
  deriving DecidableEq, Repr

structure PendingBindRecovery where
  schema : ℕ
  deploymentId : DeploymentId
  controllerKid : Kid
  label : String
  recoverySecret : String
  deriving DecidableEq, Repr

structure PendingRecovery where
  schema : ℕ
  deploymentId : DeploymentId
  candidateKid : Kid
  answer : RecoveryAnswerBody
  deriving DecidableEq, Repr

structure InstanceRecord where
  instanceAlias : String
  issuer : String
  deploymentId : DeploymentId
  controllerId : Option ControllerId
  controllerKeyRef : Option String
  deriving DecidableEq, Repr

/-- Key records stand in the order in which they were created. -/
structure Store where
  keys : List KeyRecord
  active : Option Kid
  pendingAdd : Option PendingAdd
  pendingBind : Option PendingBindRecovery
  pendingRecovery : Option PendingRecovery
  deriving DecidableEq, Repr

namespace Store

def Stored (store : Store) (kid : Kid) : Prop := ∃ record ∈ store.keys, record.kid = kid

instance (store : Store) (kid : Kid) : Decidable (store.Stored kid) :=
  inferInstanceAs (Decidable (∃ record ∈ store.keys, record.kid = kid))

/-- The active pointer names a record that is there. -/
def Loadable (store : Store) : Prop := ∀ kid, store.active = some kid → store.Stored kid

def readKeyRecord (store : Store) (kid : Kid) : Except Failure KeyRecord :=
  match store.keys.find? (·.kid = kid) with
  | some record => .ok record
  | none => .error (.text ("STATE_RESET_REQUIRED: controller key record is corrupt, unsafe to " ++
      "read, or does not conform"))

def listKeys (store : Store) : Except Failure (List ControllerKeySummary) :=
  let summaries := store.keys.map fun record =>
    ⟨record.kid, record.publicKey, store.active = some record.kid⟩
  if store.active.isSome ∧ ¬ summaries.any (·.active) then
    .error (.text "STATE_RESET_REQUIRED: active controller key record is missing")
  else .ok summaries

def loadActive (store : Store) : Except Failure (Option Kid) :=
  match store.active with
  | some kid => (store.readKeyRecord kid).map fun record => some record.kid
  | none => .ok none

def publicKey (store : Store) (kid : Kid) : Except Failure String :=
  (store.readKeyRecord kid).map (·.publicKey)

def generateCandidate (store : Store) (minted : KeyRecord) :
    Except Failure ControllerKeySummary × Store :=
  if store.Stored minted.kid then
    (.error (.text "controller key record already exists; refusing to overwrite"), store)
  else (.ok ⟨minted.kid, minted.publicKey, false⟩, { store with keys := store.keys ++ [minted] })

def setActiveKid (store : Store) (kid : Kid) : Except Failure Unit × Store :=
  match store.readKeyRecord kid with
  | .ok record => (.ok (), { store with active := some record.kid })
  | .error e => (.error e, store)

def clearActive (store : Store) : Store := { store with active := none }

def discard (store : Store) (kid : Kid) : Store :=
  { store with keys := store.keys.filter (·.kid ≠ kid) }

def discardAll (store : Store) (kids : List Kid) : Store :=
  { store with keys := store.keys.filter (·.kid ∉ kids) }

def retireKid (store : Store) (kid : Kid) : Except Failure Unit × Store :=
  if store.active = some kid then
    (.error (.text (s!"refusing to retire controller key '{kid}' while it is still the active " ++
      "identity; switch the active pointer first")), store)
  else
    match store.readKeyRecord kid with
    | .ok _ => (.ok (), store.discard kid)
    | .error e => (.error e, store)

theorem readKeyRecord_stored {store : Store} {kid : Kid} (stored : store.Stored kid) :
    ∃ record ∈ store.keys, record.kid = kid ∧ store.readKeyRecord kid = .ok record := by
  unfold Store.readKeyRecord
  cases found : store.keys.find? (·.kid = kid) with
  | none =>
    obtain ⟨record, member, same⟩ := stored
    have other := List.find?_eq_none.mp found record member
    simp [same] at other
  | some record =>
    have same := List.find?_some found
    exact ⟨record, List.mem_of_find?_eq_some found, by simpa using same, rfl⟩

theorem readKeyRecord_missing {store : Store} {kid : Kid} (missing : ¬ store.Stored kid) :
    ∃ e, store.readKeyRecord kid = .error e := by
  unfold Store.readKeyRecord
  cases found : store.keys.find? (·.kid = kid) with
  | none => exact ⟨_, rfl⟩
  | some record =>
    have same := List.find?_some found
    exact absurd ⟨record, List.mem_of_find?_eq_some found, by simpa using same⟩ missing

theorem listKeys_ok {store : Store} {summaries : List ControllerKeySummary}
    (listed : store.listKeys = .ok summaries) :
    summaries.map (·.kid) = store.keys.map (·.kid) := by
  simp only [Store.listKeys] at listed
  split at listed
  · cases listed
  · cases listed
    rw [List.map_map]
    rfl

theorem listKeys_loadable {store : Store} (loadable : store.Loadable) :
    ∃ summaries, store.listKeys = .ok summaries := by
  simp only [Store.listKeys]
  split
  · rename_i missing
    obtain ⟨some_active, none_active⟩ := missing
    obtain ⟨kid, active⟩ := Option.isSome_iff_exists.mp some_active
    obtain ⟨record, member, same⟩ := loadable kid active
    refine absurd (List.any_eq_true.mpr ⟨_, List.mem_map_of_mem member, ?_⟩) none_active
    simp [active, same]
  · exact ⟨_, rfl⟩

theorem loadActive_loadable {store : Store} (loadable : store.Loadable) :
    store.loadActive = .ok store.active := by
  unfold Store.loadActive
  cases active : store.active with
  | none => rfl
  | some kid =>
    obtain ⟨record, -, same, read⟩ := readKeyRecord_stored (loadable kid active)
    simp only [read, Except.map, same]

theorem loadable_of_loadActive {store : Store} {active : Option Kid}
    (loaded : store.loadActive = .ok active) : store.Loadable := by
  intro kid named
  by_contra missing
  obtain ⟨e, read⟩ := readKeyRecord_missing missing
  simp [Store.loadActive, named, read, Except.map] at loaded

theorem setActiveKid_stored {store : Store} {kid : Kid} (stored : store.Stored kid) :
    store.setActiveKid kid = (.ok (), { store with active := some kid }) := by
  obtain ⟨record, -, same, read⟩ := readKeyRecord_stored stored
  simp only [Store.setActiveKid, read, same]

theorem discardAll_nil (store : Store) : store.discardAll [] = store := by
  have all : store.keys.filter (·.kid ∉ ([] : List Kid)) = store.keys := by simp
  rw [discardAll, all]

theorem discardAll_cons (store : Store) (kid : Kid) (kids : List Kid) :
    (store.discard kid).discardAll kids = store.discardAll (kid :: kids) := by
  unfold discardAll discard
  rw [List.filter_filter]
  congr 1
  apply List.filter_congr
  intro record _
  by_cases same : record.kid = kid
  · simp [same]
  · simp [same]

theorem discardAll_missing {store : Store} {kid : Kid} (missing : ¬ store.Stored kid)
    (kids : List Kid) : store.discardAll (kid :: kids) = store.discardAll kids := by
  unfold discardAll
  congr 1
  apply List.filter_congr
  intro record member
  have other : record.kid ≠ kid := fun same => missing ⟨record, member, same⟩
  simp [other]

theorem stored_discardAll {store : Store} {kids : List Kid} {kid : Kid} :
    (store.discardAll kids).Stored kid ↔ store.Stored kid ∧ kid ∉ kids := by
  constructor
  · rintro ⟨record, member, rfl⟩
    obtain ⟨member, kept⟩ := List.mem_filter.mp member
    exact ⟨⟨record, member, rfl⟩, of_decide_eq_true kept⟩
  · rintro ⟨⟨record, member, rfl⟩, kept⟩
    exact ⟨record, List.mem_filter.mpr ⟨member, decide_eq_true kept⟩, rfl⟩

end Store

/-! ## What the server keeps -/

/-- How the server has decided about a challenge. A rejection is final, and an accepted answer
is answered again with the receipt of what it did. -/
inductive ChallengeState where
  | issued
  | accepted (receipt : RecoveryCommitView)
  | rejected
  deriving DecidableEq, Repr

structure Challenge where
  issued : IssuedRecoveryChallenge
  proposal : RecoveryChallengeBody
  state : ChallengeState
  deriving DecidableEq, Repr

structure Server where
  deploymentId : DeploymentId
  maxActiveSlots : ℕ
  slots : List ControllerSlotView
  recoveryRoot : Option String
  challenges : List Challenge
  deriving DecidableEq, Repr

/-- What the server chooses itself when it takes a submission. -/
structure Assigned where
  controllerId : ControllerId
  slotIndex : ℕ
  recoveryGeneration : ℕ
  deriving DecidableEq, Repr

inductive Submission where
  | commit (body : SlotCommitBody)
  | rotate (body : RotateCommitBody)
  | revoke (body : RevokeCommitBody)
  | recover (body : RecoveryAnswerBody)
  deriving DecidableEq, Repr

namespace Server

def snapshot (server : Server) : SlotsSnapshot :=
  ⟨server.deploymentId, server.maxActiveSlots, server.slots⟩

def committed (assigned : Assigned) (body : SlotCommitBody) : ControllerSlotView :=
  ⟨body.deploymentId, assigned.controllerId, body.label, body.kid, assigned.slotIndex, .active⟩

/-- A first binding enrolls its recovery root in the same transaction. -/
def commitSlot (server : Server) (assigned : Assigned) (body : SlotCommitBody) : Server :=
  { server with
    slots := server.slots ++ [committed assigned body]
    recoveryRoot := body.recoveryPublicKey.or server.recoveryRoot }

def rotated (body : RotateCommitBody) (slot : ControllerSlotView) : ControllerSlotView :=
  if slot.controllerId = body.controllerId then
    { slot with label := body.label, kid := body.kid }
  else slot

/-- The slot of the controller carries the new key and no longer the old one. -/
def rotateSlot (server : Server) (body : RotateCommitBody) :
    Option (ControllerSlotView × Server) :=
  (server.slots.find? (·.controllerId = body.controllerId)).map fun slot =>
    (rotated body slot, { server with slots := server.slots.map (rotated body) })

def revoked (controllerId : ControllerId) (slot : ControllerSlotView) : ControllerSlotView :=
  if slot.controllerId = controllerId then { slot with status := .revoked } else slot

def revokeSlot (server : Server) (body : RevokeCommitBody) :
    Option (ControllerSlotView × Server) :=
  (server.slots.find? (·.controllerId = body.controllerId)).map fun slot =>
    (revoked body.controllerId slot,
      { server with slots := server.slots.map (revoked body.controllerId) })

def challenge (server : Server) (challengeId : String) : Option Challenge :=
  server.challenges.find? (·.issued.challengeId = challengeId)

def issueChallenge (server : Server) (issued : IssuedRecoveryChallenge)
    (body : RecoveryChallengeBody) : Server :=
  { server with challenges := ⟨issued, body, .issued⟩ :: server.challenges }

def decideChallenge (server : Server) (challengeId : String) (state : ChallengeState) : Server :=
  { server with challenges := server.challenges.map fun challenge =>
      if challenge.issued.challengeId = challengeId then { challenge with state } else challenge }

def recovered (assigned : Assigned) (proposal : RecoveryChallengeBody) : ControllerSlotView :=
  ⟨proposal.deploymentId, assigned.controllerId, proposal.label, proposal.kid, assigned.slotIndex,
    .active⟩

/-- Every slot is revoked and exactly one recovered slot is installed. -/
def recover (server : Server) (assigned : Assigned) (challenge : Challenge) : Server :=
  let slot := recovered assigned challenge.proposal
  { server.decideChallenge challenge.issued.challengeId
      (.accepted ⟨slot, assigned.recoveryGeneration⟩) with
    slots := server.slots.map (fun slot => { slot with status := .revoked }) ++ [slot]
    recoveryRoot := some challenge.proposal.recoveryPublicKey }

/-- What a submission makes of the server when it is taken. -/
def take (server : Server) (assigned : Assigned) : Submission → Server
  | .commit body => server.commitSlot assigned body
  | .rotate body => ((server.rotateSlot body).map (·.2)).getD server
  | .revoke body => ((server.revokeSlot body).map (·.2)).getD server
  | .recover body =>
    match server.challenge body.challengeId with
    | some challenge => if challenge.state = .issued then server.recover assigned challenge else server
    | none => server

end Server

end NazoAuthCtl.ControllerStore
