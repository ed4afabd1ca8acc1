import NazoAuthCtl.ControllerWorld

/-!
# The identity flows

Bind, rotate, add, revoke, the slots view and break-glass recovery, each as the calls it
makes. A flow starts with the registry record that its caller resolved before.
-/

set_option autoImplicit false
set_option linter.all false

namespace NazoAuthCtl.ControllerFlows
open CallFlow.Flow (fail ofExcept require onlyIf)
open ControllerStore ControllerWorld

def refuse (message : String) : Failure := .text message

structure RecoveryProposal where
  deploymentId : DeploymentId
  controllerLabel : String
  controllerKid : Kid
  controllerPublicKey : String
  recoveryKid : String
  recoveryPublicKey : String
  deriving DecidableEq, Repr

/-- The part of the operator protocol that derives and signs with a recovery secret. -/
structure RecoveryProtocol where
  parseRecoverySecret : String → Except String String
  formatRecoverySecret : String → String
  recoveryPublicKey : DeploymentId → String → String
  recoveryKid : String → String
  validateProposal : RecoveryProposal → Except String Unit
  signAllocation : RecoveryProposal → String → String → String
  signChallenge : RecoveryProposal → IssuedRecoveryChallenge → String → String

structure RecoveryMaterial where
  display : String
  publicKey : String
  kid : String
  deriving DecidableEq, Repr

variable (protocol : RecoveryProtocol)

/-! ## Shared helpers -/

def controllerKeyRefFor (deploymentId : DeploymentId) : String :=
  s!"controller-keys/{deploymentId}"

def shortKid (kid : Kid) : String := String.ofList (kid.toList.take 12)

def isControl (c : Char) : Bool := c.toNat < 32 || (127 ≤ c.toNat && c.toNat ≤ 159)

def validateLabel (label : String) : Except Failure Unit :=
  if label = "" ∨ 128 < label.utf8ByteSize then
    .error (refuse "--label must be 1-128 characters")
  else if label.toList.any isControl then
    .error (refuse "--label must not contain control characters")
  else .ok ()

def requireBound (record : InstanceRecord) : Except Failure ControllerId :=
  match record.controllerId with
  | some controllerId => .ok controllerId
  | none => .error (refuse (s!"instance '{record.instanceAlias}' has no bound controller identity; " ++
      "run `nazoauthctl bind` first"))

def persistBindingFields (deploymentId : DeploymentId) (controllerId : Option ControllerId) :
    Flow Unit :=
  perform (.updateControllerBinding controllerId (some (controllerKeyRefFor deploymentId)))

def verifyCommittedSlot (slot : ControllerSlotView) (deploymentId : DeploymentId) (kid : Kid)
    (action : String) : Except Failure Unit :=
  if slot.deploymentId ≠ deploymentId ∨ slot.kid ≠ kid ∨ slot.status ≠ .active then
    .error (refuse (s!"{action} commit returned an unexpected slot ({slot.deploymentId} / " ++
      s!"{shortKid slot.kid}); refusing to activate locally"))
  else .ok ()

def SlotsSnapshot.lists (snapshot : SlotsSnapshot) (kid : Kid) : Prop :=
  ∃ slot ∈ snapshot.items, slot.kid = kid

instance (snapshot : SlotsSnapshot) (kid : Kid) : Decidable (SlotsSnapshot.lists snapshot kid) :=
  inferInstanceAs (Decidable (∃ slot ∈ snapshot.items, slot.kid = kid))

/-- The newest local key that is neither active nor known to the server. -/
def selectPendingCandidate (summaries : List ControllerKeySummary) (snapshot : SlotsSnapshot) :
    Option ControllerKeySummary :=
  (summaries.reverse.filter (¬ ·.active)).find? (¬ SlotsSnapshot.lists snapshot ·.kid)

def candidateKey (snapshot : SlotsSnapshot) : Flow KeyRecord := do
  let summaries ← perform .listKeys
  match selectPendingCandidate summaries snapshot with
  | some summary => pure ⟨summary.kid, summary.publicKey⟩
  | none => do
    let summary ← perform .generateCandidate
    pure ⟨summary.kid, summary.publicKey⟩

/-- Fields first, then the pointer. -/
def finishActivation (record : InstanceRecord) (kid : Kid) (slot : ControllerSlotView) :
    Flow String := do
  persistBindingFields record.deploymentId (some slot.controllerId)
  perform (.setActiveKid kid)
  pure (s!"controller identity committed for '{record.instanceAlias}' (deployment " ++
    s!"{record.deploymentId})\n  controller {slot.controllerId} kid {shortKid kid} slot " ++
    s!"{slot.slotIndex}\n")

/-! ## Reconciliation -/

/-- The active slots that a local key stands for and that the record does not rule out. -/
def ownSlots (record : InstanceRecord) (localKids : List Kid) (snapshot : SlotsSnapshot) :
    List ControllerSlotView :=
  snapshot.activeSlots.filter fun slot =>
    slot.kid ∈ localKids ∧ ∀ id ∈ record.controllerId, id = slot.controllerId

/-- Without a recorded controller, only an unambiguous candidate is recovered. -/
def ownSlot (record : InstanceRecord) (localKids : List Kid) (snapshot : SlotsSnapshot) :
    Option ControllerSlotView :=
  match ownSlots record localKids snapshot with
  | [] => none
  | slot :: more => if record.controllerId.isSome ∨ more = [] then some slot else none

def unlistedKids (localKids : List Kid) (snapshot : SlotsSnapshot) : List Kid :=
  localKids.filter (¬ SlotsSnapshot.lists snapshot ·)

/-- A key that cannot be retired is only warned about. -/
def retireAll : List Kid → Flow (List Kid)
  | [] => pure []
  | kid :: kids => do
    let outcome ← attempt (.retireKid kid)
    let retired ← retireAll kids
    pure (if outcome.isOk then kid :: retired else retired)

def needsPointer (active : Option Kid) (slot : ControllerSlotView) : Prop :=
  active ≠ some slot.kid

def needsFields (record : InstanceRecord) (slot : ControllerSlotView) : Prop :=
  record.controllerId ≠ some slot.controllerId ∨ record.controllerKeyRef = none

instance (active : Option Kid) (slot : ControllerSlotView) : Decidable (needsPointer active slot) :=
  inferInstanceAs (Decidable (active ≠ some slot.kid))

instance (record : InstanceRecord) (slot : ControllerSlotView) :
    Decidable (needsFields record slot) :=
  inferInstanceAs (Decidable (_ ∨ _))

def adoptSlot (record : InstanceRecord) (localKids : List Kid) (previous : Option Kid)
    (snapshot : SlotsSnapshot) (slot : ControllerSlotView) : Flow (Option String) := do
  onlyIf (needsFields record slot)
    (persistBindingFields record.deploymentId (some slot.controllerId))
  onlyIf (needsPointer previous slot) (perform (.setActiveKid slot.kid))
  let retired ← retireAll (unlistedKids localKids snapshot)
  if ¬ needsPointer previous slot ∧ ¬ needsFields record slot then pure none
  else pure (some (s!"recovered controller binding for '{record.instanceAlias}' from the " ++
    s!"authoritative server list\n  controller {slot.controllerId} kid {shortKid slot.kid} " ++
    "activated locally\n" ++
    if retired = [] then "" else
      "  superseded local keys retired: " ++ String.intercalate ", " retired ++ "\n"))

def dropBinding (record : InstanceRecord) (snapshot : SlotsSnapshot) : Flow (Option String) :=
  match record.controllerId with
  | none => pure none
  | some controllerId =>
    if ∃ slot ∈ snapshot.items, slot.controllerId = controllerId ∧ slot.status = .active then
      pure none
    else do
      persistBindingFields record.deploymentId none
      perform .clearActive
      pure (some (s!"controller identity {controllerId} of '{record.instanceAlias}' is no longer " ++
        "active at the server; the local binding was cleared. Enroll again with " ++
        "`nazoauthctl bind` once the cause is resolved\n"))

def reconcileFromSnapshot (record : InstanceRecord) (snapshot : SlotsSnapshot) :
    Flow (Option String) := do
  let summaries ← perform .listKeys
  let previous ← perform .loadActive
  match ownSlot record (summaries.map (·.kid)) snapshot with
  | some slot => adoptSlot record (summaries.map (·.kid)) previous snapshot slot
  | none => dropBinding record snapshot

/-! ## Bind -/

def material (deploymentId : DeploymentId) (display secret : String) : RecoveryMaterial :=
  let publicKey := protocol.recoveryPublicKey deploymentId secret
  ⟨display, publicKey, protocol.recoveryKid publicKey⟩

def materialFromDisplay (deploymentId : DeploymentId) (display : String) :
    Except Failure RecoveryMaterial :=
  match protocol.parseRecoverySecret display with
  | .ok secret => .ok (material protocol deploymentId display secret)
  | .error e => .error (refuse (s!"{e}: pending bind recovery secret is invalid"))

def generateMaterial (deploymentId : DeploymentId) : Flow RecoveryMaterial := do
  let secret ← perform .randomSecret
  pure (material protocol deploymentId (protocol.formatRecoverySecret secret) secret)

def BindFits (pending : PendingBindRecovery) (deploymentId : DeploymentId) : Prop :=
  pending.schema = 1 ∧ pending.deploymentId = deploymentId ∧ pending.controllerKid ≠ "" ∧
    pending.label ≠ ""

instance (pending : PendingBindRecovery) (deploymentId : DeploymentId) :
    Decidable (BindFits pending deploymentId) :=
  inferInstanceAs (Decidable (_ ∧ _ ∧ _ ∧ _))

def loadPendingBindRecovery (deploymentId : DeploymentId) :
    Flow (Option PendingBindRecovery) := do
  match ← perform .readPendingBind with
  | none => pure none
  | some pending => do
    require (BindFits pending deploymentId)
      (refuse (s!"pending first-bind recovery material does not match deployment " ++
        s!"'{deploymentId}'"))
    pure (some pending)

/-- The key of a pending proposal, or the one that a new proposal is about. -/
def bindKey (label : String) (snapshot : SlotsSnapshot) :
    Option PendingBindRecovery → Flow KeyRecord
  | some pending => do
    require (pending.label = label) (refuse (s!"a first-bind proposal for label " ++
      s!"'{pending.label}' is already pending; retry that exact label"))
    require (¬ SlotsSnapshot.lists snapshot pending.controllerKid)
      (refuse ("pending first-bind controller key is already present server-side but was not " ++
        "reconcilable"))
    let publicKey ← perform (.publicKey pending.controllerKid)
    pure ⟨pending.controllerKid, publicKey⟩
  | none => candidateKey snapshot

def bindMaterial (record : InstanceRecord) (label : String) (kid : Kid) :
    Option PendingBindRecovery → Flow RecoveryMaterial
  | some pending => ofExcept (materialFromDisplay protocol record.deploymentId
      pending.recoverySecret)
  | none => do
    let material ← generateMaterial protocol record.deploymentId
    perform (.writePendingBind ⟨1, record.deploymentId, kid, label, material.display⟩)
    pure material

def bindCommit (record : InstanceRecord) (label : String) (key : KeyRecord)
    (material : RecoveryMaterial) : Flow String := do
  let token ← perform (.approval ⟨"bind", record.deploymentId, record.issuer, label, none, key.kid,
    key.publicKey, some material.kid, some material.publicKey⟩)
  perform (.deliver material.display)
  let slot ← perform (.commitSlot ⟨token, "bind", record.deploymentId, label, key.publicKey,
    key.kid, some material.publicKey, some material.kid⟩)
  ofExcept (verifyCommittedSlot slot record.deploymentId key.kid "bind")
  let report ← finishActivation record key.kid slot
  perform .removePendingBind
  pure report

def bindPropose (record : InstanceRecord) (label : String) (snapshot : SlotsSnapshot) :
    Flow String := do
  require (snapshot.activeSlots = [] ∧ record.controllerId = none)
    (refuse (s!"instance '{record.instanceAlias}' already has an active controller identity; use " ++
      "`controller rotate` (same controller) or `controller add` (additional slot up to three)"))
  let pending ← loadPendingBindRecovery record.deploymentId
  let key ← bindKey label snapshot pending
  let material ← bindMaterial protocol record label key.kid pending
  bindCommit record label key material

def bindFlow (record : InstanceRecord) (label : String) : Flow String := do
  ofExcept (validateLabel label)
  perform (.acquire .bind)
  let snapshot ← perform .listSlots
  match ← reconcileFromSnapshot record snapshot with
  | some report => do
    perform .removePendingBind
    pure s!"bind complete via crash recovery.\n{report}"
  | none => bindPropose protocol record label snapshot

/-! ## Rotate -/

/-- The old key is whatever the pointer names when the commit has returned. -/
def rotateActivate (record : InstanceRecord) (kid : Kid) (slot : ControllerSlotView) :
    Flow String := do
  let previous ← perform .loadActive
  let report ← finishActivation record kid slot
  match previous with
  | none => pure report
  | some previous =>
    if previous = kid then pure report
    else do
      let _ ← attempt (.retireKid previous)
      pure report

def rotatePropose (record : InstanceRecord) (controllerId : ControllerId) (label : Option String)
    (snapshot : SlotsSnapshot) : Flow String := do
  let ours ← match snapshot.items.find? (·.controllerId = controllerId) with
    | some slot => pure slot
    | none => fail (refuse (s!"controller {controllerId} has no slot at '{record.issuer}'; use " ++
        "`controller revoke`/`add` instead"))
  ofExcept (label.elim (.ok ()) validateLabel)
  let key ← candidateKey snapshot
  let token ← perform (.approval ⟨"rotate", record.deploymentId, record.issuer,
    label.getD ours.label, some controllerId, key.kid, key.publicKey, none, none⟩)
  let slot ← perform (.rotateSlot ⟨token, record.deploymentId, controllerId,
    label.getD ours.label, key.publicKey, key.kid⟩)
  ofExcept (verifyCommittedSlot slot record.deploymentId key.kid "rotate")
  require (slot.controllerId = controllerId) (refuse (s!"rotate returned controller " ++
    s!"{slot.controllerId} instead of {controllerId}; refusing to activate locally"))
  rotateActivate record key.kid slot

def rotateFlow (record : InstanceRecord) (label : Option String) : Flow String := do
  let controllerId ← ofExcept (requireBound record)
  let snapshot ← perform .listSlots
  match ← reconcileFromSnapshot record snapshot with
  | some report => pure s!"rotation completed via crash recovery.\n{report}"
  | none => rotatePropose record controllerId label snapshot

/-! ## Add -/

def loadPendingAdd (deploymentId : DeploymentId) : Flow (Option PendingAdd) := do
  match ← perform .readPendingAdd with
  | none => pure none
  | some pending => do
    require (pending.deploymentId = deploymentId)
      (refuse "pending controller add belongs to another deployment")
    ofExcept (validateLabel pending.label)
    let _ ← perform (.publicKey pending.kid)
    pure (some pending)

/-- The committed slot of a pending proposal is adopted before anything else. -/
def addAdopt (record : InstanceRecord) (pending : PendingAdd) (slot : ControllerSlotView) :
    Flow String := do
  ofExcept (verifyCommittedSlot slot record.deploymentId pending.kid "add")
  let report ← finishActivation record pending.kid slot
  perform .removePendingAdd
  pure report

def addKey (snapshot : SlotsSnapshot) : Option PendingAdd → Flow KeyRecord
  | some pending => do
    let publicKey ← perform (.publicKey pending.kid)
    pure ⟨pending.kid, publicKey⟩
  | none => candidateKey snapshot

def addCommit (record : InstanceRecord) (label : String) (key : KeyRecord) : Flow String := do
  let token ← perform (.approval ⟨"add", record.deploymentId, record.issuer, label, none, key.kid,
    key.publicKey, none, none⟩)
  perform (.writePendingAdd ⟨record.deploymentId, key.kid, label⟩)
  let slot ← perform (.commitSlot ⟨token, "add", record.deploymentId, label, key.publicKey,
    key.kid, none, none⟩)
  ofExcept (verifyCommittedSlot slot record.deploymentId key.kid "add")
  let report ← finishActivation record key.kid slot
  perform .removePendingAdd
  pure (report ++ "note: the previous controller key remains enrolled and valid until its own " ++
    "expiry or explicit revocation\n")

def addPropose (record : InstanceRecord) (label : String) (snapshot : SlotsSnapshot)
    (pending : Option PendingAdd) : Flow String := do
  require (snapshot.activeSlots.length < snapshot.maxActiveSlots)
    (refuse (s!"CONTROLLER_SLOT_LIMIT: '{record.instanceAlias}' already has " ++
      s!"{snapshot.activeSlots.length} of {snapshot.maxActiveSlots} active controller slots; " ++
      "revoke one before adding:"))
  let key ← addKey snapshot pending
  addCommit record label key

def addReconcile (record : InstanceRecord) (label : String) (snapshot : SlotsSnapshot)
    (pending : Option PendingAdd) : Flow String := do
  match ← reconcileFromSnapshot record snapshot with
  | some report => pure s!"identity recovered before adding.\n{report}"
  | none => addPropose record label snapshot pending

def addResume (record : InstanceRecord) (label : String) (snapshot : SlotsSnapshot) :
    Option PendingAdd → Flow String
  | none => addReconcile record label snapshot none
  | some pending =>
    match snapshot.items.find? (·.kid = pending.kid) with
    | some slot => addAdopt record pending slot
    | none => do
      require (pending.label = label) (refuse (s!"resume the pending controller add with its " ++
        s!"original label '{pending.label}'"))
      addReconcile record label snapshot (some pending)

def addFlow (record : InstanceRecord) (label : String) : Flow String := do
  ofExcept (validateLabel label)
  let _ ← ofExcept (requireBound record)
  perform (.acquire .add)
  let snapshot ← perform .listSlots
  let pending ← loadPendingAdd record.deploymentId
  addResume record label snapshot pending

/-! ## Revoke and the slots view -/

def revokeCleanup (record : InstanceRecord) (controllerId : ControllerId)
    (revoked : ControllerSlotView) : Flow String :=
  if record.controllerId = some controllerId then do
    persistBindingFields record.deploymentId none
    perform .clearActive
    pure ("this machine's active pointer was cleared; remaining local key records stay on disk " ++
      "for diagnostics\n")
  else do
    let summaries ← perform .listKeys
    if summaries.any (·.kid = revoked.kid) then do
      perform (.retireKid revoked.kid)
      pure "matching stale local key record retired\n"
    else pure ""

def revokeFlow (record : InstanceRecord) (controllerId : ControllerId) : Flow String := do
  let snapshot ← perform .listSlots
  let target ← match snapshot.items.find? (·.controllerId = controllerId) with
    | some slot => pure slot
    | none => fail (refuse (s!"controller id '{controllerId}' has no slot for deployment " ++
        s!"'{record.deploymentId}'; revocation requires the exact id (`nazoauthctl controller " ++
        s!"list --instance {record.instanceAlias}` lists them)"))
  require (target.status ≠ .revoked) (refuse (s!"controller {controllerId} is already revoked " ++
    "at the server; nothing to do"))
  let token ← perform (.approval ⟨"revoke", record.deploymentId, record.issuer, target.label,
    some target.controllerId, target.kid, "", none, none⟩)
  let revoked ← perform (.revokeSlot ⟨token, record.deploymentId, target.controllerId⟩)
  require (revoked.status = .revoked) (refuse ("revoke returned non-terminal status; refusing " ++
    "local cleanup"))
  let cleanup ← revokeCleanup record controllerId revoked
  pure (s!"revoked controller {revoked.controllerId} (label '{revoked.label}', kid " ++
    s!"{shortKid revoked.kid}) at deployment {record.deploymentId}\n" ++ cleanup)

def slotsFlow (record : InstanceRecord) : Flow String := do
  let snapshot ← perform .listSlots
  let recovery ← reconcileFromSnapshot record snapshot
  pure (recovery.getD "" ++ s!"controller slots for '{record.instanceAlias}' (deployment " ++
    s!"{record.deploymentId}, issuer {record.issuer}): {snapshot.items.length} item(s), max " ++
    s!"{snapshot.maxActiveSlots}\n")

/-! ## Break-glass recovery -/

def RecoveryFits (pending : PendingRecovery) (deploymentId : DeploymentId) : Prop :=
  pending.schema = 1 ∧ pending.deploymentId = deploymentId ∧
    pending.answer.deploymentId = deploymentId ∧ pending.candidateKid ≠ ""

instance (pending : PendingRecovery) (deploymentId : DeploymentId) :
    Decidable (RecoveryFits pending deploymentId) :=
  inferInstanceAs (Decidable (_ ∧ _ ∧ _ ∧ _))

def loadPendingRecovery (deploymentId : DeploymentId) : Flow (Option PendingRecovery) := do
  match ← perform .readPendingRecovery with
  | none => pure none
  | some pending => do
    require (RecoveryFits pending deploymentId)
      (refuse s!"pending recovery submission does not match deployment '{deploymentId}'")
    pure (some pending)

/-- The pointer first, then the fields. -/
def finishRecovery (deploymentId : DeploymentId) (candidateKid : Kid)
    (commit : RecoveryCommitView) : Flow RecoveryCommitView := do
  require (commit.slot.deploymentId = deploymentId ∧ commit.slot.kid = candidateKid)
    (refuse "recovery result does not match the locally staged controller identity")
  perform (.setActiveKid candidateKid)
  persistBindingFields deploymentId (some commit.slot.controllerId)
  perform .removePendingRecovery
  pure commit

def rejectRecovery (pending : PendingRecovery) : Flow RecoveryCommitView := do
  let _ ← attempt (.retireKid pending.candidateKid)
  let _ ← attempt .removePendingRecovery
  fail (refuse "recovery was authoritatively rejected")

def submitPendingRecovery (pending : PendingRecovery) : Flow RecoveryCommitView := do
  match ← attempt (.submitRecoveryAnswer pending.answer) with
  | .ok commit => finishRecovery pending.deploymentId pending.candidateKid commit
  | .error (.api e) =>
    if e.unanswered then fail (.api e) else rejectRecovery pending
  | .error (.text message) => fail (.text message)

def recoverPropose (deploymentId : DeploymentId) (oldSecretText label : String) :
    Flow RecoveryCommitView := do
  let oldSecret ← match protocol.parseRecoverySecret oldSecretText with
    | .ok secret => pure secret
    | .error e => fail (refuse s!"{e}: the recovery secret did not parse")
  let replacement ← generateMaterial protocol deploymentId
  let candidate ← perform .generateCandidate
  let proposal : RecoveryProposal := ⟨deploymentId, label, candidate.kid, candidate.publicKey,
    replacement.kid, replacement.publicKey⟩
  match protocol.validateProposal proposal with
  | .error e => fail (refuse e)
  | .ok () => do
    let allocationNonce ← perform .randomNonce
    let challenge ← perform (.issueRecoveryChallenge ⟨deploymentId, label, candidate.publicKey,
      candidate.kid, replacement.publicKey, replacement.kid, allocationNonce,
      protocol.signAllocation proposal allocationNonce oldSecret⟩)
    perform (.deliver replacement.display)
    let pending : PendingRecovery := ⟨1, deploymentId, candidate.kid,
      ⟨deploymentId, challenge.challengeId, challenge.nonce,
        protocol.signChallenge proposal challenge oldSecret⟩⟩
    perform (.writePendingRecovery pending)
    submitPendingRecovery pending

def recoverControllerIdentity (deploymentId : DeploymentId) (oldSecretText label : String) :
    Flow RecoveryCommitView := do
  perform (.acquire .recovery)
  match ← loadPendingRecovery deploymentId with
  | some pending => submitPendingRecovery pending
  | none => recoverPropose protocol deploymentId oldSecretText label

end NazoAuthCtl.ControllerFlows
