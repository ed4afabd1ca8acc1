import NazoAuthCtl.ControlDispatch
import NazoAuthCtl.JournalDispatch
import NazoAuthCtl.UpdateReplay

/-!
# Delivery of a control operation on the target

The target hands the signed envelope to the one-shot operator of NazoAuth inside
the recorded artifact. Its failures carry the stable codes of the source. Two
code lists decide on them: the target's journal stores a failure as a terminal
line or keeps the entry pending, and the controller takes the replayed failure
for a definitive refusal or keeps its slot. The task's mounts and its
environment besides the database URLs are left out.
-/

set_option autoImplicit false
set_option linter.all false

namespace NazoAuthCtl.ControlDelivery

open TargetState JournalCompaction JournaledCalls ControlDispatch
open FaultProgram (Fault)
open TargetWorld (ArtifactReference Platform RuntimeObservation Tree)
open UpdateExec (databaseUrlsUsable)

/-! ## Text -/

/-- The Unicode property White_Space. -/
def isWhitespace (c : Char) : Bool :=
  (9 ≤ c.toNat && c.toNat ≤ 13) || (0x2000 ≤ c.toNat && c.toNat ≤ 0x200a)
    || [0x20, 0x85, 0xa0, 0x1680, 0x2028, 0x2029, 0x202f, 0x205f, 0x3000].contains c.toNat

def trim (line : List Char) : List Char :=
  ((line.dropWhile isWhitespace).reverse.dropWhile isWhitespace).reverse

/-- The lines of a text, trimmed. A line's own terminator is whitespace. -/
def trimmedLines (text : String) : List (List Char) :=
  (text.toList.splitOn '\n').map trim

/-- What follows the last `": "` of a line. -/
def rsplitOnce : List Char → Option (List Char)
  | [] => none
  | c :: rest =>
    match rsplitOnce rest, c, rest with
    | some suffix, _, _ => some suffix
    | none, ':', ' ' :: suffix => some suffix
    | none, _, _ => none

/-- `sanitize`: at most 200 characters and no control character. -/
def sanitize (value : String) : String :=
  let shown := (value.toList.take 200).map fun c =>
    if c.toNat < 0x20 ∨ (0x7f ≤ c.toNat ∧ c.toNat ≤ 0x9f) then '?' else c
  String.ofList (if 200 < value.length then shown ++ ['…'] else shown)

/-! ## The target host -/

/-- `state.json` as a reader finds it. -/
inductive StateFile where
  | missing
  | unreadable (error : String)
  | invalid (error : String)
  | document (state : DeploymentState)
  deriving DecidableEq, Repr

structure OneShotTask where
  artifact : ArtifactReference
  command : List String
  changeSet : Option Bytes
  stdin : String
  deriving DecidableEq, Repr

/-- The host as one delivery finds it. -/
structure ControlHost where
  platform : Platform
  stateFile : StateFile
  secrets : Option Tree
  /-- `ensure_engine_access` or `ensure_systemd_access`. -/
  privilege : Except String Unit
  /-- The inspection of the recorded runtime object. -/
  inspection : Except String RuntimeObservation
  /-- `stage_secret_file`. -/
  staging : Except String Unit
  /-- The standard output of the task, or the error it ended with. -/
  runOneShot : OneShotTask → Except String String
  /-- `decode_control_result`. -/
  decodeControlResult : String → Except String ControlResult

structure Delivery where
  operationId : OperationId
  deploymentId : DeploymentId
  compactJws : String
  changeSet : Option Bytes
  deriving DecidableEq, Repr

/-- A failure under the text of its stable code. -/
structure StableFailure where
  code : String
  detail : String
  deriving DecidableEq, Repr

/-- `state_failure`. -/
def stateFailure (failure : StableFailure) : HostOutcome Completion :=
  .failed failure.code failure.detail

section delivery

variable (host : ControlHost) (delivery : Delivery)

def loadExisting : Except StableFailure DeploymentState :=
  match host.stateFile with
  | .missing => .error ⟨"DEPLOYMENT_UNKNOWN",
      s!"no DeploymentState for '{delivery.deploymentId}'; register or discover the instance first"⟩
  | .unreadable error => .error ⟨"STATE_RESET_REQUIRED",
      s!"target DeploymentState is missing, unsafe to read, or oversized: {error}; preserve the " ++
        "deployment state and use a controller supporting its format"⟩
  | .invalid error => .error ⟨"STATE_RESET_REQUIRED",
      s!"target DeploymentState does not conform to the current schema: {error}; preserve the " ++
        "deployment state and use a controller supporting its format"⟩
  | .document state => .ok state

def operatorRejectionPrefix : List Char := "nazoauth-operator-rejection=".toList

/-- The marker of a line that reports a rejection class. -/
def rejectionClass (line : List Char) : Option String :=
  (((rsplitOnce line).getD line).dropPrefix? operatorRejectionPrefix).map
    fun rest => String.ofList rest

def operatorRejectionCode (detail : String) : Option String :=
  match (trimmedLines detail).findSome? rejectionClass with
  | some "authorization" => some "CONTROLLER_KEY_UNAUTHORIZED"
  | some "deployment" => some "TARGET_IDENTITY_MISMATCH"
  | some "revision" => some "CONFIG_REVISION_MISMATCH"
  | some "conflict" => some "OPERATION_ID_CONFLICT"
  | some "unavailable" => some "CONTROL_EXECUTION_UNAVAILABLE"
  | _ => none

def oneShotTask (observation : RuntimeObservation) : OneShotTask where
  artifact := observation.artifact
  command := ["nazoauth", "operator-task"]
  changeSet := delivery.changeSet
  stdin := s!"{delivery.compactJws}\n"

/-- The change set, if there is one, becomes a secret file. -/
def staged : Except String Unit :=
  if delivery.changeSet.isSome then host.staging else .ok ()

/-- `execute_fixed_one_shot` for a control operation. -/
def executeFixedOneShot (artifactReference : Digest) : Except StableFailure String :=
  match host.privilege with
  | .error detail => .error ⟨"PRIVILEGE_REQUIRED", sanitize detail⟩
  | .ok () =>
    match host.inspection with
    | .error detail => .error ⟨"CONTROL_TARGET_DRIFT", sanitize detail⟩
    | .ok observation =>
      match observation.digest with
      | none => .error ⟨"CONTROL_TARGET_DRIFT",
          "the running runtime object does not report a digest-bound artifact"⟩
      | some digest =>
        if digest ≠ artifactReference then .error ⟨"CONTROL_TARGET_DRIFT",
          s!"the runtime object serves {digest} while the deployment state records " ++
            s!"{artifactReference}"⟩
        else match staged host delivery with
          | .error detail => .error ⟨"CONTROL_EXECUTION_UNAVAILABLE", sanitize detail⟩
          | .ok () =>
            match host.runOneShot (oneShotTask delivery observation) with
            | .error detail => .error
                ⟨(operatorRejectionCode detail).getD "CONTROL_OUTCOME_UNKNOWN", sanitize detail⟩
            | .ok stdout => .ok stdout

/-- The non-empty lines of the operator's output. -/
def frames (stdout : String) : List (List Char) :=
  (trimmedLines stdout).filter (· ≠ [])

def decodeOperatorAnswer (stdout : String) : Except StableFailure ControlResult :=
  match frames stdout with
  | [] => .error ⟨"CONTROL_OUTCOME_UNKNOWN",
      "the local NazoAuth operator produced no ControlResult; the outcome is unknown and only a " ++
        "resumed resend of the same operation can resolve it"⟩
  | _ :: _ :: _ => .error ⟨"CONTROL_OUTCOME_UNKNOWN",
      "the local NazoAuth operator emitted more than one non-empty ControlResult frame; the " ++
        "outcome is unknown"⟩
  | [line] =>
    match host.decodeControlResult (String.ofList line) with
    | .error error => .error ⟨"CONTROL_OUTCOME_UNKNOWN",
        s!"the operator answer did not parse as a ControlResult ({sanitize error}); the outcome " ++
          "is unknown"⟩
    | .ok result =>
      if result.operationId ≠ delivery.operationId then .error ⟨"OPERATION_INVALID",
        s!"the operator answered operation '{result.operationId}' while " ++
          s!"'{delivery.operationId}' was presented"⟩
      else .ok result

/-- `HostControlOperator::execute`. -/
def executeControl (artifactReference : Digest) : Except StableFailure ControlResult := do
  if databaseUrlsUsable host.platform host.secrets then
    let stdout ← executeFixedOneShot host delivery artifactReference
    decodeOperatorAnswer host delivery stdout
  else .error ⟨"OPERATION_INVALID", "a database URL is missing or invalid"⟩

def executeBoundControlOperation (state : DeploymentState) :
    Except StableFailure ControlResult :=
  match state.artifact.current with
  | none => .error ⟨"CONTROL_TARGET_DRIFT",
      "the deployment records no current artifact reference"⟩
  | some current =>
    match state.directory "app-data" with
    | none => .error ⟨"OPERATION_INVALID",
        "deployment state has no app-data directory resource"⟩
    | some _ =>
      match state.directory "app-secrets" with
      | none => .error ⟨"OPERATION_INVALID",
          "deployment state has no app-secrets directory resource"⟩
      | some _ => executeControl host delivery current

def answerControlOperation : Except StableFailure ControlResult := do
  let state ← loadExisting host delivery
  executeBoundControlOperation host delivery state

/-- The answer as the journal takes it. -/
def deliveryOutcome : HostOutcome Completion :=
  match answerControlOperation host delivery with
  | .error failure => stateFailure failure
  | .ok result => .completed (.other (.controlOperationExecuted result))

end delivery

/-! ## The two code lists -/

section agreement

variable (protocol : OperatorProtocol)

/-- What the controller makes of an answer of the target. -/
def answerVerdict (prepared : PreparedOperation) (outcome : HostOutcome Completion) :
    Except String DispatchVerdict := do
  let receipt ←
    controlOperationReceipt protocol prepared.signed.operation.operationId outcome
  classifyReceipt protocol prepared receipt

/-- The answer is a verdict that empties the slot of the operation. -/
def Settles (prepared : PreparedOperation) (outcome : HostOutcome Completion) : Prop :=
  ∃ verdict, answerVerdict protocol prepared outcome = .ok verdict ∧
    ∀ persistTerminal entry, load protocol (some entry) = .ok (some entry) →
      entry.hasSameIdentity prepared.journalEntry = true →
        settleJournal protocol persistTerminal prepared verdict (some entry) = (.ok (), none)

/-- After the answer the slot is as full as it was before. -/
def KeepsSlot (prepared : PreparedOperation) (outcome : HostOutcome Completion) : Prop :=
  ∀ verdict, answerVerdict protocol prepared outcome = .ok verdict →
    ∀ persistTerminal slot,
      (settleJournal protocol persistTerminal prepared verdict slot).2 = none → slot = none

/-- Both sides take the failure for final, or both keep the operation. -/
structure Agreement (failure : StableFailure) : Prop where
  stored : ∀ prepared, keepsPending (stateFailure failure) = false →
    Settles protocol prepared (stateFailure failure)
  kept : ∀ prepared, ControlDispatch.validateEntry protocol prepared.journalEntry = .ok () →
    KeepsSlot protocol prepared (stateFailure failure) →
      keepsPending (stateFailure failure) = true

/-- The code is on one of the two lists. -/
def listed (code : String) : Prop :=
  keepsPending (.failed code "" : HostOutcome Completion) = true ∨ code ∈ definitiveRefusals

variable {protocol} {prepared : PreparedOperation} {failure : StableFailure}

theorem answerVerdict_refusal (definitive : failure.code ∈ definitiveRefusals) :
    answerVerdict protocol prepared (stateFailure failure) =
      .ok (.definitivelyRejected failure.code) := by
  have receipt : controlOperationReceipt protocol prepared.signed.operation.operationId
      (stateFailure failure) =
        .ok ⟨prepared.signed.operation.operationId, false, none, some failure.code⟩ :=
    if_pos definitive
  rw [answerVerdict, receipt]
  simp [bind, Except.bind, classifyReceipt]

theorem answerVerdict_failure (other : failure.code ∉ definitiveRefusals) :
    answerVerdict protocol prepared (stateFailure failure) =
      .error s!"{failure.code}: {failure.detail}" := by
  have receipt : controlOperationReceipt protocol prepared.signed.operation.operationId
      (stateFailure failure) = .error s!"{failure.code}: {failure.detail}" :=
    if_neg other
  rw [answerVerdict, receipt]
  rfl

theorem settles_of_definitive (definitive : failure.code ∈ definitiveRefusals)
    (other : failure.code ≠ "OPERATION_ID_CONFLICT") :
    Settles protocol prepared (stateFailure failure) := by
  refine ⟨_, answerVerdict_refusal definitive, fun persistTerminal entry loads same => ?_⟩
  have clears : clearIfMatches protocol prepared.journalEntry (some entry) = .ok none := by
    simp [clearIfMatches, observed, loads, bind, Except.bind, pure, Except.pure, same]
  have steps : settlement protocol prepared (.definitivelyRejected failure.code) = .ok [.clear] :=
    if_neg other
  simp only [settleJournal, steps, settleSteps, settleStep, clears]

theorem not_settles (other : failure.code ∉ definitiveRefusals) :
    ¬Settles protocol prepared (stateFailure failure) := by
  rintro ⟨verdict, answered, -⟩
  rw [answerVerdict_failure other] at answered
  cases answered

theorem not_keepsSlot (definitive : failure.code ∈ definitiveRefusals)
    (other : failure.code ≠ "OPERATION_ID_CONFLICT")
    (conforms : ControlDispatch.validateEntry protocol prepared.journalEntry = .ok ()) :
    ¬KeepsSlot protocol prepared (stateFailure failure) := by
  intro keeps
  have refused : Settles protocol prepared (stateFailure failure) :=
    settles_of_definitive definitive other
  obtain ⟨verdict, answered, settles⟩ := refused
  have emptied := settles (fun _ => .ok ()) prepared.journalEntry
    (by simp [load, conforms, bind, Except.bind, pure, Except.pure])
    (by simp [OperationJournalEntry.hasSameIdentity])
  exact absurd (keeps verdict answered (fun _ => .ok ()) (some prepared.journalEntry)
    (by rw [emptied])) (by simp)

/-- Both sides agree on a failure exactly if its code is on a list. -/
theorem agreement_iff (other : failure.code ≠ "OPERATION_ID_CONFLICT") :
    Agreement protocol failure ↔ listed failure.code := by
  constructor
  · intro agreement
    by_cases keeps : keepsPending (stateFailure failure) = true
    · exact .inl keeps
    · by_cases definitive : failure.code ∈ definitiveRefusals
      · exact .inr definitive
      · have settles := agreement.stored ⟨⟨⟨0, "", "", "", .keysList⟩, "", 0⟩, .fresh⟩
          (by simpa using keeps)
        exact absurd settles (not_settles definitive)
  · rintro (keeps | definitive)
    · have keeps : keepsPending (stateFailure failure) = true := keeps
      exact ⟨fun _ stored => by simp [keeps] at stored, fun _ _ _ => keeps⟩
    · exact ⟨fun _ _ => settles_of_definitive definitive other,
        fun _ conforms kept => absurd kept (not_keepsSlot definitive other conforms)⟩

end agreement

/-! ## The deliveries whose failures are on a list -/

section sound

variable (host : ControlHost) (delivery : Delivery)

/-- A single frame of the operator's output that decodes is about the delivered operation. -/
def Addressed (stdout : String) : Prop :=
  ∀ line, frames stdout = [line] →
    ∀ result, host.decodeControlResult (String.ofList line) = .ok result →
      result.operationId = delivery.operationId

/-- The runtime serves what is recorded, and its operator answers what it was asked. -/
def Serves (recorded : Digest) : Prop :=
  ∃ observation, host.inspection = .ok observation ∧ observation.digest = some recorded ∧
    (staged host delivery = .ok () →
      ∀ stdout, host.runOneShot (oneShotTask delivery observation) = .ok stdout →
        Addressed host delivery stdout)

/-- The host has what a delivery needs, or lacks a privilege only. -/
structure Equipped (state : DeploymentState) (recorded : Digest) : Prop where
  document : host.stateFile = .document state
  current : state.artifact.current = some recorded
  appData : (state.directory "app-data").isSome
  appSecrets : (state.directory "app-secrets").isSome
  databaseUrls : databaseUrlsUsable host.platform host.secrets = true
  runtime : host.privilege = .ok () → Serves host delivery recorded

def Sound : Prop := ∃ state recorded, Equipped host delivery state recorded

end sound

section listed

variable {host : ControlHost} {delivery : Delivery} {α : Type}

instance (code : String) : Decidable (listed code) :=
  inferInstanceAs (Decidable (_ ∨ _))

/-- Whatever fails here fails with a listed code. -/
def FailsListed (answer : Except StableFailure α) : Prop :=
  ∀ failure, answer = .error failure → listed failure.code

@[simp] theorem failsListed_ok (value : α) : FailsListed (.ok value) := by
  intro failure h
  cases h

@[simp] theorem failsListed_error (failure : StableFailure) :
    FailsListed (.error failure : Except StableFailure α) ↔ listed failure.code := by
  constructor
  · intro h
    exact h failure rfl
  · rintro h _ ⟨⟩
    exact h

theorem listed_unknown : listed "CONTROL_OUTCOME_UNKNOWN" := by decide

theorem listed_rejection (detail : String) :
    listed ((operatorRejectionCode detail).getD "CONTROL_OUTCOME_UNKNOWN") := by
  unfold operatorRejectionCode
  split <;> decide

theorem decodeOperatorAnswer_listed (stdout : String) :
    FailsListed (decodeOperatorAnswer host delivery stdout) ↔ Addressed host delivery stdout := by
  unfold decodeOperatorAnswer Addressed
  cases frames stdout with
  | nil => simp [listed_unknown]
  | cons line rest =>
    cases rest with
    | cons other rest => simp [listed_unknown]
    | nil =>
      cases decoded : host.decodeControlResult (String.ofList line) with
      | error error => simp [listed_unknown, decoded]
      | ok result =>
        by_cases addressed : result.operationId = delivery.operationId
        · simp [addressed, decoded]
        · have unlisted : ¬listed "OPERATION_INVALID" := by decide
          simp [addressed, decoded, unlisted]

theorem serves_iff {recorded : Digest} {observation : RuntimeObservation}
    (inspection : host.inspection = .ok observation) :
    Serves host delivery recorded ↔ observation.digest = some recorded ∧
      (staged host delivery = .ok () →
        ∀ stdout, host.runOneShot (oneShotTask delivery observation) = .ok stdout →
          Addressed host delivery stdout) := by
  simp [Serves, inspection]

/-- With usable database URLs, what decides is the runtime, once the privilege is there. -/
theorem executeControl_listed (recorded : Digest)
    (urls : databaseUrlsUsable host.platform host.secrets = true) :
    FailsListed (executeControl host delivery recorded) ↔
      (host.privilege = .ok () → Serves host delivery recorded) := by
  have drift : ¬listed "CONTROL_TARGET_DRIFT" := by decide
  rw [executeControl, if_pos urls, executeFixedOneShot]
  cases privilege : host.privilege with
  | error detail =>
    have listed : listed "PRIVILEGE_REQUIRED" := by decide
    simp [bind, Except.bind, listed]
  | ok granted =>
    cases inspection : host.inspection with
    | error detail => simp [bind, Except.bind, Serves, inspection, drift]
    | ok observation =>
      cases digest : observation.digest with
      | none => simp [bind, Except.bind, Serves, inspection, digest, drift]
      | some live =>
        by_cases same : live = recorded
        · subst same
          rw [serves_iff inspection]
          cases staging : staged host delivery with
          | error detail =>
            have listed : listed "CONTROL_EXECUTION_UNAVAILABLE" := by decide
            simp [bind, Except.bind, digest, listed]
          | ok granted =>
            cases run : host.runOneShot (oneShotTask delivery observation) with
            | error detail =>
              simp [bind, Except.bind, digest, run, listed_rejection]
            | ok stdout =>
              simp [bind, Except.bind, digest, run, decodeOperatorAnswer_listed]
        · simp [bind, Except.bind, Serves, inspection, digest, same, drift]

theorem answerControlOperation_listed :
    FailsListed (answerControlOperation host delivery) ↔ Sound host delivery := by
  have drift : ¬listed "CONTROL_TARGET_DRIFT" := by decide
  have invalid : ¬listed "OPERATION_INVALID" := by decide
  constructor
  · intro fails
    cases file : host.stateFile with
    | missing =>
      have unknown : ¬listed "DEPLOYMENT_UNKNOWN" := by decide
      simp [answerControlOperation, loadExisting, file, bind, Except.bind, unknown] at fails
    | unreadable error | invalid error =>
      have reset : ¬listed "STATE_RESET_REQUIRED" := by decide
      simp [answerControlOperation, loadExisting, file, bind, Except.bind, reset] at fails
    | document state =>
      have fails : FailsListed (executeBoundControlOperation host delivery state) := by
        simpa [answerControlOperation, loadExisting, file, bind, Except.bind] using fails
      unfold executeBoundControlOperation at fails
      cases current : state.artifact.current with
      | none => simp [current, drift] at fails
      | some recorded =>
        cases data : state.directory "app-data" with
        | none => simp [current, data, invalid] at fails
        | some dataRoot =>
          cases secrets : state.directory "app-secrets" with
          | none => simp [current, data, secrets, invalid] at fails
          | some secretsRoot =>
            simp only [current, data, secrets] at fails
            by_cases urls : databaseUrlsUsable host.platform host.secrets = true
            · exact ⟨state, recorded, file, current, by simp [data], by simp [secrets], urls,
                (executeControl_listed recorded urls).mp fails⟩
            · simp [executeControl, urls, invalid] at fails
  · rintro ⟨state, recorded, document, current, data, secrets, urls, runtime⟩
    obtain ⟨dataRoot, data⟩ := Option.isSome_iff_exists.mp data
    obtain ⟨secretsRoot, secrets⟩ := Option.isSome_iff_exists.mp secrets
    simp only [answerControlOperation, loadExisting, document, bind, Except.bind,
      executeBoundControlOperation, current, data, secrets]
    exact (executeControl_listed recorded urls).mpr runtime

end listed

end NazoAuthCtl.ControlDelivery
