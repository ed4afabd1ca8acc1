import NazoAuthCtl.ControlDelivery

/-!
# What the two sides take for final

The target stores every failure that is not on its own list, and the controller
keeps its slot for every failure that is not on another. Where a delivery finds
what it needs on the host, its failures are on one of the two lists, and a stored
failure releases the controller. A host that drifted, or whose state cannot be
loaded, makes the target store a failure the controller cannot take for final.
-/

set_option autoImplicit false
set_option linter.all false

namespace NazoAuthCtl.ControlAgreement

open TargetState JournalCompaction JournaledCalls JournalDispatch ControlDispatch ControlDelivery
open FaultProgram (Fault)
open TargetWorld (ArtifactReference observation)
open UpdateReplay (twoReleases deployed deployedObject deployedState)

variable {ω : Type}

/-- The call executes the delivery on the host its attempt finds, if it returns. -/
structure Delivers (call : Call ControlHost Completion ω) (delivery : Delivery) : Prop where
  operation : delivery.operationId = call.operation.operationId
  answers : ∀ world outcome, (call.execute call.attempt.execution world).1 = some outcome →
    outcome = deliveryOutcome call.attempt.execution delivery

/-- A call whose hash covers its body, and which is a sound delivery if it is about a control
operation. -/
def SoundCall (bodies : Digest → HostOperationBody)
    (call : Call ControlHost Completion ω) : Prop :=
  call.operation.body = bodies call.operation.canonicalHash ∧
    (call.operation.body = .controlOperation →
      ∃ delivery, Delivers call delivery ∧ Sound call.attempt.execution delivery)

/-- The target answers the operation with a failure it has stored. -/
def Replays (operation : HostOperation) (failure : StableFailure)
    (lines : List (JournalLine Completion)) : Prop :=
  conflicting operation lines = none ∧
    storedAnswer operation lines = some (stateFailure failure)

/-- A line is of the kind its hash covers, and its failure is a definitive refusal if it is
about a control operation. -/
def Final (bodies : Digest → HostOperationBody) (line : JournalLine Completion) : Prop :=
  line.action = (bodies line.operationHash).kind ∧
    (line.action = .controlOperation →
      ∀ code detail, line.result = some (.failed code detail) → code ∈ definitiveRefusals)

theorem kind_controlOperation {body : HostOperationBody} (h : body.kind = .controlOperation) :
    body = .controlOperation := by
  cases body <;> first | rfl | cases h

theorem terminalLine_final {bodies : Digest → HostOperationBody}
    {call : Call ControlHost Completion ω} (sound : SoundCall bodies call) {world : ω}
    {outcome : HostOutcome Completion}
    (run : (call.execute call.attempt.execution world).1 = some outcome)
    (final : keepsPending outcome = false) :
    Final bodies (terminalLine call.operation call.attempt.completedAt outcome) := by
  obtain ⟨covered, control⟩ := sound
  refine ⟨congrArg HostOperationBody.kind covered, fun action code detail failed => ?_⟩
  obtain ⟨delivery, delivers, sound⟩ := control (kind_controlOperation action)
  have listed := answerControlOperation_listed.mpr sound
  have answered := delivers.answers world outcome run
  obtain rfl : outcome = .failed code detail := Option.some.inj failed
  unfold deliveryOutcome at answered
  cases answer : answerControlOperation call.attempt.execution delivery with
  | ok result => simp [answer] at answered
  | error failure =>
    rw [answer] at answered
    obtain ⟨rfl, rfl⟩ : code = failure.code ∧ detail = failure.detail := by
      simpa [stateFailure] using answered
    rcases listed failure answer with keeps | definitive
    · exact absurd (final.symm.trans keeps) (by decide)
    · exact definitive

theorem final_lines {journal : TargetJournal Completion} {bodies : Digest → HostOperationBody}
    {scope : Scope Completion ω} (reachable : Reachable journal (SoundCall bodies) scope) :
    ∀ line ∈ scope.lines, Final bodies line := by
  refine reachable_lines reachable (fun call sound => ?_) fun call sound world outcome run final =>
    terminalLine_final sound run final
  exact ⟨congrArg HostOperationBody.kind sound.1, fun _ code detail failed => by cases failed⟩

/-- Where every delivery finds what it needs, what the target replays is a definitive refusal. -/
theorem replays_definitive {journal : TargetJournal Completion}
    {bodies : Digest → HostOperationBody} {scope : Scope Completion ω}
    (reachable : Reachable journal (SoundCall bodies) scope) {operation : HostOperation}
    (control : operation.body = .controlOperation)
    (covered : operation.body = bodies operation.canonicalHash) {failure : StableFailure}
    (replays : Replays operation failure scope.lines) : failure.code ∈ definitiveRefusals := by
  obtain ⟨agrees, stored⟩ := replays
  obtain ⟨line, member, id, result⟩ := storedAnswer_line stored
  obtain ⟨action, final⟩ := final_lines reachable line member
  have hash : line.operationHash = operation.canonicalHash :=
    conflicting_none.mp agrees line member id
  refine final ?_ failure.code failure.detail result
  rw [action, hash, ← covered, control]
  rfl

/-- A delivery's failures are final for both sides or for neither exactly if the delivery finds
what it needs. In a journal of such deliveries every stored failure releases the controller. -/
theorem control_failures_agree (protocol : OperatorProtocol) :
    (∀ host delivery,
      (∀ failure, answerControlOperation host delivery = .error failure →
        failure.code ≠ "OPERATION_ID_CONFLICT" → Agreement protocol failure) ↔
      Sound host delivery) ∧
    (∀ (ω : Type) (journal : TargetJournal Completion) (bodies : Digest → HostOperationBody)
      (scope : Scope Completion ω), Reachable journal (SoundCall bodies) scope →
      ∀ operation : HostOperation, operation.body = .controlOperation →
        operation.body = bodies operation.canonicalHash →
        ∀ failure, Replays operation failure scope.lines →
          failure.code ≠ "OPERATION_ID_CONFLICT" →
          ∀ prepared, Settles protocol prepared (stateFailure failure) ∧
            (ControlDispatch.validateEntry protocol prepared.journalEntry = .ok () →
              ¬KeepsSlot protocol prepared (stateFailure failure))) := by
  constructor
  · intro host delivery
    rw [← answerControlOperation_listed]
    constructor
    · intro agreement failure answer
      by_cases conflict : failure.code = "OPERATION_ID_CONFLICT"
      · rw [conflict]
        decide
      · exact (agreement_iff conflict).mp (agreement failure answer conflict)
    · intro listed failure answer conflict
      exact (agreement_iff conflict).mpr (listed failure answer)
  · intro ω journal bodies scope reachable operation control covered failure replays conflict
      prepared
    have definitive := replays_definitive reachable control covered replays
    exact ⟨settles_of_definitive definitive conflict, not_keepsSlot definitive conflict⟩

/-! ## A host that drifted -/

/-- A host whose operator finds the presented revision out of date. -/
def servingHost : ControlHost where
  platform := twoReleases
  stateFile := .document (deployedState .podman)
  secrets := (deployed .podman).secrets
  privilege := .ok ()
  inspection := .ok (observation twoReleases .podman (deployedObject .podman))
  staging := .ok ()
  runOneShot _ := .error "nazoauth-operator-rejection=revision"
  decodeControlResult _ := .error "expected value"

/-- The same host while its runtime object reports no digest. -/
def driftedHost : ControlHost where
  platform := twoReleases
  stateFile := .document (deployedState .podman)
  secrets := (deployed .podman).secrets
  privilege := .ok ()
  inspection := .ok
    (observation twoReleases .podman { deployedObject .podman with artifact := .unknown })
  staging := .ok ()
  runOneShot _ := .error "nazoauth-operator-rejection=revision"
  decodeControlResult _ := .error "expected value"

def keysDelivery : Delivery := ⟨9, "main", "h.ppppppppp.s", none⟩

def keysOrder : HostOperation := ⟨9, 90, .controlOperation⟩

def keysPrepared : PreparedOperation where
  signed := ⟨⟨9, "kid", "main", "4", .keysList⟩, "h.ppppppppp.s", 10⟩
  kind := .fresh

/-- One undisturbed call that delivers the order to a host. -/
def deliverTo (host : ControlHost) : Call ControlHost Completion Unit where
  operation := keysOrder
  execute host world := (some (deliveryOutcome host keysDelivery), world)
  attempt := ⟨fun _ => .none, 0, 1, host⟩

def controlJournal : TargetJournal Completion where
  bounds := .default
  encode line := [UInt8.ofNat line.operationId]

def outdated : StableFailure :=
  ⟨"CONFIG_REVISION_MISMATCH", sanitize "nazoauth-operator-rejection=revision"⟩

def undigested : StableFailure :=
  ⟨"CONTROL_TARGET_DRIFT", "the running runtime object does not report a digest-bound artifact"⟩

theorem servingHost_answer :
    answerControlOperation servingHost keysDelivery = .error outdated := by
  rfl

theorem driftedHost_answer :
    answerControlOperation driftedHost keysDelivery = .error undigested := by
  rfl

def recordedBy (host : ControlHost) : Scope Completion Unit :=
  ⟨[pendingLine keysOrder 0, terminalLine keysOrder 1 (deliveryOutcome host keysDelivery)], ()⟩

theorem servingHost_run : (deliverTo servingHost).run controlJournal ⟨[], ()⟩ =
    (.ok (deliveryOutcome servingHost keysDelivery), recordedBy servingHost) := by
  rfl

theorem driftedHost_run : (deliverTo driftedHost).run controlJournal ⟨[], ()⟩ =
    (.ok (deliveryOutcome driftedHost keysDelivery), recordedBy driftedHost) := by
  rfl

theorem driftedHost_rerun : (deliverTo servingHost).run controlJournal (recordedBy driftedHost) =
    (.ok (deliveryOutcome driftedHost keysDelivery), recordedBy driftedHost) := by
  rfl

theorem servingHost_sound : Sound servingHost keysDelivery := by
  refine answerControlOperation_listed.mp fun failure answer => ?_
  rw [servingHost_answer] at answer
  cases answer
  decide

theorem keysOrder_delivers (host : ControlHost) : Delivers (deliverTo host) keysDelivery := by
  refine ⟨rfl, fun world outcome run => ?_⟩
  cases run
  rfl

theorem outdated_revision_settles :
    Settles operatorProtocol keysPrepared (stateFailure outdated) := by
  have reachable : Reachable controlJournal (SoundCall fun _ => .controlOperation)
      (recordedBy servingHost) := by
    have absent : Reachable controlJournal (SoundCall fun _ => .controlOperation) ⟨[], ()⟩ :=
      Reachable.absent ()
    have run := Reachable.call (deliverTo servingHost) absent
      ⟨rfl, fun _ => ⟨keysDelivery, keysOrder_delivers servingHost, servingHost_sound⟩⟩
    rwa [servingHost_run] at run
  exact ((control_failures_agree operatorProtocol).2 Unit controlJournal
    (fun _ => .controlOperation) (recordedBy servingHost) reachable keysOrder rfl rfl outdated
    ⟨rfl, rfl⟩ (by decide) keysPrepared).1

theorem drifted_runtime_stuck :
    ¬(∀ failure, answerControlOperation driftedHost keysDelivery = .error failure →
      failure.code ≠ "OPERATION_ID_CONFLICT" → Agreement operatorProtocol failure) ∧
    Replays keysOrder undigested
      ((deliverTo driftedHost).run controlJournal ⟨[], ()⟩).2.lines ∧
    (deliverTo servingHost).run controlJournal
      ((deliverTo driftedHost).run controlJournal ⟨[], ()⟩).2 =
        (.ok (stateFailure undigested), ((deliverTo driftedHost).run controlJournal ⟨[], ()⟩).2) ∧
    KeepsSlot operatorProtocol keysPrepared (stateFailure undigested) := by
  have unlisted : ¬listed undigested.code := by decide
  refine ⟨fun agreement => ?_, ?_, ?_, ?_⟩
  · exact unlisted ((agreement_iff (by decide)).mp
      (agreement undigested driftedHost_answer (by decide)))
  · rw [driftedHost_run]
    exact ⟨rfl, rfl⟩
  · rw [driftedHost_run, driftedHost_rerun]
    rfl
  · intro verdict answered
    rw [answerVerdict_failure (by decide)] at answered
    cases answered

end NazoAuthCtl.ControlAgreement
