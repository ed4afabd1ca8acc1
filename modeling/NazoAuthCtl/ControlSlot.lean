import Mathlib.Data.List.Pairwise
import NazoAuthCtl.ControlDispatch

/-!
# Many controllers over one slot

Any number of processes prepare, send and settle operations of one instance. A
process looks at the slot, signs and records in separate steps, and each step of
a settlement takes the lock of the journal for itself, so that everything
interleaves. A process can be lost at every point. Operation ids are fresh when
they are minted; the kid that signs, the answers of the target and the success
of a persistence are open.
-/

set_option autoImplicit false
set_option linter.all false

namespace NazoAuthCtl.ControlSlot

open TargetState ControlDispatch

/-- How far a process is. -/
inductive Process where
  | idle
  /-- The slot was empty when the process looked. -/
  | signing (input : ControlOperationInput)
  /-- The operation is signed and not in the slot yet. -/
  | recording (prepared : PreparedOperation)
  | ready (prepared : PreparedOperation)
  | awaiting (prepared : PreparedOperation)
  | settling (prepared : PreparedOperation) (steps : List SettleStep)
  deriving DecidableEq, Repr

/-- The operation a process signed or resumed. -/
def Process.signed : Process → Option PreparedOperation
  | .idle | .signing _ => none
  | .recording prepared | .ready prepared | .awaiting prepared | .settling prepared _ =>
    some prepared

/-- The operation a process may send. -/
def Process.held : Process → Option PreparedOperation
  | .idle | .signing _ | .recording _ => none
  | .ready prepared | .awaiting prepared | .settling prepared _ => some prepared

inductive Event where
  | recorded (prepared : PreparedOperation)
  | sent (request : ControlOperationRequest) (requestHash : Digest)
  | answered (prepared : PreparedOperation) (verdict : DispatchVerdict)
  | settled (prepared : PreparedOperation) (step : SettleStep)
  deriving DecidableEq, Repr

/-- `minted` and `history`, newest first, are records that no process reads. -/
structure System where
  slot : Slot
  processes : ℕ → Process
  minted : List OperationJournalEntry
  history : List Event

def System.start : System where
  slot := none
  processes _ := .idle
  minted := []
  history := []

def System.move (s : System) (p : ℕ) (process : Process) : System :=
  { s with processes := Function.update s.processes p process }

def System.log (s : System) (event : Event) : System :=
  { s with history := event :: s.history }

section system

variable (protocol : OperatorProtocol) (deploymentId : DeploymentId)

/-- One step of one process. `prepare_control_operation` is `look` and `resume`, or `look`,
`sign` and `record`; `dispatch_via_target` is `send` and `answer`; `settle_journal` is the
steps that are left of the settlement. -/
inductive Step (p : ℕ) (s : System) : System → Prop where
  | look {input : ControlOperationInput} (idle : s.processes p = .idle)
    (empty : load protocol s.slot = .ok none) :
    Step p s (s.move p (.signing input))
  | resume {input : ControlOperationInput} {entry : OperationJournalEntry}
    {prepared : PreparedOperation} (idle : s.processes p = .idle)
    (found : load protocol s.slot = .ok (some entry))
    (resumed : prepareEntryResume protocol deploymentId entry input = .ok (some prepared)) :
    Step p s (s.move p (.ready prepared))
  | sign {input : ControlOperationInput} {operationId : OperationId} {kid : String}
    {signed : SignedControlOperation} (signing : s.processes p = .signing input)
    (fresh : ∀ entry ∈ s.minted, entry.operationId ≠ operationId)
    (signs : buildSignedControlOperation protocol deploymentId input operationId kid =
      .ok signed) :
    Step p s { s.move p (.recording ⟨signed, .fresh⟩) with
      minted := (PreparedOperation.mk signed .fresh).journalEntry :: s.minted }
  | record {prepared : PreparedOperation} {slot : Slot}
    (recording : s.processes p = .recording prepared)
    (records : recordDispatched protocol prepared.journalEntry s.slot = .ok slot) :
    Step p s { (s.move p (.ready prepared)).log (.recorded prepared) with slot }
  | send {prepared : PreparedOperation} {changeSet : Option Bytes}
    {request : ControlOperationRequest} (ready : s.processes p = .ready prepared)
    (requests : prepared.request changeSet = .ok request) :
    Step p s ((s.move p (.awaiting prepared)).log (.sent request prepared.signed.requestHash))
  | answer {prepared : PreparedOperation} {receipt : ControlOperationReceipt}
    {verdict : DispatchVerdict} {steps : List SettleStep}
    (awaiting : s.processes p = .awaiting prepared)
    (classifies : classifyReceipt protocol prepared receipt = .ok verdict)
    (settles : settlement protocol prepared verdict = .ok steps) :
    Step p s ((s.move p (.settling prepared steps)).log (.answered prepared verdict))
  | settle {prepared : PreparedOperation} {step : SettleStep} {steps : List SettleStep}
    {persistTerminal : ControlResult → Except String Unit} {slot : Slot}
    (settling : s.processes p = .settling prepared (step :: steps))
    (settles : settleStep protocol persistTerminal prepared.journalEntry s.slot step =
      .ok slot) :
    Step p s { (s.move p (.settling prepared steps)).log (.settled prepared step) with slot }
  /-- A process that holds an operation dispatches it again. -/
  | retry {prepared : PreparedOperation} (held : (s.processes p).held = some prepared) :
    Step p s (s.move p (.ready prepared))
  /-- The process fails, is refused, gives up or is lost. -/
  | leave : Step p s (s.move p .idle)

inductive Reachable : System → Prop where
  | start : Reachable .start
  | step {s s' : System} (p : ℕ) : Reachable s → Step protocol deploymentId p s s' → Reachable s'

end system

section steps

variable {protocol : OperatorProtocol} {deploymentId : DeploymentId} {p : ℕ} {s s' : System}

/-- What holds of all processes still holds after one of them moved, if it holds of the move. -/
theorem forall_move {P : Process → Prop} {process : Process} (rest : ∀ q, P (s.processes q))
    (moved : P process) (q : ℕ) : P ((s.move p process).processes q) := by
  by_cases same : q = p
  · subst same
    simpa [System.move] using moved
  · simpa [System.move, same] using rest q

/-- The operation id and what is fixed with it. -/
def identity (entry : OperationJournalEntry) : OperationJournalEntry :=
  { entry with state := .dispatched }

theorem sameIdentity_iff {entry other : OperationJournalEntry} :
    entry.hasSameIdentity other = true ↔ identity entry = identity other := by
  cases entry
  cases other
  simp [hasSameIdentity_iff, identity]

@[simp] theorem identity_journalEntry (prepared : PreparedOperation) :
    identity prepared.journalEntry = prepared.journalEntry := rfl

theorem held_signed {process : Process} {prepared : PreparedOperation}
    (h : process.held = some prepared) : process.signed = some prepared := by
  cases process <;> first | exact h | cases h

/-! ## One envelope for one operation id -/

structure Enveloped (s : System) : Prop where
  distinct : s.minted.Pairwise fun a b => a.operationId ≠ b.operationId
  slot : ∀ entry ∈ s.slot, identity entry ∈ s.minted
  signed : ∀ q prepared, (s.processes q).signed = some prepared →
    prepared.journalEntry ∈ s.minted
  sent : ∀ request requestHash, .sent request requestHash ∈ s.history → ∃ entry ∈ s.minted,
    entry.operationId = request.operationId ∧ entry.compactJws = request.compactJws ∧
      entry.requestHash = requestHash

theorem Enveloped.move (h : Enveloped s) {process : Process}
    (moved : ∀ prepared, process.signed = some prepared → prepared.journalEntry ∈ s.minted) :
    Enveloped (s.move p process) :=
  ⟨h.distinct, h.slot,
    forall_move (P := fun process => ∀ prepared, process.signed = some prepared →
      prepared.journalEntry ∈ s.minted) h.signed moved, h.sent⟩

/-- A process that moves on with its operation. -/
theorem Enveloped.keep (h : Enveloped s) {prepared : PreparedOperation} {process : Process}
    (signed : (s.processes p).signed = some prepared) (same : process.signed = some prepared) :
    Enveloped (s.move p process) := by
  refine h.move fun own held => ?_
  obtain rfl : prepared = own := Option.some.inj (same.symm.trans held)
  exact h.signed p prepared signed

theorem Enveloped.log (h : Enveloped s) {event : Event}
    (sent : ∀ request requestHash, event = .sent request requestHash → ∃ entry ∈ s.minted,
      entry.operationId = request.operationId ∧ entry.compactJws = request.compactJws ∧
        entry.requestHash = requestHash) : Enveloped (s.log event) := by
  refine ⟨h.distinct, h.slot, h.signed, fun request requestHash logged => ?_⟩
  rcases List.mem_cons.mp logged with first | older
  · exact sent request requestHash first.symm
  · exact h.sent request requestHash older

theorem Enveloped.fill (h : Enveloped s) {slot : Slot}
    (filled : ∀ entry ∈ slot, identity entry ∈ s.minted) : Enveloped { s with slot } :=
  ⟨h.distinct, filled, h.signed, h.sent⟩

theorem request_of {prepared : PreparedOperation} {changeSet : Option Bytes}
    {request : ControlOperationRequest} (h : prepared.request changeSet = .ok request) :
    request.operationId = prepared.journalEntry.operationId ∧
      request.compactJws = prepared.journalEntry.compactJws := by
  unfold PreparedOperation.request at h
  cases valid : validateControlChangeSet prepared.signed.operation.operation changeSet with
  | error error => simp [valid, bind, Except.bind] at h
  | ok checked =>
    simp only [valid, bind, Except.bind, pure, Except.pure, Except.ok.injEq] at h
    subst h
    exact ⟨rfl, rfl⟩

theorem signed_operationId {input : ControlOperationInput} {operationId : OperationId}
    {kid : String} {signed : SignedControlOperation}
    (h : buildSignedControlOperation protocol deploymentId input operationId kid = .ok signed) :
    signed.operation.operationId = operationId := by
  unfold buildSignedControlOperation at h
  cases signs : protocol.sign
      (buildControlOperationWithIdAndKid deploymentId input operationId kid) with
  | error error => simp [signs, bind, Except.bind] at h
  | ok envelope =>
    simp only [signs, bind, Except.bind, pure, Except.pure, Except.ok.injEq] at h
    subst h
    rfl

theorem Enveloped.step (h : Enveloped s) (step : Step protocol deploymentId p s s') :
    Enveloped s' := by
  cases step with
  | look idle empty => exact h.move (by simp [Process.signed])
  | @resume input entry prepared idle found resumed =>
    refine h.move fun prepared signed => ?_
    cases signed
    have held := h.slot entry (load_ok found ▸ rfl)
    rwa [sameIdentity_iff.mp (prepareEntryResume_some resumed)] at held
  | @sign input operationId kid signed signing fresh signs =>
    have id := signed_operationId signs
    have grown : Enveloped { s with
        minted := (PreparedOperation.mk signed .fresh).journalEntry :: s.minted } := by
      refine ⟨List.pairwise_cons.mpr ⟨fun entry member => ?_, h.distinct⟩,
        fun entry held => List.mem_cons_of_mem _ (h.slot entry held),
        fun q prepared signed => List.mem_cons_of_mem _ (h.signed q prepared signed),
        fun request requestHash sent => ?_⟩
      · exact fun same => fresh entry member (same.symm.trans id)
      · obtain ⟨entry, member, bound⟩ := h.sent request requestHash sent
        exact ⟨entry, List.mem_cons_of_mem _ member, bound⟩
    refine grown.move fun prepared signed => ?_
    cases signed
    exact List.mem_cons_self
  | @record prepared slot recording records =>
    have signed : (s.processes p).signed = some prepared := by rw [recording]; rfl
    refine ((h.keep signed rfl).log (by simp)).fill fun entry filled => ?_
    rcases recordDispatched_ok records with ⟨-, rfl⟩ | ⟨existing, -, rfl, -⟩
    · cases filled
      exact h.signed p prepared signed
    · exact h.slot entry filled
  | @send prepared changeSet request ready requests =>
    have signed : (s.processes p).signed = some prepared := by rw [ready]; rfl
    refine (h.keep signed rfl).log fun request requestHash sent => ?_
    cases sent
    obtain ⟨id, jws⟩ := request_of requests
    exact ⟨prepared.journalEntry, h.signed p prepared signed, id.symm, jws.symm, rfl⟩
  | answer awaiting classifies settles =>
    exact (h.keep (by rw [awaiting]; rfl) rfl).log (by simp)
  | settle settling settles =>
    refine ((h.keep (by rw [settling]; rfl) rfl).log (by simp)).fill fun entry filled => ?_
    rcases settleStep_ok settles with ⟨-, rfl⟩ | ⟨held, same, -, ⟨-, rfl⟩ | ⟨-, rfl⟩⟩
    · exact h.slot entry filled
    · cases filled
      exact h.slot held same
    · cases filled
  | retry held => exact h.keep (held_signed held) rfl
  | leave => exact h.move (by simp [Process.signed])

/-! ## An operation that left the slot was cleared -/

/-- The entry of the operation was cleared. -/
def Cleared (operationId : OperationId) (history : List Event) : Prop :=
  ∃ prepared, .settled prepared .clear ∈ history ∧
    prepared.journalEntry.operationId = operationId

/-- The operation is in the slot, or it was cleared. -/
def Anchored (s : System) (prepared : PreparedOperation) : Prop :=
  (∃ entry ∈ s.slot, identity entry = prepared.journalEntry) ∨
    Cleared prepared.journalEntry.operationId s.history

theorem Anchored.move {prepared : PreparedOperation} {process : Process}
    (h : Anchored s prepared) : Anchored (s.move p process) prepared := h

theorem Anchored.log {prepared : PreparedOperation} {event : Event} (h : Anchored s prepared) :
    Anchored (s.log event) prepared :=
  h.imp_right fun ⟨clearing, cleared, id⟩ => ⟨clearing, List.mem_cons_of_mem _ cleared, id⟩

/-- No step takes an operation out of the slot but its own clearing. -/
theorem Anchored.step {prepared : PreparedOperation} (h : Anchored s prepared)
    (step : Step protocol deploymentId p s s') : Anchored s' prepared := by
  cases step with
  | look idle empty => exact h.move
  | resume idle found resumed => exact h.move
  | sign signing fresh signs => exact h
  | @record own slot recording records =>
    rcases recordDispatched_ok records with ⟨empty, rfl⟩ | ⟨existing, -, rfl, -⟩
    · rcases h with ⟨entry, held, -⟩ | ⟨clearing, cleared, id⟩
      · simp [empty] at held
      · exact .inr ⟨clearing, List.mem_cons_of_mem _ cleared, id⟩
    · exact h.move.log
  | send ready requests => exact h.move.log
  | answer awaiting classifies settles => exact h.move.log
  | @settle own step steps persistTerminal slot settling settles =>
    rcases settleStep_ok settles with ⟨-, rfl⟩ | ⟨entry, found, same, ⟨-, rfl⟩ | ⟨rfl, rfl⟩⟩
    · exact h.move.log
    · rcases h with ⟨held, inSlot, mine⟩ | ⟨clearing, cleared, id⟩
      · obtain rfl : entry = held := Option.some.inj (found.symm.trans inSlot)
        exact .inl ⟨_, rfl, mine⟩
      · exact .inr ⟨clearing, List.mem_cons_of_mem _ cleared, id⟩
    · rcases h with ⟨held, inSlot, mine⟩ | ⟨clearing, cleared, id⟩
      · obtain rfl : entry = held := Option.some.inj (found.symm.trans inSlot)
        have id : own.journalEntry = prepared.journalEntry :=
          (sameIdentity_iff.mp same).symm.trans mine
        exact .inr ⟨own, List.mem_cons_self, congrArg _ id⟩
      · exact .inr ⟨clearing, List.mem_cons_of_mem _ cleared, id⟩
  | retry held => exact h.move
  | leave => exact h.move

/-- Whatever a process may send is in the slot or was cleared. -/
def Turns (s : System) : Prop :=
  ∀ q prepared, (s.processes q).held = some prepared → Anchored s prepared

theorem Turns.step (h : Turns s) (step : Step protocol deploymentId p s s') : Turns s' := by
  have rest : ∀ q prepared, (s.processes q).held = some prepared → Anchored s' prepared :=
    fun q prepared held => (h q prepared held).step step
  have moved : ∀ {process : Process} {t : System}, (∀ q, t.processes q =
      (s.move p process).processes q) → (∀ prepared, process.held = some prepared →
      Anchored s' prepared) → ∀ q prepared, (t.processes q).held = some prepared →
      Anchored s' prepared := by
    intro process t same moved q prepared held
    rw [same q] at held
    exact forall_move (P := fun process => ∀ prepared, process.held = some prepared →
      Anchored s' prepared) rest moved q prepared held
  have still : ∀ {process own}, s.processes p = process → process.held = some own →
      ∀ prepared, some own = some prepared → Anchored s' prepared :=
    fun at_p held prepared same => rest p prepared (at_p ▸ held.trans same)
  cases step with
  | look idle empty => exact moved (fun _ => rfl) (by simp [Process.held])
  | @resume input entry prepared idle found resumed =>
    refine moved (fun _ => rfl) fun prepared held => ?_
    cases held
    exact .inl ⟨entry, load_ok found ▸ rfl, sameIdentity_iff.mp (prepareEntryResume_some resumed)⟩
  | sign signing fresh signs => exact moved (fun _ => rfl) (by simp [Process.held])
  | record recording records =>
    refine moved (fun _ => rfl) fun prepared held => ?_
    cases held
    rcases recordDispatched_ok records with ⟨-, rfl⟩ | ⟨existing, found, rfl, same⟩
    · exact .inl ⟨_, rfl, rfl⟩
    · exact .inl ⟨existing, found, sameIdentity_iff.mp same⟩
  | send ready requests => exact moved (fun _ => rfl) (still ready rfl)
  | answer awaiting classifies settles => exact moved (fun _ => rfl) (still awaiting rfl)
  | settle settling settles => exact moved (fun _ => rfl) (still settling rfl)
  | retry held => exact moved (fun _ => rfl) (still rfl held)
  | leave => exact moved (fun _ => rfl) (by simp [Process.held])

/-! ## A settlement has an answer behind it -/

/-- A terminal result that is bound to the operation. -/
def Bound (protocol : OperatorProtocol) (prepared : PreparedOperation)
    (result : ControlResult) : Prop :=
  result.outcome ≠ .inProgress ∧ validateResultBinding protocol prepared result = .ok ()

/-- What lets an operation leave the slot: a definitive refusal of it, or its terminal result
after a persistence that succeeded. -/
def Concluded (protocol : OperatorProtocol) (prepared : PreparedOperation)
    (history : List Event) : Prop :=
  (∃ code, code ≠ "OPERATION_ID_CONFLICT" ∧
    .answered prepared (.definitivelyRejected code) ∈ history) ∨
  ∃ result, Bound protocol prepared result ∧ .settled prepared (.persist result) ∈ history

/-- What stands behind the steps that are left of a settlement. -/
inductive Backed (protocol : OperatorProtocol) (prepared : PreparedOperation)
    (history : List Event) : List SettleStep → Prop where
  | done : Backed protocol prepared history []
  | accepted : Backed protocol prepared history [.markAccepted]
  | terminal (result : ControlResult) : Bound protocol prepared result →
    Backed protocol prepared history [.markAccepted, .persist result, .clear]
  | marked (result : ControlResult) : Bound protocol prepared result →
    Backed protocol prepared history [.persist result, .clear]
  | concluded : Concluded protocol prepared history → Backed protocol prepared history [.clear]

theorem Concluded.cons {prepared : PreparedOperation} {history : List Event}
    (h : Concluded protocol prepared history) (event : Event) :
    Concluded protocol prepared (event :: history) := by
  rcases h with ⟨code, other, answered⟩ | ⟨result, bound, persisted⟩
  · exact .inl ⟨code, other, List.mem_cons_of_mem _ answered⟩
  · exact .inr ⟨result, bound, List.mem_cons_of_mem _ persisted⟩

theorem Backed.cons {prepared : PreparedOperation} {history : List Event}
    {steps : List SettleStep} (h : Backed protocol prepared history steps) (event : Event) :
    Backed protocol prepared (event :: history) steps := by
  cases h with
  | done => exact .done
  | accepted => exact .accepted
  | terminal result bound => exact .terminal result bound
  | marked result bound => exact .marked result bound
  | concluded concluded => exact .concluded (concluded.cons event)

theorem Backed.next {prepared : PreparedOperation} {history : List Event} {step : SettleStep}
    {steps : List SettleStep} (h : Backed protocol prepared history (step :: steps)) :
    Backed protocol prepared (.settled prepared step :: history) steps := by
  cases h with
  | accepted => exact .done
  | terminal result bound => exact .marked result bound
  | marked result bound => exact .concluded (.inr ⟨result, bound, List.mem_cons_self⟩)
  | concluded => exact .done

theorem Backed.of_verdict {prepared : PreparedOperation} {history : List Event}
    {receipt : ControlOperationReceipt} {verdict : DispatchVerdict} {steps : List SettleStep}
    (classifies : classifyReceipt protocol prepared receipt = .ok verdict)
    (settles : settlement protocol prepared verdict = .ok steps) :
    Backed protocol prepared (.answered prepared verdict :: history) steps := by
  cases verdict with
  | definitivelyRejected code =>
    by_cases conflict : code = "OPERATION_ID_CONFLICT"
    · simp only [settlement, if_pos conflict, Except.ok.injEq] at settles
      exact settles ▸ .done
    · simp only [settlement, if_neg conflict, Except.ok.injEq] at settles
      exact settles ▸ .concluded (.inl ⟨code, conflict, List.mem_cons_self⟩)
  | outcomeUnknown =>
    cases settles
    exact .done
  | inProgressAccepted =>
    cases settles
    exact .accepted
  | terminal result =>
    have bound := classifyReceipt_terminal classifies
    simp only [settlement, bound.2, bind, Except.bind, pure, Except.pure,
      Except.ok.injEq] at settles
    exact settles ▸ .terminal result bound

/-- Every settlement under way is backed. -/
def Settlements (protocol : OperatorProtocol) (s : System) : Prop :=
  ∀ q prepared steps, s.processes q = .settling prepared steps →
    Backed protocol prepared s.history steps

theorem Settlements.step (h : Settlements protocol s)
    (step : Step protocol deploymentId p s s') : Settlements protocol s' := by
  have moved : ∀ {process : Process} {history : List Event},
      (∀ prepared steps, Backed protocol prepared s.history steps →
        Backed protocol prepared history steps) →
      (∀ prepared steps, process = .settling prepared steps →
        Backed protocol prepared history steps) →
      ∀ q prepared steps, (s.move p process).processes q = .settling prepared steps →
        Backed protocol prepared history steps :=
    fun grown moved => forall_move (P := fun process => ∀ prepared steps,
      process = .settling prepared steps → Backed protocol prepared _ steps)
      (fun q prepared steps settling => grown prepared steps (h q prepared steps settling)) moved
  cases step with
  | look idle empty => exact moved (fun _ _ => id) nofun
  | resume idle found resumed => exact moved (fun _ _ => id) nofun
  | sign signing fresh signs => exact moved (fun _ _ => id) nofun
  | record recording records => exact moved (fun _ _ backed => backed.cons _) nofun
  | send ready requests => exact moved (fun _ _ backed => backed.cons _) nofun
  | answer awaiting classifies settles =>
    refine moved (fun _ _ backed => backed.cons _) fun prepared steps settling => ?_
    cases settling
    exact .of_verdict classifies settles
  | settle settling settles =>
    refine moved (fun _ _ backed => backed.cons _) fun prepared steps moved => ?_
    cases moved
    exact (h p _ _ settling).next
  | retry held => exact moved (fun _ _ => id) nofun
  | leave => exact moved (fun _ _ => id) nofun

end steps


section runs

variable {protocol : OperatorProtocol} {deploymentId : DeploymentId} {p : ℕ} {s s' : System}

/-- Every clearing in the history had something to conclude with. -/
def ClearsConcluded (protocol : OperatorProtocol) (s : System) : Prop :=
  ∀ prepared, .settled prepared .clear ∈ s.history → Concluded protocol prepared s.history

theorem ClearsConcluded.log (h : ClearsConcluded protocol s) {event : Event}
    (clears : ∀ prepared, event = .settled prepared .clear →
      Concluded protocol prepared s.history) : ClearsConcluded protocol (s.log event) := by
  intro prepared logged
  rcases List.mem_cons.mp logged with first | older
  · exact (clears prepared first.symm).cons event
  · exact (h prepared older).cons event

theorem Backed.clear {prepared : PreparedOperation} {history : List Event}
    {steps : List SettleStep} (h : Backed protocol prepared history (.clear :: steps)) :
    Concluded protocol prepared history := by
  cases h with
  | concluded concluded => exact concluded

theorem ClearsConcluded.step (h : ClearsConcluded protocol s) (settlements : Settlements protocol s)
    (step : Step protocol deploymentId p s s') : ClearsConcluded protocol s' := by
  cases step with
  | look | resume | sign | retry | leave => exact h
  | record | send | answer => exact h.log (by simp)
  | settle settling settles =>
    refine h.log fun prepared clears => ?_
    cases clears
    exact (settlements p _ _ settling).clear

structure Invariant (protocol : OperatorProtocol) (s : System) : Prop where
  enveloped : Enveloped s
  turns : Turns s
  settlements : Settlements protocol s
  clears : ClearsConcluded protocol s

theorem Reachable.invariant (h : Reachable protocol deploymentId s) : Invariant protocol s := by
  induction h with
  | start =>
    refine ⟨⟨List.Pairwise.nil, nofun, nofun, nofun⟩, nofun, nofun, nofun⟩
  | step p reachable step ih =>
    exact ⟨ih.enveloped.step step, ih.turns.step step, ih.settlements.step step,
      ih.clears.step ih.settlements step⟩

/-- An occupied slot changes only by the settlement of the operation in it. -/
theorem Step.slot (step : Step protocol deploymentId p s s') {entry : OperationJournalEntry}
    (occupied : s.slot = some entry) :
    s'.slot = some entry ∨ ∃ prepared settlement steps,
      s.processes p = .settling prepared (settlement :: steps) ∧
      entry.hasSameIdentity prepared.journalEntry = true ∧
      ((settlement = .markAccepted ∧ s'.slot = some { entry with state := .accepted }) ∨
        (settlement = .clear ∧ s'.slot = none)) := by
  cases step with
  | look | resume | sign | send | answer | retry | leave => exact .inl occupied
  | record recording records =>
    rcases recordDispatched_ok records with ⟨empty, -⟩ | ⟨existing, found, rfl, -⟩
    · simp [occupied] at empty
    · exact .inl occupied
  | settle settling settles =>
    rcases settleStep_ok settles with ⟨-, rfl⟩ | ⟨found, held, same, settled⟩
    · exact .inl occupied
    · obtain rfl : entry = found := Option.some.inj (occupied.symm.trans held)
      exact .inr ⟨_, _, _, settling, same, settled⟩

theorem Step.sent (step : Step protocol deploymentId p s s') {request : ControlOperationRequest}
    {requestHash : Digest} (sends : s'.history = .sent request requestHash :: s.history) :
    ∃ prepared, s.processes p = .ready prepared ∧
      request.operationId = prepared.journalEntry.operationId := by
  cases step with
  | look | resume | sign | retry | leave => exact absurd sends.symm (List.cons_ne_self _ _)
  | record | answer | settle => simp [System.log, System.move] at sends
  | send ready requests =>
    have same := (List.cons.inj sends).1
    cases same
    exact ⟨_, ready, (request_of requests).1⟩

/-- What any number of controllers keep to at a state of the system. -/
structure AcceptOnce (protocol : OperatorProtocol) (deploymentId : DeploymentId) (s : System) :
    Prop where
  oneEnvelope : ∀ request requestHash request' requestHash',
    .sent request requestHash ∈ s.history → .sent request' requestHash' ∈ s.history →
      request.operationId = request'.operationId →
        request.compactJws = request'.compactJws ∧ requestHash = requestHash'
  inTurn : ∀ p s', Step protocol deploymentId p s s' → ∀ request requestHash,
    s'.history = .sent request requestHash :: s.history → ∀ entry, s.slot = some entry →
      entry.operationId ≠ request.operationId →
        ∃ prepared, prepared.journalEntry.operationId = request.operationId ∧
          .settled prepared .clear ∈ s.history ∧ Concluded protocol prepared s.history
  ownSlot : ∀ p s', Step protocol deploymentId p s s' → ∀ entry, s.slot = some entry →
    s'.slot = some entry ∨ ∃ prepared, (s.processes p).held = some prepared ∧
      entry.hasSameIdentity prepared.journalEntry = true ∧
      (s'.slot = some { entry with state := .accepted } ∨ s'.slot = none)
  concluded : ∀ p s', Step protocol deploymentId p s s' → ∀ entry, s.slot = some entry →
    s'.slot = none → ∃ prepared, entry.hasSameIdentity prepared.journalEntry = true ∧
      Concluded protocol prepared s.history

/-- Two minted envelopes of one operation id are one. -/
theorem Enveloped.unique (h : Enveloped s) {entry other : OperationJournalEntry}
    (member : entry ∈ s.minted) (member' : other ∈ s.minted)
    (id : entry.operationId = other.operationId) : entry = other := by
  by_contra distinct
  have : Std.Symm fun a b : OperationJournalEntry => a.operationId ≠ b.operationId :=
    ⟨fun _ _ => Ne.symm⟩
  exact h.distinct.forall member member' distinct id

theorem control_slot_accept_once (protocol : OperatorProtocol) (deploymentId : DeploymentId)
    {s : System} (reachable : Reachable protocol deploymentId s) :
    AcceptOnce protocol deploymentId s := by
  have invariant := reachable.invariant
  refine ⟨?_, ?_, ?_, ?_⟩
  · intro request requestHash request' requestHash' sent sent' id
    obtain ⟨entry, member, id₁, jws, hash⟩ := invariant.enveloped.sent _ _ sent
    obtain ⟨entry', member', id₂, jws', hash'⟩ := invariant.enveloped.sent _ _ sent'
    obtain rfl : entry = entry' :=
      invariant.enveloped.unique member member' (id₁.trans (id.trans id₂.symm))
    exact ⟨jws.symm.trans jws', hash.symm.trans hash'⟩
  · intro p s' step request requestHash sends entry occupied other
    obtain ⟨prepared, ready, id⟩ := step.sent sends
    have held : (s.processes p).held = some prepared := by rw [ready]; rfl
    rcases invariant.turns p prepared held with ⟨found, inSlot, mine⟩ | ⟨clearing, cleared, same⟩
    · obtain rfl : entry = found := Option.some.inj (occupied.symm.trans inSlot)
      have same : (identity entry).operationId = prepared.journalEntry.operationId := by rw [mine]
      exact absurd (same.trans id.symm) other
    · exact ⟨clearing, same.trans id.symm, cleared, invariant.clears clearing cleared⟩
  · intro p s' step entry occupied
    rcases step.slot occupied with same | ⟨prepared, settlement, steps, settling, mine, settled⟩
    · exact .inl same
    · refine .inr ⟨prepared, by rw [settling]; rfl, mine, ?_⟩
      exact settled.imp And.right And.right
  · intro p s' step entry occupied emptied
    rcases step.slot occupied with
      same | ⟨prepared, settlement, steps, settling, mine, ⟨-, marked⟩ | ⟨rfl, -⟩⟩
    · simp [emptied] at same
    · simp [emptied] at marked
    · exact ⟨prepared, mine, (invariant.settlements p _ _ settling).clear⟩

end runs


section sequential

variable {protocol : OperatorProtocol} {deploymentId : DeploymentId} {p : ℕ}

end sequential

/-! ## Two controllers with one operation -/

def keysPrepared (operationId : OperationId) (kind : AttemptKind) : PreparedOperation where
  signed := ⟨⟨operationId, "kid", "main", "4", .keysList⟩,
    String.ofList (['h', '.'] ++ List.replicate operationId 'p' ++ ['.', 's']), operationId + 1⟩
  kind

def keysInput : ControlOperationInput := ⟨.keysList, "4"⟩

/-- The target refuses the operation for an outdated revision. -/
def refusedReceipt : ControlOperationReceipt := ⟨1, false, none, some "CONFIG_REVISION_MISMATCH"⟩

def refusedVerdict : DispatchVerdict := .definitivelyRejected "CONFIG_REVISION_MISMATCH"

/-- The target has accepted the operation and works on it. -/
def acceptedReceipt : ControlOperationReceipt := ⟨1, true, some ⟨1, 2, .inProgress, none⟩, none⟩

def acceptedEntry : OperationJournalEntry :=
  { (keysPrepared 1 .fresh).journalEntry with state := .accepted }

/-- The next request that is sent while another operation occupies the slot, with no final answer
known of that operation. -/
def SentAlone (protocol : OperatorProtocol) (deploymentId : DeploymentId) (s : System) : Prop :=
  ∀ p s', Step protocol deploymentId p s s' → ∀ request requestHash,
    s'.history = .sent request requestHash :: s.history → ∀ entry, s.slot = some entry →
      entry.operationId ≠ request.operationId → ∃ prepared,
        prepared.journalEntry.operationId = entry.operationId ∧
          ((∃ code, .answered prepared (.definitivelyRejected code) ∈ s.history) ∨
            ∃ result, .answered prepared (.terminal result) ∈ s.history)

/-- An accepted entry is cleared only after its terminal result was persisted. -/
def ClearedPersisted (protocol : OperatorProtocol) (deploymentId : DeploymentId) (s : System) :
    Prop :=
  ∀ p s', Step protocol deploymentId p s s' → ∀ entry, s.slot = some entry →
    entry.state = .accepted → s'.slot = none → ∃ prepared result,
      entry.hasSameIdentity prepared.journalEntry = true ∧ Bound protocol prepared result ∧
        .settled prepared (.persist result) ∈ s.history

/-- The first controller has prepared its operation, and the second resumed it. -/
def sharedSystem : System where
  slot := some (keysPrepared 1 .fresh).journalEntry
  processes q := if q = 1 then .ready (keysPrepared 1 .resumed)
    else if q = 0 then .ready (keysPrepared 1 .fresh) else .idle
  minted := [(keysPrepared 1 .fresh).journalEntry]
  history := [.recorded (keysPrepared 1 .fresh)]

theorem shared_reachable : Reachable operatorProtocol "main" sharedSystem := by
  have looked := Reachable.step 0 .start
    (@Step.look operatorProtocol "main" 0 .start keysInput rfl rfl)
  have signed := Reachable.step 0 looked
    (@Step.sign _ _ _ _ keysInput 1 "kid" (keysPrepared 1 .fresh).signed rfl nofun rfl)
  have recorded := Reachable.step 0 signed
    (@Step.record _ _ _ _ (keysPrepared 1 .fresh) _ rfl rfl)
  have resumed := Reachable.step 1 recorded
    (@Step.resume _ _ _ _ keysInput _ (keysPrepared 1 .resumed) rfl rfl rfl)
  have processes : sharedSystem.processes = Function.update (Function.update (Function.update
      (Function.update (fun _ => .idle) 0 (.signing keysInput)) 0
        (.recording (keysPrepared 1 .fresh))) 0 (.ready (keysPrepared 1 .fresh)))
          1 (.ready (keysPrepared 1 .resumed)) := by
    funext q
    by_cases second : q = 1 <;> by_cases first : q = 0 <;> simp [sharedSystem, second, first]
  have same : sharedSystem = ⟨_, _, _, _⟩ := congrArg
    (System.mk _ · [(keysPrepared 1 .fresh).journalEntry] [.recorded (keysPrepared 1 .fresh)])
    processes
  rw [same]
  exact resumed

theorem interleaved_controllers :
    (¬∀ s, Reachable operatorProtocol "main" s → SentAlone operatorProtocol "main" s) ∧
    ¬∀ s, Reachable operatorProtocol "main" s → ClearedPersisted operatorProtocol "main" s := by
  constructor
  · intro alone
    -- The second controller is refused and clears the slot, and a third one fills it.
    have sent := Reachable.step 1 shared_reachable
      (@Step.send _ _ _ _ (keysPrepared 1 .resumed) none _ rfl rfl)
    have answered := Reachable.step 1 sent
      (@Step.answer _ _ _ _ (keysPrepared 1 .resumed) refusedReceipt refusedVerdict _ rfl rfl rfl)
    have cleared := Reachable.step 1 answered
      (@Step.settle _ _ _ _ (keysPrepared 1 .resumed) .clear [] (fun _ => .ok ()) none rfl rfl)
    have looked := Reachable.step 2 cleared (@Step.look _ _ _ _ keysInput rfl rfl)
    have signed := Reachable.step 2 looked
      (@Step.sign _ _ _ _ keysInput 2 "kid" (keysPrepared 2 .fresh).signed rfl
        (by simp [System.move, System.log, sharedSystem, keysPrepared,
          PreparedOperation.journalEntry]) rfl)
    have recorded := Reachable.step 2 signed
      (@Step.record _ _ _ _ (keysPrepared 2 .fresh) _ rfl rfl)
    obtain ⟨prepared, id, final⟩ := alone _ recorded 0 _
      (@Step.send _ _ _ _ (keysPrepared 1 .fresh) none _ rfl rfl) _ _ rfl
      (keysPrepared 2 .fresh).journalEntry rfl (by decide)
    have first : prepared = keysPrepared 1 .resumed := by
      rcases final with ⟨code, final⟩ | ⟨result, final⟩
      · have listed : prepared = keysPrepared 1 .resumed ∧ code = "CONFIG_REVISION_MISMATCH" := by
          simpa [System.move, System.log, sharedSystem, refusedVerdict] using final
        exact listed.1
      · simp [System.move, System.log, sharedSystem, refusedVerdict] at final
    subst first
    exact absurd id (by decide)
  · intro persisted
    -- The first controller learns that the operation runs, the second that it is refused.
    have sent := Reachable.step 0 shared_reachable
      (@Step.send _ _ _ _ (keysPrepared 1 .fresh) none _ rfl rfl)
    have running := Reachable.step 0 sent
      (@Step.answer _ _ _ _ (keysPrepared 1 .fresh) acceptedReceipt .inProgressAccepted _
        rfl rfl rfl)
    have marked := Reachable.step 0 running
      (@Step.settle _ _ _ _ (keysPrepared 1 .fresh) .markAccepted [] (fun _ => .ok ())
        (some acceptedEntry) rfl rfl)
    have resent := Reachable.step 1 marked
      (@Step.send _ _ _ _ (keysPrepared 1 .resumed) none _ rfl rfl)
    have refused := Reachable.step 1 resent
      (@Step.answer _ _ _ _ (keysPrepared 1 .resumed) refusedReceipt refusedVerdict _ rfl rfl rfl)
    obtain ⟨prepared, result, -, -, final⟩ := persisted _ refused 1 _
      (@Step.settle _ _ _ _ (keysPrepared 1 .resumed) .clear [] (fun _ => .ok ()) none rfl rfl)
      acceptedEntry rfl rfl rfl
    simp [System.move, System.log, sharedSystem] at final

theorem shared_slot_accept_once : AcceptOnce operatorProtocol "main" sharedSystem :=
  control_slot_accept_once operatorProtocol "main" shared_reachable

/-- The only controller has been told that its operation is refused. -/
def refusedSystem : System where
  slot := some (keysPrepared 1 .fresh).journalEntry
  processes _ := .settling (keysPrepared 1 .fresh) [.clear]
  minted := [(keysPrepared 1 .fresh).journalEntry]
  history := [.answered (keysPrepared 1 .fresh) refusedVerdict]

end NazoAuthCtl.ControlSlot
