import NazoAuthCtl.JournalCompaction

/-!
# Operations under the target's journal

`run_journaled` puts the execution of an operation between two lines of the
journal file. Every effect on the file can fail or be cut off, and so can the
execution, whose world is left open. An append that is cut off before its line
is complete leaves a tail that the next reader drops, so it counts as an append
that did not happen.
-/

set_option autoImplicit false
set_option linter.all false

namespace NazoAuthCtl.JournaledCalls

open FaultProgram TargetState JournalCompaction

inductive StateMutationPayload where
  | bootstrap
  | applyConfig
  | update
  | rollback
  | uninstall
  deriving DecidableEq, Repr

inductive HostOperationBody where
  | ping
  | hello
  | stateInspect
  | stateMutate (mutation : StateMutationPayload)
  | controlOperation
  | stateList
  | adminCreate
  | runtimeLogs
  | journalRead
  | backupSnapshot
  | backupRestoreTest
  | backupRecover
  | backupRecoveryCandidateStage
  | backupRecoveryCandidateControl
  | backupRecoveryCandidateCleanup
  | backupRecoveryActivate
  | backupExportPrepare
  | backupImportPrepare
  | backupTransferRead
  | backupTransferWrite
  | backupImportFinalize
  | backupOffHostRecord
  | backupTransferCleanup
  deriving DecidableEq, Repr

def HostOperationBody.kind : HostOperationBody → HostOperationKind
  | .ping => .ping
  | .hello => .hello
  | .stateInspect => .stateInspect
  | .stateMutate _ => .stateMutate
  | .controlOperation => .controlOperation
  | .stateList => .stateList
  | .adminCreate => .adminCreate
  | .runtimeLogs => .runtimeLogs
  | .journalRead => .journalRead
  | .backupSnapshot => .backupSnapshot
  | .backupRestoreTest => .backupRestoreTest
  | .backupRecover => .backupRecover
  | .backupRecoveryCandidateStage => .backupRecoveryCandidateStage
  | .backupRecoveryCandidateControl => .backupRecoveryCandidateControl
  | .backupRecoveryCandidateCleanup => .backupRecoveryCandidateCleanup
  | .backupRecoveryActivate => .backupRecoveryActivate
  | .backupExportPrepare => .backupExportPrepare
  | .backupImportPrepare => .backupImportPrepare
  | .backupTransferRead => .backupTransferRead
  | .backupTransferWrite => .backupTransferWrite
  | .backupImportFinalize => .backupImportFinalize
  | .backupOffHostRecord => .backupOffhostRecord
  | .backupTransferCleanup => .backupTransferCleanup

/-- The operations whose stored failure does not answer a retry. -/
def HostOperationBody.retriesFailure : HostOperationBody → Bool
  | .backupRecover | .backupRecoveryCandidateStage | .backupRecoveryCandidateControl
  | .backupRecoveryCandidateCleanup | .backupRecoveryActivate
  | .stateMutate .uninstall => true
  | _ => false

/-- An operation by its id, its canonical hash and its kind. -/
structure HostOperation where
  operationId : OperationId
  canonicalHash : Digest
  body : HostOperationBody
  deriving DecidableEq, Repr

variable {ρ β ω α : Type}

structure TargetJournal (β : Type) where
  bounds : JournalBounds
  /-- The JSON encoding of a line. -/
  encode : JournalLine β → Bytes

/-- The journal file of one scope, and whatever executions act on. -/
structure Scope (β ω : Type) where
  lines : List (JournalLine β)
  world : ω
  deriving DecidableEq, Repr

inductive JournalEffect where
  | lock
  | compactOpening
  | appendPending
  | compactPending
  | rewrite
  | appendTerminal
  | compactTerminal
  deriving DecidableEq, Repr

structure Attempt (ρ : Type) where
  faults : JournalEffect → Fault String
  acceptedAt : ℤ
  completedAt : ℤ
  execution : ρ

inductive JournalError where
  | storage (detail : String)
  | oversize
  | invalid
  deriving DecidableEq, Repr

abbrev Journaling (ρ β ω : Type) := Program (Attempt ρ) (Scope β ω) JournalError

/-- An execution returns a result unless the process is lost in it. -/
abbrev Execution (ρ β ω : Type) := ρ → ω → Option (HostOutcome β) × ω

def touch (label : JournalEffect) (body : Journaling ρ β ω α) : Journaling ρ β ω α :=
  Program.effect (fun attempt => attempt.faults label) .storage body

def executing (execute : Execution ρ β ω) : Journaling ρ β ω (HostOutcome β) :=
  fun attempt scope =>
    match execute attempt.execution scope.world with
    | (some outcome, world) => (.ok outcome, { scope with world })
    | (none, world) => (.crashed, { scope with world })

def writeLines (lines : List (JournalLine β)) : Journaling ρ β ω Unit :=
  Program.modify fun scope => { scope with lines }

def pendingLine (operation : HostOperation) (recordedAt : ℤ) : JournalLine β where
  operationId := operation.operationId
  operationHash := operation.canonicalHash
  action := operation.body.kind
  recordedAt
  status := .pending
  result := none

def terminalLine (operation : HostOperation) (recordedAt : ℤ) (outcome : HostOutcome β) :
    JournalLine β where
  operationId := operation.operationId
  operationHash := operation.canonicalHash
  action := operation.body.kind
  recordedAt
  status := match outcome with
    | .completed _ => .completed
    | .failed _ _ => .failed
  result := some outcome

def conflictFor (operation : HostOperation) (accepted : JournalLine β) : HostOutcome β :=
  .failed "OPERATION_ID_CONFLICT"
    (s!"generate a new operation_id instead of retrying; this id was already accepted with " ++
      s!"request hash {accepted.operationHash} instead of {operation.canonicalHash}")

def capacityRefusal : HostOutcome β :=
  .failed "TARGET_JOURNAL_CAPACITY"
    ("unsettled operations fill the journal admission budget; resume those operations before " ++
      "starting another")

/-- A line of the operation under another hash, the first one if there are several. -/
def conflicting (operation : HostOperation) (lines : List (JournalLine β)) :
    Option (JournalLine β) :=
  lines.find? fun line => line.operationId = operation.operationId ∧
    line.operationHash ≠ operation.canonicalHash

def resumes (operation : HostOperation) (lines : List (JournalLine β)) : Prop :=
  ∃ line ∈ latest lines operation.operationId, line.status = .pending

instance (operation : HostOperation) (lines : List (JournalLine β)) :
    Decidable (resumes operation lines) :=
  inferInstanceAs (Decidable (∃ line ∈ latest lines operation.operationId, line.status = .pending))

/-- The stored result that answers the operation. -/
def storedAnswer (operation : HostOperation) (lines : List (JournalLine β)) :
    Option (HostOutcome β) :=
  match latest lines operation.operationId with
  | none => none
  | some line =>
    if line.status ≠ .pending ∧ ¬(line.status = .failed ∧ operation.body.retriesFailure = true)
      then line.result else none

/-- The result leaves the entry pending. -/
def keepsPending : HostOutcome β → Bool
  | .failed code _ =>
    code ∈ ["CONTROL_OUTCOME_UNKNOWN", "CONTROL_EXECUTION_UNAVAILABLE", "OUTCOME_UNKNOWN",
      "PRIVILEGE_REQUIRED"]
  | .completed _ => false

/-- The result is the no-op of an update, which leaves no trace in the journal. -/
def isUpdateNoop (operation : HostOperation) : HostOutcome β → Bool
  | .completed (.stateMutateNoop _) => operation.body = .stateMutate .update
  | _ => false

section calls

variable (journal : TargetJournal β)

/-- `read_lines_with`. -/
def readLines : Journaling ρ β ω (List (JournalLine β)) := do
  let scope ← Program.get
  Program.require (totalSize journal.encode scope.lines ≤ journal.bounds.readCap) .oversize
  Program.require (∀ line ∈ scope.lines, validateEntry line = true) .invalid
  pure scope.lines

/-- `compact_if_needed`. -/
def compactIfNeeded (label : JournalEffect) :
    Journaling ρ β ω (Option (List (JournalLine β))) := do
  let scope ← Program.get
  if totalSize journal.encode scope.lines ≤ journal.bounds.maxBytes then pure none
  else do
    let lines ← readLines journal
    let kept := (compactLines journal.encode journal.bounds lines).1
    touch label (writeLines kept)
    pure (some kept)

/-- `append`. -/
def append (label : JournalEffect) (line : JournalLine β) : Journaling ρ β ω Unit :=
  touch label (Program.modify fun scope => { scope with lines := scope.lines ++ [line] })

/-- `remove_operation`. -/
def removeOperation (operation : OperationId) : Journaling ρ β ω Unit := do
  let lines ← readLines journal
  touch .rewrite (writeLines (lines.filter fun line => line.operationId ≠ operation))

/-- The opening of `run_journaled`: the lock, and the lines the call decides on. -/
def openJournal : Journaling ρ β ω (List (JournalLine β)) := do
  touch .lock (pure ())
  match ← compactIfNeeded journal .compactOpening with
  | some lines => pure lines
  | none => readLines journal

/-- The pending line of an operation that is not resumed, unless there is no room for it. -/
def acceptOperation (operation : HostOperation) (lines : List (JournalLine β)) :
    Journaling ρ β ω (Option (HostOutcome β)) :=
  if resumes operation lines then pure none
  else do
    let attempt ← Program.environment
    let pending := pendingLine operation attempt.acceptedAt
    if journal.bounds.maxPendingBytes <
        lineSize journal.encode pending + totalSize journal.encode (unsettled [] lines.reverse)
    then pure (some capacityRefusal)
    else do
      append .appendPending pending
      let _ ← compactIfNeeded journal .compactPending
      pure none

/-- What `run_journaled` records of a result. -/
def recordOutcome (operation : HostOperation) (outcome : HostOutcome β) :
    Journaling ρ β ω (HostOutcome β) :=
  if isUpdateNoop operation outcome then do
    removeOperation journal operation.operationId
    pure outcome
  else if keepsPending outcome then pure outcome
  else do
    let attempt ← Program.environment
    append .appendTerminal (terminalLine operation attempt.completedAt outcome)
    let _ ← compactIfNeeded journal .compactTerminal
    pure outcome

/-- `TargetJournal::run_journaled`. -/
def runJournaled (operation : HostOperation) (execute : Execution ρ β ω) :
    Journaling ρ β ω (HostOutcome β) := do
  let lines ← openJournal journal
  match conflicting operation lines with
  | some accepted => pure (conflictFor operation accepted)
  | none =>
    match storedAnswer operation lines with
    | some result => pure result
    | none => do
      match ← acceptOperation journal operation lines with
      | some refusal => pure refusal
      | none => do
        let outcome ← executing execute
        recordOutcome journal operation outcome

end calls

section opening

variable (journal : TargetJournal β) {e : Attempt ρ} {s : Scope β ω}

theorem ensures_touch (label : JournalEffect) (body : Journaling ρ β ω α)
    (Q : Outcome JournalError α → Scope β ω → Prop) :
    Program.Ensures (touch label body) e Q s ↔
      (e.faults label = .none → Program.Ensures body e Q s) ∧
      (∀ d, e.faults label = .fail d → Q (.error (.storage d)) s) ∧
      (e.faults label = .crash → Q .crashed s) :=
  Program.ensures_effect _ _ _ _

/-- A read succeeds on the lines of the file, or the call ends there. -/
theorem readLines_ensures : Program.Ensures (readLines journal : Journaling ρ β ω _) e
    (fun o s' => s' = s ∧ o ≠ .crashed ∧ ∀ lines, o = .ok lines → lines = s.lines ∧
      totalSize journal.encode s.lines ≤ journal.bounds.readCap) s := by
  simp only [readLines, Program.ensures_bind, Program.ensures_get, Program.after_ok,
    Program.ensures_require, Program.after_error, Program.ensures_pure]
  refine ⟨fun cap => ⟨fun _ => ⟨trivial, by simp, ?_⟩, fun _ => by simp⟩, fun _ => by simp⟩
  rintro lines ⟨⟩
  exact ⟨rfl, cap⟩

def compacted (lines : List (JournalLine β)) : List (JournalLine β) :=
  (compactLines journal.encode journal.bounds lines).1

/-- After a bounded file was left alone or a larger one compacted. -/
def Settled (lines lines' : List (JournalLine β)) : Prop :=
  (totalSize journal.encode lines ≤ journal.bounds.maxBytes ∧ lines' = lines) ∨
    (journal.bounds.maxBytes < totalSize journal.encode lines ∧
      totalSize journal.encode lines ≤ journal.bounds.readCap ∧ lines' = compacted journal lines)

theorem compactIfNeeded_ensures (label : JournalEffect) :
    Program.Ensures (compactIfNeeded journal label : Journaling ρ β ω _) e
      (fun o s' => (s' = s ∧ ∀ r, o ≠ .ok r) ∨
        (∃ r, o = .ok r ∧ (∀ lines ∈ r, lines = s'.lines) ∧ s'.world = s.world ∧
          Settled journal s.lines s'.lines)) s := by
  simp only [compactIfNeeded, Program.ensures_bind, Program.ensures_get, Program.after_ok]
  split_ifs with small
  · simp [Settled, small]
  rw [Program.ensures_bind]
  refine (readLines_ensures journal).mono ?_
  rintro (lines | failure | _) s' ⟨rfl, alive, read⟩
  · obtain ⟨rfl, cap⟩ := read lines rfl
    simp only [Program.after_ok, Program.ensures_bind, ensures_touch, writeLines,
      Program.ensures_modify, Program.after_error, Program.after_crashed, Program.ensures_pure]
    refine ⟨fun _ => .inr ⟨_, rfl, by simp, trivial, .inr ⟨Nat.lt_of_not_le small, cap, rfl⟩⟩,
      fun d _ => .inl ⟨trivial, by simp⟩, fun _ => .inl ⟨trivial, by simp⟩⟩
  · exact .inl ⟨rfl, by simp⟩
  · exact absurd rfl alive

/-- What a call that got past its opening has in hand. -/
theorem openJournal_ensures : Program.Ensures (openJournal journal : Journaling ρ β ω _) e
    (fun o s' => (∀ lines, o = .ok lines →
        lines = s'.lines ∧ s'.world = s.world ∧ Settled journal s.lines s'.lines) ∧
      ((∀ r, o ≠ .ok r) → s'.world = s.world ∧
        (s'.lines = s.lines ∨ Settled journal s.lines s'.lines))) s := by
  simp only [openJournal, Program.ensures_bind, ensures_touch, Program.ensures_pure,
    Program.after_ok, Program.after_error, Program.after_crashed]
  refine ⟨fun _ => ?_, by simp, by simp⟩
  refine (compactIfNeeded_ensures journal .compactOpening).mono ?_
  rintro o s₁ (⟨rfl, failed⟩ | ⟨r, rfl, kept, world, settled⟩)
  · cases o with
    | ok r => exact absurd rfl (failed r)
    | error failure => simp
    | crashed => simp
  cases r with
  | some lines => simpa [world] using ⟨kept lines rfl, settled⟩
  | none =>
    rw [Program.after_ok]
    refine (readLines_ensures journal).mono ?_
    rintro o s₂ ⟨rfl, -, read⟩
    exact ⟨fun lines h => ⟨(read lines h).1, world, settled⟩, fun _ => ⟨world, .inr settled⟩⟩

theorem compacted_sublist (lines : List (JournalLine β)) :
    (compacted journal lines).Sublist lines :=
  retain_sublist _ _

theorem Settled.sublist {lines lines' : List (JournalLine β)} (h : Settled journal lines lines') :
    lines'.Sublist lines := by
  rcases h with ⟨-, rfl⟩ | ⟨-, -, rfl⟩
  · exact List.Sublist.refl _
  · exact compacted_sublist journal lines

end opening

section invariants

variable (journal : TargetJournal β) {operation : HostOperation} {e : Attempt ρ} {s : Scope β ω}

/-- Every line of the operation carries its canonical hash. -/
def Agrees (operation : HostOperation) (lines : List (JournalLine β)) : Prop :=
  ∀ line ∈ lines, line.operationId = operation.operationId →
    line.operationHash = operation.canonicalHash

theorem conflicting_none {lines : List (JournalLine β)} :
    conflicting operation lines = none ↔ Agrees operation lines := by
  simp [conflicting, Agrees]

theorem Agrees.sublist {lines lines' : List (JournalLine β)} (h : Agrees operation lines)
    (sub : lines'.Sublist lines) : Agrees operation lines' :=
  fun line hline => h line (sub.subset hline)

theorem Agrees.append_pending {lines : List (JournalLine β)} (h : Agrees operation lines)
    (recordedAt : ℤ) : Agrees operation (lines ++ [pendingLine operation recordedAt]) := by
  intro line hline same
  rcases List.mem_append.mp hline with hline | hline
  · exact h line hline same
  · rw [List.mem_singleton.mp hline]
    rfl

/-- A property of the file that one call keeps: `I` at every point where the call may be cut
off, `R` wherever the file has just been bounded. -/
structure Kept (operation : HostOperation) (appends : JournalLine β → Prop)
    (I R : List (JournalLine β) → Prop) : Prop where
  rest : ∀ {lines}, R lines → I lines
  settle : ∀ {lines lines'}, I lines → Settled journal lines lines' → R lines'
  pending : ∀ {lines} recordedAt, R lines → Agrees operation lines → ¬resumes operation lines →
    lineSize journal.encode (pendingLine operation recordedAt) +
      totalSize journal.encode (unsettled [] lines.reverse) ≤ journal.bounds.maxPendingBytes →
    I (lines ++ [pendingLine operation recordedAt])
  terminal : ∀ {lines} recordedAt outcome, R lines → Agrees operation lines →
    appends (terminalLine operation recordedAt outcome) →
    I (lines ++ [terminalLine operation recordedAt outcome])
  remove : ∀ {lines}, R lines →
    R (lines.filter fun line => line.operationId ≠ operation.operationId)

variable {journal} {appends : JournalLine β → Prop} {I R : List (JournalLine β) → Prop}

theorem Kept.compact (kept : Kept journal operation appends I R) (label : JournalEffect)
    (h : I s.lines) : Program.Ensures (compactIfNeeded journal label : Journaling ρ β ω _) e
      (fun o s' => I s'.lines ∧ s'.world = s.world ∧ s'.lines.Sublist s.lines ∧
        ∀ r, o = .ok r → R s'.lines) s := by
  refine (compactIfNeeded_ensures journal label).mono ?_
  rintro o s' (⟨rfl, failed⟩ | ⟨r, rfl, -, world, settled⟩)
  · exact ⟨h, rfl, List.Sublist.refl _, fun r hr => absurd hr (failed r)⟩
  · have bounded := kept.settle h settled
    exact ⟨kept.rest bounded, world, settled.sublist, fun _ _ => bounded⟩

theorem Kept.accept (kept : Kept journal operation appends I R) {lines : List (JournalLine β)}
    (h : R s.lines) (same : lines = s.lines) (agrees : Agrees operation lines) :
    Program.Ensures (acceptOperation journal operation lines : Journaling ρ β ω _) e
      (fun o s' => I s'.lines ∧ ∀ r, o = .ok r → R s'.lines ∧ Agrees operation s'.lines) s := by
  subst same
  unfold acceptOperation
  split_ifs with resumed
  · exact ⟨kept.rest h, fun _ _ => ⟨h, agrees⟩⟩
  simp only [Program.ensures_bind, Program.ensures_environment, Program.after_ok]
  split_ifs with full
  · exact ⟨kept.rest h, fun _ _ => ⟨h, agrees⟩⟩
  have room := kept.pending e.acceptedAt h agrees resumed (Nat.le_of_not_lt full)
  simp only [append, Program.ensures_bind, ensures_touch, Program.ensures_modify,
    Program.after_ok, Program.after_error, Program.after_crashed]
  refine ⟨fun _ => ?_, fun d _ => ⟨kept.rest h, by simp⟩, fun _ => ⟨kept.rest h, by simp⟩⟩
  refine (kept.compact .compactPending room).mono ?_
  rintro (r | failure | _) s' ⟨still, -, sub, settled⟩
  · exact ⟨still, fun _ _ => ⟨settled r rfl, (agrees.append_pending _).sublist sub⟩⟩
  · exact ⟨still, by simp⟩
  · exact ⟨still, by simp⟩

theorem Kept.record (kept : Kept journal operation appends I R) {outcome : HostOutcome β}
    (h : R s.lines) (agrees : Agrees operation s.lines)
    (small : appends (terminalLine operation e.completedAt outcome)) :
    Program.Ensures (recordOutcome journal operation outcome : Journaling ρ β ω _) e
      (fun o s' => I s'.lines ∧ ∀ r, o = .ok r → R s'.lines) s := by
  unfold recordOutcome
  split_ifs with noop keeps
  · simp only [removeOperation, Program.ensures_bind]
    refine (readLines_ensures journal).mono ?_
    rintro (lines | failure | _) s' ⟨rfl, -, read⟩
    · obtain ⟨rfl, -⟩ := read lines rfl
      have gone := kept.remove h
      simp only [Program.after_ok, ensures_touch, writeLines, Program.ensures_modify,
        Program.ensures_pure, Program.after_error, Program.after_crashed]
      exact ⟨fun _ => ⟨kept.rest gone, fun _ _ => gone⟩, fun d _ => ⟨kept.rest h, by simp⟩,
        fun _ => ⟨kept.rest h, by simp⟩⟩
    · exact ⟨kept.rest h, by simp⟩
    · exact ⟨kept.rest h, by simp⟩
  · exact ⟨kept.rest h, fun _ _ => h⟩
  · have grown := kept.terminal e.completedAt outcome h agrees small
    simp only [append, Program.ensures_bind, Program.ensures_environment, ensures_touch,
      Program.ensures_modify, Program.after_ok, Program.after_error, Program.after_crashed]
    refine ⟨fun _ => ?_, fun d _ => ⟨kept.rest h, by simp⟩, fun _ => ⟨kept.rest h, by simp⟩⟩
    refine (kept.compact .compactTerminal grown).mono ?_
    rintro (r | failure | _) s' ⟨still, -, -, settled⟩
    · exact ⟨still, fun _ _ => settled r rfl⟩
    · exact ⟨still, by simp⟩
    · exact ⟨still, by simp⟩

/-- What each effect of a call keeps is kept by the whole call, wherever it is cut off. -/
theorem Kept.run (kept : Kept journal operation appends I R) {execute : Execution ρ β ω}
    (small : ∀ world outcome world', execute e.execution world = (some outcome, world') →
      appends (terminalLine operation e.completedAt outcome)) (h : I s.lines) :
    Program.Ensures (runJournaled journal operation execute) e
      (fun o s' => I s'.lines ∧ ∀ r, o = .ok r → R s'.lines) s := by
  rw [runJournaled, Program.ensures_bind]
  refine (openJournal_ensures journal).mono ?_
  rintro (lines | failure | _) s₁ ⟨opened, failed⟩
  · obtain ⟨rfl, -, settled⟩ := opened lines rfl
    have bounded := kept.settle h settled
    have answered : ∀ r : HostOutcome β, I s₁.lines ∧
        ∀ r', (Outcome.ok r : Outcome JournalError _) = .ok r' → R s₁.lines :=
      fun _ => ⟨kept.rest bounded, fun _ _ => bounded⟩
    rw [Program.after_ok]
    cases conflict : conflicting operation s₁.lines with
    | some accepted => exact answered _
    | none =>
      have agrees := conflicting_none.mp conflict
      cases stored : storedAnswer operation s₁.lines with
      | some result => exact answered _
      | none =>
        simp only [Program.ensures_bind]
        refine (kept.accept bounded rfl agrees).mono ?_
        rintro (refusal | failure | _) s₂ ⟨still, accepted⟩
        · obtain ⟨bounded, agrees⟩ := accepted refusal rfl
          cases refusal with
          | some refusal => exact ⟨still, fun _ _ => bounded⟩
          | none =>
            rw [Program.after_ok, Program.ensures_bind]
            unfold Program.Ensures executing
            rcases run : execute e.execution s₂.world with ⟨_ | outcome, world⟩
            · exact ⟨still, by simp⟩
            · exact kept.record bounded agrees (small _ _ _ run)
        · exact ⟨still, by simp⟩
        · exact ⟨still, by simp⟩
  · obtain ⟨-, lines | settled⟩ := failed (by simp)
    · exact ⟨lines ▸ h, by simp⟩
    · exact ⟨kept.rest (kept.settle h settled), by simp⟩
  · obtain ⟨-, lines | settled⟩ := failed (by simp)
    · exact ⟨lines ▸ h, by simp⟩
    · exact ⟨kept.rest (kept.settle h settled), by simp⟩

end invariants

/-- One call of `run_journaled` with everything that is open about it. -/
structure Call (ρ β ω : Type) where
  operation : HostOperation
  execute : Execution ρ β ω
  attempt : Attempt ρ

def Call.run (journal : TargetJournal β) (call : Call ρ β ω) (scope : Scope β ω) :
    Outcome JournalError (HostOutcome β) × Scope β ω :=
  runJournaled journal call.operation call.execute call.attempt scope

/-- The terminal lines an execution of the call can lead to. -/
def Call.appends (call : Call ρ β ω) (line : JournalLine β) : Prop :=
  ∃ world outcome world', call.execute call.attempt.execution world = (some outcome, world') ∧
    line = terminalLine call.operation call.attempt.completedAt outcome

/-- The journals that calls lead to from an absent file, each call cut off anywhere. Between
two calls the world may change. -/
inductive Reachable (journal : TargetJournal β) (allowed : Call ρ β ω → Prop) :
    Scope β ω → Prop where
  | absent (world : ω) : Reachable journal allowed ⟨[], world⟩
  | call {scope : Scope β ω} (call : Call ρ β ω) :
    Reachable journal allowed scope → allowed call →
    Reachable journal allowed (call.run journal scope).2
  | elsewhere {scope : Scope β ω} (world : ω) :
    Reachable journal allowed scope → Reachable journal allowed { scope with world }

theorem Kept.call {journal : TargetJournal β} {call : Call ρ β ω}
    {I R : List (JournalLine β) → Prop} {scope : Scope β ω}
    (kept : Kept journal call.operation call.appends I R) (h : I scope.lines) :
    I (call.run journal scope).2.lines ∧
      ∀ outcome, (call.run journal scope).1 = .ok outcome → R (call.run journal scope).2.lines :=
  have appended : ∀ world outcome world',
      call.execute call.attempt.execution world = (some outcome, world') →
        call.appends (terminalLine call.operation call.attempt.completedAt outcome) :=
    fun world outcome world' run => ⟨world, outcome, world', run, rfl⟩
  kept.run appended h

theorem Reachable.invariant {journal : TargetJournal β} {allowed : Call ρ β ω → Prop}
    {I R : List (JournalLine β) → Prop} {scope : Scope β ω}
    (reachable : Reachable journal allowed scope) (absent : I [])
    (kept : ∀ call, allowed call → Kept journal call.operation call.appends I R) :
    I scope.lines := by
  induction reachable with
  | absent world => exact absent
  | call call _ permitted ih =>
    exact ((kept call permitted).call ih).1
  | elsewhere world _ ih => exact ih

/-- All lines of one operation carry one hash. -/
def Consistent (lines : List (JournalLine β)) : Prop :=
  ∀ line ∈ lines, ∀ other ∈ lines, line.operationId = other.operationId →
    line.operationHash = other.operationHash

theorem Consistent.sublist {lines lines' : List (JournalLine β)} (h : Consistent lines)
    (sub : lines'.Sublist lines) : Consistent lines' :=
  fun line hline other hother => h line (sub.subset hline) other (sub.subset hother)

theorem Consistent.append {lines : List (JournalLine β)} {operation : HostOperation}
    {line : JournalLine β} (h : Consistent lines) (agrees : Agrees operation lines)
    (id : line.operationId = operation.operationId)
    (hash : line.operationHash = operation.canonicalHash) : Consistent (lines ++ [line]) := by
  intro a ha b hb same
  simp only [List.mem_append, List.mem_singleton] at ha hb
  rcases ha with ha | rfl <;> rcases hb with hb | rfl
  · exact h a ha b hb same
  · rw [agrees a ha (same.trans id), hash]
  · rw [agrees b hb (same.symm.trans id), hash]
  · rfl

theorem consistent_kept (journal : TargetJournal β) (operation : HostOperation)
    (appends : JournalLine β → Prop) : Kept journal operation appends Consistent Consistent where
  rest h := h
  settle h settled := h.sublist settled.sublist
  pending _ h agrees _ _ := h.append agrees rfl rfl
  terminal _ _ h agrees _ := h.append agrees rfl rfl
  remove h := h.sublist List.filter_sublist

theorem Reachable.consistent {journal : TargetJournal β} {allowed : Call ρ β ω → Prop}
    {scope : Scope β ω} (reachable : Reachable journal allowed scope) :
    Consistent scope.lines :=
  reachable.invariant (R := Consistent) (by simp [Consistent])
    fun call _ => consistent_kept journal call.operation call.appends

theorem compactIfNeeded_sublist (journal : TargetJournal β) (label : JournalEffect)
    {e : Attempt ρ} {s : Scope β ω} :
    Program.Ensures (compactIfNeeded journal label : Journaling ρ β ω _) e
      (fun _ s' => s'.lines.Sublist s.lines) s := by
  refine (compactIfNeeded_ensures journal label).mono ?_
  rintro o s' (⟨rfl, -⟩ | ⟨_, -, -, -, settled⟩)
  · exact List.Sublist.refl _
  · exact settled.sublist

/-- Recording a result adds its terminal line at most. -/
theorem recordOutcome_sublist (journal : TargetJournal β) (operation : HostOperation)
    (outcome : HostOutcome β) {e : Attempt ρ} {s : Scope β ω} :
    Program.Ensures (recordOutcome journal operation outcome : Journaling ρ β ω _) e
      (fun _ s' => s'.lines.Sublist
        (s.lines ++ [terminalLine operation e.completedAt outcome])) s := by
  have grown := List.sublist_append_left s.lines
    [terminalLine operation e.completedAt outcome]
  unfold recordOutcome
  split_ifs with noop keeps
  · simp only [removeOperation, Program.ensures_bind]
    refine (readLines_ensures journal).mono ?_
    rintro (lines | failure | _) s' ⟨rfl, -, read⟩
    · obtain ⟨rfl, -⟩ := read lines rfl
      simp only [Program.after_ok, ensures_touch, writeLines, Program.ensures_modify,
        Program.ensures_pure, Program.after_error, Program.after_crashed]
      exact ⟨fun _ => List.filter_sublist.trans grown, fun _ _ => grown, fun _ => grown⟩
    · exact grown
    · exact grown
  · exact grown
  · simp only [append, Program.ensures_bind, Program.ensures_environment, ensures_touch,
      Program.ensures_modify, Program.after_ok, Program.after_error, Program.after_crashed]
    refine ⟨fun _ => ?_, fun _ _ => grown, fun _ => grown⟩
    refine (compactIfNeeded_sublist journal .compactTerminal).mono ?_
    rintro (r | failure | _) s' sub
    · exact sub
    · exact sub
    · exact sub

theorem latest_mem {lines : List (JournalLine β)} {operation : OperationId}
    {line : JournalLine β} (h : latest lines operation = some line) :
    line ∈ lines ∧ line.operationId = operation := by
  have found := List.find?_some h
  have member := List.mem_of_find?_eq_some h
  exact ⟨List.mem_reverse.mp member, by simpa using found⟩

theorem Consistent.agrees {lines : List (JournalLine β)} {operation : HostOperation}
    {line : JournalLine β} (h : Consistent lines) (member : line ∈ lines)
    (id : line.operationId = operation.operationId)
    (hash : line.operationHash = operation.canonicalHash) : Agrees operation lines :=
  fun other hother same => (h other hother line member (same.trans id.symm)).trans hash

/-- The three answers of a call that found its operation in the journal: a conflict, the
stored result, and the resumption of an interrupted execution. -/
structure Answered (journal : TargetJournal β) (call : Call ρ β ω) (scope opened : Scope β ω)
    (line : JournalLine β) : Prop where
  conflict : line.operationHash ≠ call.operation.canonicalHash →
    ∃ detail, call.run journal scope = (.ok (.failed "OPERATION_ID_CONFLICT" detail), opened)
  replay : line.operationHash = call.operation.canonicalHash →
    ∀ last ∈ latest opened.lines call.operation.operationId, last.status ≠ .pending →
      ∀ stored ∈ last.result,
        ¬(last.status = .failed ∧ call.operation.body.retriesFailure = true) →
          call.run journal scope = (.ok stored, opened)
  resume : line.operationHash = call.operation.canonicalHash →
    ∀ last ∈ latest opened.lines call.operation.operationId, last.status = .pending →
      call.run journal scope =
        (executing call.execute >>= recordOutcome journal call.operation) call.attempt opened ∧
      ((call.run journal scope).2.lines.filter fun line => line.status = .pending).Sublist
        (opened.lines.filter fun line => line.status = .pending)

theorem run_opened {journal : TargetJournal β} {call : Call ρ β ω} {scope opened : Scope β ω}
    {lines : List (JournalLine β)}
    (h : openJournal journal call.attempt scope = (.ok lines, opened)) :
    call.run journal scope = (match conflicting call.operation lines with
      | some accepted => pure (conflictFor call.operation accepted)
      | none => match storedAnswer call.operation lines with
        | some result => pure result
        | none => do
          match ← acceptOperation journal call.operation lines with
          | some refusal => pure refusal
          | none => do
            let outcome ← executing call.execute
            recordOutcome journal call.operation outcome :
        Journaling ρ β ω (HostOutcome β)) call.attempt opened :=
  Program.run_bind_ok h

/-- An execution that finds its operation pending adds no pending line. -/
theorem resumed_pending (journal : TargetJournal β) (operation : HostOperation)
    (execute : Execution ρ β ω) {e : Attempt ρ} {s : Scope β ω} :
    Program.Ensures (executing execute >>= recordOutcome journal operation) e
      (fun _ s' => (s'.lines.filter fun line => line.status = .pending).Sublist
        (s.lines.filter fun line => line.status = .pending)) s := by
  rw [Program.ensures_bind]
  unfold Program.Ensures executing
  rcases execute e.execution s.world with ⟨_ | outcome, world⟩
  · exact List.Sublist.refl _
  · have sub := recordOutcome_sublist journal operation outcome (e := e)
      (s := { s with world })
    have pendings : Program.Ensures (recordOutcome journal operation outcome) e
        (fun _ s' => (s'.lines.filter fun line => line.status = .pending).Sublist
          (s.lines.filter fun line => line.status = .pending)) { s with world } := by
      refine sub.mono fun _ s' sub => ?_
      have only := sub.filter fun line => decide (line.status = .pending)
      cases outcome <;> simpa [terminalLine] using only
    exact pendings

/-- A journal with the bounds of production. -/
def productionJournal : TargetJournal Bytes := ⟨.default, headerAndBody⟩

/-- A recovery whose every execution fails and is counted. -/
def failingRecovery : Call Unit Bytes ℕ where
  operation := ⟨1, 7, .backupRecover⟩
  execute := fun _ executions => (some (.failed "RESTORE_TEST_FAILED" "first"), executions + 1)
  attempt := ⟨fun _ => .none, 0, 1, ()⟩

end NazoAuthCtl.JournaledCalls
