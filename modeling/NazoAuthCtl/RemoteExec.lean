import NazoAuthCtl.JournalDispatch
import NazoAuthCtl.LineCodec

/-!
# Host operations over SSH

The local target hands an operation straight to the dispatch; the SSH target
sends it as one JSON document to the remote helper, which runs the same dispatch
and prints one document back. Backup chunks travel through a line stream when
the helper is recent enough. Each hop has its own bound: the encoder of either
side, the capture of the child's output, the frames of the stream and the
parsers. SSH carries the bytes unchanged, nothing times out, and the helper has
passed its handshake. An operation is one that has passed `validate`.
-/

set_option autoImplicit false
set_option linter.all false

namespace NazoAuthCtl.RemoteExec

open FaultProgram TargetState JournalCompaction JournaledCalls JournalDispatch LineCodec

variable {ρ β ω : Type}

def maxHostOperationBytes : ℕ := 6 * 1024 * 1024
def maxBackupEvidenceBytes : ℕ := 4 * 1024 * 1024
def maxHostResultBytes : ℕ := maxBackupEvidenceBytes + 64 * 1024
def maxCaptureBytes : ℕ := 1024 * 1024

structure HostResult (β : Type) where
  operationId : OperationId
  outcome : HostOutcome β
  deriving DecidableEq, Repr

/-- The JSON of the two messages. -/
structure Wire (β : Type) where
  operations : Codec HostOperation
  results : Codec (HostResult β)

/-- A target behind SSH. -/
structure SshTarget where
  /-- The verified helper is of version 0.3.1 or later. -/
  streamsTransfers : Bool
  deriving DecidableEq, Repr

def isTransferChunk : HostOperationBody → Bool
  | .backupTransferRead | .backupTransferWrite => true
  | _ => false

def SshTarget.streams (target : SshTarget) (operation : HostOperation) : Bool :=
  isTransferChunk operation.body && target.streamsTransfers

/-- The kinds that run under the journal. -/
def requiresJournal : HostOperationBody → Bool
  | .ping | .hello | .stateInspect | .stateList | .runtimeLogs | .journalRead
  | .backupTransferRead => false
  | _ => true

section transport

variable (wire : Wire β) (journal : TargetJournal β)

/-- `execute_journaled_validated`: the dispatch that both paths share. -/
def executeJournaledValidated (call : Call ρ β ω) : Journaling ρ β ω (HostResult β) := do
  let outcome ← if requiresJournal call.operation.body
    then runJournaled journal call.operation call.execute
    else executing call.execute
  pure ⟨call.operation.operationId, outcome⟩

def encodeBounded {α : Type} (codec : Codec α) (limit : ℕ) (value : α) : Option Bytes :=
  if (codec.encode value).length ≤ limit then some (codec.encode value) else none

def parseBounded {α : Type} (codec : Codec α) (limit : ℕ) (raw : Bytes) : Option α :=
  if raw.length ≤ limit then codec.decode raw else none

def encodeHostOperation : HostOperation → Option Bytes :=
  encodeBounded wire.operations maxHostOperationBytes

def parseHostOperation : Bytes → Option HostOperation :=
  parseBounded wire.operations maxHostOperationBytes

def encodeHostResult : HostResult β → Option Bytes :=
  encodeBounded wire.results maxHostResultBytes

def parseHostResult : Bytes → Option (HostResult β) :=
  parseBounded wire.results maxHostResultBytes

/-- What the helper prints for an operation it has read, if it exits with success. -/
def answer (call : Call ρ β ω) (operation : HostOperation) (scope : Scope β ω) :
    Option Bytes × Scope β ω :=
  match executeJournaledValidated journal { call with operation } call.attempt scope with
  | (.ok result, scope') => ((encodeHostResult wire result).map (· ++ [newline]), scope')
  | (_, scope') => (none, scope')

/-- `serve` on the bounded standard input. -/
def serve (call : Call ρ β ω) (input : Bytes) (scope : Scope β ω) :
    Option Bytes × Scope β ω :=
  match parseHostOperation wire (input.take (maxHostOperationBytes + 1)) with
  | none => (none, scope)
  | some operation => answer wire journal call operation scope

/-- `serve_stream` on one frame. -/
def serveStream (call : Call ρ β ω) (input : Bytes) (scope : Scope β ω) :
    Option Bytes × Scope β ω :=
  let frame := readLine (input.take (maxHostOperationBytes + 1))
  if frame.length > maxHostOperationBytes ∨ frame.getLast? ≠ some newline then (none, scope)
  else match parseHostOperation wire frame with
    | none => (none, scope)
    | some operation =>
      if isTransferChunk operation.body then answer wire journal call operation scope
      else (none, scope)

/-- `read_bounded` on the child's output. -/
def capture (stdout : Bytes) : Option Bytes :=
  if (stdout.take (maxCaptureBytes + 1)).length > maxCaptureBytes then none
  else some (stdout.take (maxCaptureBytes + 1))

/-- The reply of a line session with frames of `max_reply_bytes`. -/
def readReply (maxReplyBytes : ℕ) (stdout : Bytes) : Option Bytes :=
  let response := readLine (stdout.take (maxReplyBytes + 1))
  if response = [] ∨ response.length > maxReplyBytes ∨ response.getLast? ≠ some newline then none
  else some response

/-- `transmit` without the parsing of the reply. -/
def exchange (target : SshTarget) (call : Call ρ β ω) (payload : Bytes) (scope : Scope β ω) :
    Option Bytes × Scope β ω :=
  if target.streams call.operation then
    let (stdout, scope') := serveStream wire journal call (payload ++ [newline]) scope
    (stdout.bind (readReply (maxHostResultBytes + 1)), scope')
  else
    let (stdout, scope') := serve wire journal call payload scope
    (stdout.bind capture, scope')

/-- `SshTarget::execute_host_operation`. -/
def executeOverSsh (target : SshTarget) (call : Call ρ β ω) (scope : Scope β ω) :
    Option (HostResult β) × Scope β ω :=
  match encodeHostOperation wire call.operation with
  | none => (none, scope)
  | some payload =>
    let (stdout, scope') := exchange wire journal target call payload scope
    ((stdout.bind (parseHostResult wire)).filter
      fun result => result.operationId = call.operation.operationId, scope')

/-- `LocalTarget::execute_host_operation`. -/
def executeLocally (call : Call ρ β ω) (scope : Scope β ω) :
    Option (HostResult β) × Scope β ω :=
  match executeJournaledValidated journal call call.attempt scope with
  | (.ok result, scope') => (some result, scope')
  | (_, scope') => (none, scope')

end transport

section paths

variable {wire : Wire β} {journal : TargetJournal β} {target : SshTarget} {call : Call ρ β ω}
  {scope : Scope β ω}

/-- The least bound on the reply, which counts its newline. -/
def replyBound (target : SshTarget) (operation : HostOperation) : ℕ :=
  if target.streams operation then maxHostResultBytes else maxCaptureBytes

/-- The answer comes back through every bound. -/
def Fits (wire : Wire β) (target : SshTarget) (operation : HostOperation)
    (outcome : HostOutcome β) : Prop :=
  (wire.results.encode ⟨operation.operationId, outcome⟩).length < replyBound target operation

instance (operation : HostOperation) (outcome : HostOutcome β) :
    Decidable (Fits wire target operation outcome) :=
  inferInstanceAs (Decidable (_ < _))

/-- An operation of the stream leaves room for its newline. -/
def Framed (wire : Wire β) (target : SshTarget) (operation : HostOperation) : Prop :=
  target.streams operation = true →
    (wire.operations.encode operation).length < maxHostOperationBytes

theorem captured_reply (result : HostResult β) :
    (((encodeHostResult wire result).map (· ++ [newline])).bind capture).bind
        (parseHostResult wire) =
      if (wire.results.encode result).length < maxCaptureBytes then some result else none := by
  have caps : maxCaptureBytes ≤ maxHostResultBytes := by decide
  by_cases encodes : (wire.results.encode result).length ≤ maxHostResultBytes
  · by_cases fits : (wire.results.encode result).length < maxCaptureBytes
    · have whole : (wire.results.encode result ++ [newline]).take (maxCaptureBytes + 1) =
          wire.results.encode result ++ [newline] :=
        List.take_of_length_le (by simp; omega)
      have captured : capture (wire.results.encode result ++ [newline]) =
          some (wire.results.encode result ++ [newline]) := by
        rw [capture, whole, if_neg (by simp; omega)]
      have parses : parseHostResult wire (wire.results.encode result ++ [newline]) =
          some result := by
        rw [parseHostResult, parseBounded, if_pos (by simp; omega), wire.results.terminated]
      simp [encodeHostResult, encodeBounded, encodes, captured, parses, fits]
    · have captured : capture (wire.results.encode result ++ [newline]) = none := by
        rw [capture, if_pos (by simp; omega)]
      simp [encodeHostResult, encodeBounded, encodes, captured, fits]
  · have fits : ¬(wire.results.encode result).length < maxCaptureBytes := by omega
    simp [encodeHostResult, encodeBounded, encodes, fits]

theorem streamed_reply (result : HostResult β) :
    (((encodeHostResult wire result).map (· ++ [newline])).bind
        (readReply (maxHostResultBytes + 1))).bind (parseHostResult wire) =
      if (wire.results.encode result).length < maxHostResultBytes then some result else none := by
  by_cases encodes : (wire.results.encode result).length ≤ maxHostResultBytes
  · have whole : (wire.results.encode result ++ [newline]).take (maxHostResultBytes + 1 + 1) =
        wire.results.encode result ++ [newline] :=
      List.take_of_length_le (by simp; omega)
    have replied : readReply (maxHostResultBytes + 1) (wire.results.encode result ++ [newline]) =
        some (wire.results.encode result ++ [newline]) := by
      rw [readReply, whole, readLine_line (wire.results.compact result)]
      simp [encodes]
    have parses : parseHostResult wire (wire.results.encode result ++ [newline]) =
        if (wire.results.encode result).length < maxHostResultBytes then some result else none := by
      rw [parseHostResult, parseBounded, wire.results.terminated, List.length_append]
      exact if_congr Nat.succ_le_iff rfl rfl
    simp [encodeHostResult, encodeBounded, encodes, replied, parses]
  · have fits : ¬(wire.results.encode result).length < maxHostResultBytes := by omega
    simp [encodeHostResult, encodeBounded, encodes, fits]

end paths


section agreement

variable {wire : Wire β} {journal : TargetJournal β} {target : SshTarget} {call : Call ρ β ω}
  {scope : Scope β ω}

/-- A result is an answer under the id of the operation. -/
theorem executeJournaledValidated_ok {result : HostResult β} {scope' : Scope β ω}
    (h : executeJournaledValidated journal call call.attempt scope = (.ok result, scope')) :
    result.operationId = call.operation.operationId ∧
      (if requiresJournal call.operation.body then
        runJournaled journal call.operation call.execute call.attempt scope
      else executing call.execute call.attempt scope) = (.ok result.outcome, scope') := by
  unfold executeJournaledValidated at h
  by_cases journaled : requiresJournal call.operation.body = true
  · rw [if_pos journaled] at h
    obtain ⟨outcome, scope₁, run, answered⟩ := Program.run_bind_eq_ok h
    cases answered
    exact ⟨rfl, by rw [if_pos journaled, run]⟩
  · rw [if_neg journaled] at h
    obtain ⟨outcome, scope₁, run, answered⟩ := Program.run_bind_eq_ok h
    cases answered
    exact ⟨rfl, by rw [if_neg journaled, run]⟩

/-- Both paths reach the dispatch with the operation. -/
theorem exchange_framed
    (encodable : (wire.operations.encode call.operation).length ≤ maxHostOperationBytes)
    (framed : Framed wire target call.operation) :
    exchange wire journal target call (wire.operations.encode call.operation) scope =
      let (stdout, scope') := answer wire journal call call.operation scope
      (stdout.bind (if target.streams call.operation then readReply (maxHostResultBytes + 1)
        else capture), scope') := by
  by_cases streams : target.streams call.operation = true
  · have room := framed streams
    have kind : isTransferChunk call.operation.body = true :=
      (Bool.and_eq_true_iff.mp streams).1
    have whole : (wire.operations.encode call.operation ++ [newline]).take
        (maxHostOperationBytes + 1) = wire.operations.encode call.operation ++ [newline] :=
      List.take_of_length_le (by simp; omega)
    have parses : parseHostOperation wire (wire.operations.encode call.operation ++ [newline]) =
        some call.operation := by
      rw [parseHostOperation, parseBounded, if_pos (by simp; omega), wire.operations.terminated]
    have served : serveStream wire journal call
        (wire.operations.encode call.operation ++ [newline]) scope =
          answer wire journal call call.operation scope := by
      rw [serveStream, whole, readLine_line (wire.operations.compact call.operation)]
      simp [parses, kind, Nat.not_lt.mpr (Nat.succ_le_of_lt room)]
    rw [exchange, if_pos streams, served, if_pos streams]
  · have whole : (wire.operations.encode call.operation).take (maxHostOperationBytes + 1) =
        wire.operations.encode call.operation :=
      List.take_of_length_le (by omega)
    have parses : parseHostOperation wire (wire.operations.encode call.operation) =
        some call.operation := by
      rw [parseHostOperation, parseBounded, if_pos encodable, wire.operations.faithful]
    have served : serve wire journal call (wire.operations.encode call.operation) scope =
        answer wire journal call call.operation scope := by
      rw [serve, whole, parses]
    rw [exchange, if_neg streams, served, if_neg streams]

/-- What the SSH target returns is what the local target returns, unless it does not fit. -/
theorem executeOverSsh_framed
    (encodable : (wire.operations.encode call.operation).length ≤ maxHostOperationBytes)
    (framed : Framed wire target call.operation) :
    executeOverSsh wire journal target call scope =
      ((executeLocally journal call scope).1.filter
          fun result => decide (Fits wire target call.operation result.outcome),
        (executeLocally journal call scope).2) := by
  have encodes : encodeHostOperation wire call.operation =
      some (wire.operations.encode call.operation) := if_pos encodable
  simp only [executeOverSsh, encodes, exchange_framed encodable framed]
  unfold executeLocally answer
  rcases run : executeJournaledValidated journal call call.attempt scope with
    ⟨result | failure | _, scope'⟩
  · have id := (executeJournaledValidated_ok run).1
    have same : (⟨call.operation.operationId, result.outcome⟩ : HostResult β) = result := by
      rw [← id]
    have filtered : (some result).filter
        (fun result => decide (Fits wire target call.operation result.outcome)) =
        if (wire.results.encode result).length < replyBound target call.operation
          then some result else none := by
      simp [Option.filter, Fits, same]
    have addressed : ∀ fits : Prop, [Decidable fits] → ((if fits then some result else none).filter
        fun result => decide (result.operationId = call.operation.operationId)) =
          if fits then some result else none := by
      intro fits _
      by_cases h : fits <;> simp [h, Option.filter, id]
    refine Prod.ext ?_ rfl
    by_cases streams : target.streams call.operation = true
    · simp only [if_pos streams, streamed_reply, addressed, filtered, replyBound]
    · simp only [if_neg streams, captured_reply, addressed, filtered, replyBound]
  · rfl
  · rfl

end agreement


section bounds

variable (wire : Wire β) (journal : TargetJournal β) (target : SshTarget)

/-- The answer that the target has for a call: one of its journal's, or what the execution
gives. -/
def owed (call : Call ρ β ω) (scope : Scope β ω) : Option (HostOutcome β) :=
  let executed := (call.execute call.attempt.execution scope.world).1
  if requiresJournal call.operation.body then
    let lines := openedLines journal scope.lines
    match conflicting call.operation lines with
    | some accepted => some (conflictFor call.operation accepted)
    | none =>
      match storedAnswer call.operation lines with
      | some result => some result
      | none =>
        if admitted journal call.operation call.attempt.acceptedAt lines then executed
        else some capacityRefusal
  else executed

/-- The operation and the answer to it stay within every bound on their way. -/
def Carried (call : Call ρ β ω) (scope : Scope β ω) : Prop :=
  Framed wire target call.operation ∧
    ∀ outcome ∈ owed journal call scope, Fits wire target call.operation outcome

/-- The target supplies this call with answers that fit, whatever it finds. -/
structure Supplied (bodies : Digest → HostOperationBody) (call : Call ρ β ω) : Prop where
  covered : call.operation.body = bodies call.operation.canonicalHash
  framed : Framed wire target call.operation
  executed : ∀ world outcome, (call.execute call.attempt.execution world).1 = some outcome →
    Fits wire target call.operation outcome
  capacity : Fits wire target call.operation capacityRefusal

variable {wire journal target} {call : Call ρ β ω} {scope : Scope β ω}

theorem executeLocally_some {result : HostResult β}
    (h : (executeLocally journal call scope).1 = some result) :
    ∃ scope', executeJournaledValidated journal call call.attempt scope =
      (.ok result, scope') := by
  unfold executeLocally at h
  rcases run : executeJournaledValidated journal call call.attempt scope with
    ⟨answer | failure | _, scope'⟩
  · rw [run] at h
    cases h
    exact ⟨scope', rfl⟩
  · rw [run] at h
    cases h
  · rw [run] at h
    cases h

theorem executeLocally_owed {result : HostResult β}
    (h : (executeLocally journal call scope).1 = some result) :
    owed journal call scope = some result.outcome := by
  obtain ⟨scope', answered⟩ := executeLocally_some h
  have ran := (executeJournaledValidated_ok answered).2
  by_cases journaled : requiresJournal call.operation.body = true
  · rw [if_pos journaled] at ran
    have dispatched := call_dispatched journal call scope
    rw [show call.run journal scope = (.ok result.outcome, scope') from ran] at dispatched
    simp only [owed, if_pos journaled]
    generalize openedLines journal scope.lines = lines at dispatched ⊢
    generalize (Outcome.ok result.outcome, scope').2.world = world at dispatched
    generalize ho : (Outcome.ok result.outcome : Outcome JournalError (HostOutcome β)) = o
      at dispatched
    cases dispatched with
    | unanswered none => exact absurd ho.symm (none _)
    | conflict found => rw [found, Outcome.ok.inj ho]
    | stored agrees answer => rw [agrees, answer, Outcome.ok.inj ho]
    | refused agrees unanswered full =>
      rw [agrees, unanswered, if_neg full, Outcome.ok.inj ho]
    | executed agrees unanswered room answer =>
      rw [agrees, unanswered, if_pos room]
      exact answer _ ho.symm
  · rw [if_neg journaled] at ran
    simp only [owed, if_neg journaled]
    rcases run : call.execute call.attempt.execution scope.world with ⟨_ | outcome, world⟩
    · simp [executing, run] at ran
    · simp only [executing, run, Prod.mk.injEq, Outcome.ok.injEq] at ran
      rw [ran.1]

end bounds


section results

variable {wire : Wire β} {journal : TargetJournal β} {target : SshTarget} {call : Call ρ β ω}
  {scope : Scope β ω}

/-- A frame without room for its newline never reaches the dispatch. -/
theorem executeOverSsh_unframed (unframed : ¬Framed wire target call.operation) :
    (executeOverSsh wire journal target call scope).1 = none := by
  unfold executeOverSsh
  by_cases encodable : (wire.operations.encode call.operation).length ≤ maxHostOperationBytes
  · obtain ⟨streams, long⟩ := Classical.not_imp.mp unframed
    have encodes : encodeHostOperation wire call.operation =
        some (wire.operations.encode call.operation) := if_pos encodable
    have whole : (wire.operations.encode call.operation ++ [newline]).take
        (maxHostOperationBytes + 1) = wire.operations.encode call.operation ++ [newline] :=
      List.take_of_length_le (by simp; omega)
    have refused : serveStream wire journal call
        (wire.operations.encode call.operation ++ [newline]) scope = (none, scope) := by
      rw [serveStream, whole, readLine_line (wire.operations.compact call.operation)]
      exact if_pos (.inl (by simp; omega))
    simp [encodes, exchange, streams, refused]
  · have oversize : encodeHostOperation wire call.operation = none := if_neg encodable
    simp [oversize]

theorem executeOverSsh_carried
    (encodable : (wire.operations.encode call.operation).length ≤ maxHostOperationBytes)
    (carried : Carried wire journal target call scope) :
    executeOverSsh wire journal target call scope = executeLocally journal call scope := by
  rw [executeOverSsh_framed encodable carried.1]
  refine Prod.ext ?_ rfl
  cases answered : (executeLocally journal call scope).1 with
  | none => rfl
  | some result =>
    have fits := carried.2 result.outcome (executeLocally_owed answered)
    simp [Option.filter, fits]

theorem carried_of_answered
    (encodable : (wire.operations.encode call.operation).length ≤ maxHostOperationBytes)
    {result : HostResult β} (answered : (executeLocally journal call scope).1 = some result)
    (agrees : executeOverSsh wire journal target call scope =
      executeLocally journal call scope) : Carried wire journal target call scope := by
  have returned := (congrArg Prod.fst agrees).trans answered
  by_cases framed : Framed wire target call.operation
  · refine ⟨framed, fun outcome owes => ?_⟩
    obtain rfl : result.outcome = outcome :=
      Option.some.inj ((executeLocally_owed answered).symm.trans owes)
    rw [executeOverSsh_framed encodable framed, answered] at returned
    by_contra large
    simp [Option.filter, large] at returned
  · rw [executeOverSsh_unframed framed] at returned
    cases returned

/-- A line holds an answer that fits for the operation its hash covers. -/
def LineFits (wire : Wire β) (target : SshTarget) (bodies : Digest → HostOperationBody)
    (line : JournalLine β) : Prop :=
  ∀ outcome, line.result = some outcome →
    Fits wire target ⟨line.operationId, line.operationHash, bodies line.operationHash⟩ outcome

theorem supplied_lines {bodies : Digest → HostOperationBody}
    (reachable : Reachable journal (Supplied wire target bodies : Call ρ β ω → Prop) scope) :
    ∀ line ∈ scope.lines, LineFits wire target bodies line := by
  refine reachable_lines reachable (fun call supplied outcome h => by cases h)
    fun call supplied world outcome executed final stored h => ?_
  obtain rfl : outcome = stored := Option.some.inj h
  have fits := supplied.executed world outcome executed
  have operation : (⟨call.operation.operationId, call.operation.canonicalHash,
      bodies call.operation.canonicalHash⟩ : HostOperation) = call.operation := by
    rw [← supplied.covered]
  exact operation ▸ fits

/-- In a journal of answers that fit, so does every later answer, replayed or not. -/
theorem supplied_carried {bodies : Digest → HostOperationBody}
    (reachable : Reachable journal (Supplied wire target bodies : Call ρ β ω → Prop) scope)
    (supplied : Supplied wire target bodies call)
    (conflict : ∀ accepted ∈ conflicting call.operation (openedLines journal scope.lines),
      Fits wire target call.operation (conflictFor call.operation accepted)) :
    Carried wire journal target call scope := by
  refine ⟨supplied.framed, fun outcome owes => ?_⟩
  unfold owed at owes
  by_cases journaled : requiresJournal call.operation.body = true
  · simp only [if_pos journaled, Option.mem_def] at owes
    cases found : conflicting call.operation (openedLines journal scope.lines) with
    | some accepted =>
      simp only [found, Option.some.injEq] at owes
      exact owes ▸ conflict accepted found
    | none =>
      cases stored : storedAnswer call.operation (openedLines journal scope.lines) with
      | some result =>
        simp only [found, stored, Option.some.injEq] at owes
        obtain ⟨line, member, id, kept⟩ := storedAnswer_line stored
        have hash := conflicting_none.mp found line member id
        have fits := supplied_lines reachable line ((openedLines_sublist _).subset member)
          result kept
        have operation : (⟨line.operationId, line.operationHash, bodies line.operationHash⟩ :
            HostOperation) = call.operation := by
          rw [id, hash, ← supplied.covered]
        exact owes ▸ operation ▸ fits
      | none =>
        simp only [found, stored] at owes
        split_ifs at owes with room
        · exact supplied.executed _ outcome owes
        · cases owes
          exact supplied.capacity
  · simp only [if_neg journaled, Option.mem_def] at owes
    exact supplied.executed _ outcome owes

/-- A call that the local target answers is answered alike over SSH exactly if its answer stays
within the bounds. After a run of calls supplied with answers that fit, every such call is
answered alike, be it a replay. -/
theorem ssh_execution_agrees (wire : Wire β) (journal : TargetJournal β) (target : SshTarget) :
    (∀ (call : Call ρ β ω) (scope : Scope β ω),
      (wire.operations.encode call.operation).length ≤ maxHostOperationBytes →
        (Carried wire journal target call scope →
          executeOverSsh wire journal target call scope = executeLocally journal call scope) ∧
        (∀ result, (executeLocally journal call scope).1 = some result →
          (executeOverSsh wire journal target call scope = executeLocally journal call scope ↔
            Carried wire journal target call scope))) ∧
    (∀ (bodies : Digest → HostOperationBody) (scope : Scope β ω),
      Reachable journal (Supplied wire target bodies : Call ρ β ω → Prop) scope →
        ∀ call : Call ρ β ω, Supplied wire target bodies call →
          (∀ accepted ∈ conflicting call.operation (openedLines journal scope.lines),
            Fits wire target call.operation (conflictFor call.operation accepted)) →
          (wire.operations.encode call.operation).length ≤ maxHostOperationBytes →
            executeOverSsh wire journal target call scope =
              executeLocally journal call scope) := by
  refine ⟨fun call scope encodable => ⟨executeOverSsh_carried encodable,
    fun result answered => ⟨carried_of_answered encodable answered,
      executeOverSsh_carried encodable⟩⟩, ?_⟩
  intro bodies scope reachable call supplied conflict encodable
  exact executeOverSsh_carried encodable (supplied_carried reachable supplied conflict)

end results

/-! ## A manifest that does not come back -/

def hostOperationBodies : List HostOperationBody :=
  [.ping, .hello, .stateInspect, .stateMutate .bootstrap, .stateMutate .applyConfig,
    .stateMutate .update, .stateMutate .rollback, .stateMutate .uninstall, .controlOperation,
    .stateList, .adminCreate, .runtimeLogs, .journalRead, .backupSnapshot, .backupRestoreTest,
    .backupRecover, .backupRecoveryCandidateStage, .backupRecoveryCandidateControl,
    .backupRecoveryCandidateCleanup, .backupRecoveryActivate, .backupExportPrepare,
    .backupImportPrepare, .backupTransferRead, .backupTransferWrite, .backupImportFinalize,
    .backupOffHostRecord, .backupTransferCleanup]

def operationNumbers (operation : HostOperation) : List ℕ :=
  [operation.operationId, operation.canonicalHash, hostOperationBodies.idxOf operation.body]

def operationOfNumbers : List ℕ → Option HostOperation
  | [operationId, canonicalHash, index] =>
    (hostOperationBodies[index]?).map fun body => ⟨operationId, canonicalHash, body⟩
  | _ => none

theorem operationOfNumbers_numbers (operation : HostOperation) :
    operationOfNumbers (operationNumbers operation) = some operation := by
  have listed : hostOperationBodies[hostOperationBodies.idxOf operation.body]? =
      some operation.body := by
    cases operation.body with
    | stateMutate mutation => cases mutation <;> rfl
    | _ => rfl
  simp [operationOfNumbers, operationNumbers, listed]

/-- A completion by the size of its body. -/
def resultNumbers : HostResult ℕ → List ℕ
  | ⟨operationId, .completed (.stateMutateNoop revision)⟩ => [operationId, 0, revision]
  | ⟨operationId, .completed (.other size)⟩ => [operationId, 1, size]
  | ⟨operationId, .failed code detail⟩ =>
    operationId :: 2 :: code.toList.length :: (code.toList ++ detail.toList).map Char.toNat

def resultOfNumbers : List ℕ → Option (HostResult ℕ)
  | [operationId, 0, revision] => some ⟨operationId, .completed (.stateMutateNoop revision)⟩
  | [operationId, 1, size] => some ⟨operationId, .completed (.other size)⟩
  | operationId :: 2 :: length :: codes =>
    some ⟨operationId, .failed (String.ofList ((codes.take length).map Char.ofNat))
      (String.ofList ((codes.drop length).map Char.ofNat))⟩
  | _ => none

theorem resultOfNumbers_numbers (result : HostResult ℕ) :
    resultOfNumbers (resultNumbers result) = some result := by
  rcases result with ⟨operationId, (revision | size) | ⟨code, detail⟩⟩
  · rfl
  · rfl
  · have read : ∀ text : List Char, (text.map Char.toNat).map Char.ofNat = text := by
      intro text
      simp [Function.comp_def]
    rw [resultNumbers, resultOfNumbers, ← List.map_take, ← List.map_drop, read, read]
    simp

def unaryWire : Wire ℕ where
  operations := unary operationNumbers operationOfNumbers operationOfNumbers_numbers
  results := unary resultNumbers resultOfNumbers resultOfNumbers_numbers

def snapshotOrder : HostOperation := ⟨5, 50, .backupSnapshot⟩

/-- A snapshot whose manifest is of a size. -/
def snapshotCall (size : ℕ) : Call Unit ℕ Unit where
  operation := snapshotOrder
  execute _ world := (some (.completed (.other size)), world)
  attempt := ⟨fun _ => .none, 0, 1, ()⟩

def snapshotJournal : TargetJournal ℕ where
  bounds := .default
  encode line := [UInt8.ofNat line.operationId]

def helper : SshTarget := ⟨true⟩

def snapshotTaken (size : ℕ) : Scope ℕ Unit :=
  ⟨[pendingLine snapshotOrder 0, terminalLine snapshotOrder 1 (.completed (.other size))], ()⟩

theorem snapshot_local (size : ℕ) :
    executeLocally snapshotJournal (snapshotCall size) ⟨[], ()⟩ =
      (some ⟨5, .completed (.other size)⟩, snapshotTaken size) := by
  rfl

theorem snapshot_local_replay (size : ℕ) :
    executeLocally snapshotJournal (snapshotCall size) (snapshotTaken size) =
      (some ⟨5, .completed (.other size)⟩, snapshotTaken size) := by
  rfl

theorem snapshot_encodable :
    (unaryWire.operations.encode snapshotOrder).length ≤ maxHostOperationBytes := by
  decide

theorem snapshot_framed : Framed unaryWire helper snapshotOrder := by
  intro streams
  exact absurd streams (by decide)

theorem snapshot_fits (size : ℕ) :
    Fits unaryWire helper snapshotOrder (.completed (.other size)) ↔
      size + 9 < maxCaptureBytes := by
  have length : (unaryWire.results.encode ⟨5, .completed (.other size)⟩).length = size + 9 := by
    change (encodeNumbers [5, 1, size]).length = _
    rw [length_encodeNumbers]
    simp
    omega
  change (unaryWire.results.encode ⟨5, .completed (.other size)⟩).length < maxCaptureBytes ↔ _
  rw [length]

theorem snapshot_lost {size : ℕ} {scope scope' : Scope ℕ Unit}
    (large : maxCaptureBytes ≤ size + 9)
    (answered : executeLocally snapshotJournal (snapshotCall size) scope =
      (some ⟨5, .completed (.other size)⟩, scope')) :
    executeOverSsh unaryWire snapshotJournal helper (snapshotCall size) scope =
      (none, scope') := by
  have unfit : ¬Fits unaryWire helper snapshotOrder (.completed (.other size)) :=
    fun fits => Nat.not_le.mpr ((snapshot_fits size).mp fits) large
  rw [executeOverSsh_framed snapshot_encodable snapshot_framed, answered]
  simp [Option.filter, snapshotCall, unfit]

/-- The target stores the manifest, and neither the snapshot nor its replay returns it. -/
theorem megabyte_manifest_unreadable :
    (unaryWire.operations.encode snapshotOrder).length ≤ maxHostOperationBytes ∧
    executeLocally snapshotJournal (snapshotCall (1024 * 1024)) ⟨[], ()⟩ =
      (some ⟨5, .completed (.other (1024 * 1024))⟩, snapshotTaken (1024 * 1024)) ∧
    executeOverSsh unaryWire snapshotJournal helper (snapshotCall (1024 * 1024)) ⟨[], ()⟩ =
      (none, snapshotTaken (1024 * 1024)) ∧
    storedAnswer snapshotOrder (snapshotTaken (1024 * 1024)).lines =
      some (.completed (.other (1024 * 1024))) ∧
    executeOverSsh unaryWire snapshotJournal helper (snapshotCall (1024 * 1024))
      (snapshotTaken (1024 * 1024)) = (none, snapshotTaken (1024 * 1024)) := by
  have large : maxCaptureBytes ≤ 1024 * 1024 + 9 := by decide
  exact ⟨snapshot_encodable, snapshot_local _, snapshot_lost large (snapshot_local _), rfl,
    snapshot_lost large (snapshot_local_replay _)⟩

set_option maxRecDepth 4000 in
theorem snapshot_supplied : Supplied unaryWire helper (fun _ => .backupSnapshot)
    (snapshotCall 1000) := by
  refine ⟨rfl, snapshot_framed, fun world outcome executed => ?_, ?_⟩
  · obtain rfl : HostOutcome.completed (.other 1000) = outcome := Option.some.inj executed
    exact (snapshot_fits 1000).mpr (by decide)
  · change (encodeNumbers (resultNumbers ⟨5, capacityRefusal⟩)).length < maxCaptureBytes
    rw [length_encodeNumbers]
    decide

theorem small_manifest_replayed :
    executeOverSsh unaryWire snapshotJournal helper (snapshotCall 1000) (snapshotTaken 1000) =
      executeLocally snapshotJournal (snapshotCall 1000) (snapshotTaken 1000) := by
  have reachable : Reachable snapshotJournal (Supplied unaryWire helper fun _ => .backupSnapshot)
      (snapshotTaken 1000) :=
    Reachable.call (snapshotCall 1000) (.absent ()) snapshot_supplied
  exact (ssh_execution_agrees unaryWire snapshotJournal helper).2 (fun _ => .backupSnapshot)
    (snapshotTaken 1000) reachable (snapshotCall 1000) snapshot_supplied nofun snapshot_encodable


end NazoAuthCtl.RemoteExec
