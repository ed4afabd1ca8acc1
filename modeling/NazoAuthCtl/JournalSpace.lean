import NazoAuthCtl.JournaledCalls
import Mathlib.Order.Nat

/-!
# The space of a target's journal

The unsettled entries, the file and its newest receipt under the bounds of the
journal. Admission limits what is unsettled, compaction returns the file to its
steady size, and what a call may append in between stays below the read cap.
-/

set_option autoImplicit false
set_option linter.all false

namespace NazoAuthCtl.JournalSpace

open FaultProgram TargetState JournalCompaction JournaledCalls

variable {ρ β ω : Type}

section sizes

variable (encode : JournalLine β → Bytes)

theorem totalSize_cons (line : JournalLine β) (lines : List (JournalLine β)) :
    totalSize encode (line :: lines) = lineSize encode line + totalSize encode lines := by
  simp [totalSize]

theorem totalSize_append (lines lines' : List (JournalLine β)) :
    totalSize encode (lines ++ lines') = totalSize encode lines + totalSize encode lines' := by
  simp [totalSize]

theorem totalSize_reverse (lines : List (JournalLine β)) :
    totalSize encode lines.reverse = totalSize encode lines := by
  simp [totalSize]

theorem totalSize_sublist {lines lines' : List (JournalLine β)} (sub : lines'.Sublist lines) :
    totalSize encode lines' ≤ totalSize encode lines := by
  induction sub with
  | slnil => exact Nat.le_refl _
  | cons line _ ih =>
    rw [totalSize_cons]
    omega
  | cons_cons line _ ih =>
    rw [totalSize_cons, totalSize_cons]
    omega

end sizes

theorem unsettled_cons (seen : List OperationId) (line : JournalLine β)
    (older : List (JournalLine β)) :
    unsettled seen (line :: older) =
      if line.status = .pending then
        if line.operationId ∈ seen then unsettled (line.operationId :: seen) older
        else line :: unsettled (line.operationId :: seen) older
      else unsettled (line.operationId :: seen) older := by
  rw [unsettled]
  split_ifs <;> simp_all

/-- A line of an operation in `seen` is never unsettled, so more of them leave less. -/
theorem unsettled_mono {seen seen' : List OperationId} (sub : seen ⊆ seen')
    (lines : List (JournalLine β)) :
    (unsettled seen' lines).Sublist (unsettled seen lines) := by
  induction lines generalizing seen seen' with
  | nil => exact List.Sublist.refl _
  | cons line older ih =>
    have later := ih (List.cons_subset_cons line.operationId sub)
    rw [unsettled, unsettled]
    by_cases pending : line.status = .pending
    · by_cases newest : line.operationId ∈ seen
      · simpa [newest, sub newest] using later
      · by_cases newest' : line.operationId ∈ seen'
        · simpa [newest, newest', pending] using later.cons line
        · simpa [newest, newest', pending] using later
    · simpa [pending] using later

theorem unsettled_filter (operation : OperationId) {seen seen' : List OperationId}
    (same : ∀ id, id ≠ operation → (id ∈ seen' ↔ id ∈ seen)) (lines : List (JournalLine β)) :
    (unsettled seen' (lines.filter fun line => line.operationId ≠ operation)).Sublist
      (unsettled seen lines) := by
  induction lines generalizing seen seen' with
  | nil => exact List.Sublist.refl _
  | cons line older ih =>
    by_cases removed : line.operationId = operation
    · have later := @ih (line.operationId :: seen) seen' fun id other => by
        simp [other, removed, same id other]
      rw [List.filter_cons_of_neg (by simpa using removed), unsettled]
      split_ifs with newest
      · exact later.cons line
      · exact later
    · have later := @ih (line.operationId :: seen) (line.operationId :: seen') fun id other => by
        simp [same id other]
      rw [List.filter_cons_of_pos (by simpa using removed), unsettled, unsettled]
      simp only [same _ removed]
      split_ifs with newest
      · exact later.cons_cons line
      · exact later

section compaction

variable (encode : JournalLine β → Bytes) (bounds : JournalBounds)

theorem reservePending_eq (seen : List OperationId) (hardBudget : ℕ)
    (lines : List (JournalLine β)) :
    reservePending encode seen hardBudget lines =
      hardBudget - totalSize encode (unsettled seen lines) := by
  induction lines generalizing seen hardBudget with
  | nil => simp [reservePending, unsettled, totalSize]
  | cons line older ih =>
    rw [reservePending, unsettled, ih]
    split_ifs with newest
    · rw [totalSize_cons, Nat.sub_sub]
    · rfl

/-- What is kept fits the unsettled entries and the hard budget for terminal lines. -/
theorem selected_size (seen : List OperationId) (budgets : Budgets)
    (lines : List (JournalLine β)) :
    totalSize encode (selected encode bounds seen budgets lines) ≤
      totalSize encode (unsettled seen lines) + budgets.hardBudget := by
  induction lines generalizing seen budgets with
  | nil => simp [totalSize]
  | cons line older ih =>
    rw [selected_cons, unsettled_cons]
    split_ifs with pending settled room
    · exact ih _ _
    · have rest := ih (line.operationId :: seen) budgets
      simp only [totalSize_cons]
      omega
    · have rest := ih (line.operationId :: seen) (budgets.spend (lineSize encode line))
      have fits := room.1
      simp only [totalSize_cons, Budgets.spend] at rest ⊢
      omega
    · exact ih _ _

/-- Compaction settles nothing and unsettles nothing. -/
theorem selected_unsettled {seen seen' : List OperationId} (sub : seen' ⊆ seen)
    (budgets : Budgets) (lines : List (JournalLine β)) :
    (unsettled seen' (selected encode bounds seen budgets lines)).Sublist
      (unsettled seen lines) := by
  induction lines generalizing seen seen' budgets with
  | nil => exact List.Sublist.refl _
  | cons line older ih =>
    have both := List.cons_subset_cons line.operationId sub
    have left := List.subset_cons_of_subset line.operationId sub
    rw [selected_cons, unsettled_cons seen]
    split_ifs with pending settled room
    · exact ih left _
    · have newest : line.operationId ∉ seen' := fun h => settled (sub h)
      rw [unsettled_cons, if_pos pending, if_neg newest]
      exact (ih both _).cons_cons line
    · rw [unsettled_cons, if_neg pending]
      exact ih both _
    · exact ih left _

theorem compacted_unsettled (journal : TargetJournal β) (lines : List (JournalLine β)) :
    (unsettled [] (compacted journal lines).reverse).Sublist (unsettled [] lines.reverse) := by
  rw [compacted, compactLines_lines, List.reverse_reverse]
  exact selected_unsettled _ _ (List.Subset.refl _) _ _

theorem compacted_size (journal : TargetJournal β) (lines : List (JournalLine β))
    (room : totalSize journal.encode (unsettled [] lines.reverse) ≤ journal.bounds.maxBytes) :
    totalSize journal.encode (compacted journal lines) ≤ journal.bounds.maxBytes := by
  have kept := selected_size journal.encode journal.bounds []
    (initialBudgets journal.encode journal.bounds lines) lines.reverse
  rw [compacted, compactLines_lines, totalSize_reverse]
  simp only [initialBudgets, reservePending_eq] at kept ⊢
  omega

/-- The newest line of a journal is kept when it is terminal and fits beside the unsettled
entries. -/
theorem compacted_newest (journal : TargetJournal β) (lines : List (JournalLine β))
    (line : JournalLine β) (terminal : line.status ≠ .pending)
    (floor : 0 < journal.bounds.minTerminalRetained)
    (room : lineSize journal.encode line +
      totalSize journal.encode (unsettled [] (lines ++ [line]).reverse) ≤
        journal.bounds.maxBytes) :
    ∃ older, compacted journal (lines ++ [line]) = older ++ [line] := by
  have admitted : (initialBudgets journal.encode journal.bounds (lines ++ [line])).admits
      journal.bounds (lineSize journal.encode line) := by
    refine ⟨?_, .inl floor⟩
    simp only [initialBudgets, reservePending_eq]
    omega
  have order : (lines ++ [line]).reverse = line :: lines.reverse := by simp
  rw [compacted, compactLines_lines, order, selected_cons, if_neg terminal, if_pos admitted,
    List.reverse_cons]
  exact ⟨_, rfl⟩

end compaction

/-- What the bounds of a journal owe one another. -/
structure Roomy (bounds : JournalBounds) : Prop where
  pending : bounds.maxPendingBytes ≤ bounds.maxBytes
  read : bounds.maxBytes + bounds.maxBytes ≤ bounds.readCap
  floor : 0 < bounds.minTerminalRetained

theorem default_roomy : Roomy .default :=
  ⟨by decide, by decide, by decide⟩

section bounded

variable (journal : TargetJournal β)

def unsettledSize (lines : List (JournalLine β)) : ℕ :=
  totalSize journal.encode (unsettled [] lines.reverse)

/-- A file that every later call can read. -/
structure Readable (lines : List (JournalLine β)) : Prop where
  valid : ∀ line ∈ lines, validateEntry line = true
  unsettled : unsettledSize journal lines ≤ journal.bounds.maxPendingBytes
  size : totalSize journal.encode lines ≤ journal.bounds.readCap

/-- A readable file within its steady size. -/
structure Steady (lines : List (JournalLine β)) : Prop where
  valid : ∀ line ∈ lines, validateEntry line = true
  unsettled : unsettledSize journal lines ≤ journal.bounds.maxPendingBytes
  size : totalSize journal.encode lines ≤ journal.bounds.maxBytes

/-- A terminal line leaves room for the unsettled entries. -/
def TerminalFits (line : JournalLine β) : Prop :=
  lineSize journal.encode line ≤ journal.bounds.maxBytes - journal.bounds.maxPendingBytes

variable {journal}

theorem terminalLine_status (operation : HostOperation) (recordedAt : ℤ)
    (outcome : HostOutcome β) :
    (terminalLine operation recordedAt outcome).status ≠ .pending := by
  cases outcome <;> simp [terminalLine]

variable (journal) in
theorem unsettledSize_append_pending (lines : List (JournalLine β)) (line : JournalLine β) :
    unsettledSize journal (lines ++ [line]) ≤
      lineSize journal.encode line + unsettledSize journal lines := by
  have later := totalSize_sublist journal.encode
    (unsettled_mono (List.nil_subset [line.operationId]) lines.reverse)
  rw [unsettledSize, List.reverse_append, List.reverse_singleton, List.singleton_append,
    unsettled_cons]
  split_ifs with pending settled
  · exact later.trans (Nat.le_add_left _ _)
  · rw [totalSize_cons]
    exact Nat.add_le_add_left later _
  · exact later.trans (Nat.le_add_left _ _)

variable (journal) in
theorem unsettledSize_append_terminal (lines : List (JournalLine β)) {line : JournalLine β}
    (terminal : line.status ≠ .pending) :
    unsettledSize journal (lines ++ [line]) ≤ unsettledSize journal lines := by
  rw [unsettledSize, List.reverse_append, List.reverse_singleton, List.singleton_append,
    unsettled_cons, if_neg terminal]
  exact totalSize_sublist journal.encode
    (unsettled_mono (List.nil_subset [line.operationId]) lines.reverse)

theorem validateEntry_append {lines : List (JournalLine β)} {line : JournalLine β}
    (h : ∀ line ∈ lines, validateEntry line = true) (valid : validateEntry line = true) :
    ∀ other ∈ lines ++ [line], validateEntry other = true := by
  intro other hother
  rcases List.mem_append.mp hother with hother | hother
  · exact h other hother
  · rw [List.mem_singleton.mp hother]
    exact valid

/-- One call keeps the file readable and returns it to its steady size. -/
theorem bounded_kept (roomy : Roomy journal.bounds) (operation : HostOperation)
    {appends : JournalLine β → Prop} (fits : ∀ line, appends line → TerminalFits journal line) :
    Kept journal operation appends (Readable journal) (Steady journal) where
  rest h := by
    have read := roomy.read
    exact ⟨h.valid, h.unsettled, h.size.trans (by omega)⟩
  settle {lines lines'} h settled := by
    rcases settled with ⟨small, rfl⟩ | ⟨-, -, rfl⟩
    · exact ⟨h.valid, h.unsettled, small⟩
    · have kept := totalSize_sublist journal.encode (compacted_unsettled journal lines)
      exact ⟨fun line hline => h.valid line ((compacted_sublist journal lines).subset hline),
        kept.trans h.unsettled,
        compacted_size journal lines (h.unsettled.trans roomy.pending)⟩
  pending {lines} recordedAt h _ _ admitted := by
    have grown := unsettledSize_append_pending journal lines
      (pendingLine operation recordedAt)
    have size := h.size
    have pending := roomy.pending
    have read := roomy.read
    refine ⟨validateEntry_append h.valid rfl, grown.trans admitted, ?_⟩
    rw [totalSize_append, totalSize_cons]
    simp only [totalSize, List.map_nil, List.sum_nil] at size admitted ⊢
    omega
  terminal {lines} recordedAt outcome h _ appended := by
    have grown := unsettledSize_append_terminal journal lines
      (terminalLine_status operation recordedAt outcome)
    have size := h.size
    have read := roomy.read
    have small := fits _ appended
    refine ⟨validateEntry_append h.valid (by cases outcome <;> rfl),
      grown.trans h.unsettled, ?_⟩
    rw [totalSize_append, totalSize_cons]
    simp only [totalSize, List.map_nil, List.sum_nil, TerminalFits] at size small ⊢
    omega
  remove {lines} h := by
    have fewer : (unsettled [] (lines.reverse.filter fun line =>
        line.operationId ≠ operation.operationId)).Sublist (unsettled [] lines.reverse) :=
      unsettled_filter operation.operationId (fun _ _ => Iff.rfl) lines.reverse
    have less := totalSize_sublist journal.encode fewer
    rw [List.filter_reverse] at less
    exact ⟨fun line hline => h.valid line (List.mem_of_mem_filter hline),
      less.trans h.unsettled,
      (totalSize_sublist journal.encode List.filter_sublist).trans h.size⟩

end bounded

/-- The call executed its operation and appended the terminal line of `outcome`. -/
def Concluded (journal : TargetJournal β) (call : Call ρ β ω) (scope after : Scope β ω)
    (outcome : HostOutcome β) : Prop :=
  ∃ opened accepted finished : Scope β ω,
    openJournal journal call.attempt scope = (.ok opened.lines, opened) ∧
    conflicting call.operation opened.lines = none ∧
    storedAnswer call.operation opened.lines = none ∧
    acceptOperation journal call.operation opened.lines call.attempt opened =
      (.ok none, accepted) ∧
    executing call.execute call.attempt accepted = (.ok outcome, finished) ∧
    isUpdateNoop call.operation outcome = false ∧ keepsPending outcome = false ∧
    recordOutcome journal call.operation outcome call.attempt finished = (.ok outcome, after)

section receipts

variable {journal : TargetJournal β}

/-- A terminal line that was just appended is the last line of the file. -/
theorem recordOutcome_last {operation : HostOperation} {outcome : HostOutcome β}
    {e : Attempt ρ} {s after : Scope β ω} (roomy : Roomy journal.bounds)
    (steady : Steady journal s.lines)
    (fits : TerminalFits journal (terminalLine operation e.completedAt outcome))
    (noop : isUpdateNoop operation outcome = false) (final : keepsPending outcome = false)
    (h : recordOutcome journal operation outcome e s = (.ok outcome, after)) :
    ∃ older, after.lines = older ++ [terminalLine operation e.completedAt outcome] := by
  have terminal := terminalLine_status operation e.completedAt outcome
  have unsettled := (unsettledSize_append_terminal journal s.lines terminal).trans
    steady.unsettled
  have pending := roomy.pending
  rw [recordOutcome, if_neg (by simp [noop]), if_neg (by simp [final])] at h
  obtain ⟨attempt, s₁, environment, h⟩ := Program.run_bind_eq_ok h
  cases environment
  obtain ⟨⟨⟩, s₂, appended, h⟩ := Program.run_bind_eq_ok h
  obtain ⟨kept, s₃, compaction, h⟩ := Program.run_bind_eq_ok h
  cases h
  have grown : s₂.lines = s.lines ++ [terminalLine operation e.completedAt outcome] := by
    unfold append touch Program.effect at appended
    split at appended
    · cases appended
      rfl
    · cases appended
    · cases appended
  have settled := compactIfNeeded_ensures journal .compactTerminal (e := e) (s := s₂)
  rw [Program.Ensures, compaction] at settled
  rcases settled with ⟨-, failed⟩ | ⟨_, -, -, -, ⟨-, same⟩ | ⟨-, -, same⟩⟩
  · exact absurd rfl (failed kept)
  · exact ⟨s.lines, same.trans grown⟩
  · obtain ⟨older, newest⟩ := compacted_newest journal s.lines _ terminal roomy.floor (by
      simp only [unsettledSize, TerminalFits] at unsettled fits
      omega)
    exact ⟨older, same.trans (grown ▸ newest)⟩

theorem readLines_readable {attempt : Attempt ρ} {scope : Scope β ω}
    (readable : Readable journal scope.lines) :
    readLines journal attempt scope = (.ok scope.lines, scope) := by
  unfold readLines
  rw [Program.run_bind_ok Program.run_get]
  simp only [Program.run_bind, Program.run_require, readable.size, if_true]
  rw [if_pos readable.valid]
  rfl

/-- A file within its steady size is read as it is. -/
theorem openJournal_steady {attempt : Attempt ρ} {scope : Scope β ω} (roomy : Roomy journal.bounds)
    (steady : Steady journal scope.lines) (locked : attempt.faults .lock = .none) :
    openJournal journal attempt scope = (.ok scope.lines, scope) := by
  have read := roomy.read
  have readable : Readable journal scope.lines :=
    ⟨steady.valid, steady.unsettled, steady.size.trans (by omega)⟩
  have unlocked : touch .lock (pure ()) attempt scope = (.ok (), scope) := by
    simp [touch, Program.effect, locked]
  have small : compactIfNeeded journal .compactOpening attempt scope = (.ok none, scope) := by
    unfold compactIfNeeded
    rw [Program.run_bind_ok Program.run_get, if_pos steady.size]
    rfl
  unfold openJournal
  rw [Program.run_bind_ok unlocked, Program.run_bind_ok small]
  exact readLines_readable readable

/-- A readable file is opened by every call whose effects take place. -/
theorem openJournal_readable {attempt : Attempt ρ} {scope : Scope β ω}
    (roomy : Roomy journal.bounds) (readable : Readable journal scope.lines)
    (locked : attempt.faults .lock = .none) (compacts : attempt.faults .compactOpening = .none) :
    ∃ opened : Scope β ω, openJournal journal attempt scope = (.ok opened.lines, opened) := by
  by_cases small : totalSize journal.encode scope.lines ≤ journal.bounds.maxBytes
  · exact ⟨scope, openJournal_steady roomy ⟨readable.valid, readable.unsettled, small⟩ locked⟩
  refine ⟨{ scope with lines := compacted journal scope.lines }, ?_⟩
  have unlocked : touch .lock (pure ()) attempt scope = (.ok (), scope) := by
    simp [touch, Program.effect, locked]
  have read : readLines journal attempt scope = (.ok scope.lines, scope) :=
    readLines_readable readable
  have shrunk : compactIfNeeded journal .compactOpening attempt scope =
      (.ok (some (compacted journal scope.lines)),
        { scope with lines := compacted journal scope.lines }) := by
    unfold compactIfNeeded
    rw [Program.run_bind_ok Program.run_get, if_neg small, Program.run_bind_ok read]
    simp [Program.run_bind, touch, Program.effect, compacts, writeLines, compacted]
  unfold openJournal
  rw [Program.run_bind_ok unlocked, Program.run_bind_ok shrunk]
  rfl

end receipts

theorem latest_append (older : List (JournalLine β)) (line : JournalLine β) :
    latest (older ++ [line]) line.operationId = some line := by
  simp [latest]

/-- The terminal lines a call may append under the bounds of a journal. -/
def Fitting (journal : TargetJournal β) (call : Call ρ β ω) : Prop :=
  ∀ line, call.appends line → TerminalFits journal line

section reachable

variable {journal : TargetJournal β} {scope : Scope β ω}

theorem readable_reachable (roomy : Roomy journal.bounds)
    (reachable : Reachable journal (Fitting (ρ := ρ) journal) scope) :
    Readable journal scope.lines :=
  reachable.invariant
    ⟨by simp, by simp [unsettledSize, unsettled, totalSize], by simp [totalSize]⟩
    fun call fitting => bounded_kept roomy call.operation fitting

/-- A call that returns leaves a steady file. -/
theorem run_steady (roomy : Roomy journal.bounds) (readable : Readable journal scope.lines)
    {call : Call ρ β ω} (fitting : Fitting journal call) {outcome : HostOutcome β}
    {after : Scope β ω} (h : call.run journal scope = (.ok outcome, after)) :
    Steady journal after.lines := by
  have kept := (bounded_kept roomy call.operation fitting).call readable
  have bounded := kept.2 outcome (congrArg Prod.fst h)
  have same : (call.run journal scope).2 = after := congrArg Prod.snd h
  exact same ▸ bounded

/-- The receipt of an execution is the newest line of its operation. -/
theorem Concluded.newest (roomy : Roomy journal.bounds) (readable : Readable journal scope.lines)
    {call : Call ρ β ω} (fitting : Fitting journal call) {outcome : HostOutcome β}
    {after : Scope β ω} (h : Concluded journal call scope after outcome) :
    latest after.lines call.operation.operationId =
      some (terminalLine call.operation call.attempt.completedAt outcome) := by
  obtain ⟨opened, accepted, finished, opening, agrees, -, admitted, executed, noop, final,
    recorded⟩ := h
  have kept := bounded_kept roomy call.operation fitting
  have settled := openJournal_ensures journal (e := call.attempt) (s := scope)
  rw [Program.Ensures, opening] at settled
  have bounded : Steady journal opened.lines :=
    kept.settle readable (settled.1 opened.lines rfl).2.2
  have accepting := kept.accept (e := call.attempt) bounded rfl (conflicting_none.mp agrees)
  rw [Program.Ensures, admitted] at accepting
  have steady : Steady journal accepted.lines := (accepting.2 none rfl).1
  unfold executing at executed
  rcases run : call.execute call.attempt.execution accepted.world with ⟨_ | result, world⟩
  · rw [run] at executed
    cases executed
  · rw [run] at executed
    cases executed
    have fits := fitting _ ⟨accepted.world, outcome, world, run, rfl⟩
    obtain ⟨older, last⟩ := recordOutcome_last
      (s := { accepted with world }) roomy steady fits noop final recorded
    rw [last]
    exact latest_append older (terminalLine call.operation call.attempt.completedAt outcome)

end reachable

/-- The journal never wedges and never loses the fresh receipt. Only the failure of an operation
that is retried under its own id is not replayed. -/
theorem journal_bounds_hold (encode : JournalLine β → Bytes) {scope : Scope β ω}
    (reachable : Reachable ⟨.default, encode⟩ (Fitting (ρ := ρ) ⟨.default, encode⟩) scope) :
    unsettledSize ⟨.default, encode⟩ scope.lines ≤ JournalBounds.default.maxPendingBytes ∧
    totalSize encode scope.lines ≤ JournalBounds.default.readCap ∧
    (∀ attempt : Attempt ρ, attempt.faults .lock = .none →
      attempt.faults .compactOpening = .none →
        ∃ opened : Scope β ω,
          openJournal ⟨.default, encode⟩ attempt scope = (.ok opened.lines, opened)) ∧
    ∀ call : Call ρ β ω, Fitting ⟨.default, encode⟩ call → ∀ outcome after,
      call.run ⟨.default, encode⟩ scope = (.ok outcome, after) →
        totalSize encode after.lines ≤ JournalBounds.default.maxBytes ∧
        (Concluded ⟨.default, encode⟩ call scope after outcome →
          latest after.lines call.operation.operationId =
            some (terminalLine call.operation call.attempt.completedAt outcome) ∧
          ∀ retry : Call ρ β ω, retry.operation = call.operation →
            retry.attempt.faults .lock = .none →
            ¬((terminalLine call.operation call.attempt.completedAt outcome).status = .failed ∧
              call.operation.body.retriesFailure = true) →
            retry.run ⟨.default, encode⟩ after = (.ok outcome, after)) := by
  have readable := readable_reachable default_roomy reachable
  refine ⟨readable.unsettled, readable.size,
    fun attempt locked compacts => openJournal_readable default_roomy readable locked compacts,
    fun call fitting outcome after run => ?_⟩
  have steady := run_steady default_roomy readable fitting run
  refine ⟨steady.size, fun concluded => ?_⟩
  have newest := concluded.newest default_roomy readable fitting
  refine ⟨newest, fun retry same locked final => ?_⟩
  have consistent : Consistent after.lines := by
    have next := (Reachable.call call reachable fitting).consistent
    rwa [run] at next
  obtain ⟨member, id⟩ := latest_mem newest
  have agreed : Agrees call.operation after.lines := consistent.agrees member id rfl
  have agrees := conflicting_none.mpr agreed
  have stored : storedAnswer call.operation after.lines = some outcome := by
    rw [storedAnswer, newest]
    simp only [terminalLine_status, ne_eq, not_false_eq_true, true_and]
    rw [if_pos final]
    rfl
  rw [run_opened (openJournal_steady default_roomy steady locked), same, agrees, stored]
  rfl

theorem failed_recovery_fitting : Fitting productionJournal failingRecovery := by
  rintro line ⟨world, outcome, world', run, rfl⟩
  cases run
  unfold TerminalFits
  decide

/-- The receipt of a failed recovery is retained and its terminal line is small, but a retry
executes the recovery again. -/
theorem failed_recovery_not_replayed :
    Fitting productionJournal failingRecovery ∧
      latest (failingRecovery.run productionJournal ⟨[], 0⟩).2.lines 1 =
        some (terminalLine failingRecovery.operation 1
          (.failed "RESTORE_TEST_FAILED" "first")) ∧
      (failingRecovery.run productionJournal ⟨[], 0⟩).2.world = 1 ∧
      (failingRecovery.run productionJournal
        (failingRecovery.run productionJournal ⟨[], 0⟩).2).2.world = 2 := by
  exact ⟨failed_recovery_fitting, by decide, by decide, by decide⟩

/-- A snapshot order whose execution completes. -/
def snapshotCall : Call Unit Bytes ℕ where
  operation := ⟨2, 9, .backupSnapshot⟩
  execute := fun _ executions => (some (.completed (.other [1, 2, 3])), executions + 1)
  attempt := ⟨fun _ => .none, 2, 3, ()⟩

theorem snapshotCall_fitting : Fitting productionJournal snapshotCall := by
  rintro line ⟨world, outcome, world', run, rfl⟩
  cases run
  unfold TerminalFits
  decide

theorem journal_bounds_hold_after_snapshot :
    totalSize headerAndBody (snapshotCall.run productionJournal
      (failingRecovery.run productionJournal ⟨[], 0⟩).2).2.lines ≤
        JournalBounds.default.maxBytes :=
  ((journal_bounds_hold headerAndBody
    (.call failingRecovery (.absent 0) failed_recovery_fitting)).2.2.2 snapshotCall
      snapshotCall_fitting (.completed (.other [1, 2, 3])) _ (Prod.ext (by decide) rfl)).1

end NazoAuthCtl.JournalSpace
